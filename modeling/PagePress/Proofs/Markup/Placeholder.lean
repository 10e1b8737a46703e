import Mathlib.Data.List.TakeWhile
import PagePress.Markup.Placeholder
import PagePress.Proofs.Text.Search

/-!
# Filling placeholders

A text is *braced* if two opening braces in a row always start a placeholder. Such a text is a
sequence of placeholders and of characters outside of them, and filling its placeholders is a
substitution on that sequence: it does not matter whether all placeholders are filled in one pass
from the left, or those of one name after those of another, as long as the contents have no opening
brace.
-/

namespace PagePress.Markup

/-- The name of a variable: ASCII letters, digits and underscores, at least one. -/
def IsVariable (name : List Char) : Prop := name ≠ [] ∧ ∀ c ∈ name, Text.isAsciiWord c = true

instance (name : List Char) : Decidable (IsVariable name) :=
  decidable_of_iff (name ≠ [] ∧ name.all Text.isAsciiWord = true) (by simp [IsVariable])

/-- The text with all placeholders filled that have a content. One pass from the left, which does
not look again at what it has put in. -/
def fillAll (content? : List Char → Option (List Char)) : List Char → List Char
  | [] => []
  | c :: s =>
    match _h : placeholder? (c :: s) with
    | some (name, rest) => (content? name).getD (placeholder name) ++ fillAll content? rest
    | none => c :: fillAll content? s
termination_by s => s.length
decreasing_by
  · exact length_rest_lt_of_placeholder? _h
  · simp

variable {name key value s t : List Char} {c : Char}
  {content? content?' : List Char → Option (List Char)}

namespace IsVariable

theorem not_mem (h : IsVariable name) (other : Text.isAsciiWord c = false) : c ∉ name := by
  intro mem
  rw [h.2 c mem] at other
  cases other

theorem not_mem_placeholder (h : IsVariable name) (other : Text.isAsciiWord c = false)
    (opening : c ≠ '{') (closing : c ≠ '}') : c ∉ placeholder name := by
  simp [placeholder, h.not_mem other, opening, closing]

end IsVariable

/-! ## Reading placeholders -/

theorem placeholder?_placeholder (isVariable : IsVariable name) (s : List Char) :
    placeholder? (placeholder name ++ s) = some (name, s) := by
  obtain ⟨nonempty, word⟩ := isVariable
  have text : placeholder name ++ s = '{' :: '{' :: (name ++ '}' :: '}' :: s) := by
    simp [placeholder]
  have after : (name ++ '}' :: '}' :: s).dropWhile Text.isAsciiWord = '}' :: '}' :: s := by
    rw [List.dropWhile_append_of_pos word]
    rfl
  have front : (name ++ '}' :: '}' :: s).takeWhile Text.isAsciiWord = name := by
    rw [List.takeWhile_append_of_pos word]
    exact List.append_nil name
  simp [text, placeholder?, after, front, nonempty]

theorem placeholder?_eq_some_iff :
    placeholder? s = some (name, t) ↔ IsVariable name ∧ s = placeholder name ++ t := by
  constructor
  · intro found
    unfold placeholder? at found
    split at found
    · rename_i u
      split at found
      · rename_i rest after
        split at found
        · cases found
        · rename_i nonempty
          obtain ⟨rfl, rfl⟩ := Prod.mk.inj (Option.some.inj found)
          refine ⟨⟨by simpa using nonempty, fun c mem => List.mem_takeWhile_imp mem⟩, ?_⟩
          have parts := List.takeWhile_append_dropWhile (p := Text.isAsciiWord) (l := u)
          rw [after] at parts
          simp [placeholder, parts]
      · cases found
    · cases found
  · rintro ⟨isVariable, rfl⟩
    exact placeholder?_placeholder isVariable t

/-- A placeholder that starts a text starts every longer text. -/
theorem placeholder?_eq_none_of_append (noHole : placeholder? (s ++ t) = none) :
    placeholder? s = none := by
  by_contra other
  obtain ⟨⟨name, rest⟩, found⟩ := Option.ne_none_iff_exists'.mp other
  obtain ⟨isVariable, rfl⟩ := placeholder?_eq_some_iff.mp found
  rw [List.append_assoc, placeholder?_placeholder isVariable] at noHole
  cases noHole

theorem placeholder?_of_single (single : c = '{' → s.head? ≠ some '{') :
    placeholder? (c :: s) = none := by
  unfold placeholder?
  split
  · rename_i rest same
    obtain ⟨rfl, rfl⟩ := List.cons.inj same
    exact absurd rfl (single rfl)
  · rfl

/-! ## Where a placeholder starts -/

theorem placeholder_append (name s : List Char) :
    placeholder name ++ s = '{' :: '{' :: (name ++ ['}', '}'] ++ s) := by
  simp [placeholder]

namespace IsVariable

theorem not_mem_end (h : IsVariable name) : '{' ∉ name ++ ['}', '}'] := by
  simp [h.not_mem (c := '{') (by decide)]

theorem head?_ne (h : IsVariable name) : (name ++ ['}', '}'] ++ s).head? ≠ some '{' := by
  intro head
  cases name with
  | nil => exact h.1 rfl
  | cons d name =>
    obtain rfl : d = '{' := Option.some.inj head
    exact h.not_mem (by decide) List.mem_cons_self

end IsVariable

/-- What starts with an opening brace starts behind a stretch that has none. -/
theorem suffix_of_suffix_append {u : List Char} (plain : '{' ∉ s) (opens : ['{', '{'] <+: u)
    (suffix : u <:+ s ++ t) : u <:+ t := by
  obtain ⟨rest, rfl⟩ := opens
  exact Text.cons_suffix_of_append plain suffix

/-- Two opening braces in a row start a placeholder or stand behind it. -/
theorem suffix_placeholder_append {u : List Char} (isVariable : IsVariable name)
    (opens : ['{', '{'] <+: u) (suffix : u <:+ placeholder name ++ s) :
    u = placeholder name ++ s ∨ u <:+ s := by
  rw [placeholder_append] at suffix ⊢
  rcases List.suffix_cons_iff.mp suffix with here | suffix
  · exact .inl here
  rcases List.suffix_cons_iff.mp suffix with rfl | suffix
  · -- a name does not start with a brace
    obtain ⟨rest, second⟩ := (List.cons_prefix_cons.mp opens).2
    exact absurd (by rw [← second]; rfl) (isVariable.head?_ne (s := s))
  · exact .inr (suffix_of_suffix_append isVariable.not_mem_end opens suffix)

/-! ## Braced texts -/

/-- Two opening braces in a row always start a placeholder. -/
def IsBraced (s : List Char) : Prop :=
  ∀ t, t <:+ s → ['{', '{'] <+: t → (placeholder? t).isSome = true

instance (s : List Char) : Decidable (IsBraced s) :=
  inferInstanceAs (Decidable (∀ t, t <:+ s → ['{', '{'] <+: t → (placeholder? t).isSome = true))

/-- A text that is read from the left, character by character outside of placeholders. -/
inductive Braced : List Char → Prop where
  | nil : Braced []
  | char {c : Char} {s : List Char} (single : c = '{' → s.head? ≠ some '{') (rest : Braced s) :
      Braced (c :: s)
  | hole {name s : List Char} (isVariable : IsVariable name) (rest : Braced s) :
      Braced (placeholder name ++ s)

theorem IsBraced.braced {s : List Char} (h : IsBraced s) : Braced s := by
  induction hlen : s.length using Nat.strongRecOn generalizing s with
  | ind n ih =>
    have later : ∀ t, t <:+ s → t.length < s.length → Braced t := fun t suffix shorter =>
      ih t.length (hlen ▸ shorter) (fun u inner => h u (inner.trans suffix)) rfl
    cases s with
    | nil => exact .nil
    | cons c s =>
      by_cases double : c = '{' ∧ s.head? = some '{'
      · obtain ⟨rfl, head⟩ := double
        obtain ⟨rest, rfl⟩ := List.head?_eq_some_iff.mp head
        have starts := h ('{' :: '{' :: rest) List.suffix_rfl ⟨rest, rfl⟩
        obtain ⟨⟨name, after⟩, found⟩ := Option.isSome_iff_exists.mp starts
        obtain ⟨isVariable, parts⟩ := placeholder?_eq_some_iff.mp found
        have shorter := length_rest_lt_of_placeholder? found
        rw [parts]
        exact .hole isVariable (later after ⟨placeholder name, parts.symm⟩ shorter)
      · refine .char (fun same head => double ⟨same, head⟩) ?_
        exact later s (List.suffix_cons c s) (Nat.lt_succ_self _)

namespace Braced

theorem of_not_mem (plain : '{' ∉ s) : Braced s := by
  induction s with
  | nil => exact .nil
  | cons c s ih =>
    have first : c ≠ '{' := fun same => plain (same ▸ List.mem_cons_self)
    exact .char (fun same => absurd same first) (ih fun mem => plain (List.mem_cons_of_mem c mem))

theorem eq_cons_of_placeholder?_eq_none (h : Braced s) (none : placeholder? s = none) (c : Char)
    (t : List Char) (parts : s = c :: t) : (c = '{' → t.head? ≠ some '{') ∧ Braced t := by
  cases h with
  | nil => cases parts
  | char single rest =>
    obtain ⟨rfl, rfl⟩ := List.cons.inj parts
    exact ⟨single, rest⟩
  | hole isVariable rest =>
    rw [placeholder?_placeholder isVariable] at none
    cases none

theorem append_cons (left : Braced s) (opening : c ≠ '{') (right : Braced t) :
    Braced (s ++ c :: t) := by
  induction left with
  | nil => exact .char (fun same => absurd same opening) right
  | @char d s single rest ih =>
    refine .char (fun same head => ?_) ih
    cases s with
    | nil => exact opening (Option.some.inj head)
    | cons e s => exact single same head
  | hole isVariable rest ih =>
    rw [List.append_assoc]
    exact .hole isVariable ih

/-- A braced text falls into two at a character that no placeholder has. -/
theorem of_append_cons (h : Braced (s ++ c :: t)) (other : Text.isAsciiWord c = false)
    (opening : c ≠ '{') (closing : c ≠ '}') : Braced s ∧ Braced t := by
  generalize whole : s ++ c :: t = u at h
  induction h generalizing s with
  | nil => simp at whole
  | @char d u single rest ih =>
    cases s with
    | nil =>
      obtain ⟨-, rfl⟩ := List.cons.inj whole
      exact ⟨.nil, rest⟩
    | cons e s =>
      obtain ⟨rfl, rfl⟩ := List.cons.inj whole
      obtain ⟨left, right⟩ := ih rfl
      refine ⟨.char (fun same head => single same ?_) left, right⟩
      obtain ⟨s, rfl⟩ := List.head?_eq_some_iff.mp head
      rfl
  | @hole name u isVariable rest ih =>
    have outside := isVariable.not_mem_placeholder other opening closing
    rcases List.append_eq_append_iff.mp whole with ⟨r, hole, rest'⟩ | ⟨r, rfl, rest'⟩
    · cases r with
      | nil =>
        obtain ⟨left, right⟩ := @ih [] rest'
        have same : s = placeholder name ++ [] := by simpa using hole.symm
        exact ⟨same ▸ .hole isVariable .nil, right⟩
      | cons d r =>
        obtain ⟨rfl, -⟩ := List.cons.inj rest'
        exact absurd (hole ▸ by simp) outside
    · obtain ⟨left, right⟩ := ih rest'.symm
      exact ⟨.hole isVariable left, right⟩

end Braced

/-! ## Filling all placeholders -/

theorem fillAll_nil : fillAll content? [] = [] := by simp [fillAll]

theorem fillAll_char (single : c = '{' → s.head? ≠ some '{') :
    fillAll content? (c :: s) = c :: fillAll content? s := by
  have none := placeholder?_of_single single
  rw [fillAll]
  split
  · rename_i found
    rw [none] at found
    cases found
  · rfl

theorem fillAll_hole (isVariable : IsVariable name) :
    fillAll content? (placeholder name ++ s) =
      (content? name).getD (placeholder name) ++ fillAll content? s := by
  have here := placeholder?_placeholder isVariable s
  have cons : placeholder name ++ s = '{' :: ('{' :: name ++ ['}', '}'] ++ s) := by
    simp [placeholder]
  rw [cons] at here ⊢
  rw [fillAll]
  split
  · rename_i found
    rw [here] at found
    obtain ⟨rfl, rfl⟩ := Prod.mk.inj (Option.some.inj found)
    rfl
  · rename_i found
    rw [here] at found
    cases found

theorem fillAll_append_of_not_mem (plain : '{' ∉ s) :
    fillAll content? (s ++ t) = s ++ fillAll content? t := by
  induction s with
  | nil => rfl
  | cons c s ih =>
    have first : c ≠ '{' := fun same => plain (same ▸ List.mem_cons_self)
    rw [List.cons_append, fillAll_char (fun same => absurd same first),
      ih fun mem => plain (List.mem_cons_of_mem c mem)]
    rfl

theorem fillAll_of_not_mem (plain : '{' ∉ s) : fillAll content? s = s := by
  have copied : fillAll content? (s ++ []) = s ++ fillAll content? [] :=
    fillAll_append_of_not_mem plain
  simpa [fillAll_nil] using copied

namespace Braced

/-- A text that does not start with an opening brace starts with the same character when it is
filled. -/
theorem head?_fillAll (h : Braced s) (single : s.head? ≠ some '{') :
    (fillAll content? s).head? = s.head? := by
  cases h with
  | nil => rw [fillAll_nil]
  | char alone rest => rw [fillAll_char alone]; rfl
  | hole => exact absurd rfl single

/-- What does not occur in a text or in the contents does not occur in the filled text. -/
theorem not_mem_fillAll (h : Braced s) (absent : c ∉ s)
    (plain : ∀ name value, content? name = some value → c ∉ value) : c ∉ fillAll content? s := by
  induction h with
  | nil => simp [fillAll_nil]
  | char single rest ih =>
    rw [fillAll_char single]
    simp only [List.mem_cons, not_or] at absent ⊢
    exact ⟨absent.1, ih absent.2⟩
  | @hole name s isVariable rest ih =>
    rw [fillAll_hole isVariable]
    simp only [List.mem_append, not_or] at absent ⊢
    refine ⟨?_, ih absent.2⟩
    cases content : content? name with
    | none => exact absent.1
    | some value => exact plain name value content

theorem filled (h : Braced s) (plain : ∀ name value, content? name = some value → '{' ∉ value) :
    Braced (fillAll content? s) := by
  induction h with
  | nil =>
    rw [fillAll_nil]
    exact .nil
  | char single rest ih =>
    rw [fillAll_char single]
    exact .char (fun same => rest.head?_fillAll (single same) ▸ single same) ih
  | @hole name s isVariable rest ih =>
    rw [fillAll_hole isVariable]
    cases content : content? name with
    | none => exact .hole isVariable ih
    | some value =>
      have clear := plain name value content
      clear content
      induction value with
      | nil => exact ih
      | cons c value inner =>
        have first : c ≠ '{' := fun same => clear (same ▸ List.mem_cons_self)
        exact .char (fun same => absurd same first)
          (inner fun mem => clear (List.mem_cons_of_mem c mem))

/-- What a braced text is filled with, it is filled with on both sides of a character that no
placeholder has. -/
theorem fillAll_append_cons (h : Braced (s ++ c :: t)) (other : Text.isAsciiWord c = false)
    (opening : c ≠ '{') (closing : c ≠ '}') :
    fillAll content? (s ++ c :: t) =
      fillAll content? s ++ c :: fillAll content? t := by
  obtain ⟨left, -⟩ := h.of_append_cons other opening closing
  clear h
  induction left with
  | nil => rw [List.nil_append, fillAll_char (fun same => absurd same opening), fillAll_nil]; rfl
  | @char d s single rest ih =>
    have alone : d = '{' → (s ++ c :: t).head? ≠ some '{' := by
      intro same head
      cases s with
      | nil => exact opening (Option.some.inj head)
      | cons e s => exact single same head
    rw [List.cons_append, fillAll_char alone, fillAll_char single, ih]
    rfl
  | hole isVariable rest ih =>
    rw [List.append_assoc, fillAll_hole isVariable, fillAll_hole isVariable, ih, List.append_assoc]

theorem fillAll_none (h : Braced s) : fillAll (fun _ => none) s = s := by
  induction h with
  | nil => exact fillAll_nil
  | char single rest ih => rw [fillAll_char single, ih]
  | hole isVariable rest ih => rw [fillAll_hole isVariable, ih]; rfl

/-- Filling twice is filling once, with what the first of the two has or else with what the second
has. -/
theorem fillAll_fillAll (h : Braced s)
    (plain : ∀ name value, content? name = some value → '{' ∉ value) :
    fillAll content?' (fillAll content? s) =
      fillAll (fun name => (content? name).or (content?' name)) s := by
  induction h with
  | nil => simp only [fillAll_nil]
  | char single rest ih =>
    rw [fillAll_char single, fillAll_char single, fillAll_char, ih]
    exact fun same => rest.head?_fillAll (single same) ▸ single same
  | @hole name s isVariable rest ih =>
    rw [fillAll_hole isVariable, fillAll_hole isVariable, ← ih]
    cases content : content? name with
    | none => exact fillAll_hole isVariable
    | some value => exact fillAll_append_of_not_mem (plain name value content)

end Braced

/-! ## Filling the placeholders of one name -/

theorem placeholder_ne_nil (name : List Char) : placeholder name ≠ [] := by simp [placeholder]

/-- The placeholder of one variable is not the start of that of another. -/
theorem not_placeholder_prefix (isVariable : IsVariable name) (isKey : IsVariable key)
    (other : name ≠ key) : ¬placeholder key <+: placeholder name ++ s := by
  rintro ⟨rest, same⟩
  have first := placeholder?_placeholder isKey rest
  rw [same, placeholder?_placeholder isVariable s] at first
  exact other (Prod.mk.inj (Option.some.inj first)).1

theorem fillPlaceholders_char (single : c = '{' → s.head? ≠ some '{') :
    fillPlaceholders key value (c :: s) = c :: fillPlaceholders key value s := by
  refine Text.replaceAll_cons ?_
  rintro ⟨rest, same⟩
  obtain ⟨rfl, rfl⟩ := List.cons.inj same
  exact single rfl rfl

/-- A placeholder is copied if the text does not start with that of the key. -/
theorem fillPlaceholders_hole_of_other (isVariable : IsVariable name)
    (other : ¬placeholder key <+: placeholder name ++ s) :
    fillPlaceholders key value (placeholder name ++ s) =
      placeholder name ++ fillPlaceholders key value s := by
  rw [placeholder_append] at other ⊢
  rw [fillPlaceholders, Text.replaceAll_cons other]
  have rest : Text.replaceAll (placeholder key) value ('{' :: (name ++ ['}', '}'] ++ s)) =
      '{' :: Text.replaceAll (placeholder key) value (name ++ ['}', '}'] ++ s) :=
    fillPlaceholders_char fun _ => isVariable.head?_ne
  have copied : Text.replaceAll (placeholder key) value (name ++ ['}', '}'] ++ s) =
      name ++ ['}', '}'] ++ Text.replaceAll (placeholder key) value s :=
    Text.replaceAll_append_of_not_mem isVariable.not_mem_end
  rw [rest, copied, placeholder_append]
  rfl

theorem fillPlaceholders_hole (isVariable : IsVariable name) (isKey : IsVariable key) :
    fillPlaceholders key value (placeholder name ++ s) =
      (if name = key then value else placeholder name) ++ fillPlaceholders key value s := by
  by_cases same : name = key
  · rw [if_pos same, same]
    exact Text.replaceAll_append (placeholder_ne_nil key)
  · have start := not_placeholder_prefix (s := s) isVariable isKey same
    rw [if_neg same, fillPlaceholders_hole_of_other isVariable start]

/-- In a braced text, the placeholders of one variable are filled as if there were a content for
this variable alone. -/
theorem Braced.fillPlaceholders_eq (h : Braced s) (isKey : IsVariable key) :
    fillPlaceholders key value s = fillAll ([(key, value)].lookup ·) s := by
  induction h with
  | nil => simp [fillPlaceholders, Text.replaceAll, fillAll_nil]
  | char single rest ih => rw [fillPlaceholders_char single, fillAll_char single, ih]
  | @hole name s isVariable rest ih =>
    rw [fillPlaceholders_hole isVariable isKey, fillAll_hole isVariable, ih]
    by_cases same : name = key
    · simp [same]
    · have other : (name == key) = false := beq_eq_false_iff_ne.mpr same
      simp [same, List.lookup_cons, other]

/-! ## What else occurs in a text that is filled -/

section Occurrences

variable {piece : List Char} (opening : '{' ∉ piece) (closing : '}' ∉ piece)
  (foreign : ∃ c ∈ piece, Text.isAsciiWord c = false)
include opening

theorem Braced.prefix_fillAll (h : Braced s) (start : piece <+: s) :
    piece <+: fillAll content? s := by
  induction h generalizing piece with
  | nil => rwa [fillAll_nil]
  | @char c s single rest ih =>
    rw [fillAll_char single]
    cases piece with
    | nil => exact List.nil_prefix
    | cons d piece =>
      obtain ⟨same, start⟩ := List.cons_prefix_cons.mp start
      refine List.cons_prefix_cons.mpr ⟨same, ih (fun mem => ?_) start⟩
      exact opening (List.mem_cons_of_mem d mem)
  | hole =>
    cases piece with
    | nil => exact List.nil_prefix
    | cons d piece =>
      obtain ⟨rfl, -⟩ := List.cons_prefix_cons.mp start
      exact absurd List.mem_cons_self opening

include closing foreign

/-- A piece that has other characters than a placeholder does not occur across one. -/
theorem occurrences_hole (isVariable : IsVariable name) :
    Text.occurrences piece (placeholder name ++ s) = Text.occurrences piece s := by
  obtain ⟨c, mem, other⟩ := foreign
  have nonempty : piece ≠ [] := List.ne_nil_of_mem mem
  have inside : Text.occurrences piece name = 0 :=
    Text.occurrences_eq_zero_of_forall_ne mem (isVariable.not_mem other)
  have skip : ∀ d t, d ∉ piece → Text.occurrences piece (d :: t) = Text.occurrences piece t := by
    intro d t absent
    simpa [Text.occurrences] using Text.occurrences_append_cons (s := []) (t := t) nonempty absent
  have text : placeholder name ++ s = '{' :: '{' :: (name ++ '}' :: '}' :: s) := by
    simp [placeholder]
  rw [text, skip _ _ opening, skip _ _ opening, Text.occurrences_append_cons nonempty closing,
    skip _ _ closing, inside, Nat.zero_add]

/-- Filling takes away no occurrence of such a piece. -/
theorem Braced.occurrences_le (h : Braced s) :
    Text.occurrences piece s ≤ Text.occurrences piece (fillAll content? s) := by
  induction h with
  | nil => simp [fillAll_nil]
  | @char c s single rest ih =>
    have kept : piece <+: c :: s → piece <+: c :: fillAll content? s := by
      intro start
      rw [← fillAll_char single]
      exact (Braced.char single rest).prefix_fillAll opening start
    rw [fillAll_char single, Text.occurrences_cons, Text.occurrences_cons]
    by_cases here : piece <+: c :: s
    · simp only [here, kept here, if_true]
      omega
    · simp only [here, if_false]
      omega
  | @hole name s isVariable rest ih =>
    rw [occurrences_hole opening closing foreign isVariable, fillAll_hole isVariable]
    exact ih.trans (Text.occurrences_le_append _ _)

end Occurrences

end PagePress.Markup
