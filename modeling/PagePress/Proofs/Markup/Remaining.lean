import PagePress.Markup.Substitution
import PagePress.Proofs.Markup.Reading
import PagePress.Proofs.Markup.Variable

/-!
# The variables that substitution leaves

Whatever the keys are, substituting contents takes variables out of a braced text and brings none
in, as long as no content has an opening brace. A placeholder that is filled is filled whole, and
what surrounds it does not grow together to a new one; a slot that is filled cuts the text at angle
brackets, which no placeholder has.
-/

namespace PagePress.Markup

variable {name key value mark s t : List Char} {c : Char} {P Q : List Char → Prop}

/-! ## Suffixes of braced texts -/

namespace Braced

theorem isBraced (h : Braced s) : IsBraced s := by
  intro u suffix opens
  induction h with
  | nil =>
    rw [List.suffix_nil.mp suffix] at opens
    simp at opens
  | @char d s single rest ih =>
    rcases List.suffix_cons_iff.mp suffix with rfl | later
    · obtain ⟨rfl, second⟩ := List.cons_prefix_cons.mp opens
      obtain ⟨after, rfl⟩ := second
      exact absurd rfl (single rfl)
    · exact ih later
  | @hole name s isVariable rest ih =>
    rcases suffix_placeholder_append isVariable opens suffix with rfl | later
    · rw [placeholder?_placeholder isVariable]
      rfl
    · exact ih later

theorem of_suffix (h : Braced s) (suffix : t <:+ s) : Braced t :=
  IsBraced.braced fun u later => h.isBraced u (later.trans suffix)

/-- Where two opening braces stand in a row, a placeholder starts. -/
theorem exists_placeholder (h : Braced s) (opens : ['{', '{'] <+: t) (suffix : t <:+ s) :
    ∃ name rest, IsVariable name ∧ t = placeholder name ++ rest := by
  obtain ⟨⟨name, rest⟩, found⟩ := Option.isSome_iff_exists.mp (h.isBraced t suffix opens)
  exact ⟨name, rest, placeholder?_eq_some_iff.mp found⟩

theorem exists_mem_variableNames (h : Braced s) (double : ['{', '{'] <:+: s) :
    ∃ name, name ∈ variableNames s := by
  obtain ⟨t, opens, suffix⟩ := List.infix_iff_prefix_suffix.mp double
  obtain ⟨name, rest, isVariable, rfl⟩ := h.exists_placeholder opens suffix
  have inside : placeholder name <:+: s := (List.prefix_append _ _).isInfix.trans suffix.isInfix
  exact ⟨name, mem_variableNames_iff.mpr ⟨isVariable, inside⟩⟩

end Braced

/-! ## Variables of parts -/

theorem mem_variableNames_of_part (inside : s <:+: t) (mem : name ∈ variableNames s) :
    name ∈ variableNames t := by
  obtain ⟨isVariable, within⟩ := mem_variableNames_iff.mp mem
  exact mem_variableNames_iff.mpr ⟨isVariable, within.trans inside⟩

theorem mem_variableNames_cons (single : c = '{' → s.head? ≠ some '{') :
    name ∈ variableNames (c :: s) ↔ name ∈ variableNames s := by
  refine ⟨fun mem => ?_, mem_variableNames_of_part (List.suffix_cons c s).isInfix⟩
  obtain ⟨isVariable, within⟩ := mem_variableNames_iff.mp mem
  refine mem_variableNames_iff.mpr ⟨isVariable, ?_⟩
  rcases List.infix_cons_iff.mp within with ⟨rest, same⟩ | later
  · obtain ⟨rfl, rfl⟩ := List.cons.inj same
    exact absurd rfl (single rfl)
  · exact later

theorem mem_variableNames_placeholder_append {other : List Char} (isOther : IsVariable other)
    (mem : name ∈ variableNames (placeholder other ++ s)) :
    name = other ∨ name ∈ variableNames s := by
  obtain ⟨isVariable, within⟩ := mem_variableNames_iff.mp mem
  refine (infix_placeholder_append isVariable isOther within).imp_right fun later => ?_
  exact mem_variableNames_iff.mpr ⟨isVariable, later⟩

/-- The variables of two parts are those of the whole, if a character stands between the parts that
no placeholder has. -/
theorem mem_variableNames_append_cons (other : Text.isAsciiWord c = false) (opening : c ≠ '{')
    (closing : c ≠ '}') :
    name ∈ variableNames (s ++ c :: t) ↔ name ∈ variableNames s ∨ name ∈ variableNames t := by
  simp only [mem_variableNames_iff, ← and_or_left]
  refine and_congr_right fun isVariable => ?_
  have absent := isVariable.not_mem_placeholder other opening closing
  have none_iff := fun u => Text.occurrences_eq_zero_iff (s := u) (placeholder_ne_nil name)
  have parts : Text.occurrences (placeholder name) (s ++ c :: t) =
      Text.occurrences (placeholder name) s + Text.occurrences (placeholder name) t :=
    Text.occurrences_append_cons (placeholder_ne_nil name) absent
  rw [← not_iff_not, not_or, ← none_iff, ← none_iff, ← none_iff, parts]
  omega

/-! ## Texts with given variables -/

/-- A braced text whose variables all have the property. -/
structure BracedWith (P : List Char → Prop) (s : List Char) : Prop where
  braced : Braced s
  names : ∀ name ∈ variableNames s, P name

namespace BracedWith

theorem mono (h : BracedWith P s) (weaker : ∀ name, P name → Q name) : BracedWith Q s where
  braced := h.braced
  names name mem := weaker name (h.names name mem)

theorem of_suffix (h : BracedWith P s) (suffix : t <:+ s) : BracedWith P t where
  braced := h.braced.of_suffix suffix
  names name mem := h.names name (mem_variableNames_of_part suffix.isInfix mem)

theorem nil : BracedWith P [] where
  braced := .nil
  names _ mem := by simp [variableNames, placeholderNames] at mem

theorem cons (h : BracedWith P s) (single : c = '{' → s.head? ≠ some '{') :
    BracedWith P (c :: s) where
  braced := .char single h.braced
  names name mem := h.names name ((mem_variableNames_cons single).mp mem)

theorem hole (h : BracedWith P s) (isVariable : IsVariable name) (has : P name) :
    BracedWith P (placeholder name ++ s) where
  braced := .hole isVariable h.braced
  names other mem := by
    rcases mem_variableNames_placeholder_append isVariable mem with rfl | later
    · exact has
    · exact h.names other later

theorem append_of_not_mem (h : BracedWith P s) (plain : '{' ∉ value) :
    BracedWith P (value ++ s) := by
  induction value with
  | nil => exact h
  | cons d value ih =>
    have first : d ≠ '{' := fun same => plain (same ▸ List.mem_cons_self)
    have rest := ih fun mem => plain (List.mem_cons_of_mem d mem)
    exact rest.cons fun same => absurd same first

/-- The parts on both sides of a bracket, and the whole. -/
theorem append_cons_iff (bracket : c = '<' ∨ c = '>') :
    BracedWith P (s ++ c :: t) ↔ BracedWith P s ∧ BracedWith P t := by
  have other : Text.isAsciiWord c = false := by rcases bracket with rfl | rfl <;> decide
  have opening : c ≠ '{' := by rcases bracket with rfl | rfl <;> decide
  have closing : c ≠ '}' := by rcases bracket with rfl | rfl <;> decide
  have names : ∀ name, name ∈ variableNames (s ++ c :: t) ↔
      name ∈ variableNames s ∨ name ∈ variableNames t := fun _ =>
    mem_variableNames_append_cons other opening closing
  constructor
  · intro h
    obtain ⟨left, right⟩ := h.braced.of_append_cons other opening closing
    exact ⟨⟨left, fun name mem => h.names name ((names name).mpr (.inl mem))⟩,
      ⟨right, fun name mem => h.names name ((names name).mpr (.inr mem))⟩⟩
  · rintro ⟨left, right⟩
    refine ⟨left.braced.append_cons opening right.braced, fun name mem => ?_⟩
    exact ((names name).mp mem).elim (left.names name) (right.names name)

/-- A tag, a content, a tag and what follows: the parts, and the whole. -/
theorem bracketed_iff (tag content close rest : List Char) :
    BracedWith P ('<' :: (tag ++ '>' :: (content ++ '<' :: (close ++ '>' :: rest)))) ↔
      BracedWith P tag ∧ BracedWith P content ∧ BracedWith P close ∧ BracedWith P rest := by
  have first : ∀ s, BracedWith P ('<' :: s) ↔ BracedWith P s := fun s => by
    simpa [nil] using append_cons_iff (s := []) (t := s) (P := P) (.inl rfl)
  rw [first, append_cons_iff (.inr rfl), append_cons_iff (.inl rfl), append_cons_iff (.inr rfl)]

end BracedWith

/-! ## Filling placeholders -/

theorem fillPlaceholders_nil : fillPlaceholders key value [] = [] := by
  simp [fillPlaceholders, Text.replaceAll]

/-- What a braced text becomes when the placeholders of a key are filled. The key need not be a
variable: what is replaced starts with a placeholder, wherever it ends. -/
inductive Filling (key value : List Char) : List Char → List Char → Prop where
  | nil : Filling key value [] []
  | char {c : Char} {s t : List Char} (single : c = '{' → s.head? ≠ some '{')
      (rest : Filling key value s t) : Filling key value (c :: s) (c :: t)
  | filled {s t : List Char} (rest : Filling key value s t) :
      Filling key value (placeholder key ++ s) (value ++ t)
  | copied {name s t : List Char} (isVariable : IsVariable name) (other : name ≠ key)
      (rest : Filling key value s t) :
      Filling key value (placeholder name ++ s) (placeholder name ++ t)

theorem Filling.head?_eq (h : Filling key value s t) (single : s.head? ≠ some '{') :
    t.head? = s.head? := by
  cases h with
  | nil | char => rfl
  | filled | copied => exact absurd rfl single

theorem Braced.filling (h : Braced s) : Filling key value s (fillPlaceholders key value s) := by
  induction hlen : s.length using Nat.strongRecOn generalizing s with
  | ind n ih =>
    have later : ∀ t, t <:+ s → t.length < s.length →
        Filling key value t (fillPlaceholders key value t) := fun t suffix shorter =>
      ih t.length (hlen ▸ shorter) (h.of_suffix suffix) rfl
    cases h with
    | nil =>
      rw [fillPlaceholders_nil]
      exact .nil
    | @char c s single rest =>
      rw [fillPlaceholders_char single]
      exact .char single (later s (List.suffix_cons c s) (Nat.lt_succ_self _))
    | @hole name s isVariable rest =>
      have shorter : ∀ name t : List Char, t.length < (placeholder name ++ t).length := by
        intro name t
        simp only [placeholder, List.length_append, List.length_cons]
        omega
      by_cases start : placeholder key <+: placeholder name ++ s
      · obtain ⟨t, parts⟩ := start
        have suffix : t <:+ placeholder name ++ s := ⟨placeholder key, parts⟩
        have filled : fillPlaceholders key value (placeholder key ++ t) =
            value ++ fillPlaceholders key value t :=
          Text.replaceAll_append (placeholder_ne_nil key)
        have rest := later t suffix (parts ▸ shorter key t)
        rw [← parts, filled]
        exact .filled rest
      · have other : name ≠ key := by
          rintro rfl
          exact start (List.prefix_append _ _)
        rw [fillPlaceholders_hole_of_other isVariable start]
        exact .copied isVariable other (later s (List.suffix_append _ _) (shorter name s))

/-- Filling the placeholders of a key closes the key and opens nothing. -/
theorem BracedWith.of_filling (h : BracedWith P s) (filling : Filling key value s t)
    (plain : '{' ∉ value) : BracedWith (fun name => P name ∧ name ≠ key) t := by
  induction filling with
  | nil => exact .nil
  | @char c s t single rest ih =>
    refine (ih (h.of_suffix (List.suffix_cons c s))).cons fun same => ?_
    rw [rest.head?_eq (single same)]
    exact single same
  | @filled s t rest ih =>
    exact (ih (h.of_suffix (List.suffix_append _ s))).append_of_not_mem plain
  | @copied name s t isVariable other rest ih =>
    have here : name ∈ variableNames (placeholder name ++ s) :=
      mem_variableNames_iff.mpr ⟨isVariable, (List.prefix_append _ _).isInfix⟩
    exact (ih (h.of_suffix (List.suffix_append _ s))).hole isVariable ⟨h.names name here, other⟩

/-! ## Filling slots -/

/-- Filling slots opens nothing. -/
theorem BracedWith.fillMarked (h : BracedWith P s) (plain : '{' ∉ value) :
    BracedWith P (fillMarked mark value s) := by
  induction hlen : s.length using Nat.strongRecOn generalizing s with
  | ind n ih =>
    have later : ∀ t, t <:+ s → t.length < s.length →
        BracedWith P (Markup.fillMarked mark value t) :=
      fun t suffix shorter => ih t.length (hlen ▸ shorter) (h.of_suffix suffix) rfl
    cases found : Slot.at? mark s with
    | some slot =>
      have shorter := Slot.length_rest_lt_of_at? found
      rw [fillMarked_of_at? found]
      cases Slot.reads_of_at? found with
      | @intro pre post content close rest =>
        obtain ⟨tag, -, closing, -⟩ := (bracketed_iff ..).mp h
        have value' : BracedWith P value := by simpa using nil.append_of_not_mem plain
        have rest' : BracedWith P (Markup.fillMarked mark value rest) :=
          later rest (Slot.reads_of_at? found).suffix shorter
        have parts := (bracketed_iff ..).mpr ⟨tag, value', closing, rest'⟩
        simpa using parts
    | none =>
      cases h.braced with
      | nil => simpa [Markup.fillMarked] using h
      | @char c s single rest =>
        rw [fillMarked_cons_of_none found]
        refine (later s (List.suffix_cons c s) (Nat.lt_succ_self _)).cons fun same => ?_
        rw [head?_fillMarked]
        exact single same
      | @hole name s isVariable rest =>
        have plainHole : '<' ∉ placeholder name :=
          isVariable.not_mem_placeholder (by decide) (by decide) (by decide)
        have here : name ∈ variableNames (placeholder name ++ s) :=
          mem_variableNames_iff.mpr ⟨isVariable, (List.prefix_append _ _).isInfix⟩
        rw [fillMarked_append_of_not_mem plainHole]
        refine (later s (List.suffix_append _ _) ?_).hole isVariable (h.names name here)
        simp [placeholder]
        omega

/-! ## Substitution -/

theorem BracedWith.substitute (h : BracedWith P s) (plain : '{' ∉ value) :
    BracedWith (fun name => P name ∧ name ≠ key) (substitute key value s) :=
  (h.of_filling h.braced.filling plain).fillMarked plain

/-- Substituting contents leaves variables that the text had and that have no content. -/
theorem BracedWith.substituteAll {contents : List (List Char × List Char)} (h : BracedWith P s)
    (plain : ∀ entry ∈ contents, '{' ∉ entry.2) :
    BracedWith (fun name => P name ∧ name ∉ contents.map Prod.fst) (substituteAll s contents) := by
  induction contents generalizing P s with
  | nil => exact h.mono fun name has => ⟨has, by simp⟩
  | cons entry contents ih =>
    have first : BracedWith (fun name => P name ∧ name ≠ entry.1)
        (Markup.substitute entry.1 entry.2 s) :=
      h.substitute (plain entry List.mem_cons_self)
    have rest := ih first fun later mem => plain later (List.mem_cons_of_mem entry mem)
    exact rest.mono fun name has => ⟨has.1.1, by simpa using ⟨has.1.2, by simpa using has.2⟩⟩

/-- If every variable has a content, nothing is left open. -/
theorem IsBraced.substituteAll_closed {html : List Char} {contents : List (List Char × List Char)}
    (braced : IsBraced html) (plain : ∀ entry ∈ contents, '{' ∉ entry.2)
    (covered : ∀ name ∈ variableNames html, name ∈ contents.map Prod.fst) :
    ¬['{', '{'] <:+: substituteAll html contents := by
  intro double
  have whole : BracedWith (· ∈ variableNames html) html := ⟨braced.braced, fun _ mem => mem⟩
  have filled := whole.substituteAll plain
  obtain ⟨name, mem⟩ := filled.braced.exists_mem_variableNames double
  obtain ⟨isVariable, missing⟩ := filled.names name mem
  exact missing (covered name isVariable)

end PagePress.Markup
