import PagePress.Proofs.Markup.Remaining
import PagePress.Proofs.Markup.Stretch

/-!
# Contents that nothing receives

Contents are put in key by key, so that a content is markup for the keys after it: a placeholder in
a content is filled if its key comes later. A key that finds neither its placeholder nor a slot when
its turn comes changes nothing. Where every placeholder stands outside of the tags, this can be told
from the template, as long as the contents before the key have neither opening braces nor angle
brackets: such contents make no placeholder and no tag.
-/

namespace PagePress.Markup

variable {key mark value s t : List Char} {c : Char} {P : List Char → Prop}

/-! ## Tags -/

/-- The tag that the text starts with: what stands from a `<` to the next `>`. -/
def tag? : List Char → Option (List Char)
  | '<' :: s => Text.upTo? '>' ('<' :: s)
  | _ => none

def EachTag (P : List Char → Prop) (s : List Char) : Prop := ∀ t, t <:+ s → ∀ tag ∈ tag? t, P tag

theorem tag?_append_of_mem (mem : '>' ∈ s) : tag? (s ++ t) = tag? s := by
  cases s with
  | nil => simp at mem
  | cons c s =>
    by_cases opens : c = '<'
    · subst opens
      exact Text.upTo?_append_of_mem mem
    · simp [tag?, opens]

theorem prefix_of_mem_tag? {tag : List Char} (mem : tag ∈ tag? s) : tag <+: s := by
  unfold tag? at mem
  split at mem
  · obtain ⟨before, rest, rfl, parts⟩ := Text.exists_of_mem_upTo? mem
    exact ⟨rest, by simp [parts]⟩
  · cases mem

/-- The tag after a `<` is told by the front of what follows. -/
theorem tag?_cons (s : List Char) : tag? ('<' :: s) = (Text.upTo? '>' s).map ('<' :: ·) :=
  Text.upTo?_cons_of_ne (by decide)

instance [DecidablePred P] (s : List Char) : Decidable (EachTag P s) :=
  inferInstanceAs (Decidable (∀ t, t <:+ s → ∀ tag ∈ tag? t, P tag))

namespace EachTag

theorem nil : EachTag P [] := by
  intro t suffix tag mem
  rw [List.suffix_nil.mp suffix] at mem
  cases mem

theorem of_suffix (h : EachTag P s) (suffix : t <:+ s) : EachTag P t := fun u later =>
  h u (later.trans suffix)

theorem cons_iff : EachTag P (c :: s) ↔ (∀ tag ∈ tag? (c :: s), P tag) ∧ EachTag P s := by
  constructor
  · intro h
    exact ⟨h _ List.suffix_rfl, h.of_suffix (List.suffix_cons c s)⟩
  · rintro ⟨here, later⟩ t suffix
    rcases List.suffix_cons_iff.mp suffix with rfl | suffix
    · exact here
    · exact later t suffix

/-- Where no tag starts, there is none. -/
theorem append_iff_of_not_mem (plain : '<' ∉ s) : EachTag P (s ++ t) ↔ EachTag P t := by
  induction s with
  | nil => exact Iff.rfl
  | cons c s ih =>
    have first : tag? (c :: (s ++ t)) = none := by
      have other : c ≠ '<' := fun same => plain (same ▸ List.mem_cons_self)
      simp [tag?, other]
    rw [List.cons_append, cons_iff, first, ih fun mem => plain (List.mem_cons_of_mem c mem)]
    simp

/-- No tag reaches beyond a `>`. -/
theorem append_cons_iff : EachTag P (s ++ '>' :: t) ↔ EachTag P (s ++ ['>']) ∧ EachTag P t := by
  induction s with
  | nil => simp [cons_iff, tag?, nil]
  | cons c s ih =>
    have first : tag? (c :: (s ++ '>' :: t)) = tag? (c :: (s ++ ['>'])) := by
      have mem : '>' ∈ c :: (s ++ ['>']) := by simp
      rw [← tag?_append_of_mem (t := t) mem]
      simp
    rw [List.cons_append, List.cons_append, cons_iff, cons_iff, ih, first, and_assoc]

/-- A tag, a content, a tag and what follows have the tags of their parts. -/
theorem bracketed_iff {tag content close rest : List Char} (plain : '<' ∉ content) :
    EachTag P ('<' :: (tag ++ '>' :: (content ++ '<' :: (close ++ '>' :: rest)))) ↔
      EachTag P ('<' :: (tag ++ ['>'])) ∧ EachTag P ('<' :: (close ++ ['>'])) ∧ EachTag P rest := by
  have cut : ∀ tag rest, EachTag P ('<' :: (tag ++ '>' :: rest)) ↔
      EachTag P ('<' :: (tag ++ ['>'])) ∧ EachTag P rest := fun tag _ =>
    append_cons_iff (s := '<' :: tag)
  rw [cut tag (content ++ _), append_iff_of_not_mem plain, cut close rest]

end EachTag

/-! ## Tags of a text that is filled -/

namespace Filling

theorem not_mem (h : Filling key value s t) (absent : c ∉ s) (plain : c ∉ value) : c ∉ t := by
  induction h with
  | nil => exact absent
  | char single rest ih => grind
  | filled rest ih => grind
  | copied isVariable other rest ih => grind

/-- A front without a placeholder is copied. -/
theorem upTo?_eq (h : Filling key value s t) (closing : '>' ∉ value)
    (noHole : ∀ front ∈ Text.upTo? '>' s, ¬['{', '{'] <:+: front) :
    Text.upTo? '>' t = Text.upTo? '>' s := by
  -- a placeholder that starts the text would stand in the front, if there were one
  have endless : ∀ {s t}, Filling key value s t → ['{', '{'] <+: s →
      (∀ front ∈ Text.upTo? '>' s, ¬['{', '{'] <:+: front) →
      Text.upTo? '>' t = Text.upTo? '>' s := by
    intro s t h opens noHole
    have absent : '>' ∉ s := by
      intro mem
      obtain ⟨before, rest, rfl, outside⟩ := List.eq_append_cons_of_mem mem
      have inside : ['{', '{'] <+: before := (Text.prefix_append_cons_iff (by decide)).mp opens
      refine noHole _ (Text.upTo?_append_cons outside) (inside.isInfix.trans ?_)
      exact (List.prefix_append before ['>']).isInfix
    rw [Text.upTo?_eq_none_iff.mpr absent, Text.upTo?_eq_none_iff.mpr (h.not_mem absent closing)]
  induction h with
  | nil => rfl
  | @char c s t single rest ih =>
    by_cases closes : c = '>'
    · subst closes
      rw [Text.upTo?_cons_self, Text.upTo?_cons_self]
    · rw [Text.upTo?_cons_of_ne closes] at noHole
      have later : ∀ front ∈ Text.upTo? '>' s, ¬['{', '{'] <:+: front := fun front mem inside =>
        noHole (c :: front) (Option.mem_map_of_mem _ mem) (List.infix_cons inside)
      rw [Text.upTo?_cons_of_ne closes, Text.upTo?_cons_of_ne closes, ih later]
  | filled rest ih =>
    exact endless (.filled rest) ((opens_placeholder _).trans (List.prefix_append _ _)) noHole
  | copied isVariable other rest ih =>
    exact endless (.copied isVariable other rest)
      ((opens_placeholder _).trans (List.prefix_append _ _)) noHole

end Filling

/-- Filling slots changes nothing up to the first `>`. -/
theorem upTo?_fillMarked : Text.upTo? '>' (fillMarked mark value s) = Text.upTo? '>' s := by
  induction s with
  | nil => simp [fillMarked]
  | cons c s ih =>
    cases found : Slot.at? mark (c :: s) with
    | none =>
      rw [fillMarked_cons_of_none found]
      by_cases closes : c = '>'
      · subst closes
        rw [Text.upTo?_cons_self, Text.upTo?_cons_self]
      · rw [Text.upTo?_cons_of_ne closes, Text.upTo?_cons_of_ne closes, ih]
    | some slot =>
      obtain ⟨after, parts⟩ := (Slot.reads_of_at? found).starts_with_openTag
      have mem := (Slot.reads_of_at? found).mem_openTag
      rw [fillMarked_of_at? found, ← parts, List.append_assoc, List.append_assoc,
        Text.upTo?_append_of_mem mem, Text.upTo?_append_of_mem mem]

namespace EachTag

/-- A tag is still there if nothing changes up to its end. -/
theorem cons_of_upTo?_eq (here : EachTag P (c :: s)) (later : EachTag P t)
    (same : c = '<' → Text.upTo? '>' t = Text.upTo? '>' s) : EachTag P (c :: t) := by
  refine cons_iff.mpr ⟨?_, later⟩
  by_cases opens : c = '<'
  · subst opens
    rw [tag?_cons, same rfl, ← tag?_cons]
    exact (cons_iff.mp here).1
  · simp [tag?, opens]

/-- No tag comes in with a content that has no angle bracket, as long as no placeholder stands in a
tag. -/
theorem of_filling (h : EachTag P s) (filling : Filling key value s t)
    (noHole : ∀ tag, P tag → ¬['{', '{'] <:+: tag) (opening : '<' ∉ value) (closing : '>' ∉ value) :
    EachTag P t := by
  induction filling with
  | nil => exact .nil
  | @char c s t single rest ih =>
    refine h.cons_of_upTo?_eq (ih (h.of_suffix (List.suffix_cons c s))) ?_
    rintro rfl
    refine rest.upTo?_eq closing fun front mem inside => ?_
    have tag : '<' :: front ∈ tag? ('<' :: s) := tag?_cons s ▸ Option.mem_map_of_mem _ mem
    exact noHole _ (h _ List.suffix_rfl _ tag) (List.infix_cons inside)
  | @filled s t rest ih =>
    exact (append_iff_of_not_mem opening).mpr (ih (h.of_suffix (List.suffix_append _ s)))
  | @copied name s t isVariable other rest ih =>
    have plain : '<' ∉ placeholder name :=
      isVariable.not_mem_placeholder (by decide) (by decide) (by decide)
    exact (append_iff_of_not_mem plain).mpr (ih (h.of_suffix (List.suffix_append _ s)))

theorem fillMarked (h : EachTag P s) (opening : '<' ∉ value) :
    EachTag P (fillMarked mark value s) := by
  fun_induction Markup.fillMarked mark value s with
  | case1 => exact h
  | case2 c s slot found ih =>
    have rest := ih (h.of_suffix (Slot.reads_of_at? found).suffix)
    generalize c :: s = text at h found
    cases Slot.reads_of_at? found with
    | @intro pre post content close after _ _ plain _ =>
      obtain ⟨tag, closeTag, -⟩ := (bracketed_iff plain).mp h
      have filled := (bracketed_iff opening).mpr ⟨tag, closeTag, rest⟩
      simpa using filled
  | case3 c s noSlot ih =>
    exact h.cons_of_upTo?_eq (ih (h.of_suffix (List.suffix_cons c s))) fun _ => upTo?_fillMarked

end EachTag

/-! ## Keys that find nothing -/

/-- A text has no slot if no tag has the mark. -/
theorem EachTag.at?_eq_none (h : EachTag (fun tag => ¬mark <:+: tag) s) (closing : '>' ∉ mark) :
    ∀ t, t <:+ s → Slot.at? mark t = none := by
  intro t suffix
  by_contra found
  obtain ⟨slot, found⟩ := Option.ne_none_iff_exists'.mp found
  have reads := Slot.reads_of_at? found
  refine h t suffix slot.openTag ?_ reads.openTag_marked
  cases reads with
  | @intro pre post content close rest before after _ _ =>
    have inside : '>' ∉ pre ++ mark ++ post := by simp [before, closing, after]
    rw [tag?_cons, Text.upTo?_append_cons inside]
    rfl

/-- A key that finds nothing changes nothing. -/
theorem substitute_eq_self (noHole : ¬placeholder key <:+: s)
    (noSlot : ∀ t, t <:+ s → Slot.at? (slotMark key) t = none) : substitute key value s = s := by
  have copied : fillPlaceholders key value s = s := Text.replaceAll_of_absent noHole
  rw [substitute, copied]
  exact fillMarked_of_forall_suffix noSlot

/-- In a braced text, only a variable can have a placeholder. -/
theorem Braced.mem_variableNames (h : Braced s) (closing : '}' ∉ key)
    (inside : placeholder key <:+: s) : key ∈ variableNames s := by
  refine mem_variableNames_iff.mpr ⟨?_, inside⟩
  obtain ⟨t, start, suffix⟩ := List.infix_iff_prefix_suffix.mp inside
  obtain ⟨name, rest, isVariable, parts⟩ :=
    h.exists_placeholder ((opens_placeholder key).trans start) suffix
  obtain ⟨after, rfl⟩ := start
  have same : key ++ '}' :: ('}' :: after) = name ++ '}' :: ('}' :: rest) := by
    simpa [placeholder] using parts
  have first := Text.through?_append_cons (t := '}' :: after) closing
  rw [same, Text.through?_append_cons (isVariable.not_mem (by decide))] at first
  obtain rfl : name = key := List.append_cancel_right (Prod.mk.inj (Option.some.inj first)).1
  exact isVariable

/-! ## Contents that make neither a placeholder nor a tag -/

def IsInert (value : List Char) : Prop := ∀ c ∈ ['{', '<', '>'], c ∉ value

instance (value : List Char) : Decidable (IsInert value) :=
  decidable_of_iff ('{' ∉ value ∧ '<' ∉ value ∧ '>' ∉ value) (by simp [IsInert])

section Removal

variable {html : List Char} {before after : List (List Char × List Char)} {Q : List Char → Prop}

/-- Inert contents bring no tag in. -/
theorem EachTag.substituteAll (h : EachTag P html) (noHole : ∀ tag, P tag → ¬['{', '{'] <:+: tag)
    (braced : BracedWith Q html) (plain : ∀ entry ∈ before, IsInert entry.2) :
    EachTag P (substituteAll html before) := by
  induction before generalizing html Q with
  | nil => exact h
  | cons entry before ih =>
    obtain ⟨key, value⟩ := entry
    have here : IsInert value := plain (key, value) List.mem_cons_self
    have later := fun entry mem => plain entry (List.mem_cons_of_mem _ mem)
    have tags : EachTag P (substitute key value html) :=
      (h.of_filling braced.braced.filling noHole (here '<' (by simp))
        (here '>' (by simp))).fillMarked (here '<' (by simp))
    exact ih tags (braced.substitute (here '{' (by simp))) later

theorem substituteAll_append (html : List Char) (before after : List (List Char × List Char)) :
    substituteAll html (before ++ after) = substituteAll (substituteAll html before) after :=
  List.foldl_append

/-- An entry may go if its key finds nothing in what the entries before it have made. -/
theorem substituteAll_erase_of_eq
    (idle : substitute key value (substituteAll html before) = substituteAll html before) :
    substituteAll html (before ++ (key, value) :: after) =
      substituteAll html (before ++ after) := by
  rw [substituteAll_append, substituteAll_append]
  exact congrArg (substituteAll · after) idle

/-- An entry may go, whatever the entries after it are, if its key has neither a placeholder nor a
mark in what the entries before it have made. It has neither if it has neither in the template, all
placeholders of the template stand outside of tags, and the contents before it are inert. -/
theorem substituteAll_erase :
    (¬placeholder key <:+: substituteAll html before →
      ¬slotMark key <:+: substituteAll html before →
      substituteAll html (before ++ (key, value) :: after) =
        substituteAll html (before ++ after)) ∧
    (IsBraced html → EachTag (fun tag => ¬['{', '{'] <:+: tag) html →
      (∀ entry ∈ before, IsInert entry.2) → '}' ∉ key → '>' ∉ key →
      ¬placeholder key <:+: html → ¬slotMark key <:+: html →
      substituteAll html (before ++ (key, value) :: after) =
        substituteAll html (before ++ after)) := by
  constructor
  · intro noHole noMark
    have noSlot := Slot.at?_eq_none_of_absent noMark
    exact substituteAll_erase_of_eq (substitute_eq_self noHole noSlot)
  · intro braced plainTags plain closing bracket noHole noMark
    have whole : BracedWith (· ∈ variableNames html) html := ⟨braced.braced, fun _ mem => mem⟩
    have made : BracedWith (fun name => name ∈ variableNames html ∧ name ∉ before.map Prod.fst)
        (substituteAll html before) :=
      whole.substituteAll fun entry mem => plain entry mem '{' (by simp)
    have noHole' : ¬placeholder key <:+: substituteAll html before := by
      intro inside
      have isName := made.names key (made.braced.mem_variableNames closing inside)
      exact noHole (mem_variableNames_iff.mp isName.1).2
    have tags : EachTag (fun tag => ¬['{', '{'] <:+: tag ∧ ¬slotMark key <:+: tag) html := by
      intro t suffix tag mem
      refine ⟨plainTags t suffix tag mem, fun marked => noMark ?_⟩
      exact marked.trans ((prefix_of_mem_tag? mem).isInfix.trans suffix.isInfix)
    have tags' : EachTag (fun tag => ¬slotMark key <:+: tag) (substituteAll html before) :=
      fun t suffix tag mem =>
        (tags.substituteAll (fun _ both => both.1) whole plain t suffix tag mem).2
    have noSlot := tags'.at?_eq_none (not_mem_slotMark (by simp) bracket)
    exact substituteAll_erase_of_eq (substitute_eq_self noHole' noSlot)

end Removal

/-- A slot, and a placeholder behind it. -/
def slotAndHole : List Char :=
  "<h1 data-element=\"title\">Welcome</h1>\x7b\x7bend\x7d\x7d".toList

/-- The contents of two keys that come before the key `tone`. The second looks like its mark. -/
def inertContents : List (List Char × List Char) :=
  [("title".toList, "Hi".toList), ("end".toList, "data-element=\"tone\"".toList)]

theorem substituteAll_erase_tone :
    (IsBraced slotAndHole ∧ EachTag (fun tag => ¬['{', '{'] <:+: tag) slotAndHole ∧
      (∀ entry ∈ inertContents, IsInert entry.2) ∧ ¬placeholder "tone".toList <:+: slotAndHole ∧
      ¬slotMark "tone".toList <:+: slotAndHole) ∧
    substituteAll slotAndHole (inertContents ++ ("tone".toList, "calm".toList) :: []) =
      substituteAll slotAndHole (inertContents ++ []) ∧
    substituteAll slotAndHole (inertContents ++ []) =
      "<h1 data-element=\"title\">Hi</h1>data-element=\"tone\"".toList := by
  have braced : IsBraced slotAndHole := by decide +kernel
  have plainTags : EachTag (fun tag => ¬['{', '{'] <:+: tag) slotAndHole := by decide +kernel
  have plain : ∀ entry ∈ inertContents, IsInert entry.2 := by decide +kernel
  have noHole : ¬placeholder "tone".toList <:+: slotAndHole := by decide +kernel
  have noMark : ¬slotMark "tone".toList <:+: slotAndHole := by decide +kernel
  refine ⟨⟨braced, plainTags, plain, noHole, noMark⟩, ?_, by decide +kernel⟩
  exact substituteAll_erase.2 braced plainTags plain (by decide) (by decide) noHole noMark

/-- A content with a placeholder is markup for the key of that placeholder, which the template does
not have. -/
theorem substituteAll_nested :
    let html := "\x7b\x7ba\x7d\x7d".toList
    let before := [("a".toList, "\x7b\x7bb\x7d\x7d".toList)]
    ¬placeholder "b".toList <:+: html ∧ ¬slotMark "b".toList <:+: html ∧
      substituteAll html (before ++ ("b".toList, "X".toList) :: []) = "X".toList ∧
      substituteAll html (before ++ []) = "\x7b\x7bb\x7d\x7d".toList := by
  decide +kernel

end PagePress.Markup
