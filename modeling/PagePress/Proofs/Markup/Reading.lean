import Mathlib.Data.List.TakeWhile
import PagePress.Proofs.Markup.Slot

/-!
# What a slot consists of

A slot is a tag that has the mark, a content, and a closing tag. Filling it replaces the content, so
that the text starts as before, and a text without the mark stays as it is.
-/

namespace PagePress.Markup

variable {mark value s : List Char}

/-- A text and the slot it starts with: a tag with the mark, a content without a tag, and a closing
tag. -/
inductive Slot.Reads (mark : List Char) : List Char → Slot → Prop where
  | intro {pre post content close rest : List Char} (before : '>' ∉ pre) (after : '>' ∉ post)
      (plain : '<' ∉ content) (closing : '>' ∉ close) :
      Slot.Reads mark
        ('<' :: (pre ++ mark ++ post ++ '>' :: (content ++ '<' :: (close ++ '>' :: rest))))
        { openTag := '<' :: (pre ++ mark ++ post ++ ['>'])
          closeTag := '<' :: (close ++ ['>'])
          rest }

namespace Slot.Reads

variable {slot : Slot}

theorem starts_with_openTag (h : Reads mark s slot) : slot.openTag <+: s := by
  cases h with
  | @intro pre post content close rest =>
    exact ⟨content ++ '<' :: (close ++ '>' :: rest), by simp⟩

theorem mem_openTag (h : Reads mark s slot) : '>' ∈ slot.openTag := by
  cases h with
  | intro => simp

theorem openTag_marked (h : Reads mark s slot) : mark <:+: slot.openTag := by
  cases h with
  | @intro pre post content close rest =>
    exact ⟨'<' :: pre, post ++ ['>'], by simp⟩

theorem suffix (h : Reads mark s slot) : slot.rest <:+ s := by
  cases h with
  | @intro pre post content close rest =>
    exact ⟨'<' :: (pre ++ mark ++ post ++ '>' :: (content ++ '<' :: (close ++ ['>']))), by simp⟩

end Slot.Reads

theorem closingTag?_eq_some {tag rest : List Char} (found : closingTag? s = some (tag, rest)) :
    ∃ close, '>' ∉ close ∧ tag = '<' :: (close ++ ['>']) ∧ s = '<' :: (close ++ '>' :: rest) := by
  unfold closingTag? at found
  split at found
  · split at found
    · cases found
    · obtain ⟨⟨front, after⟩, cut, same⟩ := Option.map_eq_some_iff.mp found
      obtain ⟨rfl, rfl⟩ := Prod.mk.inj same
      obtain ⟨close, absent, rfl, whole⟩ := Text.through?_eq_some cut
      exact ⟨'/' :: close, by simpa using absent, rfl, by rw [whole]; rfl⟩
  · cases found

theorem Slot.reads_of_afterMark? {slot : Slot} {pre : List Char}
    (found : Slot.afterMark? s = some slot) (before : '>' ∉ pre) :
    Slot.Reads mark ('<' :: (pre ++ mark ++ s))
      { slot with openTag := '<' :: (pre ++ mark ++ slot.openTag) } := by
  simp only [Slot.afterMark?, Option.bind_eq_bind, Option.pure_def, Option.bind_eq_some_iff,
    Prod.exists, Option.some.injEq] at found
  obtain ⟨tagEnd, body, ends, closeTag, rest, closes, rfl⟩ := found
  obtain ⟨post, after, rfl, rfl⟩ := Text.through?_eq_some ends
  obtain ⟨close, closing, rfl, bodyEnd⟩ := closingTag?_eq_some closes
  have plain : '<' ∉ body.takeWhile (· != '<') := fun mem => by
    simpa using List.mem_takeWhile_imp mem
  have parts := List.takeWhile_append_dropWhile (p := (· != '<')) (l := body)
  rw [bodyEnd] at parts
  rw [← parts]
  have reads : Slot.Reads mark _ { rest, .. } := .intro before after plain closing
  simpa using reads

theorem Slot.reads_of_inTag? {slot : Slot} {pre : List Char}
    (found : Slot.inTag? mark s = some slot) (before : '>' ∉ pre) :
    Slot.Reads mark ('<' :: (pre ++ s)) { slot with openTag := '<' :: (pre ++ slot.openTag) } := by
  induction s generalizing slot pre with
  | nil => cases found
  | cons c s ih =>
    unfold Slot.inTag? at found
    split at found
    · rename_i later inner
      obtain rfl := Option.some.inj found
      split at inner
      · cases inner
      · rename_i inside
        have before' : '>' ∉ pre ++ [c] := by simp [before, Ne.symm inside]
        simpa using ih inner before'
    · split at found
      · rename_i start
        obtain ⟨after, read, rfl⟩ := Option.map_eq_some_iff.mp found
        obtain ⟨u, same⟩ := List.isPrefixOf_iff_prefix.mp start
        rw [← same, List.drop_left] at read
        rw [← same]
        have reads : Slot.Reads mark _ _ := Slot.reads_of_afterMark? read before
        simpa using reads
      · cases found

theorem Slot.reads_of_at? {slot : Slot} (found : Slot.at? mark s = some slot) :
    Slot.Reads mark s slot := by
  unfold Slot.at? at found
  split at found
  · obtain ⟨inner, read, rfl⟩ := Option.map_eq_some_iff.mp found
    have nothing : '>' ∉ ([] : List Char) := by simp
    exact Slot.reads_of_inTag? read nothing
  · cases found

theorem fillMarked_of_at? {slot : Slot} (found : Slot.at? mark s = some slot) :
    fillMarked mark value s =
      slot.openTag ++ value ++ slot.closeTag ++ fillMarked mark value slot.rest := by
  cases s with
  | nil => cases found
  | cons c s =>
    rw [fillMarked]
    split
    · rename_i other found'
      rw [found] at found'
      rw [Option.some.inj found']
    · rename_i found'
      rw [found] at found'
      cases found'

theorem head?_fillMarked : (fillMarked mark value s).head? = s.head? := by
  cases s with
  | nil => simp [fillMarked]
  | cons c s =>
    cases found : Slot.at? mark (c :: s) with
    | none => rw [fillMarked_cons_of_none found]; rfl
    | some slot =>
      rw [fillMarked_of_at? found]
      generalize c :: s = text at found
      cases Slot.reads_of_at? found with
      | intro => rfl

/-- Where no slot is found, none is filled. -/
theorem fillMarked_of_forall_suffix (noSlot : ∀ t, t <:+ s → Slot.at? mark t = none) :
    fillMarked mark value s = s := by
  induction s with
  | nil => simp [fillMarked]
  | cons c s ih =>
    have later : ∀ t, t <:+ s → Slot.at? mark t = none := fun t suffix =>
      noSlot t (suffix.trans (List.suffix_cons c s))
    rw [fillMarked_cons_of_none (noSlot _ List.suffix_rfl), ih later]

/-- A text without the mark has no slot. -/
theorem Slot.at?_eq_none_of_absent (absent : ¬mark <:+: s) :
    ∀ t, t <:+ s → Slot.at? mark t = none := by
  intro t suffix
  by_contra found
  obtain ⟨slot, found⟩ := Option.ne_none_iff_exists'.mp found
  have reads := Slot.reads_of_at? found
  exact absent (reads.openTag_marked.trans (reads.starts_with_openTag.isInfix.trans suffix.isInfix))

end PagePress.Markup
