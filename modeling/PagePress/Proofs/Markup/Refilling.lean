import PagePress.Proofs.Markup.Reading
import PagePress.Proofs.Markup.Stretch

/-!
# What filling slots changes

Slots are found from the left: a tag with the mark of the key, a content without a tag, and the
closing tag that follows. Filling replaces the contents of the slots and copies all else. A value
without a tag leaves every slot where it was, so that of two values the last one stays.
-/

namespace PagePress.Markup

def IsMarkedTag (mark tag : List Char) : Prop :=
  ∃ t, tag = '<' :: (t ++ ['>']) ∧ '>' ∉ t ∧ mark <:+: t

/-- A closing tag, up to the first `>`, with at least one character in it. -/
def IsClosingTag (tag : List Char) : Prop :=
  ∃ t, tag = '<' :: '/' :: (t ++ ['>']) ∧ t ≠ [] ∧ '>' ∉ t

/-- The tags of a slot for the mark. -/
structure Slot.IsFor (mark : List Char) (slot : Slot) : Prop where
  openTag : IsMarkedTag mark slot.openTag
  closeTag : IsClosingTag slot.closeTag

def Slot.text (slot : Slot) (content : List Char) : List Char :=
  slot.openTag ++ content ++ slot.closeTag ++ slot.rest

/-- What becomes of a text whose slots are filled with the value: character by character outside of
slots, and slot by slot. -/
inductive Filled (mark value : List Char) : List Char → List Char → Prop where
  | nil : Filled mark value [] []
  | char {c : Char} {s t : List Char}
      (outside : ∀ slot content, Slot.IsFor mark slot → '<' ∉ content → c :: s ≠ slot.text content)
      (rest : Filled mark value s t) : Filled mark value (c :: s) (c :: t)
  | slot {slot : Slot} {content t : List Char} (isFor : slot.IsFor mark) (plain : '<' ∉ content)
      (rest : Filled mark value slot.rest t) :
      Filled mark value (slot.text content) ({ slot with rest := t }.text value)

variable {mark value value' content rest s t : List Char} {p : Stretch} {ps : List Stretch}

/-! ## Filling twice -/

namespace Stretch

theorem isClosing_eq_true_iff : p.isClosing = true ↔ ∃ u, p.tag = '/' :: u ∧ u ≠ [] := by
  unfold isClosing
  split
  · rename_i d u same
    exact iff_of_true rfl ⟨d :: u, same, List.cons_ne_nil d u⟩
  · rename_i other
    refine iff_of_false (by simp) ?_
    rintro ⟨u, same, some⟩
    obtain ⟨d, u, rfl⟩ := List.exists_cons_of_ne_nil some
    exact other d u same

theorem isProper_of_mem_fill {inSlot : Bool} (proper : ∀ p ∈ ps, p.IsProper)
    (plain : '<' ∉ value) (mem : p ∈ fill mark value inSlot ps) : p.IsProper := by
  obtain ⟨q, hq, rfl | rfl⟩ := mem_fill mem
  · exact proper p hq
  · exact { proper q hq with content := plain }

/-- A slot keeps what is put into it last. -/
theorem fill_fill {inSlot : Bool} :
    fill mark value' inSlot (fill mark value inSlot ps) = fill mark value' inSlot ps := by
  induction ps generalizing inSlot with
  | nil => simp [fill]
  | cons p ps ih =>
    by_cases slot : (inSlot && p.isClosing) = true
    · obtain ⟨rfl, closes⟩ := Bool.and_eq_true_iff.mp slot
      have closes' : isClosing { p with content := value } = true := closes
      rw [fill_cons_of_slot closes, fill_cons_of_slot closes', fill_cons_of_slot closes, ih]
    · have noSlot : (inSlot && p.isClosing) = false := by simpa using slot
      rw [fill_cons_of_not_slot noSlot, fill_cons_of_not_slot noSlot, fill_cons_of_not_slot noSlot,
        ih]

end Stretch

/-- The slots of a text do not move when they are filled with a value in which no tag starts. -/
theorem fillMarked_fillMarked (nonempty : mark ≠ []) (opening : '<' ∉ mark) (closing : '>' ∉ mark)
    (plain : '<' ∉ value) :
    fillMarked mark value' (fillMarked mark value s) = fillMarked mark value' s := by
  obtain ⟨ps, rest, proper, tagless, rfl⟩ := exists_eq_join s
  have proper' : ∀ p ∈ Stretch.fill mark value false ps, p.IsProper := fun _ mem =>
    Stretch.isProper_of_mem_fill proper plain mem
  rw [fillMarked_join nonempty opening closing tagless proper,
    fillMarked_join nonempty opening closing tagless proper', Stretch.fill_fill,
    fillMarked_join nonempty opening closing tagless proper]

/-! ## Where a slot is read -/

section Mark

variable (nonempty : mark ≠ []) (closing : '>' ∉ mark)
include nonempty closing

theorem Slot.at?_stretch (absent : '>' ∉ t) (proper : p.IsProper) (rest : List Char) :
    Slot.at? mark ('<' :: (t ++ '>' :: Stretch.join rest [p])) =
      if mark <:+: t ∧ p.isClosing = true then
        some { openTag := '<' :: (t ++ ['>']), closeTag := '<' :: (p.tag ++ ['>']), rest }
      else none := by
  rw [Slot.at?, Slot.inTag?_append nonempty closing absent, nextClosing?_join_cons proper]
  by_cases marked : mark <:+: t <;> by_cases closes : p.isClosing = true <;> simp [marked, closes]

/-- A slot is read exactly where the text starts with its tags around a content. -/
theorem Slot.at?_eq_some_iff {slot : Slot} :
    Slot.at? mark s = some slot ↔
      slot.IsFor mark ∧ ∃ content, '<' ∉ content ∧ s = slot.text content := by
  constructor
  · intro found
    cases Slot.reads_of_at? found with
    | @intro pre post content close rest before after plain outside =>
      have absent : '>' ∉ pre ++ mark ++ post := by simp [before, closing, after]
      have marked : mark <:+: pre ++ mark ++ post := ⟨pre, post, rfl⟩
      -- what `Reads` says does not tell a closing tag: read from its parts, the slot does
      have closes : (Stretch.mk content close).isClosing = true := by
        by_contra other
        have proper : (Stretch.mk content close).IsProper := ⟨plain, outside⟩
        have missed := Slot.at?_stretch nonempty closing absent proper rest
        rw [if_neg fun both => other both.2, Stretch.join_cons, Stretch.join_nil] at missed
        rw [missed] at found
        cases found
      obtain ⟨u, rfl, some⟩ := Stretch.isClosing_eq_true_iff.mp closes
      have inside : '>' ∉ u := fun mem => outside (List.mem_cons_of_mem '/' mem)
      exact ⟨⟨⟨_, rfl, absent, marked⟩, u, rfl, some, inside⟩, content, plain, by simp [text]⟩
  · rintro ⟨⟨⟨t, opens, absent, marked⟩, u, closes, some, inside⟩, content, plain, rfl⟩
    have isClosing : (Stretch.mk content ('/' :: u)).isClosing = true :=
      Stretch.isClosing_eq_true_iff.mpr ⟨u, rfl, some⟩
    have proper : (Stretch.mk content ('/' :: u)).IsProper := ⟨plain, by simpa using inside⟩
    have read := Slot.at?_stretch nonempty closing absent proper slot.rest
    rw [if_pos ⟨marked, isClosing⟩] at read
    obtain ⟨openTag, closeTag, rest⟩ := slot
    subst opens closes
    simpa [text, Stretch.join_cons] using read

/-- Filling the slots of a mark does what it is said to do, and nothing else does. -/
theorem filled_iff : Filled mark value s t ↔ t = fillMarked mark value s := by
  constructor
  · intro h
    induction h with
    | nil => simp [fillMarked]
    | @char c s t outside rest ih =>
      have none : Slot.at? mark (c :: s) = none := by
        by_contra found
        obtain ⟨slot, found⟩ := Option.ne_none_iff_exists'.mp found
        obtain ⟨isFor, content, plain, same⟩ := (Slot.at?_eq_some_iff nonempty closing).mp found
        exact outside slot content isFor plain same
      rw [fillMarked_cons_of_none none, ih]
    | @slot slot content t isFor plain rest ih =>
      have found := (Slot.at?_eq_some_iff nonempty closing).mpr ⟨isFor, content, plain, rfl⟩
      rw [fillMarked_of_at? found, ← ih]
      rfl
  · rintro rfl
    fun_induction fillMarked mark value s with
    | case1 => exact .nil
    | case2 c s slot found ih =>
      obtain ⟨isFor, content, plain, same⟩ := (Slot.at?_eq_some_iff nonempty closing).mp found
      rw [same]
      exact .slot isFor plain ih
    | case3 c s none ih =>
      refine .char (fun slot content isFor plain same => ?_) ih
      rw [(Slot.at?_eq_some_iff nonempty closing).mpr ⟨isFor, content, plain, same⟩] at none
      cases none

end Mark

/-! ## The slots of a key -/

/-- For a key without angle brackets: the value that is put in last stays, filling changes the
contents of the slots and nothing else, and a text without the mark is returned as it is. -/
theorem fillSlots_overwrites {key : List Char} (opening : '<' ∉ key) (closing : '>' ∉ key) :
    (∀ value value' html, '<' ∉ value →
      fillSlots key value' (fillSlots key value html) = fillSlots key value' html) ∧
    (∀ value html filled,
      Filled (slotMark key) value html filled ↔ filled = fillSlots key value html) ∧
    ∀ value html, ¬slotMark key <:+: html → fillSlots key value html = html := by
  have nonempty := slotMark_ne_nil key
  have opening' : '<' ∉ slotMark key := not_mem_slotMark (by simp) opening
  have closing' : '>' ∉ slotMark key := not_mem_slotMark (by simp) closing
  refine ⟨fun value value' html plain => ?_, fun value html filled => ?_,
    fun value html absent => ?_⟩
  · exact fillMarked_fillMarked nonempty opening' closing' plain
  · exact filled_iff nonempty closing'
  · exact fillMarked_of_forall_suffix (Slot.at?_eq_none_of_absent absent)

/-- A slot with a second `<` in its tag and a `>` in its content; its closing tag has the mark, too,
but ends the slot and starts none. -/
def markedClosing : List Char :=
  "<<p data-element=\"a.b\">x > y</p data-element=\"a.b\">z</p><p data-element=\"a-b\">0</p>".toList

theorem fillSlots_overwrites_markedClosing :
    '<' ∉ "a.b".toList ∧ '>' ∉ "a.b".toList ∧ '<' ∉ "\\1 > $1".toList ∧
      fillSlots "a.b".toList "<b>".toList (fillSlots "a.b".toList "\\1 > $1".toList markedClosing) =
        fillSlots "a.b".toList "<b>".toList markedClosing ∧
      Filled (slotMark "a.b".toList) "<b>".toList markedClosing
        ("<<p data-element=\"a.b\"><b></p data-element=\"a.b\">z</p>" ++
          "<p data-element=\"a-b\">0</p>").toList ∧
      ¬slotMark "b.a".toList <:+: markedClosing ∧
      fillSlots "b.a".toList "<b>".toList markedClosing = markedClosing := by
  have opening : '<' ∉ "a.b".toList := by decide
  have closing : '>' ∉ "a.b".toList := by decide
  have plain : '<' ∉ "\\1 > $1".toList := by decide
  have absent : ¬slotMark "b.a".toList <:+: markedClosing := by decide +kernel
  obtain ⟨overwrites, filled_iff, -⟩ := fillSlots_overwrites opening closing
  have opening' : '<' ∉ "b.a".toList := by decide
  have closing' : '>' ∉ "b.a".toList := by decide
  obtain ⟨-, -, unmarked⟩ := fillSlots_overwrites opening' closing'
  exact ⟨opening, closing, plain, overwrites _ _ _ plain,
    (filled_iff _ _ _).mpr (by decide +kernel), absent, unmarked _ _ absent⟩

end PagePress.Markup
