import PagePress.Proofs.Markup.Placeholder
import PagePress.Proofs.Markup.Slot

/-!
# Placeholders in stretches

A text whose placeholders are filled with plain contents stays a sequence of stretches: every
content and every tag is filled by itself. What a tag is for the slots, a closing tag or a tag with
the mark of a key, is the same before and after, unless a placeholder stands for the start of the
tag or fills up the mark.
-/

namespace PagePress.Markup

def IsPlain (value : List Char) : Prop := ∀ c ∈ ['{', '}', '<', '>'], c ∉ value

instance (value : List Char) : Decidable (IsPlain value) :=
  decidable_of_iff ('{' ∉ value ∧ '}' ∉ value ∧ '<' ∉ value ∧ '>' ∉ value) (by simp [IsPlain])

def ArePlain (content? : List Char → Option (List Char)) : Prop :=
  ∀ name value, content? name = some value → IsPlain value

variable {rest s key value : List Char} {c : Char} {p : Stretch} {ps : List Stretch}
  {content? : List Char → Option (List Char)}

theorem ArePlain.not_mem (h : ArePlain content?) (mem : c ∈ ['{', '}', '<', '>']) :
    ∀ name value, content? name = some value → c ∉ value :=
  fun name value content => h name value content c mem

/-! ## The mark of a key -/

theorem slotMark_ne_nil (key : List Char) : slotMark key ≠ [] := by
  unfold slotMark
  exact List.append_ne_nil_of_right_ne_nil _ (List.cons_ne_nil '"' [])

theorem not_mem_slotMark (mem : c ∈ ['{', '}', '<', '>']) (absent : c ∉ key) :
    c ∉ slotMark key := by
  have name : ∀ c ∈ ['{', '}', '<', '>'], c ∉ "data-element=\"".toList := by simp
  have quote : ∀ c ∈ ['{', '}', '<', '>'], c ∉ ['"'] := by simp
  unfold slotMark
  rw [List.mem_append, List.mem_append, not_or, not_or]
  exact ⟨⟨name c mem, absent⟩, quote c mem⟩

theorem IsVariable.not_mem_slotMark (isKey : IsVariable key) (mem : c ∈ ['{', '}', '<', '>']) :
    c ∉ slotMark key := by
  have word : ∀ c ∈ ['{', '}', '<', '>'], Text.isAsciiWord c = false := by
    simp [Text.isAsciiWord]
  exact Markup.not_mem_slotMark mem (isKey.not_mem (word c mem))

/-- The mark of a key has a character that no variable has. -/
theorem exists_mem_slotMark (key : List Char) :
    ∃ c ∈ slotMark key, Text.isAsciiWord c = false :=
  ⟨'-', List.mem_append_left _ (List.mem_append_left _ (by decide)), by decide⟩

section Mark

variable (isKey : IsVariable key)
include isKey

theorem Braced.occurrences_slotMark_le (h : Braced s) :
    Text.occurrences (slotMark key) s ≤ Text.occurrences (slotMark key) (fillAll content? s) :=
  h.occurrences_le (isKey.not_mem_slotMark (by simp)) (isKey.not_mem_slotMark (by simp))
    (exists_mem_slotMark key)

/-- A mark stays when placeholders are filled. -/
theorem Braced.slotMark_infix_fillAll (h : Braced s) (inside : slotMark key <:+: s) :
    slotMark key <:+: fillAll content? s := by
  have none_iff := fun s => Text.occurrences_eq_zero_iff (s := s) (slotMark_ne_nil key)
  by_contra outside
  have le : Text.occurrences (slotMark key) s ≤
      Text.occurrences (slotMark key) (fillAll content? s) := h.occurrences_slotMark_le isKey
  rw [(none_iff _).mpr outside, Nat.le_zero, none_iff] at le
  exact le inside

theorem occurrences_slotMark_join_cons :
    Text.occurrences (slotMark key) (Stretch.join rest (p :: ps)) =
      Text.occurrences (slotMark key) p.content +
        (Text.occurrences (slotMark key) p.tag +
          Text.occurrences (slotMark key) (Stretch.join rest ps)) := by
  rw [Stretch.join_cons,
    Text.occurrences_append_cons (slotMark_ne_nil key) (isKey.not_mem_slotMark (by simp)),
    Text.occurrences_append_cons (slotMark_ne_nil key) (isKey.not_mem_slotMark (by simp))]

theorem fillSlots_join (tagless : IsTagless rest) (proper : ∀ p ∈ ps, p.IsProper) :
    fillSlots key value (Stretch.join rest ps) =
      Stretch.join rest (Stretch.fill (slotMark key) value false ps) :=
  fillMarked_join (slotMark_ne_nil key) (isKey.not_mem_slotMark (by simp))
    (isKey.not_mem_slotMark (by simp)) tagless proper

end Mark

/-! ## Filling the placeholders of stretches -/

namespace Stretch

def map (f : List Char → List Char) (p : Stretch) : Stretch :=
  { content := f p.content, tag := f p.tag }

/-- A stretch whose placeholders may be filled: they stand neither for angle brackets nor for the
start of a tag. -/
structure IsFillable (p : Stretch) : Prop extends p.IsProper where
  bracedContent : Braced p.content
  bracedTag : Braced p.tag
  named : placeholder? p.tag = none
  closed : ∀ t, p.tag = '/' :: t → placeholder? t = none

/-- A tag ends a slot after filling if it did before. -/
theorem IsFillable.isClosing_map (h : p.IsFillable) :
    (p.map (fillAll content?)).isClosing = p.isClosing := by
  obtain ⟨content, tag⟩ := p
  cases tag with
  | nil => simp [map, isClosing, fillAll_nil]
  | cons c t =>
    obtain ⟨single, braced⟩ := h.bracedTag.eq_cons_of_placeholder?_eq_none h.named c t rfl
    by_cases slash : c = '/'
    · subst slash
      cases t with
      | nil => simp [map, isClosing, fillAll_char single, fillAll_nil]
      | cons d u =>
        obtain ⟨single', -⟩ := braced.eq_cons_of_placeholder?_eq_none (h.closed _ rfl) d u rfl
        simp [map, isClosing, fillAll_char single, fillAll_char single']
    · simp [map, isClosing, fillAll_char single, slash]

end Stretch

theorem Braced.placeholder?_fillAll_eq_none (h : Braced s) (noHole : placeholder? s = none) :
    placeholder? (fillAll content? s) = none := by
  cases s with
  | nil => rwa [fillAll_nil]
  | cons c t =>
    obtain ⟨single, braced⟩ := h.eq_cons_of_placeholder?_eq_none noHole c t rfl
    rw [fillAll_char single]
    exact placeholder?_of_single fun same => braced.head?_fillAll (single same) ▸ single same

theorem IsTagless.fillAll (h : IsTagless s) (braced : Braced s) (plain : ArePlain content?) :
    IsTagless (Markup.fillAll content? s) := by
  rcases h.cases with absent | ⟨t, u, rfl, first, last⟩
  · have outside := braced.not_mem_fillAll absent (plain.not_mem (by simp))
    exact ⟨_, [], (List.append_nil _).symm, outside, by simp⟩
  · obtain ⟨left, right⟩ := braced.of_append_cons (by decide) (by decide) (by decide)
    have front := left.not_mem_fillAll first (plain.not_mem (c := '<') (by simp))
    have back := right.not_mem_fillAll last (plain.not_mem (c := '>') (by simp))
    rw [braced.fillAll_append_cons (by decide) (by decide) (by decide)]
    exact ⟨_, _, rfl, front, by simpa using back⟩

namespace Stretch

theorem IsFillable.map (h : p.IsFillable) (plain : ArePlain content?) :
    (p.map (fillAll content?)).IsFillable where
  content := h.bracedContent.not_mem_fillAll h.content (plain.not_mem (by simp))
  tag := h.bracedTag.not_mem_fillAll h.tag (plain.not_mem (by simp))
  bracedContent := h.bracedContent.filled (plain.not_mem (by simp))
  bracedTag := h.bracedTag.filled (plain.not_mem (by simp))
  named := h.bracedTag.placeholder?_fillAll_eq_none h.named
  closed := by
    intro t slash
    obtain ⟨content, tag⟩ := p
    cases tag with
    | nil => simp [Stretch.map, fillAll_nil] at slash
    | cons c u =>
      obtain ⟨single, braced⟩ := h.bracedTag.eq_cons_of_placeholder?_eq_none h.named c u rfl
      rw [Stretch.map, fillAll_char single] at slash
      obtain ⟨rfl, rfl⟩ := List.cons.inj slash
      exact braced.placeholder?_fillAll_eq_none (h.closed u rfl)

/-- A plain content may stand in any stretch. -/
theorem IsFillable.withContent (h : p.IsFillable) (plain : IsPlain value) :
    ({ p with content := value } : Stretch).IsFillable :=
  { h with
    content := plain '<' (by simp)
    bracedContent := .of_not_mem (plain '{' (by simp)) }

/-- A text is braced if its stretches are. -/
theorem braced_join (braced : Braced rest) (fillable : ∀ p ∈ ps, p.IsFillable) :
    Braced (join rest ps) := by
  induction ps with
  | nil => exact braced
  | cons p ps ih =>
    have here := fillable p List.mem_cons_self
    have later := ih fun q mem => fillable q (List.mem_cons_of_mem p mem)
    exact here.bracedContent.append_cons (by decide) (here.bracedTag.append_cons (by decide) later)

/-- The placeholders of a text are filled stretch by stretch. -/
theorem fillAll_join (braced : Braced rest) (fillable : ∀ p ∈ ps, p.IsFillable) :
    fillAll content? (join rest ps) =
      join (fillAll content? rest) (ps.map (map (fillAll content?))) := by
  induction ps with
  | nil => rfl
  | cons p ps ih =>
    have later : ∀ q ∈ ps, q.IsFillable := fun q mem => fillable q (List.mem_cons_of_mem p mem)
    have whole : Braced (p.content ++ '<' :: (p.tag ++ '>' :: join rest ps)) :=
      braced_join braced fillable
    obtain ⟨-, inner⟩ := whole.of_append_cons (by decide) (by decide) (by decide)
    rw [join_cons, whole.fillAll_append_cons (by decide) (by decide) (by decide),
      inner.fillAll_append_cons (by decide) (by decide) (by decide), ih later]
    rfl

/-- A text falls into its stretches with their placeholders. -/
theorem braced_of_join (braced : Braced (join rest ps)) :
    Braced rest ∧ ∀ p ∈ ps, Braced p.content ∧ Braced p.tag := by
  induction ps with
  | nil => exact ⟨braced, by simp⟩
  | cons p ps ih =>
    rw [join_cons] at braced
    obtain ⟨content, after⟩ := braced.of_append_cons (by decide) (by decide) (by decide)
    obtain ⟨tag, later⟩ := after.of_append_cons (by decide) (by decide) (by decide)
    obtain ⟨last, inner⟩ := ih later
    exact ⟨last, List.forall_mem_cons.mpr ⟨⟨content, tag⟩, inner⟩⟩

/-- A tag stands somewhere in the text. -/
theorem exists_suffix_join (rest : List Char) (mem : p ∈ ps) :
    ∃ after, '<' :: (p.tag ++ '>' :: after) <:+ join rest ps := by
  induction ps with
  | nil => cases mem
  | cons q ps ih =>
    rcases List.mem_cons.mp mem with rfl | mem
    · exact ⟨join rest ps, p.content, rfl⟩
    · obtain ⟨after, front, same⟩ := ih mem
      refine ⟨after, q.content ++ '<' :: (q.tag ++ '>' :: front), ?_⟩
      rw [join_cons, ← same]
      simp

/-- If the whole text has no more marks than before, then no tag has. -/
theorem occurrences_tag_le (isKey : IsVariable key) (braced : Braced rest)
    (fillable : ∀ p ∈ ps, p.IsFillable)
    (le : Text.occurrences (slotMark key) (fillAll content? (join rest ps)) ≤
      Text.occurrences (slotMark key) (join rest ps)) :
    ∀ p ∈ ps, Text.occurrences (slotMark key) (fillAll content? p.tag) ≤
      Text.occurrences (slotMark key) p.tag := by
  induction ps with
  | nil => simp
  | cons p ps ih =>
    have here := fillable p List.mem_cons_self
    have later : ∀ q ∈ ps, q.IsFillable := fun q mem => fillable q (List.mem_cons_of_mem p mem)
    have grows : ∀ {s}, Braced s → Text.occurrences (slotMark key) s ≤
        Text.occurrences (slotMark key) (fillAll content? s) :=
      fun braced => braced.occurrences_slotMark_le isKey
    have content := grows here.bracedContent
    have tag := grows here.bracedTag
    have rest := grows (braced_join braced later)
    rw [fillAll_join braced fillable, List.map_cons, occurrences_slotMark_join_cons isKey,
      occurrences_slotMark_join_cons isKey, ← fillAll_join braced later] at le
    simp only [map] at le
    refine List.forall_mem_cons.mpr ⟨by omega, ih later (by omega)⟩

/-- The slots of a mark may be filled before or after the placeholders, if the tags keep their
kind and their mark. -/
theorem map_fill {f : List Char → List Char} {mark : List Char} {inSlot : Bool}
    (closing : ∀ p ∈ ps, (p.map f).isClosing = p.isClosing)
    (marked : ∀ p ∈ ps, mark <:+: f p.tag ↔ mark <:+: p.tag) (fixed : f value = value) :
    (fill mark value inSlot ps).map (map f) = fill mark value inSlot (ps.map (map f)) := by
  induction ps generalizing inSlot with
  | nil => simp [fill]
  | cons p ps ih =>
    have same := closing p List.mem_cons_self
    have kept : mark <:+: (p.map f).tag ↔ mark <:+: p.tag := marked p List.mem_cons_self
    have later : ∀ {b : Bool}, (fill mark value b ps).map (map f) =
        fill mark value b (ps.map (map f)) :=
      ih (fun q mem => closing q (List.mem_cons_of_mem p mem))
        fun q mem => marked q (List.mem_cons_of_mem p mem)
    by_cases slot : (inSlot && p.isClosing) = true
    · obtain ⟨rfl, closes⟩ := Bool.and_eq_true_iff.mp slot
      rw [fill_cons_of_slot closes, List.map_cons, List.map_cons,
        fill_cons_of_slot (same.trans closes), later]
      simp [map, fixed]
    · have noSlot : (inSlot && p.isClosing) = false := by simpa using slot
      rw [fill_cons_of_not_slot noSlot, List.map_cons, List.map_cons,
        fill_cons_of_not_slot (same.symm ▸ noSlot), later]
      simp only [kept]

end Stretch

end PagePress.Markup
