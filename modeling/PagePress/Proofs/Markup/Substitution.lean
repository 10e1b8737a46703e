import Mathlib.Data.List.Perm.Basic
import PagePress.Markup.Substitution
import PagePress.Proofs.Markup.Stretch

/-!
# Substituting contents key by key, and all at once

Contents are put into a template one key after the other: the placeholders of a key, then its
slots, and only then the next key, over what the earlier keys have made of the text. This comes to
the same as filling all placeholders in one pass and the slots of each key afterwards, and the order
of the keys does not matter, as long as no content and no filled placeholder makes a tag, the name
of a tag, or the mark of a slot, and no tag is marked for two keys.
-/

namespace PagePress.Markup

/-- The contents put in all at once, and then into the slots of each key. -/
def substituteTogether (html : List Char) (contents : List (List Char × List Char)) : List Char :=
  contents.foldl (fun text (key, value) => fillSlots key value text)
    (fillAll (contents.lookup ·) html)

/-- Contents that may be put into the text in any order, or all at once. -/
structure IsSeparable (html : List Char) (contents : List (List Char × List Char)) : Prop where
  distinct : (contents.map Prod.fst).Nodup
  keys : ∀ entry ∈ contents, IsVariable entry.1
  plain : ∀ entry ∈ contents, IsPlain entry.2
  braced : IsBraced html
  /-- No placeholder stands for the first characters of the name of a tag. -/
  named : ∀ t, t <:+ html → ∀ start ∈ [['<'], ['<', '/']], start <+: t →
    placeholder? (t.drop start.length) = none
  /-- No tag is marked for two keys. -/
  exclusive : ∀ t, t <:+ html → ['<'] <+: t → ∀ cut ∈ Text.through? '>' t,
    ∀ first ∈ contents, ∀ second ∈ contents,
      slotMark first.1 <:+: cut.1 → slotMark second.1 <:+: cut.1 → first.1 = second.1
  /-- Filling the placeholders marks nothing that was not marked before. -/
  unmarked : ∀ entry ∈ contents,
    Text.occurrences (slotMark entry.1) (fillAll (contents.lookup ·) html) ≤
      Text.occurrences (slotMark entry.1) html

variable {html rest s key value : List Char} {p : Stretch} {ps : List Stretch}
  {contents contents' : List (List Char × List Char)}

/-! ## Stretches that get contents -/

namespace Stretch

/-- A stretch that may get the contents: filling its placeholders does not mark its tag for a key
that it was not marked for before. -/
structure IsReady (contents : List (List Char × List Char)) (p : Stretch) : Prop
    extends p.IsFillable where
  unmarked : ∀ entry ∈ contents, slotMark entry.1 <:+: fillAll (contents.lookup ·) p.tag →
    slotMark entry.1 <:+: p.tag

def fillEach (contents : List (List Char × List Char)) (ps : List Stretch) : List Stretch :=
  contents.foldl (fun ps (key, value) => fill (slotMark key) value false ps) ps

theorem fillEach_cons :
    fillEach ((key, value) :: contents) ps =
      fillEach contents (fill (slotMark key) value false ps) := rfl

end Stretch

/-! ## Key by key -/

theorem arePlain_lookup (plain : ∀ entry ∈ contents, IsPlain entry.2) :
    ArePlain (contents.lookup ·) := by
  intro name value found
  obtain ⟨front, back, rfl, -⟩ := List.lookup_eq_some_iff.mp found
  exact plain (name, value) (by simp)

theorem fillSlots_each (keys : ∀ entry ∈ contents, IsVariable entry.1)
    (plain : ∀ entry ∈ contents, IsPlain entry.2) (tagless : IsTagless rest)
    (proper : ∀ p ∈ ps, p.IsProper) :
    contents.foldl (fun text (key, value) => fillSlots key value text) (Stretch.join rest ps) =
      Stretch.join rest (Stretch.fillEach contents ps) := by
  induction contents generalizing ps with
  | nil => rfl
  | cons entry contents ih =>
    obtain ⟨key, value⟩ := entry
    have plainHere : IsPlain value := plain _ List.mem_cons_self
    have proper' : ∀ p ∈ Stretch.fill (slotMark key) value false ps, p.IsProper := by
      intro p mem
      obtain ⟨q, inside, rfl | rfl⟩ := Stretch.mem_fill mem
      · exact proper p inside
      · exact { proper q inside with content := plainHere '<' (by simp) }
    have isKey : IsVariable key := keys _ List.mem_cons_self
    have first : fillSlots key value (Stretch.join rest ps) =
        Stretch.join rest (Stretch.fill (slotMark key) value false ps) :=
      fillSlots_join isKey tagless proper
    simp only [List.foldl_cons, Stretch.fillEach_cons, first]
    exact ih (fun entry mem => keys entry (List.mem_cons_of_mem _ mem))
      (fun entry mem => plain entry (List.mem_cons_of_mem _ mem)) proper'

theorem substitute_join (isKey : IsVariable key) (plain : IsPlain value) (tagless : IsTagless rest)
    (braced : Braced rest) (fillable : ∀ p ∈ ps, p.IsFillable) :
    substitute key value (Stretch.join rest ps) =
      Stretch.join (fillAll ([(key, value)].lookup ·) rest)
        (Stretch.fill (slotMark key) value false
          (ps.map (Stretch.map (fillAll ([(key, value)].lookup ·))))) := by
  have plain' : ArePlain ([(key, value)].lookup ·) := arePlain_lookup (by simpa using plain)
  have proper : ∀ p ∈ ps.map (Stretch.map (fillAll ([(key, value)].lookup ·))), p.IsProper := by
    intro q mem
    obtain ⟨p, inside, rfl⟩ := List.mem_map.mp mem
    exact ((fillable p inside).map plain').toIsProper
  have whole := Stretch.braced_join braced fillable
  rw [substitute, whole.fillPlaceholders_eq isKey, Stretch.fillAll_join braced fillable,
    fillSlots_join isKey (tagless.fillAll braced plain') proper]

theorem Braced.fillAll_lookup_cons (braced : Braced s) (plain : IsPlain value) :
    fillAll (contents.lookup ·) (fillAll ([(key, value)].lookup ·) s) =
      fillAll (((key, value) :: contents).lookup ·) s := by
  have plain' : ArePlain ([(key, value)].lookup ·) := arePlain_lookup (by simpa using plain)
  rw [braced.fillAll_fillAll (plain'.not_mem (by simp))]
  simp only [← List.lookup_append, List.singleton_append]

namespace Stretch

/-- Once the placeholders of the first key are filled, filling the others marks nothing. -/
theorem IsReady.of_fillAll_tag (h : p.IsReady ((key, value) :: contents))
    (keys : ∀ entry ∈ (key, value) :: contents, IsVariable entry.1) (plain : IsPlain value)
    {entry : List Char × List Char} (mem : entry ∈ (key, value) :: contents)
    (inside : slotMark entry.1 <:+:
      fillAll (contents.lookup ·) (fillAll ([(key, value)].lookup ·) p.tag)) :
    slotMark entry.1 <:+: fillAll ([(key, value)].lookup ·) p.tag := by
  rw [h.bracedTag.fillAll_lookup_cons plain] at inside
  have before := h.unmarked entry mem inside
  exact h.bracedTag.slotMark_infix_fillAll (keys entry mem) before

/-- What is left of a stretch for the other keys once the first key has been dealt with. -/
theorem IsReady.later (h : p.IsReady ((key, value) :: contents))
    (keys : ∀ entry ∈ (key, value) :: contents, IsVariable entry.1) (plain : IsPlain value) :
    (p.map (fillAll ([(key, value)].lookup ·))).IsReady contents where
  toIsFillable := h.toIsFillable.map (arePlain_lookup (by simpa using plain))
  unmarked _ mem inside := h.of_fillAll_tag keys plain (List.mem_cons_of_mem _ mem) inside

theorem IsReady.withContent (h : p.IsReady contents) (plain : IsPlain value) :
    ({ p with content := value } : Stretch).IsReady contents :=
  { h.toIsFillable.withContent plain with unmarked := h.unmarked }

section FirstKey

variable (ready : ∀ p ∈ ps, p.IsReady ((key, value) :: contents))
  (keys : ∀ entry ∈ (key, value) :: contents, IsVariable entry.1) (plain : IsPlain value)
include ready plain

/-- The placeholders of the first key may be filled before the others. -/
theorem map_fillAll_lookup_cons :
    (ps.map (map (fillAll ([(key, value)].lookup ·)))).map (map (fillAll (contents.lookup ·))) =
      ps.map (map (fillAll (((key, value) :: contents).lookup ·))) := by
  rw [List.map_map]
  refine List.map_congr_left fun p mem => ?_
  have both : ∀ {s}, Braced s →
      fillAll (contents.lookup ·) (fillAll ([(key, value)].lookup ·) s) =
        fillAll (((key, value) :: contents).lookup ·) s :=
    fun braced => braced.fillAll_lookup_cons plain
  simp only [Function.comp_apply, map, both (ready p mem).bracedContent,
    both (ready p mem).bracedTag]

include keys

theorem isReady_fill_map :
    ∀ q ∈ fill (slotMark key) value false (ps.map (map (fillAll ([(key, value)].lookup ·)))),
      q.IsReady contents := by
  intro q mem
  obtain ⟨r, inside, same⟩ := mem_fill mem
  obtain ⟨p, isFirst, rfl⟩ := List.mem_map.mp inside
  have later := (ready p isFirst).later keys plain
  rcases same with rfl | rfl
  · exact later
  · exact later.withContent plain

/-- The slots of the first key may be filled after the placeholders of all keys. -/
theorem map_fill_lookup_cons :
    (fill (slotMark key) value false (ps.map (map (fillAll ([(key, value)].lookup ·))))).map
        (map (fillAll (contents.lookup ·))) =
      fill (slotMark key) value false
        (ps.map (map (fillAll (((key, value) :: contents).lookup ·)))) := by
  have later : ∀ q ∈ ps.map (map (fillAll ([(key, value)].lookup ·))),
      q.IsReady contents ∧ (slotMark key <:+: fillAll (contents.lookup ·) q.tag →
        slotMark key <:+: q.tag) := by
    intro q mem
    obtain ⟨p, isFirst, rfl⟩ := List.mem_map.mp mem
    exact ⟨(ready p isFirst).later keys plain,
      (ready p isFirst).of_fillAll_tag keys plain List.mem_cons_self⟩
  have isKey : IsVariable key := keys _ List.mem_cons_self
  rw [map_fill (fun q mem => (later q mem).1.isClosing_map) (fun q mem => ?_)
    (fillAll_of_not_mem (plain '{' (by simp))), map_fillAll_lookup_cons ready plain]
  exact ⟨(later q mem).2, (later q mem).1.bracedTag.slotMark_infix_fillAll isKey⟩

end FirstKey

end Stretch

/-- Key by key, a text gets the contents that its stretches get when all placeholders are filled
first and the slots of each key afterwards. -/
theorem substituteAll_join (keys : ∀ entry ∈ contents, IsVariable entry.1)
    (plain : ∀ entry ∈ contents, IsPlain entry.2) (tagless : IsTagless rest)
    (braced : Braced rest) (ready : ∀ p ∈ ps, p.IsReady contents) :
    substituteAll (Stretch.join rest ps) contents =
      Stretch.join (fillAll (contents.lookup ·) rest)
        (Stretch.fillEach contents (ps.map (Stretch.map (fillAll (contents.lookup ·))))) := by
  have fillable : ∀ p ∈ ps, p.IsFillable := fun p mem => (ready p mem).toIsFillable
  induction contents generalizing rest ps with
  | nil =>
    have nothing := (Stretch.braced_join braced fillable).fillAll_none
    rw [Stretch.fillAll_join braced fillable] at nothing
    exact nothing.symm
  | cons entry contents ih =>
    obtain ⟨key, value⟩ := entry
    have isKey : IsVariable key := keys _ List.mem_cons_self
    have isPlain : IsPlain value := plain _ List.mem_cons_self
    have onlyPlain : ArePlain ([(key, value)].lookup ·) := arePlain_lookup (by simpa using isPlain)
    have keys' : ∀ entry ∈ contents, IsVariable entry.1 := fun entry mem =>
      keys entry (List.mem_cons_of_mem _ mem)
    have plain' : ∀ entry ∈ contents, IsPlain entry.2 := fun entry mem =>
      plain entry (List.mem_cons_of_mem _ mem)
    have later := Stretch.isReady_fill_map ready keys isPlain
    calc substituteAll (Stretch.join rest ps) ((key, value) :: contents)
        = substituteAll (substitute key value (Stretch.join rest ps)) contents := rfl
      _ = substituteAll (Stretch.join (fillAll ([(key, value)].lookup ·) rest)
            (Stretch.fill (slotMark key) value false
              (ps.map (Stretch.map (fillAll ([(key, value)].lookup ·)))))) contents := by
          rw [substitute_join isKey isPlain tagless braced fillable]
      _ = _ := by
          rw [ih keys' plain' (tagless.fillAll braced onlyPlain)
            (braced.filled (onlyPlain.not_mem (by simp))) later
            fun q mem => (later q mem).toIsFillable,
            Stretch.map_fill_lookup_cons ready keys isPlain, braced.fillAll_lookup_cons isPlain,
            Stretch.fillEach_cons]

/-! ## The order of the keys -/

theorem lookup_perm (perm : contents.Perm contents')
    (distinct : (contents.map Prod.fst).Nodup) (name : List Char) :
    contents.lookup name = contents'.lookup name := by
  induction perm with
  | nil => rfl
  | cons entry perm ih =>
    rw [List.lookup_cons, List.lookup_cons, ih (List.nodup_cons.mp distinct).2]
  | swap first second contents =>
    obtain ⟨key, value⟩ := first
    obtain ⟨key', value'⟩ := second
    have other : key' ≠ key := by
      rintro rfl
      simp at distinct
    by_cases isKey : name = key
    · have notKey' : (name == key') = false := by
        rw [beq_eq_false_iff_ne, isKey]
        exact other.symm
      rw [List.lookup_cons, notKey', List.lookup_cons, List.lookup_cons, isKey]
      simp
    · have notKey : (name == key) = false := beq_eq_false_iff_ne.mpr isKey
      rw [List.lookup_cons, List.lookup_cons, List.lookup_cons, List.lookup_cons, notKey]
  | trans perm perm' ih ih' =>
    rw [ih distinct, ih' ((perm.map Prod.fst).nodup_iff.mp distinct)]

namespace Stretch

/-- No tag is marked for two of the keys. -/
def IsExclusive (contents : List (List Char × List Char)) (p : Stretch) : Prop :=
  ∀ first ∈ contents, ∀ second ∈ contents, slotMark first.1 <:+: p.tag →
    slotMark second.1 <:+: p.tag → first.1 = second.1

theorem IsExclusive.fill {mark : List Char} {inSlot : Bool}
    (exclusive : ∀ p ∈ ps, p.IsExclusive contents) :
    ∀ p ∈ Stretch.fill mark value inSlot ps, p.IsExclusive contents := by
  intro p mem
  obtain ⟨q, inside, rfl | rfl⟩ := mem_fill mem
  · exact exclusive p inside
  · exact exclusive q inside

theorem fillEach_perm (perm : contents.Perm contents')
    (distinct : (contents.map Prod.fst).Nodup) (exclusive : ∀ p ∈ ps, p.IsExclusive contents) :
    fillEach contents ps = fillEach contents' ps := by
  induction perm generalizing ps with
  | nil => rfl
  | cons entry perm ih =>
    have rest : ∀ p ∈ ps, p.IsExclusive _ := fun p mem first isFirst second isSecond =>
      exclusive p mem first (List.mem_cons_of_mem entry isFirst) second
        (List.mem_cons_of_mem entry isSecond)
    exact ih (List.nodup_cons.mp distinct).2 (IsExclusive.fill rest)
  | swap first second contents =>
    have other : second.1 ≠ first.1 := by
      intro same
      simp [same] at distinct
    have apart : ∀ p ∈ ps, ¬(slotMark first.1 <:+: p.tag ∧ slotMark second.1 <:+: p.tag) := by
      rintro p mem ⟨marked, marked'⟩
      exact other (exclusive p mem second (by simp) first (by simp) marked' marked)
    have comm : fill (slotMark first.1) first.2 false (fill (slotMark second.1) second.2 false ps) =
        fill (slotMark second.1) second.2 false (fill (slotMark first.1) first.2 false ps) :=
      fill_comm apart (by simp)
    simp only [fillEach, List.foldl_cons, comm]
  | trans perm perm' ih ih' =>
    have rest : ∀ p ∈ ps, p.IsExclusive _ := fun p mem first isFirst second isSecond =>
      exclusive p mem first (perm.mem_iff.mpr isFirst) second (perm.mem_iff.mpr isSecond)
    rw [ih distinct exclusive, ih' ((perm.map Prod.fst).nodup_iff.mp distinct) rest]

end Stretch

/-! ## Separable contents -/

namespace IsSeparable

/-- The stretches of a text that contents are separable for may get the contents, in any order. -/
theorem exists_stretches (h : IsSeparable html contents) :
    ∃ ps rest, html = Stretch.join rest ps ∧ IsTagless rest ∧ Braced rest ∧
      ∀ p ∈ ps, p.IsReady contents ∧ p.IsExclusive contents := by
  obtain ⟨ps, rest, proper, tagless, rfl⟩ := exists_eq_join html
  obtain ⟨braced, inner⟩ := Stretch.braced_of_join h.braced.braced
  have fillable : ∀ p ∈ ps, p.IsFillable := by
    intro p mem
    obtain ⟨after, suffix⟩ := Stretch.exists_suffix_join rest mem
    have named := h.named _ suffix ['<'] (by simp) ⟨_, rfl⟩
    have closed : ∀ t, p.tag = '/' :: t → placeholder? t = none := by
      intro t slash
      rw [slash] at suffix
      have found := h.named _ suffix ['<', '/'] (by simp) ⟨t ++ '>' :: after, rfl⟩
      exact placeholder?_eq_none_of_append found
    exact
      { proper p mem with
        bracedContent := (inner p mem).1
        bracedTag := (inner p mem).2
        named := placeholder?_eq_none_of_append named
        closed }
  refine ⟨ps, rest, rfl, tagless, braced, fun p mem => ⟨?_, ?_⟩⟩
  · refine { fillable p mem with unmarked := ?_ }
    intro entry isEntry inside
    have le := Stretch.occurrences_tag_le (h.keys entry isEntry) braced fillable
      (h.unmarked entry isEntry) p mem
    have none_iff := fun s => Text.occurrences_eq_zero_iff (s := s) (slotMark_ne_nil entry.1)
    by_contra outside
    rw [(none_iff _).mpr outside, Nat.le_zero, none_iff] at le
    exact le inside
  · intro first isFirst second isSecond marked marked'
    obtain ⟨after, suffix⟩ := Stretch.exists_suffix_join rest mem
    have absent : '>' ∉ '<' :: p.tag := by simpa using (proper p mem).tag
    have cut : Text.through? '>' ('<' :: (p.tag ++ '>' :: after)) =
        some ('<' :: p.tag ++ ['>'], after) :=
      Text.through?_append_cons absent
    have inside : p.tag <:+: '<' :: p.tag ++ ['>'] := ⟨['<'], ['>'], rfl⟩
    exact h.exclusive _ suffix ⟨_, rfl⟩ _ cut first isFirst second isSecond
      (marked.trans inside) (marked'.trans inside)

end IsSeparable

/-- Putting in contents key by key is filling all placeholders in one pass and then the slots of
each key, and the order of the keys does not matter. -/
theorem substituteAll_eq_substituteTogether (separable : IsSeparable html contents) :
    substituteAll html contents = substituteTogether html contents ∧
      ∀ contents', contents'.Perm contents →
        substituteAll html contents' = substituteAll html contents := by
  obtain ⟨ps, rest, rfl, tagless, braced, ready⟩ := separable.exists_stretches
  have fillable : ∀ p ∈ ps, p.IsFillable := fun p mem => (ready p mem).1.toIsFillable
  have isPlain := arePlain_lookup separable.plain
  have byKey := substituteAll_join separable.keys separable.plain tagless braced
    fun p mem => (ready p mem).1
  constructor
  · have proper : ∀ q ∈ ps.map (Stretch.map (fillAll (contents.lookup ·))), q.IsProper := by
      intro q mem
      obtain ⟨p, inside, rfl⟩ := List.mem_map.mp mem
      exact ((fillable p inside).map isPlain).toIsProper
    rw [byKey, substituteTogether, Stretch.fillAll_join braced fillable,
      fillSlots_each separable.keys separable.plain (tagless.fillAll braced isPlain) proper]
  · intro contents' perm
    have sameLookup : (fun name => contents'.lookup name) = fun name => contents.lookup name :=
      funext fun name => (lookup_perm perm.symm separable.distinct name).symm
    have ready' : ∀ p ∈ ps, p.IsReady contents' := fun p mem =>
      { fillable p mem with
        unmarked := fun entry isEntry inside =>
          (ready p mem).1.unmarked entry (perm.mem_iff.mp isEntry) (sameLookup ▸ inside) }
    have exclusive : ∀ q ∈ ps.map (Stretch.map (fillAll (contents.lookup ·))),
        q.IsExclusive contents := by
      intro q mem
      obtain ⟨p, inside, rfl⟩ := List.mem_map.mp mem
      have before := (ready p inside).1.unmarked
      exact fun first isFirst second isSecond marked marked' =>
        (ready p inside).2 first isFirst second isSecond (before first isFirst marked)
          (before second isSecond marked')
    rw [byKey, substituteAll_join (fun entry mem => separable.keys entry (perm.mem_iff.mp mem))
      (fun entry mem => separable.plain entry (perm.mem_iff.mp mem)) tagless braced ready',
      sameLookup, Stretch.fillEach_perm perm.symm separable.distinct exclusive]

/-- A heading with a placeholder in its tag, and two more in the slot of the tag. -/
def tonedHeading : List Char :=
  "<h1 class=\"\x7b\x7btone\x7d\x7d\" data-element=\"title\">\x7b\x7btone\x7d\x7d".toList ++
    "\x7b\x7btitle\x7d\x7d</h1>\x7b\x7bend\x7d\x7d".toList

def tonedContents : List (List Char × List Char) :=
  [("tone".toList, "calm".toList), ("title".toList, "Hi".toList)]

/-- What is put into the slot hides what was put into its placeholders. -/
theorem substituteAll_tonedHeading :
    IsSeparable tonedHeading tonedContents ∧
      substituteTogether tonedHeading tonedContents =
        "<h1 class=\"calm\" data-element=\"title\">Hi</h1>\x7b\x7bend\x7d\x7d".toList ∧
      substituteAll tonedHeading tonedContents = substituteTogether tonedHeading tonedContents ∧
      substituteAll tonedHeading tonedContents.reverse =
        substituteAll tonedHeading tonedContents := by
  have separable : IsSeparable tonedHeading tonedContents :=
    { distinct := by decide +kernel
      keys := by decide +kernel
      plain := by decide +kernel
      braced := by decide +kernel
      named := by decide +kernel
      exclusive := by decide +kernel
      unmarked := by decide +kernel }
  obtain ⟨together, anyOrder⟩ := substituteAll_eq_substituteTogether separable
  refine ⟨separable, ?_, together, anyOrder _ tonedContents.reverse_perm⟩
  decide +kernel

end PagePress.Markup
