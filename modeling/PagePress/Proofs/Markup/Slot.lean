import PagePress.Markup.Slot
import PagePress.Proofs.Text.Search

/-!
# Filling slots

A text is a sequence of stretches, each a content followed by a tag, and a rest without a tag. To
fill the slots of a mark is to go through the stretches from left to right: a closing tag that
follows a tag with the mark ends a slot, and the content between the two is replaced. Only contents
change by it, and whether one changes is told by the tags alone.
-/

namespace PagePress.Markup

/-- A content, and the tag that follows it up to the next `>`. The tag is what stands between its
`<` and its `>`. -/
structure Stretch where
  content : List Char
  tag : List Char
deriving DecidableEq, Repr

namespace Stretch

def join (rest : List Char) : List Stretch → List Char
  | [] => rest
  | p :: ps => p.content ++ '<' :: (p.tag ++ '>' :: join rest ps)

@[simp] theorem join_nil (rest : List Char) : join rest [] = rest := rfl

theorem join_cons (rest : List Char) (p : Stretch) (ps : List Stretch) :
    join rest (p :: ps) = p.content ++ '<' :: (p.tag ++ '>' :: join rest ps) := rfl

/-- Whether the tag can end a slot: a slash and at least one more character. -/
def isClosing (p : Stretch) : Bool :=
  match p.tag with
  | '/' :: _ :: _ => true
  | _ => false

/-- No tag starts in the content, and none ends in the tag. -/
structure IsProper (p : Stretch) : Prop where
  content : '<' ∉ p.content
  tag : '>' ∉ p.tag

/-- The stretches with the value put into every slot of the mark; `inSlot` tells whether the tag
before them has the mark, and is not itself the end of a slot. -/
def fill (mark value : List Char) : Bool → List Stretch → List Stretch
  | _, [] => []
  | inSlot, p :: ps =>
    if inSlot && p.isClosing then { p with content := value } :: fill mark value false ps
    else p :: fill mark value (decide (mark <:+: p.tag)) ps

end Stretch

/-- A text without a tag: what starts with `<` has no `>`. -/
def IsTagless (s : List Char) : Prop := ∃ t u, s = t ++ u ∧ '<' ∉ t ∧ '>' ∉ u

/-- In a text without a tag, no `>` follows the first `<`. -/
theorem IsTagless.cases {s : List Char} (tagless : IsTagless s) :
    '<' ∉ s ∨ ∃ t u, s = t ++ '<' :: u ∧ '<' ∉ t ∧ '>' ∉ u := by
  obtain ⟨t, u, rfl, plain, absent⟩ := tagless
  by_cases opens : '<' ∈ u
  · obtain ⟨front, back, rfl, first⟩ := List.eq_append_cons_of_mem opens
    refine .inr ⟨t ++ front, back, (List.append_assoc t front _).symm, ?_, fun mem => absent ?_⟩
    · simpa [plain] using first
    · exact List.mem_append_right front (List.mem_cons_of_mem '<' mem)
  · exact .inl (by simp [plain, opens])

/-- Every text is a sequence of stretches and a rest. -/
theorem exists_eq_join (s : List Char) :
    ∃ ps rest, (∀ p ∈ ps, p.IsProper) ∧ IsTagless rest ∧ s = Stretch.join rest ps := by
  induction hlen : s.length using Nat.strongRecOn generalizing s with
  | ind n ih =>
    by_cases opens : '<' ∈ s
    · obtain ⟨content, after, rfl, plain⟩ := List.eq_append_cons_of_mem opens
      cases closes : Text.through? '>' after with
      | none =>
        have open_ : '>' ∉ '<' :: after := by
          simpa using Text.through?_eq_none_iff.mp closes
        exact ⟨[], _, by simp, ⟨content, '<' :: after, rfl, plain, open_⟩, rfl⟩
      | some cut =>
        obtain ⟨tag, absent, -, rfl⟩ := Text.through?_eq_some closes
        have shorter : cut.2.length < n := by
          rw [← hlen]
          simp
          omega
        obtain ⟨ps, rest, proper, tagless, same⟩ := ih _ shorter cut.2 rfl
        refine ⟨⟨content, tag⟩ :: ps, rest, ?_, tagless, by rw [Stretch.join, ← same]⟩
        exact List.forall_mem_cons.mpr ⟨⟨plain, absent⟩, proper⟩
    · exact ⟨[], s, by simp, ⟨s, [], by simp, opens, by simp⟩, rfl⟩

/-! ## Reading slots -/

variable {mark value s t rest body : List Char} {ps : List Stretch}

def nextClosing? (body : List Char) : Option (List Char × List Char) :=
  closingTag? (body.dropWhile (· != '<'))

theorem closingTag?_append (absent : '>' ∉ t) :
    closingTag? ('<' :: (t ++ '>' :: rest)) =
      if (Stretch.mk s t).isClosing then some ('<' :: (t ++ ['>']), rest) else none := by
  cases t with
  | nil => rfl
  | cons c t =>
    by_cases slash : c = '/'
    · subst slash
      cases t with
      | nil => rfl
      | cons d t =>
        have first : d ≠ '>' := by
          rintro rfl
          simp at absent
        have found : Text.through? '>' (d :: t ++ '>' :: rest) = some (d :: t ++ ['>'], rest) :=
          Text.through?_append_cons fun mem => absent (List.mem_cons_of_mem '/' mem)
        rw [List.cons_append] at found
        simp [closingTag?, first, found, Stretch.isClosing]
    · simp [closingTag?, Stretch.isClosing, slash]

/-- A content is followed by a closing tag if the tag of its stretch is one. -/
theorem nextClosing?_join_cons {p : Stretch} (proper : p.IsProper) :
    nextClosing? (Stretch.join rest (p :: ps)) =
      if p.isClosing then some ('<' :: (p.tag ++ ['>']), Stretch.join rest ps) else none := by
  have content : ∀ c ∈ p.content, (c != '<') = true := by
    intro c mem
    simp only [bne_iff_ne]
    rintro rfl
    exact proper.content mem
  rw [nextClosing?, Stretch.join, List.dropWhile_append_of_pos content]
  exact closingTag?_append (s := p.content) proper.tag

/-- Where no tag ends, there is no closing tag. -/
theorem closingTag?_of_not_mem (absent : '>' ∉ s) : closingTag? s = none := by
  unfold closingTag?
  split
  · rename_i c s
    have inside : '>' ∉ c :: s := fun mem =>
      absent (List.mem_cons_of_mem '<' (List.mem_cons_of_mem '/' mem))
    split
    · rfl
    · rw [Text.through?_eq_none_iff.mpr inside]
      rfl
  · rfl

theorem nextClosing?_of_isTagless (tagless : IsTagless rest) : nextClosing? rest = none := by
  obtain ⟨t, u, rfl, plain, absent⟩ := tagless
  have content : ∀ c ∈ t, (c != '<') = true := by
    intro c mem
    simp only [bne_iff_ne]
    rintro rfl
    exact plain mem
  rw [nextClosing?, List.dropWhile_append_of_pos content]
  exact closingTag?_of_not_mem fun mem => absent ((List.dropWhile_sublist _).subset mem)

theorem Slot.afterMark?_append (absent : '>' ∉ s) :
    Slot.afterMark? (s ++ '>' :: body) =
      (nextClosing? body).map fun cut =>
        { openTag := s ++ ['>'], closeTag := cut.1, rest := cut.2 } := by
  simp only [Slot.afterMark?, Text.through?_append_cons absent, nextClosing?, bind, Option.bind]
  cases closingTag? (body.dropWhile (· != '<')) <;> rfl

/-! ## Filling the slots of a mark -/

namespace Stretch

variable {mark' value' : List Char} {p : Stretch} {inSlot inSlot' : Bool}

theorem fill_cons_of_slot (closes : p.isClosing = true) :
    fill mark value true (p :: ps) = { p with content := value } :: fill mark value false ps := by
  simp [fill, closes]

theorem fill_cons_of_not_slot (noSlot : (inSlot && p.isClosing) = false) :
    fill mark value inSlot (p :: ps) = p :: fill mark value (decide (mark <:+: p.tag)) ps := by
  simp [fill, noSlot]

/-- Filling changes no stretch but in its content, which becomes the value. -/
theorem mem_fill (mem : p ∈ fill mark value inSlot ps) :
    ∃ q ∈ ps, p = q ∨ p = { q with content := value } := by
  induction ps generalizing inSlot with
  | nil => cases mem
  | cons q ps ih =>
    have later : ∀ inSlot', p ∈ fill mark value inSlot' ps →
        ∃ r ∈ q :: ps, p = r ∨ p = { r with content := value } := by
      intro inSlot' mem
      obtain ⟨r, mem, same⟩ := ih mem
      exact ⟨r, List.mem_cons_of_mem q mem, same⟩
    rw [fill] at mem
    split at mem
    · rcases List.mem_cons.mp mem with rfl | mem
      · exact ⟨q, List.mem_cons_self, .inr rfl⟩
      · exact later _ mem
    · rcases List.mem_cons.mp mem with rfl | mem
      · exact ⟨p, List.mem_cons_self, .inl rfl⟩
      · exact later _ mem

/-- The slots of two marks may be filled in either order if no tag has both. Without that, the slot
of such a tag keeps what is put into it last. -/
theorem fill_comm (exclusive : ∀ p ∈ ps, ¬(mark <:+: p.tag ∧ mark' <:+: p.tag))
    (once : ¬(inSlot = true ∧ inSlot' = true)) :
    fill mark value inSlot (fill mark' value' inSlot' ps) =
      fill mark' value' inSlot' (fill mark value inSlot ps) := by
  induction ps generalizing inSlot inSlot' with
  | nil => simp [fill]
  | cons p ps ih =>
    have here := exclusive p List.mem_cons_self
    have later : ∀ {b b' : Bool}, ¬(b = true ∧ b' = true) →
        fill mark value b (fill mark' value' b' ps) =
          fill mark' value' b' (fill mark value b ps) :=
      ih fun q mem => exclusive q (List.mem_cons_of_mem p mem)
    have outside : ∀ q : Stretch, (false && q.isClosing) = false := fun _ => rfl
    by_cases closes : p.isClosing = true
    · cases inSlot with
      | false =>
        cases inSlot' with
        | false =>
          rw [fill_cons_of_not_slot (outside _), fill_cons_of_not_slot (outside _),
            fill_cons_of_not_slot (outside _), fill_cons_of_not_slot (outside _),
            later (by simpa using here)]
        | true =>
          rw [fill_cons_of_slot closes, fill_cons_of_not_slot (outside _),
            fill_cons_of_not_slot (outside _), fill_cons_of_slot closes, later (by simp)]
      | true =>
        cases inSlot' with
        | false =>
          rw [fill_cons_of_slot closes, fill_cons_of_not_slot (outside _),
            fill_cons_of_not_slot (outside _), fill_cons_of_slot closes, later (by simp)]
        | true => exact absurd ⟨rfl, rfl⟩ once
    · have copied : ∀ b : Bool, (b && p.isClosing) = false := by simp [closes]
      rw [fill_cons_of_not_slot (copied _), fill_cons_of_not_slot (copied _),
        fill_cons_of_not_slot (copied _), fill_cons_of_not_slot (copied _),
        later (by simpa using here)]

end Stretch

section Mark

variable (nonempty : mark ≠ []) (opening : '<' ∉ mark) (closing : '>' ∉ mark)

section Read

include nonempty closing

/-- A tag with the mark opens a slot if a closing tag follows. -/
theorem Slot.inTag?_append (absent : '>' ∉ t) :
    Slot.inTag? mark (t ++ '>' :: body) =
      if mark <:+: t then
        (nextClosing? body).map fun cut =>
          { openTag := t ++ ['>'], closeTag := cut.1, rest := cut.2 }
      else none := by
  induction t with
  | nil =>
    have here : ¬mark <+: '>' :: body := fun start =>
      nonempty (List.prefix_nil.mp ((Text.prefix_append_cons_iff (s := []) closing).mp start))
    simp [Slot.inTag?, List.isPrefixOf_iff_prefix, here, nonempty]
  | cons c t ih =>
    have first : c ≠ '>' := fun same => absent (same ▸ List.mem_cons_self)
    have rest := ih fun mem => absent (List.mem_cons_of_mem c mem)
    have start_iff : mark <+: c :: (t ++ '>' :: body) ↔ mark <+: c :: t :=
      Text.prefix_append_cons_iff (s := c :: t) closing
    have here : mark <+: c :: t →
        (Slot.afterMark? ((c :: (t ++ '>' :: body)).drop mark.length)).map
            (fun slot => { slot with openTag := mark ++ slot.openTag }) =
          (nextClosing? body).map fun cut =>
            { openTag := c :: t ++ ['>'], closeTag := cut.1, rest := cut.2 } := by
      rintro ⟨u, parts⟩
      have outside : '>' ∉ u := fun mem => absent (parts ▸ List.mem_append_right mark mem)
      have whole : c :: (t ++ '>' :: body) = mark ++ (u ++ '>' :: body) := by
        rw [← List.append_assoc, parts]
        rfl
      rw [whole, List.drop_left, Slot.afterMark?_append outside, Option.map_map, ← parts]
      simp [Function.comp_def]
    rw [List.cons_append, Slot.inTag?, if_neg first, rest]
    simp only [List.isPrefixOf_iff_prefix, start_iff, List.infix_cons_iff]
    by_cases start : mark <+: c :: t
    · simp only [start, if_true, true_or, here start]
      by_cases inside : mark <:+: t <;> cases nextClosing? body <;> simp [inside]
    · by_cases inside : mark <:+: t <;> cases nextClosing? body <;> simp [start, inside]

end Read

theorem Slot.inTag?_of_not_mem (absent : '>' ∉ t) : Slot.inTag? mark t = none := by
  induction t with
  | nil => rfl
  | cons c t ih =>
    have first : c ≠ '>' := fun same => absent (same ▸ List.mem_cons_self)
    have later : Slot.afterMark? ((c :: t).drop mark.length) = none := by
      have inside : '>' ∉ (c :: t).drop mark.length := fun mem =>
        absent ((List.drop_sublist _ _).subset mem)
      simp [Slot.afterMark?, Text.through?_eq_none_iff.mpr inside]
    simp [Slot.inTag?, first, ih fun mem => absent (List.mem_cons_of_mem c mem), later]

theorem fillMarked_cons_of_none {c : Char} (none : Slot.at? mark (c :: s) = none) :
    fillMarked mark value (c :: s) = c :: fillMarked mark value s := by
  rw [fillMarked]
  split
  · rename_i found
    rw [none] at found
    cases found
  · rfl

/-- Where no tag starts, nothing is filled. -/
theorem fillMarked_append_of_not_mem (plain : '<' ∉ s) :
    fillMarked mark value (s ++ t) = s ++ fillMarked mark value t := by
  induction s with
  | nil => rfl
  | cons c s ih =>
    have first : c ≠ '<' := fun same => plain (same ▸ List.mem_cons_self)
    have none : Slot.at? mark (c :: (s ++ t)) = none := by simp [Slot.at?, first]
    rw [List.cons_append, fillMarked_cons_of_none none,
      ih fun mem => plain (List.mem_cons_of_mem c mem)]
    rfl

theorem fillMarked_of_not_mem (absent : '>' ∉ s) : fillMarked mark value s = s := by
  induction s with
  | nil => simp [fillMarked]
  | cons c s ih =>
    have later : '>' ∉ s := fun mem => absent (List.mem_cons_of_mem c mem)
    have none : Slot.at? mark (c :: s) = none := by
      unfold Slot.at?
      split
      · rename_i u same
        obtain ⟨rfl, rfl⟩ := List.cons.inj same
        rw [Slot.inTag?_of_not_mem later]
        rfl
      · rfl
    rw [fillMarked_cons_of_none none, ih later]

theorem fillMarked_of_isTagless (tagless : IsTagless rest) : fillMarked mark value rest = rest := by
  obtain ⟨t, u, rfl, plain, absent⟩ := tagless
  rw [fillMarked_append_of_not_mem plain, fillMarked_of_not_mem absent]

include nonempty closing

/-- A tag without the mark, or without a closing tag behind it, is copied. -/
theorem fillMarked_tag (absent : '>' ∉ t) (noSlot : mark <:+: t → nextClosing? body = none) :
    fillMarked mark value (t ++ '>' :: body) = t ++ '>' :: fillMarked mark value body := by
  induction t with
  | nil =>
    have none : Slot.at? mark ('>' :: body) = none := rfl
    exact fillMarked_cons_of_none none
  | cons c t ih =>
    have later : '>' ∉ t := fun mem => absent (List.mem_cons_of_mem c mem)
    have noSlot' : mark <:+: t → nextClosing? body = none := fun inside =>
      noSlot (List.infix_cons inside)
    have none : Slot.at? mark (c :: (t ++ '>' :: body)) = none := by
      unfold Slot.at?
      split
      · rename_i u same
        obtain ⟨rfl, rfl⟩ := List.cons.inj same
        rw [Slot.inTag?_append nonempty closing later]
        split
        · rename_i inside
          rw [noSlot' inside]
          rfl
        · rfl
      · rfl
    rw [List.cons_append, fillMarked_cons_of_none none, ih later noSlot']
    rfl

theorem fillMarked_slot (absent : '>' ∉ t) (inside : mark <:+: t)
    {close : List Char} (next : nextClosing? body = some (close, rest)) :
    fillMarked mark value ('<' :: (t ++ '>' :: body)) =
      '<' :: (t ++ '>' :: (value ++ (close ++ fillMarked mark value rest))) := by
  have found : Slot.at? mark ('<' :: (t ++ '>' :: body)) =
      some { openTag := '<' :: (t ++ ['>']), closeTag := close, rest } := by
    rw [Slot.at?, Slot.inTag?_append nonempty closing absent, if_pos inside, next]
    rfl
  rw [fillMarked]
  split
  · rename_i slot found'
    rw [found] at found'
    obtain rfl := Option.some.inj found'
    simp
  · rename_i found'
    rw [found] at found'
    cases found'

include opening

/-- The slots of a text are told by its stretches: their contents are replaced, and nothing else. -/
theorem fillMarked_join (tagless : IsTagless rest) :
    ∀ {ps : List Stretch}, (∀ p ∈ ps, p.IsProper) →
      fillMarked mark value (Stretch.join rest ps) =
        Stretch.join rest (Stretch.fill mark value false ps)
  | [], _ => fillMarked_of_isTagless tagless
  | [p], proper => by
    have here := proper p List.mem_cons_self
    have absent : '>' ∉ '<' :: p.tag := by simpa using here.tag
    rw [Stretch.fill_cons_of_not_slot rfl, Stretch.fill, Stretch.join_cons, Stretch.join_nil,
      fillMarked_append_of_not_mem here.content, ← List.cons_append,
      fillMarked_tag nonempty closing absent fun _ => nextClosing?_of_isTagless tagless,
      fillMarked_of_isTagless tagless]
  | p :: q :: qs, proper => by
    have here := proper p List.mem_cons_self
    have next : ∀ r ∈ q :: qs, r.IsProper := fun r mem => proper r (List.mem_cons_of_mem p mem)
    have found : nextClosing? (Stretch.join rest (q :: qs)) =
        if q.isClosing then some ('<' :: (q.tag ++ ['>']), Stretch.join rest qs) else none :=
      nextClosing?_join_cons (next q List.mem_cons_self)
    rw [Stretch.fill_cons_of_not_slot rfl, Stretch.join_cons rest p,
      fillMarked_append_of_not_mem here.content, Stretch.join_cons rest p]
    congr 1
    by_cases slot : mark <:+: p.tag ∧ q.isClosing = true
    · obtain ⟨inside, closes⟩ := slot
      rw [if_pos closes] at found
      have later := fillMarked_join tagless fun r mem => next r (List.mem_cons_of_mem q mem)
      rw [fillMarked_slot nonempty closing here.tag inside found, decide_eq_true inside,
        Stretch.fill_cons_of_slot closes, later, Stretch.join_cons]
      simp
    · have absent : '>' ∉ '<' :: p.tag := by simpa using here.tag
      have noSlot : mark <:+: '<' :: p.tag → nextClosing? (Stretch.join rest (q :: qs)) = none := by
        intro inside
        rcases List.infix_cons_iff.mp inside with start | inside
        · cases mark with
          | nil => exact absurd rfl nonempty
          | cons c mark =>
            obtain ⟨rfl, -⟩ := List.cons_prefix_cons.mp start
            exact absurd List.mem_cons_self opening
        · rw [found, if_neg fun closes => slot ⟨inside, closes⟩]
      have copied : (decide (mark <:+: p.tag) && q.isClosing) = false := by
        simpa using slot
      rw [← List.cons_append, fillMarked_tag nonempty closing absent noSlot,
        fillMarked_join tagless next, Stretch.fill_cons_of_not_slot copied,
        Stretch.fill_cons_of_not_slot rfl]
      rfl

end Mark

end PagePress.Markup
