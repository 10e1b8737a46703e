import Mathlib.Data.List.Infix
import PagePress.Text.Search

/-!
# Where a piece of text occurs

A piece occurs at a place of a text if what follows the place starts with the piece. An occurrence
cannot reach across a character that the piece does not have, so that a text may be cut at such a
character and its parts looked through one by one.
-/

namespace PagePress.Text

/-- What is said of every place of a text can be decided place by place. -/
instance decidableForallSuffix {P : List Char → Prop} [DecidablePred P] (s : List Char) :
    Decidable (∀ t, t <:+ s → P t) :=
  decidable_of_iff (∀ t ∈ s.tails, P t) (by simp)

variable {piece value s t : List Char} {c : Char}

theorem prefix_append_cons_iff (absent : c ∉ piece) : piece <+: s ++ c :: t ↔ piece <+: s := by
  induction s generalizing piece with
  | nil =>
    cases piece with
    | nil => simp
    | cons d piece =>
      have other : d ≠ c := by
        rintro rfl
        simp at absent
      simp [List.cons_prefix_cons, other]
  | cons e s ih =>
    cases piece with
    | nil => simp
    | cons d piece =>
      have rest : c ∉ piece := fun mem => absent (List.mem_cons_of_mem d mem)
      rw [List.cons_append, List.cons_prefix_cons, List.cons_prefix_cons, ih rest]

/-- What starts with `c` does not start among characters without it. -/
theorem cons_suffix_of_append {u : List Char} (absent : c ∉ s) (suffix : c :: u <:+ s ++ t) :
    c :: u <:+ t := by
  induction s with
  | nil => exact suffix
  | cons d s ih =>
    rcases List.suffix_cons_iff.mp suffix with here | later
    · obtain ⟨rfl, -⟩ := List.cons.inj here
      exact absurd List.mem_cons_self absent
    · exact ih (fun mem => absent (List.mem_cons_of_mem d mem)) later

def occurrences (piece : List Char) : List Char → Nat
  | [] => 0
  | c :: s => (if piece <+: c :: s then 1 else 0) + occurrences piece s

theorem occurrences_cons (piece : List Char) (c : Char) (s : List Char) :
    occurrences piece (c :: s) = (if piece <+: c :: s then 1 else 0) + occurrences piece s := rfl

theorem occurrences_eq_zero_iff (nonempty : piece ≠ []) :
    occurrences piece s = 0 ↔ ¬piece <:+: s := by
  induction s with
  | nil => simp [occurrences, nonempty]
  | cons c s ih =>
    rw [occurrences_cons, List.infix_cons_iff, not_or, ← ih]
    by_cases here : piece <+: c :: s <;> simp [here]

theorem occurrences_le_append (s t : List Char) :
    occurrences piece t ≤ occurrences piece (s ++ t) := by
  induction s with
  | nil => exact Nat.le_refl _
  | cons c s ih =>
    rw [List.cons_append, occurrences_cons]
    omega

theorem occurrences_append_cons (nonempty : piece ≠ []) (absent : c ∉ piece) :
    occurrences piece (s ++ c :: t) = occurrences piece s + occurrences piece t := by
  induction s with
  | nil =>
    have here : ¬piece <+: c :: t := by
      intro start
      exact nonempty (List.prefix_nil.mp ((prefix_append_cons_iff (s := []) absent).mp start))
    simp [occurrences, here]
  | cons d s ih =>
    have here : piece <+: d :: (s ++ c :: t) ↔ piece <+: d :: s :=
      prefix_append_cons_iff (s := d :: s) absent
    rw [List.cons_append, occurrences_cons, occurrences_cons, ih, Nat.add_assoc]
    simp only [here]

/-- A piece does not occur among characters that lack one of its own. -/
theorem occurrences_eq_zero_of_forall_ne (mem : c ∈ piece) (absent : c ∉ s) :
    occurrences piece s = 0 := by
  have nonempty : piece ≠ [] := List.ne_nil_of_mem mem
  refine (occurrences_eq_zero_iff nonempty).mpr fun inside => absent ?_
  exact inside.subset mem

/-! ## First places -/

/-- The number of characters before the first occurrence of `piece`; it is greater than the length
of a text in which there is none. -/
def firstPlace (piece s : List Char) : Nat := s.tails.findIdx (piece.isPrefixOf ·)

theorem firstPlace_of_prefix (start : piece <+: s) : firstPlace piece s = 0 := by
  have here : piece.isPrefixOf s = true := List.isPrefixOf_iff_prefix.mpr start
  cases s <;> simp [firstPlace, List.findIdx_cons, here]

theorem firstPlace_cons (other : ¬piece <+: c :: s) :
    firstPlace piece (c :: s) = firstPlace piece s + 1 := by
  have here : piece.isPrefixOf (c :: s) = false := by
    rwa [← Bool.not_eq_true, List.isPrefixOf_iff_prefix]
  simp [firstPlace, List.findIdx_cons, here]

/-- What no occurrence starts in may be skipped. -/
theorem firstPlace_append (absent : ∀ u, u <:+ s ++ t → piece <+: u → u <:+ t) :
    firstPlace piece (s ++ t) = s.length + firstPlace piece t := by
  induction s with
  | nil => simp
  | cons c s ih =>
    have here : ¬piece <+: c :: (s ++ t) := fun start => by
      have short := (absent _ List.suffix_rfl start).length_le
      simp only [List.length_cons, List.length_append] at short
      omega
    have later := ih fun u suffix => absent u (suffix.trans (List.suffix_cons c (s ++ t)))
    rw [List.cons_append, firstPlace_cons here, later, List.length_cons]
    omega

/-! ## Replacing -/

theorem replaceAll_cons (other : ¬piece <+: c :: s) :
    replaceAll piece value (c :: s) = c :: replaceAll piece value s := by
  rw [replaceAll, if_neg]
  rwa [List.isPrefixOf_iff_prefix]

theorem replaceAll_append (nonempty : piece ≠ []) :
    replaceAll piece value (piece ++ s) = value ++ replaceAll piece value s := by
  cases piece with
  | nil => exact absurd rfl nonempty
  | cons c piece =>
    rw [List.cons_append, replaceAll, if_pos]
    · simp
    · rw [List.isPrefixOf_iff_prefix]
      exact List.prefix_append (c :: piece) s

/-- What does not have the first character of the piece is copied. -/
theorem replaceAll_append_of_not_mem (absent : c ∉ s) :
    replaceAll (c :: piece) value (s ++ t) = s ++ replaceAll (c :: piece) value t := by
  induction s with
  | nil => rfl
  | cons d s ih =>
    have other : ¬c :: piece <+: d :: (s ++ t) := by
      rw [List.cons_prefix_cons]
      rintro ⟨rfl, -⟩
      simp at absent
    rw [List.cons_append, replaceAll_cons other, ih fun mem => absent (List.mem_cons_of_mem d mem)]
    rfl

/-- Where a piece does not occur, nothing is replaced. -/
theorem replaceAll_of_absent (absent : ¬piece <:+: s) : replaceAll piece value s = s := by
  induction s with
  | nil => simp [replaceAll]
  | cons c s ih =>
    rw [List.infix_cons_iff, not_or] at absent
    rw [replaceAll_cons absent.1, ih absent.2]

theorem occursIn_of_cut? {cut : List Char × List Char} (h : cut? piece s = some cut) :
    occursIn piece s = true := by
  induction s generalizing cut with
  | nil =>
    simp only [cut?, Option.ite_none_right_eq_some] at h
    exact h.1
  | cons c s ih =>
    rw [cut?] at h
    rw [occursIn, Bool.or_eq_true]
    split at h
    · rename_i here
      exact .inl here
    · obtain ⟨later, found, -⟩ := Option.map_eq_some_iff.mp h
      exact .inr (ih found)

theorem through?_eq_none_iff : through? c s = none ↔ c ∉ s := by
  induction s with
  | nil => simp [through?]
  | cons d s ih =>
    by_cases same : d = c
    · simp [through?, same]
    · simp [through?, same, ih, Ne.symm same]

theorem through?_append_cons (absent : c ∉ s) : through? c (s ++ c :: t) = some (s ++ [c], t) := by
  induction s with
  | nil => simp [through?]
  | cons d s ih =>
    have other : d ≠ c := fun same => absent (same ▸ List.mem_cons_self)
    have rest : c ∉ s := fun mem => absent (List.mem_cons_of_mem d mem)
    simp [through?, other, ih rest]

theorem through?_append {front rest : List Char} (found : through? c s = some (front, rest))
    (t : List Char) : through? c (s ++ t) = some (front, rest ++ t) := by
  induction s generalizing front with
  | nil => cases found
  | cons d s ih =>
    by_cases same : d = c
    · simp only [through?, if_pos same, List.cons_append] at found ⊢
      simp only [Option.some.injEq, Prod.mk.injEq] at found ⊢
      exact ⟨found.1, by rw [found.2]⟩
    · simp only [through?, if_neg same, List.cons_append, Option.map_eq_some_iff, Prod.exists]
        at found ⊢
      obtain ⟨inner, after, found, parts⟩ := found
      obtain ⟨rfl, rfl⟩ := Prod.mk.inj parts
      exact ⟨inner, after ++ t, ih found, rfl⟩

/-- What is cut off ends at the first `c`. -/
theorem through?_eq_some {front rest : List Char} (h : through? c s = some (front, rest)) :
    ∃ before, c ∉ before ∧ front = before ++ [c] ∧ s = before ++ c :: rest := by
  induction s generalizing front with
  | nil => cases h
  | cons d s ih =>
    by_cases same : d = c
    · subst same
      simp only [through?, if_true, Option.some.injEq, Prod.mk.injEq] at h
      obtain ⟨rfl, rfl⟩ := h
      exact ⟨[], by simp, rfl, rfl⟩
    · simp only [through?, if_neg same, Option.map_eq_some_iff, Prod.exists, Prod.mk.injEq] at h
      obtain ⟨inner, _, found, rfl, rfl⟩ := h
      obtain ⟨before, absent, rfl, rfl⟩ := ih found
      exact ⟨d :: before, by simp [absent, Ne.symm same], rfl, rfl⟩

/-! ## Fronts -/

def upTo? (c : Char) (s : List Char) : Option (List Char) := (through? c s).map Prod.fst

theorem upTo?_cons_self : upTo? c (c :: s) = some [c] := by simp [upTo?, through?]

theorem upTo?_cons_of_ne {d : Char} (other : d ≠ c) :
    upTo? c (d :: s) = (upTo? c s).map (d :: ·) := by
  simp [upTo?, through?, other, Function.comp_def]

theorem upTo?_eq_none_iff : upTo? c s = none ↔ c ∉ s := by
  rw [upTo?, Option.map_eq_none_iff, through?_eq_none_iff]

theorem upTo?_append_cons (absent : c ∉ s) : upTo? c (s ++ c :: t) = some (s ++ [c]) := by
  rw [upTo?, through?_append_cons absent]
  rfl

/-- A front ends at the first `c`. -/
theorem exists_of_mem_upTo? {front : List Char} (mem : front ∈ upTo? c s) :
    ∃ before rest, front = before ++ [c] ∧ s = before ++ c :: rest := by
  obtain ⟨⟨_, rest⟩, cut, rfl⟩ := Option.map_eq_some_iff.mp mem
  obtain ⟨before, -, same, parts⟩ := through?_eq_some cut
  exact ⟨before, rest, same, parts⟩

theorem upTo?_append_of_mem (mem : c ∈ s) : upTo? c (s ++ t) = upTo? c s := by
  have found : through? c s ≠ none := fun none => through?_eq_none_iff.mp none mem
  obtain ⟨⟨front, rest⟩, found⟩ := Option.ne_none_iff_exists'.mp found
  rw [upTo?, upTo?, through?_append found, found]
  rfl

end PagePress.Text
