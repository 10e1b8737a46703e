import Mathlib.Algebra.Ring.Nat
import Mathlib.Data.List.Basic
import PagePress.Element.Label

/-!
# How long labels get

A capital letter puts a space in front of itself, and beyond ASCII a character can become three in
upper case and two in lower case. Still a label is at most by one longer than two characters for
each of its name: what begins a word stands behind a separator, which leaves room for it.
-/

namespace PagePress

/-- How much a character can grow in lower case. In upper case it can grow twice as much. -/
def caseExcess (c : Char) : Nat := if c.toNat < 128 then 0 else 1

variable {c : Char} {s name : List Char}

theorem caseExcess_le (c : Char) : caseExcess c ≤ 1 := by
  unfold caseExcess
  split <;> omega

theorem caseExcess_of_isUpper (upper : c.isUpper = true) : caseExcess c = 0 := by
  have range : 'A'.val ≤ c.val ∧ c.val ≤ 'Z'.val := of_decide_eq_true upper
  have last : c.toNat ≤ 90 := UInt32.le_iff_toNat_le.mp range.2
  rw [caseExcess, if_pos (by omega)]

namespace Text

theorem length_caseForm_le {expansions : List (Nat × List Nat)} {runs : List CaseRun} {most : Nat}
    (positive : 0 < most) (short : ∀ entry ∈ expansions, entry.2.length ≤ most) (n : Nat) :
    (caseForm expansions runs n).length ≤ most := by
  unfold caseForm
  split
  · rename_i codes found
    obtain ⟨before, after, rfl, -⟩ := List.lookup_eq_some_iff.mp found
    simpa using short (n, codes) (by simp)
  · exact positive

theorem length_upperOf_le (c : Char) : (upperOf c).length ≤ 1 + 2 * caseExcess c := by
  unfold upperOf caseExcess
  split
  · exact Nat.le_refl 1
  · exact length_caseForm_le (by decide) (by decide) _

theorem length_lowerOf_le (c : Char) : (lowerOf c).length ≤ 1 + caseExcess c := by
  unfold lowerOf caseExcess
  split
  · exact Nat.le_refl 1
  · exact length_caseForm_le (by decide) (by decide) _

end Text

/-- The room that a text takes up in lower case at most. -/
def lowerRoom : List Char → Nat
  | [] => 0
  | c :: s => 1 + caseExcess c + lowerRoom s

/-- What a text can take up more if its first character is in upper case. -/
def startExcess : List Char → Nat
  | [] => 0
  | c :: _ => caseExcess c

/-- The room that a text takes up at most when its words are capitalised, all but the first. -/
def labelRoom : List Char → Nat
  | [] => 0
  | c :: s => (if c = ' ' then 1 + startExcess s else 1 + caseExcess c) + labelRoom s

theorem startExcess_le (s : List Char) : startExcess s ≤ 1 := by
  cases s with
  | nil => exact Nat.zero_le 1
  | cons c s => exact caseExcess_le c

theorem length_lowerAfter_le (before s : List Char) :
    (Text.lowerAfter before s).length ≤ lowerRoom s := by
  induction s generalizing before with
  | nil => exact Nat.le_refl 0
  | cons c s ih =>
    have rest := ih (c :: before)
    have form := Text.length_lowerOf_le c
    rw [Text.lowerAfter, List.length_append, lowerRoom]
    split
    · simp only [List.length_singleton]
      omega
    · omega

theorem length_capitalize_le (word : List Char) :
    (capitalize word).length ≤ lowerRoom word + startExcess word := by
  cases word with
  | nil => exact Nat.le_refl 0
  | cons c word =>
    have first := Text.length_upperOf_le c
    have rest := length_lowerAfter_le [] word
    rw [capitalize, List.length_append, lowerRoom, startExcess, Text.lower]
    omega

theorem length_intercalate_space (word : List Char) (words : List (List Char)) :
    ([' '].intercalate (word :: words)).length =
      word.length + (words.map fun next => 1 + next.length).sum := by
  induction words generalizing word with
  | nil => simp
  | cons next words ih =>
    rw [List.intercalate_cons_cons, List.length_append, List.length_append, ih]
    simp only [List.length_singleton, List.map_cons, List.sum_cons]
    omega

/-- The words of a text, all but the first capitalised and with a space in front of them, fit in
the room of the text. -/
theorem exists_splitAll_eq_cons (s : List Char) :
    ∃ first rest, Text.splitAll ' ' s = first :: rest ∧ startExcess first = startExcess s ∧
      lowerRoom first + (rest.map fun word => 1 + (capitalize word).length).sum ≤ labelRoom s := by
  induction s with
  | nil => exact ⟨[], [], rfl, rfl, Nat.le_refl 0⟩
  | cons c s ih =>
    obtain ⟨first, rest, split, start, room⟩ := ih
    by_cases separator : c = ' '
    · subst separator
      have word := length_capitalize_le first
      refine ⟨[], first :: rest, by simp [Text.splitAll, split], rfl, ?_⟩
      simp only [lowerRoom, labelRoom, if_true, List.map_cons, List.sum_cons]
      omega
    · refine ⟨c :: first, rest, by simp [Text.splitAll, split, separator], rfl, ?_⟩
      simp only [lowerRoom, labelRoom, if_neg separator]
      omega

theorem labelRoom_dropBlanks_le (s : List Char) :
    labelRoom (Text.dropBlanks s) + startExcess (Text.dropBlanks s) ≤
      labelRoom s + startExcess s := by
  unfold Text.dropBlanks
  induction s with
  | nil => exact Nat.le_refl 0
  | cons c s ih =>
    rw [List.dropWhile_cons]
    split
    · have start := startExcess_le s
      rw [labelRoom]
      split <;> omega
    · exact Nat.le_refl _

/-- Two characters of room for each of the name are enough, as a separator needs but one. -/
theorem labelRoom_spaced_le (name : List Char) : labelRoom (spaced name) ≤ 2 * name.length := by
  induction name with
  | nil => exact Nat.le_refl 0
  | cons c name ih =>
    have start := startExcess_le (spaced name)
    have excess := caseExcess_le c
    have here : spaced (c :: name) =
        (if c.isUpper then [' ', c] else if c = '_' then [' '] else [c]) ++ spaced name := rfl
    rw [here, List.length_cons]
    split
    · rename_i upper
      have notSpace : c ≠ ' ' := by
        rintro rfl
        exact absurd upper (by decide)
      have small := caseExcess_of_isUpper upper
      simp only [List.cons_append, List.nil_append, labelRoom, startExcess, if_true,
        if_neg notSpace]
      omega
    · split
      · simp only [List.cons_append, List.nil_append, labelRoom, if_true]
        omega
      · simp only [List.cons_append, List.nil_append, labelRoom]
        split <;> omega

/-- A label has at most two characters for each of its name, and one more. -/
theorem length_label_le (name : List Char) : (label name).length ≤ 2 * name.length + 1 := by
  obtain ⟨first, rest, split, start, room⟩ :=
    exists_splitAll_eq_cons (Text.dropBlanks (spaced name))
  have word := length_capitalize_le first
  have blanks := labelRoom_dropBlanks_le (spaced name)
  have twice := labelRoom_spaced_le name
  have excess := startExcess_le (spaced name)
  rw [label, labelWords, split, List.map_cons, length_intercalate_space, List.map_map,
    Function.comp_def]
  omega

/-- A small letter can need the room for one more. -/
example : (label ['ΐ']).length = 2 * 1 + 1 := by decide

end PagePress
