import Mathlib.Data.List.Find
import Mathlib.Data.List.Nodup

/-!
# Tables

A table is a list of rows. A column is *unique* if no two rows have the same value in it. What is
said here holds of every table: how a row is found by a unique column, and which columns stay unique
when rows are added, replaced or removed.
-/

namespace PagePress.Table

variable {α κ : Type}

def Unique (column : α → κ) (rows : List α) : Prop := (rows.map column).Nodup

section Unique

variable {column : α → κ} {rows : List α}

theorem Unique.nil : Unique column [] := List.nodup_nil

theorem Unique.eq_of_mem (h : Unique column rows) {a b : α} (ha : a ∈ rows) (hb : b ∈ rows)
    (hab : column a = column b) : a = b :=
  List.inj_on_of_nodup_map h ha hb hab

theorem Unique.filter (h : Unique column rows) (p : α → Bool) : Unique column (rows.filter p) :=
  List.Nodup.sublist (List.filter_sublist.map column) h

theorem unique_append_singleton {row : α} :
    Unique column (rows ++ [row]) ↔
      Unique column rows ∧ ∀ old ∈ rows, column old ≠ column row := by
  simp [Unique, List.nodup_append]

theorem Unique.append_singleton (h : Unique column rows) {row : α}
    (new : ∀ old ∈ rows, column old ≠ column row) : Unique column (rows ++ [row]) :=
  unique_append_singleton.mpr ⟨h, new⟩

/-- A row is found by a unique column. -/
theorem Unique.find?_eq_some_iff [DecidableEq κ] (h : Unique column rows) {k : κ} {row : α} :
    rows.find? (column · = k) = some row ↔ row ∈ rows ∧ column row = k := by
  constructor
  · intro found
    exact ⟨List.mem_of_find?_eq_some found, by simpa using List.find?_some found⟩
  · rintro ⟨mem, rfl⟩
    obtain ⟨other, found⟩ : ∃ other, rows.find? (column · = column row) = some other :=
      Option.isSome_iff_exists.mp (List.find?_isSome.mpr ⟨row, mem, by simp⟩)
    have same : column other = column row := by simpa using List.find?_some found
    rw [found, h.eq_of_mem (List.mem_of_find?_eq_some found) mem same]

/-- At most one row has the value in a unique column. -/
theorem Unique.toList_find? [DecidableEq κ] (h : Unique column rows) (k : κ) :
    (rows.find? (column · = k)).toList = rows.filter (column · = k) := by
  induction rows with
  | nil => rfl
  | cons row rows ih =>
    obtain ⟨new, rest⟩ := List.nodup_cons.mp h
    by_cases own : column row = k
    · have others : rows.filter (column · = k) = [] := by
        refine List.filter_eq_nil_iff.mpr fun other mem => ?_
        rw [decide_eq_true_eq]
        rintro rfl
        exact new (own ▸ List.mem_map_of_mem mem)
      simp [own, others]
    · simpa [own] using ih rest

end Unique

/-! ## Replacing rows -/

section Replace

variable {p : α → Prop} [DecidablePred p] {new : α} {rows : List α} {column : α → κ}

/-- A column in which the new row agrees with those it replaces stays as it is. -/
theorem map_replace (same : ∀ old ∈ rows, p old → column new = column old) :
    (rows.map fun old => if p old then new else old).map column = rows.map column := by
  rw [List.map_map]
  refine List.map_congr_left fun old mem => ?_
  by_cases h : p old
  · simpa [h] using same old mem h
  · simp [h]

theorem mem_of_mem_replace {row : α}
    (h : row ∈ rows.map fun old => if p old then new else old) : row = new ∨ row ∈ rows := by
  obtain ⟨old, mem, rfl⟩ := List.mem_map.mp h
  by_cases hp : p old
  · simp [hp]
  · simp [hp, mem]

/-- A column stays unique if at most one row is replaced and no other has the value of the new
row. -/
theorem Unique.replace (h : Unique column rows)
    (one : ∀ a ∈ rows, ∀ b ∈ rows, p a → p b → column a = column b)
    (free : ∀ old ∈ rows, column old = column new → p old) :
    Unique column (rows.map fun old => if p old then new else old) := by
  unfold Unique at h ⊢
  rw [List.nodup_iff_pairwise_ne, List.pairwise_map] at h
  rw [List.map_map, List.nodup_iff_pairwise_ne, List.pairwise_map]
  refine h.imp_of_mem fun {a b} ha hb hne => ?_
  by_cases pa : p a <;> by_cases pb : p b
  · exact absurd (one a ha b hb pa pb) hne
  · simpa [pa, pb] using fun hab => pb (free b hb hab.symm)
  · simpa [pa, pb] using fun hab => pa (free a ha hab)
  · simpa [pa, pb] using hne

end Replace

/-! ## Finding rows again -/

section Find

variable [DecidableEq κ] {rows : List α} {column : α → κ}

/-- A row with a new value is found by it, and hides no other. -/
theorem find?_append_singleton {row : α} (new : ∀ old ∈ rows, column old ≠ column row) (k : κ) :
    (rows ++ [row]).find? (column · = k) =
      if column row = k then some row else rows.find? (column · = k) := by
  rw [List.find?_append]
  by_cases h : column row = k
  · have none : rows.find? (column · = k) = none := by simpa [← h] using new
    simp [none, h]
  · simp [h]

theorem find?_replace {p : α → Prop} [DecidablePred p] {new : α}
    (same : ∀ old ∈ rows, p old → column new = column old) (k : κ) :
    (rows.map fun old => if p old then new else old).find? (column · = k) =
      (rows.find? (column · = k)).map fun old => if p old then new else old := by
  rw [List.find?_map]
  refine congrArg _ (List.find?_congr fun old mem => ?_)
  by_cases h : p old
  · simp [h, same old mem h]
  · simp [h]

/-- Rows that stay are found as before. -/
theorem find?_filter_of_kept {kept : α → Bool} {k : κ}
    (stay : ∀ row ∈ rows, column row = k → kept row = true) :
    (rows.filter kept).find? (column · = k) = rows.find? (column · = k) := by
  rw [List.find?_filter]
  refine List.find?_congr fun row mem => ?_
  by_cases h : column row = k
  · simp [h, stay row mem h]
  · simp [h]

theorem find?_filter_of_gone {kept : α → Bool} {k : κ}
    (gone : ∀ row ∈ rows, column row = k → kept row = false) :
    (rows.filter kept).find? (column · = k) = none := by
  refine List.find?_eq_none.mpr fun row mem => ?_
  obtain ⟨mem, kept⟩ := List.mem_filter.mp mem
  intro same
  rw [gone row mem (of_decide_eq_true same)] at kept
  cases kept

end Find

end PagePress.Table
