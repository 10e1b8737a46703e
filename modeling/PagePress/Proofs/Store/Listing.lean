import Mathlib.Data.List.Nodup
import PagePress.Proofs.Text.Pattern
import PagePress.Store.Listing

/-!
# What is listed

A listing holds the rows in which the search text is found, each once, and if no two rows are of one
age, each row is newer than those behind it.
-/

namespace PagePress.Store

/-- The search text is found in one of the texts; no search text and an empty one are found
everywhere. -/
def IsFoundIn (search : Option String) (texts : List String) : Prop :=
  ∀ s ∈ search, s ≠ "" →
    ∃ text ∈ texts, Text.Like (Text.within (Text.asRead s)) (Text.asRead text)

/-- The storage can search for the text as it is: its pattern does not end early and is not too
long. -/
structure IsSearchable (search : Option String) : Prop where
  whole : ∀ s ∈ search, '\x00' ∉ s.toList
  short : ∀ s ∈ search, patternSize s ≤ maxPatternSize

/-- The list holds exactly the wanted rows, each once, from the newest to the oldest. -/
structure Lists {α : Type} (createdAt : α → Micros) (rows : List α) (wanted : α → Prop)
    (listed : List α) : Prop where
  exact : ∀ row, row ∈ listed ↔ row ∈ rows ∧ wanted row
  once : listed.Nodup
  newest : listed.Pairwise fun row next => createdAt next < createdAt row

variable {α : Type} {createdAt : α → Micros} {rows found : List α} {search : Option String}
  {texts : α → List String}

theorem newestFirst_perm (createdAt : α → Micros) (rows : List α) :
    (newestFirst createdAt rows).Perm rows := List.mergeSort_perm _ _

theorem newestFirst_sorted (createdAt : α → Micros) (rows : List α) :
    (newestFirst createdAt rows).Pairwise fun row next => createdAt next ≤ createdAt row := by
  have sorted : (newestFirst createdAt rows).Pairwise fun row next =>
      decide (createdAt next ≤ createdAt row) := by
    refine List.pairwise_mergeSort (fun a b c first last => ?_) (fun a b => ?_) _
    · simp only [decide_eq_true_eq] at first last ⊢
      exact Int.le_trans last first
    · simpa using Int.le_total (createdAt b) (createdAt a)
  exact sorted.imp of_decide_eq_true

/-- Sorting keeps the rows, and puts rows that differ in age into their only order. -/
theorem lists_newestFirst {wanted : α → Prop}
    (exact : ∀ row, row ∈ found ↔ row ∈ rows ∧ wanted row)
    (ages : (found.map createdAt).Nodup) :
    Lists createdAt rows wanted (newestFirst createdAt found) where
  exact row := (newestFirst_perm createdAt found).mem_iff.trans (exact row)
  once := (newestFirst_perm createdAt found).nodup_iff.mpr (.of_map createdAt ages)
  newest := by
    have apart : ((newestFirst createdAt found).map createdAt).Nodup :=
      ((newestFirst_perm createdAt found).map createdAt).nodup_iff.mpr ages
    refine ((newestFirst_sorted createdAt found).and (List.pairwise_map.mp apart)).imp ?_
    exact fun ⟨order, ages⟩ => Std.lt_of_le_of_ne order (Ne.symm ages)

/-- A search that the storage can carry out leaves those rows that it finds, in their order. -/
theorem exists_searched (searchable : IsSearchable search) (texts : α → List String)
    (rows : List α) :
    ∃ found, searched search texts rows = .ok found ∧ found.Sublist rows ∧
      ∀ row, row ∈ found ↔ row ∈ rows ∧ IsFoundIn search (texts row) := by
  cases search with
  | none => exact ⟨rows, rfl, .refl rows, by simp [IsFoundIn]⟩
  | some s =>
    by_cases empty : s = ""
    · subst empty
      exact ⟨rows, rfl, .refl rows, by simp [IsFoundIn]⟩
    · have short : ¬maxPatternSize < patternSize s := Nat.not_lt.mpr (searchable.short s rfl)
      refine ⟨rows.filter fun row => (texts row).any (Text.isFound s), ?_, List.filter_sublist,
        fun row => ?_⟩
      · simp [searched, empty, short]
      · simp [IsFoundIn, empty, Text.isFound_iff (searchable.whole s rfl)]

variable {store : Store}

/-- The pages listed are those of the customer in whose name or slug the search text is found. -/
theorem exists_listPages (ages : (store.pages.map (·.createdAt)).Nodup)
    (searchable : IsSearchable search) (customerId : Option Uuid) :
    ∃ pages, store.listPages customerId search = .ok pages ∧
      Lists (·.createdAt) store.pages (fun page =>
        (∀ id ∈ customerId, page.customerId = id) ∧ IsFoundIn search [page.name, page.slug])
        pages := by
  obtain ⟨found, searches, sub, exact⟩ := exists_searched searchable
    (fun page : Page => [page.name, page.slug])
    (store.pages.filter fun page => customerId.all (page.customerId = ·))
  refine ⟨newestFirst (·.createdAt) found, by rw [listPages, searches]; rfl, ?_⟩
  refine lists_newestFirst (fun page => ?_) ?_
  · rw [exact, List.mem_filter, and_assoc]
    cases customerId <;> simp
  · exact ages.sublist ((sub.trans List.filter_sublist).map _)

/-- The templates listed are those in whose name or description the search text is found. -/
theorem exists_listTemplates (ages : (store.templates.map (·.createdAt)).Nodup)
    (searchable : IsSearchable search) :
    ∃ templates, store.listTemplates search = .ok templates ∧
      Lists (·.createdAt) store.templates (fun template =>
        IsFoundIn search (template.name :: template.description.toList)) templates := by
  obtain ⟨found, searches, sub, exact⟩ := exists_searched searchable
    (fun template : Template => template.name :: template.description.toList) store.templates
  refine ⟨newestFirst (·.createdAt) found, by rw [listTemplates, searches]; rfl, ?_⟩
  exact lists_newestFirst exact (ages.sublist (sub.map _))

end PagePress.Store
