import Mathlib.Data.Set.List
import PagePress.Proofs.Store.Consistency

/-!
# The constraints of the storage

What a write would leave in the tables is told by *loose* rows, in which also those columns can be
null that may not be. The storage has the constraints that such columns are not null, and that the
values in a unique column differ where they are not null. A page with its elements, or new values of
a page, are written exactly if the tables that they would leave keep all constraints, and then these
are the tables that are left.
-/

namespace PagePress

/-- A row of the table of pages, with null allowed everywhere. -/
structure LoosePage where
  id : Uuid
  templateId : Uuid
  customerId : Uuid
  name : Option String
  slug : Option String
  customCss : Option String
  theme : Option String
  isPublished : Option Bool
  createdAt : Micros
  updatedAt : Micros
deriving DecidableEq, Repr

/-- A row of the table of elements, with null allowed for the key. -/
structure LooseElement where
  pageId : Uuid
  key : Option String
  kind : ElementKind
  content : String
  label : Option String
  createdAt : Micros
  updatedAt : Micros
deriving DecidableEq, Repr

structure LooseTables where
  pages : List LoosePage
  elements : List LooseElement
deriving DecidableEq, Repr

/-- The constraints of the storage. Null is never the same as another null. -/
structure LooseTables.AreAllowed (tables : LooseTables) : Prop where
  names : ∀ page ∈ tables.pages, page.name ≠ none
  slugs : ∀ page ∈ tables.pages, page.slug ≠ none
  published : ∀ page ∈ tables.pages, page.isPublished ≠ none
  keys : ∀ e ∈ tables.elements, e.key ≠ none
  uniqueIds : (tables.pages.map (·.id)).Nodup
  uniqueSlugs : (tables.pages.filterMap (·.slug)).Nodup
  uniquePlaces : (tables.elements.filterMap fun e => e.key.map fun key => (e.pageId, key)).Nodup

instance (tables : LooseTables) : Decidable tables.AreAllowed :=
  decidable_of_iff
    ((∀ page ∈ tables.pages, page.name ≠ none ∧ page.slug ≠ none ∧ page.isPublished ≠ none) ∧
      (∀ e ∈ tables.elements, e.key ≠ none) ∧ (tables.pages.map (·.id)).Nodup ∧
      (tables.pages.filterMap (·.slug)).Nodup ∧
      (tables.elements.filterMap fun e => e.key.map fun key => (e.pageId, key)).Nodup)
    ⟨fun ⟨pages, keys, uniqueIds, uniqueSlugs, uniquePlaces⟩ =>
      { names := fun page mem => (pages page mem).1
        slugs := fun page mem => (pages page mem).2.1
        published := fun page mem => (pages page mem).2.2
        keys, uniqueIds, uniqueSlugs, uniquePlaces },
    fun h => ⟨fun page mem => ⟨h.names page mem, h.slugs page mem, h.published page mem⟩, h.keys,
      h.uniqueIds, h.uniqueSlugs, h.uniquePlaces⟩⟩

/-! ## Rows that are stored -/

def Page.loose (page : Page) : LoosePage :=
  { page with
    name := some page.name
    slug := some page.slug
    isPublished := some page.isPublished }

def Element.loose (e : Element) : LooseElement := { e with key := some e.key }

def Store.loose (store : Store) : LooseTables where
  pages := store.pages.map Page.loose
  elements := store.elements.map Element.loose

theorem Page.loose_injective : Function.Injective Page.loose := by
  intro page other same
  cases page
  cases other
  simpa [loose] using same

theorem Element.loose_injective : Function.Injective Element.loose := by
  intro e other same
  cases e
  cases other
  simpa [loose] using same

theorem LoosePage.exists_loose {row : LoosePage} (hasName : row.name ≠ none)
    (hasSlug : row.slug ≠ none) (isTold : row.isPublished ≠ none) :
    ∃ page : Page, page.loose = row := by
  obtain ⟨name, hname⟩ := Option.ne_none_iff_exists.mp hasName
  obtain ⟨slug, hslug⟩ := Option.ne_none_iff_exists.mp hasSlug
  obtain ⟨isPublished, hshown⟩ := Option.ne_none_iff_exists.mp isTold
  refine ⟨{ row with name, slug, isPublished }, ?_⟩
  simp only [Page.loose, hname, hslug, hshown]

theorem LooseElement.exists_loose {row : LooseElement} (hasKey : row.key ≠ none) :
    ∃ e : Element, e.loose = row := by
  obtain ⟨key, hkey⟩ := Option.ne_none_iff_exists.mp hasKey
  refine ⟨{ row with key }, ?_⟩
  simp only [Element.loose, hkey]

/-- Tables that keep the constraints are made of rows in which nothing is null that may not be, and
in which the keys are unique. -/
theorem LooseTables.areAllowed_iff {tables : LooseTables} :
    tables.AreAllowed ↔ ∃ pages elements,
      tables = ⟨pages.map Page.loose, elements.map Element.loose⟩ ∧
        Table.Unique (·.id) pages ∧ Table.Unique (·.slug) pages ∧
        Table.Unique Element.place elements := by
  have ids (pages : List Page) : (pages.map Page.loose).map (·.id) = pages.map (·.id) := by
    rw [List.map_map]
    rfl
  have slugs (pages : List Page) :
      (pages.map Page.loose).filterMap (·.slug) = pages.map (·.slug) := by
    rw [List.filterMap_map, ← List.filterMap_eq_map]
    rfl
  have places (elements : List Element) : ((elements.map Element.loose).filterMap fun e =>
      e.key.map fun key => (e.pageId, key)) = elements.map Element.place := by
    rw [List.filterMap_map, ← List.filterMap_eq_map]
    rfl
  constructor
  · intro allowed
    obtain ⟨pages, hpages⟩ : tables.pages ∈ Set.range (List.map Page.loose) := by
      rw [Set.range_list_map]
      intro row mem
      exact LoosePage.exists_loose (allowed.names row mem) (allowed.slugs row mem)
        (allowed.published row mem)
    obtain ⟨elements, helements⟩ : tables.elements ∈ Set.range (List.map Element.loose) := by
      rw [Set.range_list_map]
      intro row mem
      exact LooseElement.exists_loose (allowed.keys row mem)
    refine ⟨pages, elements, by rw [hpages, helements], ?_, ?_, ?_⟩
    · rw [Table.Unique, ← ids, hpages]
      exact allowed.uniqueIds
    · rw [Table.Unique, ← slugs, hpages]
      exact allowed.uniqueSlugs
    · rw [Table.Unique, ← places, helements]
      exact allowed.uniquePlaces
  · rintro ⟨pages, elements, rfl, uniqueIds, uniqueSlugs, uniquePlaces⟩
    exact {
      names := by simp [Page.loose]
      slugs := by simp [Page.loose]
      published := by simp [Page.loose]
      keys := by simp [Element.loose]
      uniqueIds := by rw [ids]; exact uniqueIds
      uniqueSlugs := by rw [slugs]; exact uniqueSlugs
      uniquePlaces := by rw [places]; exact uniquePlaces }

theorem Store.Consistent.areAllowed {store : Store} (h : store.Consistent) :
    store.loose.AreAllowed :=
  LooseTables.areAllowed_iff.2 ⟨_, _, rfl, h.pageIds, h.slugs, h.places⟩

/-! ## Rows that are to be stored -/

def PageDraft.loose (draft : PageDraft) (now : Micros) (id : Uuid) : LoosePage :=
  ⟨id, draft.templateId, draft.customerId, draft.name, draft.slug, draft.customCss, none,
    some false, now, now⟩

def ElementDraft.loose (draft : ElementDraft) (now : Micros) (pageId : Uuid) : LooseElement :=
  ⟨pageId, draft.key, draft.kind, draft.content.getD "", draft.label, now, now⟩

def PageValues.loose (values : PageValues) (now : Micros) (page : Page) : LoosePage :=
  { page.loose with
    name := values.name.getD (some page.name)
    slug := values.slug.getD (some page.slug)
    customCss := values.customCss.getD page.customCss
    theme := values.theme.getD page.theme
    isPublished := values.isPublished.getD (some page.isPublished)
    updatedAt := now }

section Rows

variable {now : Micros}

theorem PageDraft.row?_eq_some_iff_loose {draft : PageDraft} {id : Uuid} {page : Page} :
    draft.row? now id = some page ↔ page.loose = draft.loose now id := by
  rw [row?_eq_some_iff]
  cases page
  simp only [Page.loose, loose, LoosePage.mk.injEq, Page.mk.injEq]
  grind

theorem ElementDraft.row?_eq_some_iff_loose {draft : ElementDraft} {pageId : Uuid} {e : Element} :
    draft.row? now pageId = some e ↔ e.loose = draft.loose now pageId := by
  rw [row?_eq_some_iff]
  cases e
  simp only [Element.loose, loose, LooseElement.mk.injEq, Element.mk.injEq]
  grind

theorem ElementDraft.rows_iff_loose {drafts : List ElementDraft} {pageId : Uuid}
    {rows : List Element} :
    drafts.map (·.row? now pageId) = rows.map some ↔
      rows.map Element.loose = drafts.map (·.loose now pageId) := by
  induction drafts generalizing rows with
  | nil => cases rows <;> simp
  | cons draft drafts ih =>
    cases rows with
    | nil => simp
    | cons row rows =>
      simp only [List.map_cons, List.cons.injEq, ih, row?_eq_some_iff_loose]

theorem PageValues.row?_eq_some_iff_loose {values : PageValues} {old page : Page} :
    values.row? now old = some page ↔ page.loose = values.loose now old := by
  rw [row?_eq_some_iff]
  cases page
  simp only [Page.loose, loose, LoosePage.mk.injEq, Page.mk.injEq]
  grind

end Rows

namespace Store

def withDraft (store : Store) (now : Micros) (id : Uuid) (draft : PageDraft) : LooseTables where
  pages := store.loose.pages ++ [draft.loose now id]
  elements := store.loose.elements ++ draft.elements.map (·.loose now id)

def withValues (store : Store) (now : Micros) (page : Page) (values : PageValues) :
    LooseTables where
  pages := store.pages.map fun old => if old.id = page.id then values.loose now page else old.loose
  elements := store.loose.elements

variable {store store' : Store} {now : Micros} {id : Uuid} {draft : PageDraft} {page : Page}
  {values : PageValues}

/-- Whether a slug that may be null is held by a page, not counting the page `except`. -/
theorem any_isSlugTaken_iff {slug : Option String} {except : Option Uuid} :
    slug.any (store.isSlugTaken · except) = true ↔
      ∃ other ∈ store.pages, slug = some other.slug ∧ some other.id ≠ except := by
  cases slug with
  | none => simp
  | some slug =>
    simp only [Option.any_some, isSlugTaken, List.any_eq_true, Bool.and_eq_true,
      decide_eq_true_eq, bne_iff_ne, Option.some.injEq]
    simp only [eq_comm (a := slug)]

/-! ## Adding a page -/

theorem loose_insertPage (consistent : store.Consistent)
    (written : store.insertPage now id draft = some (page, store')) :
    page.loose = draft.loose now id ∧ store'.loose = store.withDraft now id draft ∧
      store'.customers = store.customers ∧ store'.templates = store.templates := by
  obtain ⟨row, -, rows, made, -, rfl⟩ := (insertPage_eq_some_iff consistent.places).mp written
  have page := PageDraft.row?_eq_some_iff_loose.1 row
  have elements := ElementDraft.rows_iff_loose.1 made
  refine ⟨page, ?_, rfl, rfl⟩
  simp only [loose, withDraft, List.map_append, List.map_singleton, page, elements]

/-- A page is added exactly if all constraints are kept. -/
theorem exists_insertPage_iff (consistent : store.Consistent)
    (new : ∀ page ∈ store.pages, page.id ≠ id) :
    (∃ page store', store.insertPage now id draft = some (page, store')) ↔
      (store.withDraft now id draft).AreAllowed := by
  constructor
  · rintro ⟨page, store', written⟩
    obtain ⟨-, tables, -, -⟩ := loose_insertPage consistent written
    rw [← tables]
    exact (consistent.insertPage new written).areAllowed
  · intro allowed
    obtain ⟨pages, elements, tables, -, slugs, places⟩ := LooseTables.areAllowed_iff.1 allowed
    obtain ⟨hpages, helements⟩ := LooseTables.mk.inj tables
    obtain ⟨oldPages, newPages, rfl, sameOld, isNew⟩ := List.map_eq_append_iff.mp hpages.symm
    obtain ⟨page, rfl, row⟩ := List.map_eq_singleton_iff.mp isNew
    obtain ⟨oldElements, rows, rfl, sameElements, made⟩ :=
      List.map_eq_append_iff.mp helements.symm
    obtain rfl := List.map_injective_iff.mpr Page.loose_injective sameOld
    obtain rfl := List.map_injective_iff.mpr Element.loose_injective sameElements
    exact ⟨page, _, (insertPage_eq_some_iff consistent.places).mpr
      ⟨PageDraft.row?_eq_some_iff_loose.2 row, (Table.unique_append_singleton.1 slugs).2, rows,
        ElementDraft.rows_iff_loose.2 made, places, rfl⟩⟩

/-! ## Changing a page -/

/-- The tables with one row replaced. -/
theorem loose_replacePage (changed : Page) (own : changed.id = page.id)
    (row : changed.loose = values.loose now page) :
    (store.replacePage changed).loose = store.withValues now page values := by
  simp only [loose, withValues, replacePage, List.map_map, LooseTables.mk.injEq, and_true]
  apply List.map_congr_left
  intro old _
  simp only [Function.comp_apply, apply_ite Page.loose, own, row]

theorem loose_updatePage {changed : Page}
    (written : store.updatePage now page values = some (changed, store')) :
    changed.loose = values.loose now page ∧ store'.loose = store.withValues now page values ∧
      store'.customers = store.customers ∧ store'.templates = store.templates := by
  obtain ⟨row, -, rfl⟩ := updatePage_eq_some_iff.1 written
  have row := PageValues.row?_eq_some_iff_loose.1 row
  exact ⟨row, loose_replacePage changed (congrArg LoosePage.id row) row, rfl, rfl⟩

/-- A page gets new values exactly if all constraints are kept. -/
theorem exists_updatePage_iff (consistent : store.Consistent) (mem : page ∈ store.pages) :
    (∃ changed store', store.updatePage now page values = some (changed, store')) ↔
      (store.withValues now page values).AreAllowed := by
  constructor
  · rintro ⟨changed, store', written⟩
    obtain ⟨-, tables, -, -⟩ := loose_updatePage written
    rw [← tables]
    exact (consistent.updatePage written).areAllowed
  · intro allowed
    obtain ⟨changed, row⟩ : ∃ changed : Page, changed.loose = values.loose now page := by
      have written : values.loose now page ∈ (store.withValues now page values).pages :=
        List.mem_map.mpr ⟨page, mem, if_pos rfl⟩
      exact LoosePage.exists_loose (allowed.names _ written) (allowed.slugs _ written)
        (allowed.published _ written)
    have own : changed.id = page.id := congrArg LoosePage.id row
    rw [← loose_replacePage changed own row] at allowed
    obtain ⟨pages, elements, tables, -, slugs, -⟩ := LooseTables.areAllowed_iff.1 allowed
    obtain ⟨hpages, -⟩ := LooseTables.mk.inj tables
    obtain rfl := List.map_injective_iff.mpr Page.loose_injective hpages
    refine ⟨changed, _, updatePage_eq_some_iff.2
      ⟨PageValues.row?_eq_some_iff_loose.2 row, ?_, rfl⟩⟩
    intro other hother sameSlug
    by_contra apart
    -- both rows are in the table that is left, where no two have one slug
    have left : other ∈ (store.replacePage changed).pages :=
      List.mem_map.mpr ⟨other, hother, if_neg apart⟩
    have here : changed ∈ (store.replacePage changed).pages :=
      List.mem_map.mpr ⟨page, mem, if_pos own.symm⟩
    exact apart (congrArg Page.id (slugs.eq_of_mem left here sameSlug))

end Store

end PagePress
