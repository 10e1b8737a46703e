import Mathlib.Data.Option.Basic
import PagePress.Proofs.Store.Table
import PagePress.Store.Write

/-!
# What writing does

For every write to the store: when it takes place, and what the store holds then. Elements are
unique by their place, which is their page together with their key.
-/

namespace PagePress

def Element.place (e : Element) : Uuid × String := (e.pageId, e.key)

/-- The row made of a draft, unless it has no key. -/
def ElementDraft.row? (draft : ElementDraft) (now : Micros) (pageId : Uuid) : Option Element :=
  draft.key.map fun key =>
    { pageId, key, kind := draft.kind, content := draft.content.getD "", label := draft.label,
      createdAt := now, updatedAt := now }

/-- The row made of a draft, unless it lacks a name or a slug. -/
def PageDraft.row? (draft : PageDraft) (now : Micros) (id : Uuid) : Option Page := do
  return {
    id, templateId := draft.templateId, customerId := draft.customerId, name := ← draft.name,
    slug := ← draft.slug, customCss := draft.customCss, theme := none, isPublished := false,
    createdAt := now, updatedAt := now }

/-- The row with new values, unless one is null that may not be. -/
def PageValues.row? (values : PageValues) (now : Micros) (page : Page) : Option Page := do
  return { page with
    name := ← values.name.getD (some page.name)
    slug := ← values.slug.getD (some page.slug)
    customCss := values.customCss.getD page.customCss
    theme := values.theme.getD page.theme
    isPublished := ← values.isPublished.getD (some page.isPublished)
    updatedAt := now }

section Rows

variable {now : Micros}

theorem ElementDraft.row?_eq_some_iff {draft : ElementDraft} {pageId : Uuid} {e : Element} :
    draft.row? now pageId = some e ↔
      draft.key = some e.key ∧
        e = ⟨pageId, e.key, draft.kind, draft.content.getD "", draft.label, now, now⟩ := by
  simp only [row?, Option.map_eq_some_iff]
  constructor
  · rintro ⟨key, hkey, rfl⟩
    exact ⟨hkey, rfl⟩
  · rintro ⟨hkey, he⟩
    exact ⟨e.key, hkey, he.symm⟩

theorem ElementDraft.exists_of_mem_rows {drafts : List ElementDraft} {pageId : Uuid}
    {rows : List Element} (h : drafts.map (·.row? now pageId) = rows.map some) {e : Element}
    (mem : e ∈ rows) : ∃ draft ∈ drafts, draft.row? now pageId = some e := by
  have hmem : some e ∈ drafts.map (·.row? now pageId) := h ▸ List.mem_map_of_mem mem
  exact List.mem_map.mp hmem

theorem PageDraft.row?_eq_some_iff {draft : PageDraft} {id : Uuid} {page : Page} :
    draft.row? now id = some page ↔
      draft.name = some page.name ∧ draft.slug = some page.slug ∧
        page = ⟨id, draft.templateId, draft.customerId, page.name, page.slug, draft.customCss, none,
          false, now, now⟩ := by
  simp only [row?, Option.bind_eq_bind, Option.pure_def, Option.bind_eq_some_iff, Option.some.injEq]
  constructor
  · rintro ⟨name, hname, slug, hslug, rfl⟩
    exact ⟨hname, hslug, rfl⟩
  · rintro ⟨hname, hslug, hpage⟩
    exact ⟨page.name, hname, page.slug, hslug, hpage.symm⟩

/-- New values leave alone what is no value of a page: its identifier, its origin and its owner. -/
theorem PageValues.row?_eq_some_iff {values : PageValues} {old page : Page} :
    values.row? now old = some page ↔
      values.name.getD (some old.name) = some page.name ∧
      values.slug.getD (some old.slug) = some page.slug ∧
      values.isPublished.getD (some old.isPublished) = some page.isPublished ∧
        page = ⟨old.id, old.templateId, old.customerId, page.name, page.slug,
          values.customCss.getD old.customCss, values.theme.getD old.theme, page.isPublished,
          old.createdAt, now⟩ := by
  simp only [row?, Option.bind_eq_bind, Option.pure_def, Option.bind_eq_some_iff, Option.some.injEq]
  constructor
  · rintro ⟨name, hname, slug, hslug, shown, hshown, rfl⟩
    exact ⟨hname, hslug, hshown, rfl⟩
  · rintro ⟨hname, hslug, hshown, hpage⟩
    exact ⟨page.name, hname, page.slug, hslug, page.isPublished, hshown, hpage.symm⟩

end Rows

theorem guard_eq_some_iff {p : Prop} [Decidable p] {done : Unit} :
    (guard p : Option Unit) = some done ↔ p := by
  change (if p then some () else none) = some done ↔ p
  split <;> simp_all

namespace Store

variable {store store' : Store} {now : Micros}

/-! ## Finding rows -/

theorem template?_eq_some {id : Uuid} {template : Template}
    (h : store.template? id = some template) : template ∈ store.templates ∧ template.id = id :=
  ⟨List.mem_of_find?_eq_some h, by simpa using List.find?_some h⟩

theorem customer?_eq_some {id : Uuid} {customer : Customer}
    (h : store.customer? id = some customer) : customer ∈ store.customers ∧ customer.id = id :=
  ⟨List.mem_of_find?_eq_some h, by simpa using List.find?_some h⟩

theorem page?_eq_some {id : Uuid} {page : Page} (h : store.page? id = some page) :
    page ∈ store.pages ∧ page.id = id :=
  ⟨List.mem_of_find?_eq_some h, by simpa using List.find?_some h⟩

theorem page?_eq_none_iff {id : Uuid} :
    store.page? id = none ↔ ∀ page ∈ store.pages, page.id ≠ id := by
  simp [page?]

theorem element?_eq_find? (pageId : Uuid) (key : String) :
    store.element? pageId key = store.elements.find? (·.place = (pageId, key)) := by
  simp [element?, Element.place]

theorem element?_eq_some {pageId : Uuid} {key : String} {e : Element}
    (h : store.element? pageId key = some e) :
    e ∈ store.elements ∧ e.pageId = pageId ∧ e.key = key :=
  ⟨List.mem_of_find?_eq_some h, by simpa using List.find?_some h⟩

theorem element?_eq_none_iff {pageId : Uuid} {key : String} :
    store.element? pageId key = none ↔ ∀ e ∈ store.elements, e.place ≠ (pageId, key) := by
  simp [element?_eq_find?]

theorem isSlugTaken_eq_false_iff {slug : String} {except : Option Uuid} :
    store.isSlugTaken slug except = false ↔
      ∀ page ∈ store.pages, page.slug = slug → some page.id = except := by
  simp [isSlugTaken]

/-! ## Writing -/

theorem insertCustomer_eq_some_iff {id : Uuid} {name email : Option String} {customer : Customer} :
    store.insertCustomer now id name email = some (customer, store') ↔
      name = some customer.name ∧ email = some customer.email ∧
        customer = ⟨id, customer.name, customer.email, now⟩ ∧
        (∀ c ∈ store.customers, c.email ≠ customer.email) ∧
        store' = { store with customers := store.customers ++ [customer] } := by
  simp only [insertCustomer, Option.bind_eq_bind, Option.pure_def, Option.bind_eq_some_iff]
  constructor
  · rintro ⟨name, rfl, email, rfl, ⟨⟩, free, written⟩
    simp only [Option.some.injEq, Prod.mk.injEq] at written
    obtain ⟨rfl, rfl⟩ := written
    refine ⟨rfl, rfl, rfl, ?_, rfl⟩
    simpa using guard_eq_some_iff.1 free
  · rintro ⟨rfl, rfl, hc, free, rfl⟩
    refine ⟨_, rfl, _, rfl, (), guard_eq_some_iff.2 ?_, ?_⟩
    · simpa using free
    · rw [← hc]

theorem insertElement_eq_some_iff {pageId : Uuid} {draft : ElementDraft} {e : Element} :
    store.insertElement now pageId draft = some (e, store') ↔
      draft.row? now pageId = some e ∧ (∀ old ∈ store.elements, old.place ≠ e.place) ∧
        store' = { store with elements := store.elements ++ [e] } := by
  simp only [insertElement, Option.bind_eq_bind, Option.pure_def, Option.bind_eq_some_iff,
    ElementDraft.row?, Option.map_eq_some_iff]
  constructor
  · rintro ⟨key, hkey, ⟨⟩, free, written⟩
    simp only [Option.some.injEq, Prod.mk.injEq] at written
    obtain ⟨rfl, rfl⟩ := written
    refine ⟨⟨key, hkey, rfl⟩, ?_, rfl⟩
    simpa [element?_eq_find?, Element.place] using guard_eq_some_iff.1 free
  · rintro ⟨⟨key, hkey, rfl⟩, free, rfl⟩
    refine ⟨key, hkey, (), guard_eq_some_iff.2 ?_, rfl⟩
    simpa [element?_eq_find?, Element.place] using free

/-- Elements are added together exactly if each of them has a key and no two elements are at one
place then. -/
theorem insertElements_eq_some_iff {pageId : Uuid} {drafts : List ElementDraft}
    (unique : Table.Unique Element.place store.elements) :
    store.insertElements now pageId drafts = some store' ↔
      ∃ rows, drafts.map (·.row? now pageId) = rows.map some ∧
        Table.Unique Element.place (store.elements ++ rows) ∧
        store' = { store with elements := store.elements ++ rows } := by
  induction drafts generalizing store with
  | nil =>
    simp only [insertElements, List.foldlM_nil, Option.pure_def, Option.some.injEq, List.map_nil]
    constructor
    · rintro rfl
      exact ⟨[], rfl, by simpa using unique, by simp⟩
    · rintro ⟨rows, hrows, -, rfl⟩
      obtain rfl : rows = [] := List.map_eq_nil_iff.mp hrows.symm
      simp
  | cons draft drafts ih =>
    simp only [insertElements, List.foldlM_cons, Option.bind_eq_bind, Option.bind_eq_some_iff,
      Option.map_eq_some_iff, Prod.exists, exists_eq_right] at ih ⊢
    constructor
    · rintro ⟨mid, ⟨e, he⟩, hrest⟩
      obtain ⟨hrow, free, rfl⟩ := insertElement_eq_some_iff.1 he
      obtain ⟨rows, hrows, hunique, rfl⟩ := (ih (unique.append_singleton free)).mp hrest
      exact ⟨e :: rows, by simp [hrow, hrows], by simpa using hunique, by simp⟩
    · rintro ⟨rows, hrows, hunique, rfl⟩
      cases rows with
      | nil => simp at hrows
      | cons e rows =>
        obtain ⟨hrow, hrows⟩ := List.cons.inj hrows
        have hsplit : store.elements ++ e :: rows = (store.elements ++ [e]) ++ rows := by simp
        rw [hsplit] at hunique
        have hmid : Table.Unique Element.place (store.elements ++ [e]) :=
          List.Nodup.sublist ((List.sublist_append_left _ rows).map _) hunique
        refine ⟨{ store with elements := store.elements ++ [e] }, ⟨e, ?_⟩, ?_⟩
        · exact insertElement_eq_some_iff.2
            ⟨hrow, (Table.unique_append_singleton.1 hmid).2, rfl⟩
        · exact (ih hmid).mpr ⟨rows, hrows, hunique, by simp⟩

theorem insertPage_eq_some_iff {id : Uuid} {draft : PageDraft} {page : Page}
    (unique : Table.Unique Element.place store.elements) :
    store.insertPage now id draft = some (page, store') ↔
      draft.row? now id = some page ∧ (∀ old ∈ store.pages, old.slug ≠ page.slug) ∧
      ∃ rows, draft.elements.map (·.row? now id) = rows.map some ∧
        Table.Unique Element.place (store.elements ++ rows) ∧
        store' = { store with
          pages := store.pages ++ [page], elements := store.elements ++ rows } := by
  simp only [insertPage, Option.bind_eq_bind, Option.pure_def, Option.bind_eq_some_iff,
    PageDraft.row?, Option.some.injEq, Prod.mk.injEq]
  constructor
  · rintro ⟨name, hname, slug, hslug, ⟨⟩, free, mid, hmid, rfl, rfl⟩
    obtain ⟨rows, hrows, hunique, rfl⟩ := (insertElements_eq_some_iff unique).mp hmid
    refine ⟨⟨name, hname, slug, hslug, rfl⟩, ?_, rows, hrows, hunique, rfl⟩
    simpa [isSlugTaken_eq_false_iff] using guard_eq_some_iff.1 free
  · rintro ⟨⟨name, hname, slug, hslug, rfl⟩, free, rows, hrows, hunique, rfl⟩
    refine ⟨name, hname, slug, hslug, (), guard_eq_some_iff.2 ?_, _,
      (insertElements_eq_some_iff unique).mpr ⟨rows, hrows, hunique, rfl⟩, rfl, rfl⟩
    simpa [isSlugTaken_eq_false_iff] using free

theorem updatePage_eq_some_iff {values : PageValues} {old page : Page} :
    store.updatePage now old values = some (page, store') ↔
      values.row? now old = some page ∧
        (∀ other ∈ store.pages, other.slug = page.slug → other.id = page.id) ∧
        store' = store.replacePage page := by
  simp only [updatePage, Option.bind_eq_bind, Option.pure_def, Option.bind_eq_some_iff,
    PageValues.row?, Option.some.injEq, Prod.mk.injEq]
  constructor
  · rintro ⟨name, hname, slug, hslug, shown, hshown, ⟨⟩, free, rfl, rfl⟩
    refine ⟨⟨name, hname, slug, hslug, shown, hshown, rfl⟩, ?_, rfl⟩
    simpa [isSlugTaken_eq_false_iff] using guard_eq_some_iff.1 free
  · rintro ⟨⟨name, hname, slug, hslug, shown, hshown, rfl⟩, free, rfl⟩
    refine ⟨name, hname, slug, hslug, shown, hshown, (), guard_eq_some_iff.2 ?_, rfl, rfl⟩
    simpa [isSlugTaken_eq_false_iff] using free

theorem setContent_eq_some_iff {pageId : Uuid} {key content : String} {e : Element} :
    store.setContent now pageId key content = some (e, store') ↔
      ∃ old, store.element? pageId key = some old ∧
        e = { old with content, updatedAt := now } ∧
        store' = { store with
          elements := store.elements.map fun old =>
            if old.place = (pageId, key) then e else old } := by
  simp only [setContent, Option.bind_eq_bind, Option.pure_def, Option.bind_eq_some_iff,
    Option.some.injEq, Prod.mk.injEq, Element.place]
  constructor
  · rintro ⟨old, hold, rfl, rfl⟩
    exact ⟨old, hold, rfl, rfl⟩
  · rintro ⟨old, hold, rfl, rfl⟩
    exact ⟨old, hold, rfl, rfl⟩

theorem touchElement_of_held {pageId : Uuid} {key : String} {old : Element}
    (held : store.element? pageId key = some old) :
    store.touchElement now pageId key = store.setContent now pageId key old.content := by
  rw [touchElement, held]
  rfl

theorem eraseElement_elements (pageId : Uuid) (key : String) :
    (store.eraseElement pageId key).elements =
      store.elements.filter (·.place ≠ (pageId, key)) := by
  simp [eraseElement, Element.place]

end Store

end PagePress
