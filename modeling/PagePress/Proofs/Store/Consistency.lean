import PagePress.Proofs.Store.Writing

/-!
# Consistency

A store is consistent if its keys are unique: identifiers, the emails of customers, the slugs of
pages, and the places of elements. Every write keeps this up as long as what is new gets an
identifier of its own, whatever else is written.
-/

namespace PagePress.Store

/-- All keys are unique. -/
structure Consistent (store : Store) : Prop where
  customerIds : Table.Unique (·.id) store.customers
  emails : Table.Unique (·.email) store.customers
  templateIds : Table.Unique (·.id) store.templates
  pageIds : Table.Unique (·.id) store.pages
  slugs : Table.Unique (·.slug) store.pages
  places : Table.Unique Element.place store.elements

namespace Consistent

variable {store store' : Store} {now : Micros}

theorem empty : Consistent {} where
  customerIds := .nil
  emails := .nil
  templateIds := .nil
  pageIds := .nil
  slugs := .nil
  places := .nil

section Find

variable (h : store.Consistent)
include h

theorem template?_eq_some_iff {id : Uuid} {template : Template} :
    store.template? id = some template ↔ template ∈ store.templates ∧ template.id = id :=
  h.templateIds.find?_eq_some_iff

theorem page?_eq_some_iff {id : Uuid} {page : Page} :
    store.page? id = some page ↔ page ∈ store.pages ∧ page.id = id :=
  h.pageIds.find?_eq_some_iff

theorem pageWithSlug?_eq_some_iff {slug : String} {page : Page} :
    store.pageWithSlug? slug = some page ↔ page ∈ store.pages ∧ page.slug = slug :=
  h.slugs.find?_eq_some_iff

theorem element?_eq_some_iff {pageId : Uuid} {key : String} {e : Element} :
    store.element? pageId key = some e ↔ e ∈ store.elements ∧ e.place = (pageId, key) := by
  rw [element?_eq_find?]
  exact h.places.find?_eq_some_iff

end Find

/-! ## Writing -/

theorem insertCustomer (h : store.Consistent) {id : Uuid} {name email : Option String}
    {customer : Customer} (new : ∀ c ∈ store.customers, c.id ≠ id)
    (written : store.insertCustomer now id name email = some (customer, store')) :
    store'.Consistent := by
  obtain ⟨-, -, hc, free, rfl⟩ := insertCustomer_eq_some_iff.1 written
  have hid : customer.id = id := by rw [hc]
  exact { h with
    customerIds := h.customerIds.append_singleton fun c mem => hid ▸ new c mem
    emails := h.emails.append_singleton free }

theorem insertTemplate (h : store.Consistent) {template : Template}
    (new : ∀ t ∈ store.templates, t.id ≠ template.id) :
    (store.insertTemplate template).Consistent :=
  { h with templateIds := h.templateIds.append_singleton new }

theorem replaceTemplate (h : store.Consistent) (template : Template) :
    (store.replaceTemplate template).Consistent := by
  have ids : (store.replaceTemplate template).templates.map (·.id) = store.templates.map (·.id) :=
    Table.map_replace fun _ _ same => same.symm
  exact { h with templateIds := by rw [Table.Unique, ids]; exact h.templateIds }

theorem eraseTemplate (h : store.Consistent) (id : Uuid) : (store.eraseTemplate id).Consistent :=
  { h with templateIds := h.templateIds.filter _ }

theorem insertElement (h : store.Consistent) {pageId : Uuid} {draft : ElementDraft} {e : Element}
    (written : store.insertElement now pageId draft = some (e, store')) : store'.Consistent := by
  obtain ⟨-, free, rfl⟩ := insertElement_eq_some_iff.1 written
  exact { h with places := h.places.append_singleton free }

theorem insertPage (h : store.Consistent) {id : Uuid} {draft : PageDraft} {page : Page}
    (new : ∀ p ∈ store.pages, p.id ≠ id)
    (written : store.insertPage now id draft = some (page, store')) : store'.Consistent := by
  obtain ⟨hrow, free, rows, -, places, rfl⟩ := (insertPage_eq_some_iff h.places).mp written
  have hid : page.id = id := by rw [(PageDraft.row?_eq_some_iff.1 hrow).2.2]
  exact { h with
    pageIds := h.pageIds.append_singleton fun p mem => hid ▸ new p mem
    slugs := h.slugs.append_singleton free
    places }

theorem updatePage (h : store.Consistent) {values : PageValues} {old page : Page}
    (written : store.updatePage now old values = some (page, store')) : store'.Consistent := by
  obtain ⟨-, free, rfl⟩ := updatePage_eq_some_iff.1 written
  have ids : (store.replacePage page).pages.map (·.id) = store.pages.map (·.id) :=
    Table.map_replace fun _ _ same => same.symm
  refine { h with pageIds := ?_, slugs := ?_ }
  · rw [Table.Unique, ids]
    exact h.pageIds
  · -- by the uniqueness of identifiers at most one row is replaced
    refine h.slugs.replace (fun a ha b hb hida hidb => ?_) free
    rw [h.pageIds.eq_of_mem ha hb (hida.trans hidb.symm)]

theorem erasePage (h : store.Consistent) (id : Uuid) : (store.erasePage id).Consistent :=
  { h with
    pageIds := h.pageIds.filter _
    slugs := h.slugs.filter _
    places := h.places.filter _ }

theorem setContent (h : store.Consistent) {pageId : Uuid} {key content : String} {e : Element}
    (written : store.setContent now pageId key content = some (e, store')) :
    store'.Consistent := by
  obtain ⟨old, hold, he, rfl⟩ := setContent_eq_some_iff.1 written
  have hplace : e.place = (pageId, key) := by
    rw [he]
    exact (h.element?_eq_some_iff.1 hold).2
  have places : (store.elements.map fun old => if old.place = (pageId, key) then e else old).map
      Element.place = store.elements.map Element.place :=
    Table.map_replace fun _ _ same => hplace.trans same.symm
  exact { h with places := by rw [Table.Unique, places]; exact h.places }

theorem eraseElement (h : store.Consistent) (pageId : Uuid) (key : String) :
    (store.eraseElement pageId key).Consistent :=
  { h with places := h.places.filter _ }

end Consistent

end PagePress.Store
