import PagePress.Proofs.Store.Writing

/-!
# Finding rows after a write

What is found in a store after a write, told by what was found before.
-/

namespace PagePress.Store

variable {store : Store} {pageId : Uuid} {key : String}

/-! ## Elements -/

theorem element?_append_singleton {e : Element} (free : store.element? e.pageId e.key = none)
    (pageId : Uuid) (key : String) :
    { store with elements := store.elements ++ [e] }.element? pageId key =
      if e.place = (pageId, key) then some e else store.element? pageId key := by
  rw [element?_eq_find?, element?_eq_find?]
  exact Table.find?_append_singleton (element?_eq_none_iff.mp free) _

/-- An element in the place of the one with its key is found where that one was. -/
theorem element?_replace {e : Element} {place : Uuid × String} (own : e.place = place)
    (pageId : Uuid) (key : String) :
    { store with
        elements := store.elements.map fun old : Element =>
          if old.place = place then e else old }.element? pageId key =
      (store.element? pageId key).map fun old => if old.place = place then e else old := by
  rw [element?_eq_find?, element?_eq_find?]
  exact Table.find?_replace (fun _ _ same => own.trans same.symm) _

theorem element?_eraseElement_self (pageId : Uuid) (key : String) :
    (store.eraseElement pageId key).element? pageId key = none := by
  rw [element?_eq_find?, eraseElement_elements]
  exact Table.find?_filter_of_gone fun e _ own => by simp [own]

theorem element?_eraseElement_of_ne {pageId' : Uuid} {key' : String}
    (other : (pageId', key') ≠ (pageId, key)) :
    (store.eraseElement pageId key).element? pageId' key' = store.element? pageId' key' := by
  rw [element?_eq_find?, element?_eq_find?, eraseElement_elements]
  exact Table.find?_filter_of_kept fun e _ own => decide_eq_true (own ▸ other)

theorem element?_erasePage_of_ne {id : Uuid} (other : pageId ≠ id) (key : String) :
    (store.erasePage id).element? pageId key = store.element? pageId key := by
  rw [element?_eq_find?, element?_eq_find?]
  refine Table.find?_filter_of_kept fun e _ own => ?_
  have own : e.pageId = pageId := congrArg Prod.fst own
  simpa [own] using other

/-- Elements of other pages are not found among those of a page. -/
theorem element?_append_of_ne {rows : List Element} {id : Uuid} (own : ∀ e ∈ rows, e.pageId = id)
    (other : pageId ≠ id) (key : String) (pages : List Page) :
    { store with pages, elements := store.elements ++ rows }.element? pageId key =
      store.element? pageId key := by
  have none : rows.find? (·.place = (pageId, key)) = none := by
    refine List.find?_eq_none.mpr fun e mem same => other ?_
    have same : e.pageId = pageId := congrArg Prod.fst (of_decide_eq_true same)
    exact same.symm.trans (own e mem)
  rw [element?_eq_find?, element?_eq_find?, List.find?_append, none, Option.or_none]

/-! ## Pages -/

theorem page?_append_singleton {page : Page} (new : store.page? page.id = none) (id : Uuid)
    (elements : List Element) :
    { store with pages := store.pages ++ [page], elements }.page? id =
      if page.id = id then some page else store.page? id :=
  Table.find?_append_singleton (page?_eq_none_iff.mp new) id

theorem page?_replacePage (page : Page) (id : Uuid) :
    (store.replacePage page).page? id =
      (store.page? id).map fun old => if old.id = page.id then page else old :=
  Table.find?_replace (fun _ _ same => same.symm) id

theorem page?_erasePage_self (id : Uuid) : (store.erasePage id).page? id = none :=
  Table.find?_filter_of_gone fun page _ same => by simp [same]

theorem page?_erasePage_of_ne {id other : Uuid} (ne : other ≠ id) :
    (store.erasePage id).page? other = store.page? other :=
  Table.find?_filter_of_kept fun page _ same => by simpa [same] using ne

/-! ## Templates -/

theorem template?_insertTemplate {template found : Template} {id : Uuid}
    (h : store.template? id = some found) :
    (store.insertTemplate template).template? id = some found := by
  simp only [template?, insertTemplate, List.find?_append] at h ⊢
  rw [h, Option.some_or]

end PagePress.Store
