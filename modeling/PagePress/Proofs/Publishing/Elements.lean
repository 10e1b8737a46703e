import PagePress.Proofs.Store.Writing
import PagePress.Publishing.Elements

/-!
# How operations on elements come out

What the operations on the elements of a page give: nothing but a refusal if there is no page, and
otherwise what follows from the element that is there.
-/

namespace PagePress.Publishing

def requested (now : Micros) (pageId : Uuid) (data : NewElement) : Element :=
  let draft := draftElement data
  ⟨pageId, data.key, draft.kind, draft.content.getD "", draft.label, now, now⟩

variable {store : Store} {pageId : Uuid} {now : Micros}

section Missing

variable (missing : store.page? pageId = none)
include missing

theorem getPage_of_missing : getPage store pageId = refuse .pageNotFound := by
  rw [getPage, missing]
  rfl

theorem getElements_of_missing : getElements store pageId = refuse .pageNotFound := by
  rw [getElements, getPage_of_missing missing]
  rfl

theorem setContent_of_missing (key content : String) :
    setContent store now pageId key content = refuse .pageNotFound := by
  rw [setContent, planContent, getPage_of_missing missing]
  rfl

theorem createElement_of_missing (data : NewElement) :
    createElement store now pageId data = refuse .pageNotFound := by
  rw [createElement, getPage_of_missing missing]
  rfl

theorem deleteElement_of_missing (key : String) :
    deleteElement store pageId key = refuse .pageNotFound := by
  rw [deleteElement, getPage_of_missing missing]
  rfl

end Missing

section Found

variable {page : Page} (found : store.page? pageId = some page)
include found

theorem getPage_of_found : getPage store pageId = .ok page := by
  rw [getPage, found]
  rfl

theorem id_of_found : page.id = pageId := (Store.page?_eq_some found).2

theorem getElements_of_found : getElements store pageId = .ok (store.elementsOf pageId) := by
  rw [getElements, getPage_of_found found]
  exact congrArg (fun id => Except.ok (store.elementsOf id)) (id_of_found found)

theorem deletePage_of_found : deletePage store pageId = .ok (store.erasePage pageId) := by
  rw [deletePage, getPage_of_found found]
  exact congrArg (fun id => Except.ok (store.erasePage id)) (id_of_found found)

theorem planContent_of_found (key content : String) :
    planContent store pageId key content =
      match store.element? pageId key with
      | some old => .ok <|
          if old.content = content then .touch pageId key else .setContent pageId key content
      | none => .ok (.insert pageId { key := some key, content := some content }) := by
  obtain rfl := id_of_found found
  rw [planContent, getPage_of_found found]
  simp only [bind, Except.bind]
  cases store.element? page.id key with
  | none => rfl
  | some old => exact (apply_ite Except.ok _ _ _).symm

/-- An element that is there gets the content, and keeps its kind and its label. -/
theorem setContent_of_held {key : String} {old : Element}
    (held : store.element? pageId key = some old) (content : String) :
    setContent store now pageId key content =
      .ok ({ old with content, updatedAt := now }, { store with
        elements := store.elements.map fun row =>
          if row.place = (pageId, key) then { old with content, updatedAt := now } else row }) := by
  have written : store.setContent now pageId key content = some _ :=
    Store.setContent_eq_some_iff.mpr ⟨old, held, rfl, rfl⟩
  rw [setContent, planContent_of_found found, held]
  change saveElement store now _ = _
  split
  · rename_i same
    rw [saveElement, Store.touchElement_of_held held, same, written]
    rfl
  · rw [saveElement, written]
    rfl

/-- An element that is not there yet becomes a text without a label. -/
theorem setContent_of_free {key : String} (free : store.element? pageId key = none)
    (content : String) :
    setContent store now pageId key content =
      .ok (⟨pageId, key, .text, content, none, now, now⟩, { store with
        elements := store.elements ++ [⟨pageId, key, .text, content, none, now, now⟩] }) := by
  have written : store.insertElement now pageId { key := some key, content := some content } =
      some (⟨pageId, key, .text, content, none, now, now⟩, _) :=
    Store.insertElement_eq_some_iff.mpr ⟨rfl, Store.element?_eq_none_iff.mp free, rfl⟩
  rw [setContent, planContent_of_found found, free]
  change (store.insertElement now pageId _).getDM _ = _
  rw [written]
  rfl

theorem createElement_of_held {data : NewElement}
    (held : (store.element? pageId data.key).isSome = true) :
    createElement store now pageId data = refuse .elementExists := by
  obtain rfl := id_of_found found
  rw [createElement, getPage_of_found found]
  simp only [bind, Except.bind, held]
  rfl

theorem createElement_of_free {data : NewElement} (free : store.element? pageId data.key = none) :
    createElement store now pageId data =
      .ok (requested now pageId data, { store with
        elements := store.elements ++ [requested now pageId data] }) := by
  have written : store.insertElement now pageId (draftElement data) =
      some (requested now pageId data, _) :=
    Store.insertElement_eq_some_iff.mpr ⟨rfl, Store.element?_eq_none_iff.mp free, rfl⟩
  obtain rfl := id_of_found found
  rw [createElement, getPage_of_found found]
  simp only [bind, Except.bind, free]
  change (store.insertElement now page.id _).getDM _ = _
  rw [written]
  rfl

theorem deleteElement_of_free {key : String} (free : store.element? pageId key = none) :
    deleteElement store pageId key = refuse .elementNotFound := by
  obtain rfl := id_of_found found
  rw [deleteElement, getPage_of_found found]
  simp only [bind, Except.bind, free]
  rfl

theorem deleteElement_of_held {key : String}
    (held : (store.element? pageId key).isSome = true) :
    deleteElement store pageId key = .ok (store.eraseElement pageId key) := by
  obtain rfl := id_of_found found
  rw [deleteElement, getPage_of_found found]
  simp only [bind, Except.bind, Option.isNone_eq_false_iff.mpr held]
  rfl

end Found

end PagePress.Publishing
