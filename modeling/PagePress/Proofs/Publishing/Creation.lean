import PagePress.Proofs.Markup.Variable
import PagePress.Proofs.Publishing.Refinement
import PagePress.Proofs.Store.Elements

/-!
# Creating a page

What comes of a request for a new page is told by the store alone: which of its checks it fails, or
else which rows are added. The elements that a new page gets are those of its template's preview.
-/

namespace PagePress

/-- No page has the identifier, and no element refers to it. -/
structure Store.IsNew (store : Store) (id : Uuid) : Prop where
  pages : ∀ page ∈ store.pages, page.id ≠ id
  elements : ∀ e ∈ store.elements, e.pageId ≠ id

/-- The page made for a request: it is not public yet and has no theme. -/
def NewPage.row (data : NewPage) (now : Micros) (id : Uuid) : Page :=
  ⟨id, data.templateId, data.customerId, data.name, data.slug, data.customCss, none, false, now,
    now⟩

def NewPage.draft (data : NewPage) (html : String) : PageDraft :=
  ⟨data.templateId, data.customerId, some data.name, some data.slug, data.customCss,
    draftElements html⟩

namespace Store

def variableRows (now : Micros) (id : Uuid) (html : String) : List Element :=
  (Markup.variableNames html.toList).map (variableRow now id)

def addPage (store : Store) (page : Page) (rows : List Element) : Store :=
  { store with pages := store.pages ++ [page], elements := store.elements ++ rows }

variable {store : Store} {now : Micros} {id : Uuid} {html : String}

theorem template?_eq_none_iff :
    store.template? id = none ↔ ∀ template ∈ store.templates, template.id ≠ id := by
  simp [template?]

theorem customer?_eq_none_iff :
    store.customer? id = none ↔ ∀ customer ∈ store.customers, customer.id ≠ id := by
  simp [customer?]

theorem isSlugTaken_none_iff {slug : String} :
    store.isSlugTaken slug none = true ↔ ∃ page ∈ store.pages, page.slug = slug := by
  simp [isSlugTaken]

theorem Linked.isNew (linked : store.Linked) (pages : ∀ page ∈ store.pages, page.id ≠ id) :
    store.IsNew id where
  pages
  elements e mem same := by
    obtain ⟨page, hpage, own⟩ := List.mem_map.mp (linked.pages (List.mem_map_of_mem mem))
    exact pages page hpage (own.trans same)

theorem ofList_injective : Function.Injective String.ofList := fun s t same => by
  rw [← String.toList_ofList (l := s), same, String.toList_ofList]

theorem mem_variableRows {e : Element} :
    e ∈ variableRows now id html ↔
      ∃ name ∈ Markup.variableNames html.toList, variableRow now id name = e :=
  List.mem_map

theorem pageId_of_mem_variableRows {e : Element} (mem : e ∈ variableRows now id html) :
    e.pageId = id := by
  obtain ⟨name, -, rfl⟩ := mem_variableRows.1 mem
  rfl

/-- However often a placeholder stands in the markup, no two rows have the same place. -/
theorem unique_variableRows : Table.Unique Element.place (variableRows now id html) := by
  unfold Table.Unique variableRows
  rw [List.map_map]
  refine (Markup.nodup_variableNames _).map fun name other same => ?_
  exact ofList_injective (congrArg Prod.snd same)

theorem IsNew.unique_append (new : store.IsNew id) (consistent : store.Consistent) :
    Table.Unique Element.place (store.elements ++ variableRows now id html) := by
  unfold Table.Unique
  rw [List.map_append]
  refine List.Nodup.append consistent.places unique_variableRows fun place old made => ?_
  obtain ⟨e, he, rfl⟩ := List.mem_map.mp old
  obtain ⟨row, hrow, same⟩ := List.mem_map.mp made
  have own : row.pageId = e.pageId := congrArg Prod.fst same
  exact new.elements e he (own.symm.trans (pageId_of_mem_variableRows hrow))

theorem Consistent.addPage (consistent : store.Consistent) {page : Page} (new : store.IsNew page.id)
    (free : ∀ old ∈ store.pages, old.slug ≠ page.slug) :
    (store.addPage page (variableRows now page.id html)).Consistent :=
  { consistent with
    pageIds := consistent.pageIds.append_singleton new.pages
    slugs := consistent.slugs.append_singleton free
    places := new.unique_append consistent }

end Store

namespace Publishing

variable {store : Store} {now : Micros} {id : Uuid} {data : NewPage} {html : String}

/-! ## The two phases -/

/-- The request is checked for its template first, for its customer then, and for its slug last. -/
theorem draftPage_eq (store : Store) (data : NewPage) :
    draftPage store data =
      match store.template? data.templateId with
      | none => refuse .templateNotFound
      | some template =>
        if store.customer? data.customerId = none then refuse .customerNotFound
        else if store.isSlugTaken data.slug none then refuse .slugTaken
        else .ok (data.draft template.html) := by
  cases found : store.template? data.templateId with
  | none =>
    rw [draftPage, getTemplate, found]
    rfl
  | some template =>
    have own := (Store.template?_eq_some found).2
    cases hcustomer : store.customer? data.customerId <;>
      cases hslug : store.isSlugTaken data.slug none <;>
      simp [draftPage, getTemplate, found, hcustomer, hslug, own, NewPage.draft, refuse, bind,
        Except.bind, Option.getDM, pure, Except.pure]

/-- The elements of a draft are stored as the rows for the variables of the template. -/
theorem rows_draft (now : Micros) (id : Uuid) (data : NewPage) (html : String) :
    (data.draft html).elements.map (·.row? now id) = (Store.variableRows now id html).map some := by
  rw [NewPage.draft, draftElements, Store.variableRows, List.map_map, List.map_map]
  rfl

/-- Whatever is stored, a page is created if its template and its customer are there, its slug is
free, and nothing stands where its elements go. -/
theorem createPage_eq_ok_iff (consistent : store.Consistent) {page : Page} {store' : Store} :
    createPage store now id data = .ok (page, store') ↔
      ∃ template, store.template? data.templateId = some template ∧
        (store.customer? data.customerId).isSome = true ∧
        (∀ old ∈ store.pages, old.slug ≠ data.slug) ∧
        Table.Unique Element.place (store.elements ++ Store.variableRows now id template.html) ∧
        page = data.row now id ∧
        store' = store.addPage page (Store.variableRows now id template.html) := by
  have row (html : String) : (data.draft html).row? now id = some (data.row now id) := rfl
  constructor
  · intro h
    obtain ⟨draft, drafted, written⟩ := of_createPage h
    obtain ⟨template, found, known, -, rfl⟩ := draftPage_eq_ok_iff.1 drafted
    obtain ⟨made, free, rows, hrows, places, rfl⟩ :=
      (Store.insertPage_eq_some_iff consistent.places).mp written
    obtain rfl := Option.some.inj ((row template.html).symm.trans made)
    obtain rfl : Store.variableRows now id template.html = rows :=
      List.map_injective_iff.mpr (Option.some_injective _)
        ((rows_draft now id data template.html).symm.trans hrows)
    exact ⟨template, found, known, free, places, rfl, rfl⟩
  · rintro ⟨template, found, known, free, places, rfl, rfl⟩
    have untaken : store.isSlugTaken data.slug none = false :=
      Store.isSlugTaken_eq_false_iff.2 fun old mem same => absurd same (free old mem)
    refine Outcome.bind_eq_ok_iff.2 ⟨data.draft template.html,
      draftPage_eq_ok_iff.2 ⟨template, found, known, untaken, rfl⟩, ?_⟩
    exact Outcome.getDM_eq_ok_iff.2 ((Store.insertPage_eq_some_iff consistent.places).mpr
      ⟨row template.html, free, _, rows_draft now id data template.html, places, rfl⟩)

/-- Storing the draft of a page under a new identifier can fail in one way only. -/
theorem insertPage_draft (consistent : store.Consistent) (new : store.IsNew id) :
    insertPage store now id (data.draft html) =
      if store.isSlugTaken data.slug none then refuse .slugTaken
      else
        .ok (data.row now id,
          store.addPage (data.row now id) (Store.variableRows now id html)) := by
  have slug : (data.draft html).slug = some data.slug := rfl
  unfold insertPage
  by_cases taken : store.isSlugTaken data.slug none = true
  · have fails : store.insertPage now id (data.draft html) = none := by
      refine Option.eq_none_iff_forall_ne_some.mpr fun ⟨page, store'⟩ written => ?_
      obtain ⟨hrow, free, -⟩ := (Store.insertPage_eq_some_iff consistent.places).mp written
      have own : data.slug = page.slug := Option.some.inj (PageDraft.row?_eq_some_iff.1 hrow).2.1
      obtain ⟨old, mem, same⟩ := Store.isSlugTaken_none_iff.1 taken
      exact free old mem (same.trans own)
    rw [fails, if_pos taken]
    simp [pageConflict, slug, taken, Option.getDM, refuse]
  · have free : ∀ old ∈ store.pages, old.slug ≠ data.slug := by
      simpa [Store.isSlugTaken] using taken
    rw [if_neg taken, Outcome.getDM_eq_ok_iff, Store.insertPage_eq_some_iff consistent.places]
    exact ⟨rfl, free, _, rows_draft now id data html, new.unique_append consistent, rfl⟩

/-- The ways in which a request for a new page can go. -/
inductive Creation (store : Store) (now : Micros) (id : Uuid) (data : NewPage) :
    Outcome (Page × Store) → Prop where
  | noTemplate (missing : ∀ template ∈ store.templates, template.id ≠ data.templateId) :
      Creation store now id data (refuse .templateNotFound)
  | noCustomer {template : Template} (hasTemplate : template ∈ store.templates)
      (own : template.id = data.templateId)
      (missing : ∀ customer ∈ store.customers, customer.id ≠ data.customerId) :
      Creation store now id data (refuse .customerNotFound)
  | slugTaken {template : Template} {customer : Customer} {old : Page}
      (hasTemplate : template ∈ store.templates) (own : template.id = data.templateId)
      (hasCustomer : customer ∈ store.customers) (owner : customer.id = data.customerId)
      (hasPage : old ∈ store.pages) (same : old.slug = data.slug) :
      Creation store now id data (refuse .slugTaken)
  | made {template : Template} {customer : Customer}
      (hasTemplate : template ∈ store.templates) (own : template.id = data.templateId)
      (hasCustomer : customer ∈ store.customers) (owner : customer.id = data.customerId)
      (free : ∀ old ∈ store.pages, old.slug ≠ data.slug) :
      Creation store now id data (.ok (data.row now id,
        store.addPage (data.row now id) (Store.variableRows now id template.html)))

/-- Creating a page goes in one of these ways: under a new identifier, no constraint of the storage
stands against it. -/
theorem creation (consistent : store.Consistent) (new : store.IsNew id) :
    Creation store now id data (createPage store now id data) := by
  rw [createPage, draftPage_eq]
  cases found : store.template? data.templateId with
  | none => exact .noTemplate (Store.template?_eq_none_iff.1 found)
  | some template =>
    obtain ⟨hasTemplate, own⟩ := Store.template?_eq_some found
    cases found' : store.customer? data.customerId with
    | none => exact .noCustomer hasTemplate own (Store.customer?_eq_none_iff.1 found')
    | some customer =>
      obtain ⟨hasCustomer, owner⟩ := Store.customer?_eq_some found'
      by_cases taken : store.isSlugTaken data.slug none = true
      · obtain ⟨old, hasPage, same⟩ := Store.isSlugTaken_none_iff.1 taken
        simp only [reduceCtorEq, if_false, taken, if_true]
        exact .slugTaken hasTemplate own hasCustomer owner hasPage same
      · simp only [reduceCtorEq, if_false, taken, bind, Except.bind,
          insertPage_draft consistent new]
        refine .made hasTemplate own hasCustomer owner ?_
        simpa [Store.isSlugTaken_none_iff] using taken

end Publishing

/-! ## The elements of a new page -/

namespace Store

variable {store : Store} {now : Micros} {page : Page} {html : String}

/-- A new page has the rows that were added with it, and no other. -/
theorem IsNew.elementsOf_addPage_perm (new : store.IsNew page.id) :
    ((store.addPage page (variableRows now page.id html)).elementsOf page.id).Perm
      (variableRows now page.id html) := by
  have old : store.elements.filter (·.pageId = page.id) = [] :=
    List.filter_eq_nil_iff.mpr fun e mem => by simpa using new.elements e mem
  have made : (variableRows now page.id html).filter (·.pageId = page.id) =
      variableRows now page.id html :=
    List.filter_eq_self.mpr fun e mem => by simpa using pageId_of_mem_variableRows mem
  refine (List.mergeSort_perm _ _).trans ?_
  rw [Store.addPage, List.filter_append, old, made, List.nil_append]

end Store

end PagePress
