import PagePress.Proofs.Publishing.ElementMap
import PagePress.Proofs.Publishing.Elements
import PagePress.Proofs.Publishing.Integrity
import PagePress.Proofs.Store.Lookup

/-!
# Rows as maps

The rows of the elements that belong to a page stand for its element map. Every operation changes
the rows of a page in the way it changes the map of the page.
-/

namespace PagePress

/-- What an element holds, apart from where and when. -/
def Element.value (e : Element) : ElementValue :=
  { kind := e.kind, content := e.content, label := e.label }

namespace Store

def elementMap (store : Store) (pageId : Uuid) : ElementMap := fun key =>
  (store.element? pageId key).map (·.value)

def elementMap? (store : Store) (pageId : Uuid) : Option ElementMap :=
  if (store.page? pageId).isSome then some (store.elementMap pageId) else none

/-- The page has an element for each variable of its template, and no other. -/
def IsInitial (store : Store) (pageId : Uuid) : Prop :=
  ∃ page template, store.page? pageId = some page ∧
    store.template? page.templateId = some template ∧
    store.elementMap pageId = .ofMarkup template.html

variable {store other : Store} {pageId : Uuid}

theorem elementMap?_of_found {page : Page} (found : store.page? pageId = some page) :
    store.elementMap? pageId = some (store.elementMap pageId) := by
  simp [elementMap?, found]

theorem elementMap?_eq_some_iff {map : ElementMap} :
    store.elementMap? pageId = some map ↔
      (∃ page, store.page? pageId = some page) ∧ store.elementMap pageId = map := by
  cases found : store.page? pageId <;> simp [elementMap?, found]

theorem elementMap?_of_missing (missing : store.page? pageId = none) :
    store.elementMap? pageId = none := by
  simp [elementMap?, missing]

theorem elementMap_congr (same : ∀ key, other.element? pageId key = store.element? pageId key) :
    other.elementMap pageId = store.elementMap pageId := by
  funext key
  rw [elementMap, elementMap, same]

/-! ## Maps after a write -/

theorem elementMap_append_singleton {e : Element} (free : store.element? e.pageId e.key = none) :
    { store with elements := store.elements ++ [e] }.elementMap pageId =
      if e.pageId = pageId then
        Function.update (store.elementMap pageId) e.key (some e.value)
      else store.elementMap pageId := by
  funext key
  rw [elementMap, element?_append_singleton free]
  by_cases own : e.pageId = pageId
  · by_cases same : key = e.key
    · simp [Element.place, own, same]
    · simp [Element.place, own, Function.update_of_ne same, elementMap, Ne.symm same]
  · simp [Element.place, own, elementMap]

theorem elementMap_replace {e old : Element} (held : store.element? e.pageId e.key = some old) :
    { store with
        elements := store.elements.map fun row : Element =>
          if row.place = (e.pageId, e.key) then e else row }.elementMap pageId =
      if e.pageId = pageId then
        Function.update (store.elementMap pageId) e.key (some e.value)
      else store.elementMap pageId := by
  funext key
  rw [elementMap, element?_replace (show e.place = (e.pageId, e.key) from rfl)]
  cases found : store.element? pageId key with
  | none =>
    by_cases own : e.pageId = pageId
    · have same : key ≠ e.key := by
        rintro rfl
        rw [← own, held] at found
        cases found
      simp [own, Function.update_of_ne same, elementMap, found]
    · simp [own, elementMap, found]
  | some row =>
    obtain ⟨-, rfl, rfl⟩ := element?_eq_some found
    by_cases own : e.pageId = row.pageId
    · by_cases same : row.key = e.key
      · simp [Element.place, own, same]
      · simp [Element.place, own, same, elementMap, found]
    · have other : row.pageId ≠ e.pageId := Ne.symm own
      simp [Element.place, own, other, elementMap, found]

theorem elementMap_eraseElement (id : Uuid) (key : String) :
    (store.eraseElement id key).elementMap pageId =
      if id = pageId then (store.elementMap pageId).erase key else store.elementMap pageId := by
  funext other
  by_cases own : id = pageId
  · subst own
    by_cases same : other = key
    · subst same
      simp [elementMap, ElementMap.erase, element?_eraseElement_self]
    · have ne : (id, other) ≠ (id, key) := fun h => same (congrArg Prod.snd h)
      simp [elementMap, ElementMap.erase, element?_eraseElement_of_ne ne,
        Function.update_of_ne same]
  · have ne : (pageId, other) ≠ (id, key) := fun h => own (congrArg Prod.fst h).symm
    simp [elementMap, own, element?_eraseElement_of_ne ne]

theorem elementMap?_insertElement {store' : Store} {now : Micros} {id : Uuid} {draft : ElementDraft}
    {e : Element} (written : store.insertElement now id draft = some (e, store')) {page : Page}
    (found : store.page? pageId = some page) :
    store.elementMap id e.key = none ∧
      store'.elementMap? pageId = some (if id = pageId then
        Function.update (store.elementMap pageId) e.key (some e.value)
        else store.elementMap pageId) := by
  obtain ⟨hrow, free, rfl⟩ := insertElement_eq_some_iff.mp written
  have own : e.pageId = id := by rw [(ElementDraft.row?_eq_some_iff.mp hrow).2]
  have free : store.element? e.pageId e.key = none := element?_eq_none_iff.mpr free
  refine ⟨by rw [elementMap, ← own, free]; rfl, Eq.trans (elementMap?_of_found found) ?_⟩
  rw [elementMap_append_singleton free, own]

theorem elementMap?_setContent {store' : Store} {now : Micros} {id : Uuid} {key content : String}
    {e : Element} (written : store.setContent now id key content = some (e, store')) {page : Page}
    (found : store.page? pageId = some page) :
    ∃ value, store.elementMap id key = some value ∧
      store'.elementMap? pageId = some (if id = pageId then
        Function.update (store.elementMap pageId) key (some { value with content })
        else store.elementMap pageId) := by
  obtain ⟨old, held, he, rfl⟩ := setContent_eq_some_iff.mp written
  obtain ⟨-, ownId, ownKey⟩ := element?_eq_some held
  obtain rfl : e.pageId = id := by rw [he]; exact ownId
  obtain rfl : e.key = key := by rw [he]; exact ownKey
  refine ⟨old.value, by rw [elementMap, held]; rfl, Eq.trans (elementMap?_of_found found) ?_⟩
  rw [elementMap_replace held]
  have value : e.value = { old.value with content } := by rw [he]; rfl
  rw [value]

/-- A page that is added changes no other page. -/
theorem of_insertPage_of_ne {store' : Store} {now : Micros} {id : Uuid} {draft : PageDraft}
    {page : Page} (consistent : store.Consistent) (new : ∀ old ∈ store.pages, old.id ≠ id)
    (written : store.insertPage now id draft = some (page, store')) (other : pageId ≠ id) :
    store'.page? pageId = store.page? pageId ∧
      store'.elementMap pageId = store.elementMap pageId := by
  obtain ⟨hrow, -, rows, hrows, -, rfl⟩ := (insertPage_eq_some_iff consistent.places).mp written
  have hid : page.id = id := by rw [(PageDraft.row?_eq_some_iff.mp hrow).2.2]
  have own : ∀ e ∈ rows, e.pageId = id := by
    intro e mem
    obtain ⟨draft, -, hdraft⟩ := ElementDraft.exists_of_mem_rows hrows mem
    rw [(ElementDraft.row?_eq_some_iff.mp hdraft).2]
  constructor
  · rw [page?_append_singleton (page?_eq_none_iff.mpr (hid ▸ new)), if_neg]
    exact fun same => other (same.symm.trans hid)
  · exact elementMap_congr fun key => element?_append_of_ne own other key _

def variableRow (now : Micros) (id : Uuid) (name : List Char) : Element :=
  let made := ElementDefaults.ofVariable (String.ofList name)
  ⟨id, String.ofList name, made.kind, made.content, some made.label, now, now⟩

theorem rows_of_markup {now : Micros} {id : Uuid} {html : String} {rows : List Element}
    (hrows : (draftElements html).map (·.row? now id) = rows.map some) :
    rows = (Markup.variableNames html.toList).map (variableRow now id) := by
  have lists : rows.map some =
      ((Markup.variableNames html.toList).map (variableRow now id)).map some := by
    rw [← hrows, draftElements, List.map_map, List.map_map]
    rfl
  exact List.map_injective_iff.mpr (fun _ _ => Option.some.inj) lists

/-- Where nothing is found at first, rows for variables stand for the map of the markup. -/
theorem elementMap_append_variables {now : Micros} {id : Uuid} (html : String)
    (free : ∀ e ∈ store.elements, e.pageId ≠ id) (pages : List Page) :
    { store with pages, elements := store.elements ++
        (Markup.variableNames html.toList).map (variableRow now id) }.elementMap id =
      .ofMarkup html := by
  funext key
  have old : store.elements.find? (·.place = (id, key)) = none := by
    refine List.find?_eq_none.mpr fun e mem same => free e mem ?_
    exact congrArg Prod.fst (of_decide_eq_true same)
  have place : ∀ name, (variableRow now id name).place = (id, key) ↔ name = key.toList := by
    intro name
    simp only [variableRow, Element.place, Prod.mk.injEq, true_and]
    exact ⟨fun same => by rw [← same, String.toList_ofList], fun same => by
      rw [same, String.ofList_toList]⟩
  rw [elementMap, element?_eq_find?, List.find?_append, old, Option.none_or, List.find?_map]
  cases found : (Markup.variableNames html.toList).find?
      ((fun e : Element => decide (e.place = (id, key))) ∘ variableRow now id) with
  | none =>
    have absent : key.toList ∉ Markup.variableNames html.toList := by
      intro mem
      have := List.find?_eq_none.mp found _ mem
      simp [place] at this
    simp [ElementMap.ofMarkup, absent]
  | some name =>
    have mem := List.mem_of_find?_eq_some found
    obtain rfl : name = key.toList := by simpa [place] using List.find?_some found
    simp [ElementMap.ofMarkup, mem, variableRow, Element.value, ElementValue.ofVariable]

theorem isInitial_of_insertPage {store' : Store} {now : Micros} {id : Uuid} {data : NewPage}
    {draft : PageDraft} {page : Page} (consistent : store.Consistent) (linked : store.Linked)
    (new : ∀ old ∈ store.pages, old.id ≠ id) (drafted : Publishing.draftPage store data = .ok draft)
    (written : store.insertPage now id draft = some (page, store')) : store'.IsInitial id := by
  obtain ⟨template, found, -, -, rfl⟩ := Publishing.draftPage_eq_ok_iff.mp drafted
  obtain ⟨hrow, -, rows, hrows, -, rfl⟩ := (insertPage_eq_some_iff consistent.places).mp written
  obtain ⟨-, -, hpage⟩ := PageDraft.row?_eq_some_iff.mp hrow
  obtain rfl := rows_of_markup hrows
  have hid : page.id = id := by rw [hpage]
  have free : ∀ e ∈ store.elements, e.pageId ≠ id := by
    intro e mem same
    obtain ⟨old, hold, own⟩ := List.mem_map.mp (linked.pages (List.mem_map_of_mem mem))
    exact new old hold (own.trans same)
  refine ⟨page, template, ?_, ?_, elementMap_append_variables _ free _⟩
  · rw [page?_append_singleton (page?_eq_none_iff.mpr (hid ▸ new)), if_pos hid]
  · have origin : page.templateId = data.templateId := by rw [hpage]
    rw [origin]
    exact found

end Store

/-! ## What operations do to maps -/

theorem ElementMap.next_of_isReading {op : Operation} (reading : op.isReading = true)
    (pageId : Uuid) (map : ElementMap) : next pageId op map = some map := by
  cases op with
  | deletePage | setContent | createElement | deleteElement => cases reading
  | _ => rfl

theorem ElementMap.next_of_pageValues? {op : Operation} {given : Uuid × PageValues}
    (h : op.pageValues? = some given) (pageId : Uuid) (map : ElementMap) :
    next pageId op map = some map := by
  cases op with
  | deletePage | setContent | createElement | deleteElement => cases h
  | _ => rfl

/-- The element made for a request holds what is asked for. -/
theorem Publishing.requested_value (now : Micros) (pageId : Uuid) (data : NewElement) :
    (requested now pageId data).value = .ofRequest data := by
  obtain ⟨key, kind, content, label⟩ := data
  cases label with
  | none => cases kind <;> cases content <;> rfl
  | some label =>
    by_cases h : label = "" <;> cases kind <;> cases content <;>
      simp [requested, draftElement, Element.value, ElementValue.ofRequest, h, Option.filter]

namespace Effect

variable {turn : Turn} {store store' : Store} {op : Operation} {pageId : Uuid}

/-- An operation changes the rows of a page that exists as it changes the map of the page. -/
theorem elementMap?_eq_next (effect : Effect turn store op store') (valid : op.IsValid)
    (fresh : turn.IsFreshFor store op) (consistent : store.Consistent) {page : Page}
    (found : store.page? pageId = some page) :
    store'.elementMap? pageId = ElementMap.next pageId op (store.elementMap pageId) := by
  have still := Store.elementMap?_of_found found
  cases effect with
  | nothing reading => rw [still, ElementMap.next_of_isReading reading]
  | customerAdded written =>
    obtain ⟨-, -, -, -, rfl⟩ := Store.insertCustomer_eq_some_iff.mp written
    exact still
  | templateAdded | templateChanged | templateErased => exact still
  | pageAdded _ written =>
    have other : pageId ≠ turn.pageId := by
      obtain ⟨mem, own⟩ := Store.page?_eq_some found
      exact fun same => fresh page mem (own.trans same)
    obtain ⟨samePage, sameMap⟩ := Store.of_insertPage_of_ne consistent fresh written other
    rw [Store.elementMap?, samePage, found, sameMap]
    rfl
  | rawPageAdded => cases valid
  | pageChanged given _ written =>
    obtain ⟨-, -, rfl⟩ := Store.updatePage_eq_some_iff.mp written
    rw [ElementMap.next_of_pageValues? given, Store.elementMap?, Store.page?_replacePage, found]
    rfl
  | @pageErased id =>
    by_cases own : id = pageId
    · subst own
      simp [ElementMap.next, Store.elementMap?, Store.page?_erasePage_self]
    · have other : pageId ≠ id := Ne.symm own
      rw [Store.elementMap?, Store.page?_erasePage_of_ne other, found,
        Store.elementMap_congr (Store.element?_erasePage_of_ne other)]
      simp [ElementMap.next, own]
  | @contentAdded id key content _ e _ _ written =>
    obtain ⟨hkey, he⟩ :=
      ElementDraft.row?_eq_some_iff.mp (Store.insertElement_eq_some_iff.mp written).1
    obtain rfl : key = e.key := Option.some.inj hkey
    have value : e.value = .withContent content none := by rw [he]; rfl
    obtain ⟨absent, map⟩ := Store.elementMap?_insertElement written found
    rw [map, value]
    by_cases same : id = pageId
    · subst same
      simp [ElementMap.next, ElementMap.setContent, absent]
    · simp [ElementMap.next, same]
  | @contentSet id key content _ e _ _ written =>
    obtain ⟨value, held, map⟩ := Store.elementMap?_setContent written found
    rw [map]
    by_cases same : id = pageId
    · subst same
      simp [ElementMap.next, ElementMap.setContent, held, ElementValue.withContent]
    · simp [ElementMap.next, same]
  | @elementAdded id data _ e _ _ written =>
    obtain ⟨hkey, he⟩ :=
      ElementDraft.row?_eq_some_iff.mp (Store.insertElement_eq_some_iff.mp written).1
    have key : data.key = e.key := Option.some.inj hkey
    have value : e.value = .ofRequest data := by
      rw [he, ← key]
      exact Publishing.requested_value turn.now id data
    obtain ⟨absent, map⟩ := Store.elementMap?_insertElement written found
    rw [map, value, ← key]
    by_cases same : id = pageId
    · subst same
      simp [ElementMap.next, ElementMap.add, key, absent]
    · simp [ElementMap.next, same]
  | rawElementAdded => cases valid
  | elementErased =>
    refine Eq.trans (Store.elementMap?_of_found found) ?_
    rw [Store.elementMap_eraseElement]
    rfl

/-- A page comes into being with an element for each variable of its template. -/
theorem missing_or_isInitial (effect : Effect turn store op store') (valid : op.IsValid)
    (fresh : turn.IsFreshFor store op) (consistent : store.Consistent) (linked : store.Linked)
    (missing : store.page? pageId = none) :
    store'.page? pageId = none ∨ store'.IsInitial pageId := by
  cases effect with
  | nothing | templateAdded | templateChanged | templateErased | elementErased =>
    exact .inl missing
  | customerAdded written =>
    obtain ⟨-, -, -, -, rfl⟩ := Store.insertCustomer_eq_some_iff.mp written
    exact .inl missing
  | pageAdded drafted written =>
    by_cases same : pageId = turn.pageId
    · subst same
      exact .inr (Store.isInitial_of_insertPage consistent linked fresh drafted written)
    · obtain ⟨samePage, -⟩ := Store.of_insertPage_of_ne consistent fresh written same
      exact .inl (samePage.trans missing)
  | rawPageAdded => cases valid
  | pageChanged _ _ written =>
    obtain ⟨-, -, rfl⟩ := Store.updatePage_eq_some_iff.mp written
    rw [Store.page?_replacePage, missing]
    exact .inl rfl
  | @pageErased id =>
    by_cases same : pageId = id
    · subst same
      exact .inl (Store.page?_erasePage_self _)
    · exact .inl ((Store.page?_erasePage_of_ne same).trans missing)
  | contentAdded _ written | elementAdded _ written =>
    obtain ⟨-, -, rfl⟩ := Store.insertElement_eq_some_iff.mp written
    exact .inl missing
  | contentSet _ written =>
    obtain ⟨-, -, -, rfl⟩ := Store.setContent_eq_some_iff.mp written
    exact .inl missing
  | rawElementAdded => cases valid

end Effect

end PagePress
