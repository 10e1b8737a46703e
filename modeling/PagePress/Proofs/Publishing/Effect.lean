import PagePress.Proofs.Outcome
import PagePress.Proofs.Store.Writing
import PagePress.Publishing.Operation

/-!
# What operations do to the store

Every operation that succeeds has one of a few effects on the store, each with the conditions under
which it comes about. What holds of these effects holds of everything the service can be asked to
do.
-/

namespace PagePress

namespace Operation

def isReading : Operation → Bool
  | customerWithEmail _ | customerExists _ | getTemplate _ | previewTemplate _ | countPages _
  | listTemplates _ | getPage _ | getPageBySlug _ | listPages _ _ | isSlugTaken _ _
  | getElements _ | render _ => true
  | _ => false

def pageValues? : Operation → Option (Uuid × PageValues)
  | updatePage id changes => some (id, changes.values)
  | publish id => some (id, PageChanges.values { isPublished := some true })
  | unpublish id => some (id, PageChanges.values { isPublished := some false })
  | setPageValues id values => some (id, values)
  | _ => none

end Operation

/-- What an operation that succeeds does to the store. -/
inductive Effect (turn : Turn) (store : Store) : Operation → Store → Prop where
  | nothing {op : Operation} (reading : op.isReading = true) : Effect turn store op store
  | customerAdded {name email : Option String} {customer : Customer} {store' : Store}
      (written : store.insertCustomer turn.now turn.customerId name email =
        some (customer, store')) :
      Effect turn store (.createCustomer name email) store'
  | templateAdded {data : NewTemplate} :
      Effect turn store (.createTemplate data)
        (Publishing.createTemplate store turn.now turn.templateId data).2
  | templateChanged {id : Uuid} {changes : TemplateChanges} {template : Template}
      (found : store.template? id = some template) :
      Effect turn store (.updateTemplate id changes)
        (store.replaceTemplate (changes.apply template turn.now))
  | templateErased {id : Uuid} (unused : ∀ page ∈ store.pages, page.templateId ≠ id) :
      Effect turn store (.deleteTemplate id) (store.eraseTemplate id)
  | pageAdded {data : NewPage} {draft : PageDraft} {page : Page} {store' : Store}
      (drafted : Publishing.draftPage store data = .ok draft)
      (written : store.insertPage turn.now turn.pageId draft = some (page, store')) :
      Effect turn store (.createPage data) store'
  | rawPageAdded {draft : PageDraft} {page : Page} {store' : Store}
      (written : store.insertPage turn.now turn.pageId draft = some (page, store')) :
      Effect turn store (.insertPage draft) store'
  | pageChanged {op : Operation} {id : Uuid} {values : PageValues} {old page : Page}
      {store' : Store} (given : op.pageValues? = some (id, values))
      (found : store.page? id = some old)
      (written : store.updatePage turn.now old values = some (page, store')) :
      Effect turn store op store'
  | pageErased {id : Uuid} {page : Page} (found : store.page? id = some page) :
      Effect turn store (.deletePage id) (store.erasePage id)
  | contentAdded {pageId : Uuid} {key content : String} {page : Page} {e : Element}
      {store' : Store} (found : store.page? pageId = some page)
      (written : store.insertElement turn.now pageId
        { key := some key, content := some content } = some (e, store')) :
      Effect turn store (.setContent pageId key content) store'
  | contentSet {pageId : Uuid} {key content : String} {page : Page} {e : Element} {store' : Store}
      (found : store.page? pageId = some page)
      (written : store.setContent turn.now pageId key content = some (e, store')) :
      Effect turn store (.setContent pageId key content) store'
  | elementAdded {pageId : Uuid} {data : NewElement} {page : Page} {e : Element} {store' : Store}
      (found : store.page? pageId = some page)
      (written : store.insertElement turn.now pageId (Publishing.draftElement data) =
        some (e, store')) :
      Effect turn store (.createElement pageId data) store'
  | rawElementAdded {pageId : Uuid} {kindName : String} {draft : ElementDraft} {kind : ElementKind}
      {e : Element} {store' : Store}
      (written : store.insertElement turn.now pageId { draft with kind } = some (e, store')) :
      Effect turn store (.insertElement pageId kindName draft) store'
  | elementErased {pageId : Uuid} {key : String} {page : Page}
      (found : store.page? pageId = some page) :
      Effect turn store (.deleteElement pageId key) (store.eraseElement pageId key)

/-- An operation that only looks at what is stored leaves it as it is. -/
theorem Effect.eq_of_isReading {turn : Turn} {store store' : Store} {op : Operation}
    (effect : Effect turn store op store') (reading : op.isReading = true) : store' = store := by
  cases effect with
  | nothing => rfl
  | pageChanged given =>
    cases op with
    | updatePage | publish | unpublish | setPageValues => cases reading
    | _ => cases given
  | _ => cases reading

namespace Publishing

variable {store store' : Store} {now : Micros}

theorem getTemplate_eq_ok_iff {id : Uuid} {template : Template} :
    getTemplate store id = .ok template ↔ store.template? id = some template :=
  Outcome.getDM_eq_ok_iff

theorem getPage_eq_ok_iff {id : Uuid} {page : Page} :
    getPage store id = .ok page ↔ store.page? id = some page :=
  Outcome.getDM_eq_ok_iff

/-- A draft is made of a template and for a customer that exist, if the slug is free. -/
theorem draftPage_eq_ok_iff {data : NewPage} {draft : PageDraft} :
    draftPage store data = .ok draft ↔
      ∃ template, store.template? data.templateId = some template ∧
        (store.customer? data.customerId).isSome = true ∧
        store.isSlugTaken data.slug none = false ∧
        draft = ⟨data.templateId, data.customerId, some data.name, some data.slug, data.customCss,
          draftElements template.html⟩ := by
  simp only [draftPage, Outcome.bind_eq_ok_iff, getTemplate_eq_ok_iff]
  refine exists_congr fun template => and_congr_right fun found => ?_
  rw [← (Store.template?_eq_some found).2]
  refine Outcome.refused_if_eq_ok_iff.trans (and_congr (by simp [Option.isSome_iff_ne_none]) ?_)
  refine Outcome.refused_if_eq_ok_iff.trans (and_congr (by simp) ?_)
  exact ⟨fun h => (Except.ok.inj h).symm, fun h => congrArg Except.ok h.symm⟩

theorem of_deleteTemplate {id : Uuid} (h : deleteTemplate store id = .ok store') :
    (∀ page ∈ store.pages, page.templateId ≠ id) ∧ store' = store.eraseTemplate id := by
  obtain ⟨template, htemplate, hrest⟩ := Outcome.bind_eq_ok_iff.1 h
  obtain ⟨-, rfl⟩ := Store.template?_eq_some (getTemplate_eq_ok_iff.1 htemplate)
  obtain ⟨hcount, hstore⟩ := Outcome.refused_if_eq_ok_iff.1 hrest
  refine ⟨fun page mem same => hcount ?_, (Except.ok.inj hstore).symm⟩
  exact List.countP_pos_iff.mpr ⟨page, mem, by simpa using same⟩

theorem of_createPage {id : Uuid} {data : NewPage} {page : Page}
    (h : createPage store now id data = .ok (page, store')) :
    ∃ draft, draftPage store data = .ok draft ∧
      store.insertPage now id draft = some (page, store') := by
  obtain ⟨draft, hdraft, hinsert⟩ := Outcome.bind_eq_ok_iff.1 h
  exact ⟨draft, hdraft, Outcome.getDM_eq_ok_iff.1 hinsert⟩

theorem of_updatePage {id : Uuid} {changes : PageChanges} {page : Page}
    (h : updatePage store now id changes = .ok (page, store')) :
    ∃ old, store.page? id = some old ∧
      store.updatePage now old changes.values = some (page, store') := by
  obtain ⟨old, hold, hrest⟩ := Outcome.bind_eq_ok_iff.1 h
  obtain ⟨-, hset⟩ := Outcome.refused_if_eq_ok_iff.1 hrest
  exact ⟨old, getPage_eq_ok_iff.1 hold, Outcome.getDM_eq_ok_iff.1 hset⟩

theorem of_deletePage {id : Uuid} (h : deletePage store id = .ok store') :
    ∃ page, store.page? id = some page ∧ store' = store.erasePage id := by
  obtain ⟨page, hpage, hstore⟩ := Outcome.bind_eq_ok_iff.1 h
  have found := getPage_eq_ok_iff.1 hpage
  obtain ⟨-, rfl⟩ := Store.page?_eq_some found
  exact ⟨page, found, (Except.ok.inj hstore).symm⟩

theorem of_setContent {pageId : Uuid} {key content : String} {e : Element}
    (h : setContent store now pageId key content = .ok (e, store')) :
    ∃ page, store.page? pageId = some page ∧
      (store.insertElement now pageId { key := some key, content := some content } =
          some (e, store') ∨
        store.setContent now pageId key content = some (e, store')) := by
  obtain ⟨write, hplan, hsave⟩ := Outcome.bind_eq_ok_iff.1 h
  obtain ⟨page, hpage, hwrite⟩ := Outcome.bind_eq_ok_iff.1 hplan
  have found := getPage_eq_ok_iff.1 hpage
  obtain ⟨-, rfl⟩ := Store.page?_eq_some found
  refine ⟨page, found, ?_⟩
  split at hwrite
  · rename_i old held
    split at hwrite
    · rename_i same
      obtain rfl := Except.ok.inj hwrite
      have touched := Outcome.getDM_eq_ok_iff.1 hsave
      rw [Store.touchElement_of_held held, same] at touched
      exact .inr touched
    · obtain rfl := Except.ok.inj hwrite
      exact .inr (Outcome.getDM_eq_ok_iff.1 hsave)
  · obtain rfl := Except.ok.inj hwrite
    exact .inl (Outcome.getDM_eq_ok_iff.1 hsave)

theorem of_createElement {pageId : Uuid} {data : NewElement} {e : Element}
    (h : createElement store now pageId data = .ok (e, store')) :
    ∃ page, store.page? pageId = some page ∧
      store.insertElement now pageId (draftElement data) = some (e, store') := by
  obtain ⟨page, hpage, hrest⟩ := Outcome.bind_eq_ok_iff.1 h
  have found := getPage_eq_ok_iff.1 hpage
  obtain ⟨-, rfl⟩ := Store.page?_eq_some found
  obtain ⟨-, hsave⟩ := Outcome.refused_if_eq_ok_iff.1 hrest
  exact ⟨page, found, Outcome.getDM_eq_ok_iff.1 hsave⟩

theorem of_deleteElement {pageId : Uuid} {key : String}
    (h : deleteElement store pageId key = .ok store') :
    ∃ page, store.page? pageId = some page ∧ store' = store.eraseElement pageId key := by
  obtain ⟨page, hpage, hrest⟩ := Outcome.bind_eq_ok_iff.1 h
  have found := getPage_eq_ok_iff.1 hpage
  obtain ⟨-, rfl⟩ := Store.page?_eq_some found
  obtain ⟨-, hstore⟩ := Outcome.refused_if_eq_ok_iff.1 hrest
  exact ⟨page, found, (Except.ok.inj hstore).symm⟩

end Publishing

namespace Service

variable {service service' : Service} {turn : Turn} {result : Result} {α : Type}

theorem of_answer {present : α → Result} {x : Outcome α}
    (h : service.answer present x = .ok (result, service')) : service' = service := by
  obtain ⟨a, -, h⟩ := Outcome.map_eq_ok_iff.1 h
  cases h
  rfl

theorem of_commit {present : α → Result} {x : Outcome (α × Store)}
    (h : service.commit present x = .ok (result, service')) :
    ∃ a store, x = .ok (a, store) ∧ result = present a ∧ service' = { service with store } := by
  obtain ⟨⟨a, store⟩, hx, h⟩ := Outcome.map_eq_ok_iff.1 h
  cases h
  exact ⟨a, store, hx, rfl, rfl⟩

theorem of_remove {x : Outcome Store} (h : service.remove x = .ok (result, service')) :
    ∃ store, x = .ok store ∧ service' = { service with store } := by
  obtain ⟨store, hx, h⟩ := Outcome.map_eq_ok_iff.1 h
  cases h
  exact ⟨store, hx, rfl⟩

/-- An operation that succeeds has its effect on the store. -/
theorem effect_of_perform {op : Operation} (h : service.perform turn op = .ok (result, service')) :
    Effect turn service.store op service'.store := by
  cases op with
  | createCustomer name email =>
    obtain ⟨customer, store, hx, -, rfl⟩ := of_commit h
    exact .customerAdded (Outcome.getDM_eq_ok_iff.1 hx)
  | createTemplate data =>
    obtain ⟨template, store, hx, -, rfl⟩ := of_commit h
    cases hx
    exact .templateAdded
  | updateTemplate id changes =>
    obtain ⟨template, store, hx, -, rfl⟩ := of_commit h
    obtain ⟨old, hold, hx⟩ := Outcome.bind_eq_ok_iff.1 hx
    cases hx
    exact .templateChanged (Publishing.getTemplate_eq_ok_iff.1 hold)
  | deleteTemplate id =>
    obtain ⟨store, hx, rfl⟩ := of_remove h
    obtain ⟨unused, rfl⟩ := Publishing.of_deleteTemplate hx
    exact .templateErased unused
  | createPage data =>
    obtain ⟨page, store, hx, -, rfl⟩ := of_commit h
    obtain ⟨draft, drafted, written⟩ := Publishing.of_createPage hx
    exact .pageAdded drafted written
  | updatePage id changes =>
    obtain ⟨page, store, hx, -, rfl⟩ := of_commit h
    obtain ⟨old, found, written⟩ := Publishing.of_updatePage hx
    exact .pageChanged rfl found written
  | publish id =>
    obtain ⟨page, store, hx, -, rfl⟩ := of_commit h
    obtain ⟨old, found, written⟩ := Publishing.of_updatePage hx
    exact .pageChanged rfl found written
  | unpublish id =>
    obtain ⟨page, store, hx, -, rfl⟩ := of_commit h
    obtain ⟨old, found, written⟩ := Publishing.of_updatePage hx
    exact .pageChanged rfl found written
  | deletePage id =>
    obtain ⟨store, hx, rfl⟩ := of_remove h
    obtain ⟨page, found, rfl⟩ := Publishing.of_deletePage hx
    exact .pageErased found
  | setContent pageId key content =>
    obtain ⟨e, store, hx, -, rfl⟩ := of_commit h
    obtain ⟨page, found, written | written⟩ := Publishing.of_setContent hx
    · exact .contentAdded found written
    · exact .contentSet found written
  | createElement pageId data =>
    obtain ⟨e, store, hx, -, rfl⟩ := of_commit h
    obtain ⟨page, found, written⟩ := Publishing.of_createElement hx
    exact .elementAdded found written
  | deleteElement pageId key =>
    obtain ⟨store, hx, rfl⟩ := of_remove h
    obtain ⟨page, found, rfl⟩ := Publishing.of_deleteElement hx
    exact .elementErased found
  | insertPage draft =>
    obtain ⟨page, store, hx, -, rfl⟩ := of_commit h
    exact .rawPageAdded (Outcome.getDM_eq_ok_iff.1 hx)
  | setPageValues id values =>
    obtain ⟨page, store, hx, -, rfl⟩ := of_commit h
    obtain ⟨old, hold, hset⟩ := Outcome.bind_eq_ok_iff.1 hx
    exact .pageChanged rfl (Outcome.getDM_eq_ok_iff.1 hold) (Outcome.getDM_eq_ok_iff.1 hset)
  | insertElement pageId kindName draft =>
    obtain ⟨e, store, hx, -, rfl⟩ := of_commit h
    obtain ⟨kind, -, hsave⟩ := Outcome.bind_eq_ok_iff.1 hx
    exact .rawElementAdded (Outcome.getDM_eq_ok_iff.1 hsave)
  | render slug =>
    obtain ⟨⟨rendering, cache⟩, -, hx⟩ := Outcome.map_eq_ok_iff.1 h
    cases hx
    exact .nothing rfl
  | customerWithEmail | customerExists | getTemplate | previewTemplate | countPages
  | listTemplates | getPage | getPageBySlug | listPages | isSlugTaken | getElements =>
    rw [of_answer h]
    exact .nothing rfl

end Service

end PagePress
