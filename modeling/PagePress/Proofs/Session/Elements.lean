import PagePress.Proofs.Command.Elements
import PagePress.Proofs.Session.History
import PagePress.Proofs.Session.Integrity
import PagePress.Proofs.Store.Elements

/-!
# The elements of a page as a map

In a session of checked actions, the elements of a page are told by the history alone: the page
starts out with a value for each variable of its template, and only the operations on its elements
change that. What these operations answer is told by the map, too.
-/

namespace PagePress

/-! ## Single operations -/

namespace Service

variable {service : Service} {turn : Turn} {op : Operation} {pageId : Uuid}

/-- An operation that fails would not have changed the map. -/
theorem next_of_perform_eq_error {failure : Failure}
    (failed : service.perform turn op = .error failure) {page : Page}
    (found : service.store.page? pageId = some page) :
    ElementMap.next pageId op (service.store.elementMap pageId) =
      some (service.store.elementMap pageId) := by
  cases op with
  | deletePage id =>
    by_cases same : id = pageId
    · subst same
      rw [perform, Publishing.deletePage_of_found found] at failed
      cases failed
    · simp [ElementMap.next, same]
  | setContent id key content =>
    by_cases same : id = pageId
    · subst same
      cases held : service.store.element? id key with
      | some old =>
        rw [perform, Publishing.setContent_of_held found held] at failed
        cases failed
      | none =>
        rw [perform, Publishing.setContent_of_free found held] at failed
        cases failed
    · simp [ElementMap.next, same]
  | createElement id data =>
    by_cases same : id = pageId
    · subst same
      cases held : service.store.element? id data.key with
      | some old => simp [ElementMap.next, ElementMap.add, Store.elementMap, held]
      | none =>
        rw [perform, Publishing.createElement_of_free found held] at failed
        cases failed
    · simp [ElementMap.next, same]
  | deleteElement id key =>
    by_cases same : id = pageId
    · subst same
      cases held : service.store.element? id key with
      | some old =>
        rw [perform, Publishing.deleteElement_of_held found (by rw [held]; rfl)] at failed
        cases failed
      | none =>
        have absent : service.store.elementMap id key = none := by rw [Store.elementMap, held]; rfl
        simp [ElementMap.next, ElementMap.erase, ← absent]
    · simp [ElementMap.next, same]
  | _ => rfl

/-- An operation, whether it fails or not, does to the elements of a page what it does to the map of
the page. -/
theorem after_elementMap?_eq_next (valid : op.IsValid) (fresh : turn.IsFreshFor service.store op)
    (consistent : service.store.Consistent) {page : Page}
    (found : service.store.page? pageId = some page) :
    (service.after turn op).store.elementMap? pageId =
      ElementMap.next pageId op (service.store.elementMap pageId) := by
  unfold after
  split
  · rename_i performed
    exact (effect_of_perform performed).elementMap?_eq_next valid fresh consistent found
  · rename_i failed
    rw [next_of_perform_eq_error failed found]
    exact Store.elementMap?_of_found found

theorem after_missing_or_isInitial (valid : op.IsValid)
    (fresh : turn.IsFreshFor service.store op) (consistent : service.store.Consistent)
    (linked : service.store.Linked) (missing : service.store.page? pageId = none) :
    (service.after turn op).store.page? pageId = none ∨
      (service.after turn op).store.IsInitial pageId := by
  rcases service.effect_of_after turn op with same | effect
  · exact .inl (same ▸ missing)
  · exact effect.missing_or_isInitial valid fresh consistent linked missing

end Service

/-! ## Whole sessions -/

namespace Event

/-- The markup that a page is made from, if it is the step that creates the page. -/
def createdMarkup? (event : Event) (pageId : Uuid) : Option String :=
  match event.store.page? pageId, event.left.service.store.page? pageId with
  | none, some page => (event.left.service.store.template? page.templateId).map (·.html)
  | _, _ => none

def nextMap (event : Event) (pageId : Uuid) (map : Option ElementMap) : Option ElementMap :=
  match event.createdMarkup? pageId, event.action.operation? with
  | some html, _ => some (.ofMarkup html)
  | none, some op => map.bind (ElementMap.next pageId op)
  | none, none => map

variable {event : Event} {pageId : Uuid}

/-- The map of a page that exists changes with the operation of a step. -/
theorem elementMap?_left_of_found (orderly : event.found.IsOrderly) (linked : event.store.Linked)
    (checked : event.action.isChecked = true) {page : Page}
    (found : event.store.page? pageId = some page) :
    event.left.service.store.elementMap? pageId =
      match event.action.operation? with
      | some op => ElementMap.next pageId op (event.store.elementMap pageId)
      | none => some (event.store.elementMap pageId) := by
  have fresh := orderly.isFresh_nextTurn event.pause
  rw [left_service]
  rcases Session.act_cases event.found.service event.turn event.action with
    ⟨words, same⟩ | ⟨idle, left⟩ | ⟨op, asked, left⟩
  · rw [same]
    exact ((Command.setup_of_runLine fresh words).setsUp orderly.consistent linked pageId).kept
      page found
  · rw [left, idle]
    exact Store.elementMap?_of_found found
  · rw [left, asked]
    exact Service.after_elementMap?_eq_next (Action.isValid_of_operation? checked asked)
      (fresh.for op) orderly.consistent found

/-- A page that comes into being has a value for each variable of its template. -/
theorem missing_or_isInitial_left (orderly : event.found.IsOrderly) (linked : event.store.Linked)
    (checked : event.action.isChecked = true) (missing : event.store.page? pageId = none) :
    event.left.service.store.page? pageId = none ∨
      event.left.service.store.IsInitial pageId := by
  have fresh := orderly.isFresh_nextTurn event.pause
  rw [left_service]
  rcases Session.act_cases event.found.service event.turn event.action with
    ⟨words, same⟩ | ⟨-, left⟩ | ⟨op, asked, left⟩
  · rw [same]
    exact ((Command.setup_of_runLine fresh words).setsUp orderly.consistent linked pageId).made
      missing
  · rw [left]
    exact .inl missing
  · rw [left]
    exact Service.after_missing_or_isInitial (Action.isValid_of_operation? checked asked)
      (fresh.for op) orderly.consistent linked missing

/-- The rows of a page follow its map. -/
theorem elementMap?_left (event : Event) (orderly : event.found.IsOrderly)
    (linked : event.store.Linked) (checked : event.action.isChecked = true) (pageId : Uuid) :
    event.left.service.store.elementMap? pageId =
      event.nextMap pageId (event.store.elementMap? pageId) := by
  cases found : event.store.page? pageId with
  | some page =>
    have created : event.createdMarkup? pageId = none := by rw [createdMarkup?, found]
    rw [elementMap?_left_of_found orderly linked checked found, nextMap, created,
      Store.elementMap?_of_found found]
    cases event.action.operation? <;> rfl
  | none =>
    rw [Store.elementMap?_of_missing found]
    rcases missing_or_isInitial_left orderly linked checked found with
      missing | ⟨page, template, made, origin, map⟩
    · have created : event.createdMarkup? pageId = none := by rw [createdMarkup?, found, missing]
      rw [Store.elementMap?_of_missing missing, nextMap, created]
      cases event.action.operation? <;> rfl
    · have created : event.createdMarkup? pageId = some template.html := by
        rw [createdMarkup?, found, made]
        exact congrArg (Option.map (·.html)) origin
      rw [Store.elementMap?_of_found made, map, nextMap, created]

end Event

def elementMapIn (history : List Event) (pageId : Uuid) : Option ElementMap :=
  history.foldl (fun map event => event.nextMap pageId map) none

namespace Session

/-- The store is whole, and the rows of a page are what the past tells. -/
structure IsTold (pageId : Uuid) (past : List Event) (session : Session) : Prop where
  orderly : session.IsOrderly
  whole : session.service.store.Linked ∧ session.service.store.WellFormed
  map : session.service.store.elementMap? pageId = elementMapIn past pageId

theorem IsTold.step {pageId : Uuid} {past : List Event} {session : Session}
    (h : session.IsTold pageId past) (pause : Micros) {action : Action}
    (checked : action.isChecked = true) :
    (session.step pause action).2.IsTold pageId (past ++ [⟨session, pause, action⟩]) where
  orderly := h.orderly.step pause action
  whole := h.orderly.linked_wellFormed_step h.whole pause checked
  map := by
    rw [elementMapIn, List.foldl_append, ← elementMapIn, ← h.map]
    exact Event.elementMap?_left ⟨session, pause, action⟩ h.orderly h.whole.1 checked pageId

theorem isTold_run (ttl : Micros) {steps : List (Micros × Action)}
    (checked : ∀ step ∈ steps, step.2.isChecked = true) (pageId : Uuid) :
    ((start ttl).run steps).2.IsTold pageId ((start ttl).history steps) :=
  history_induction (motive := fun past session => session.IsTold pageId past)
    ⟨isOrderly_start ttl, ⟨.empty, .empty⟩, rfl⟩
    fun _ _ next mem h => h.step next.1 (checked next mem)

end Session

/-! ## Pages that are gone -/

/-- The step deletes a page that is there. -/
structure Event.Deletes (event : Event) (pageId : Uuid) : Prop where
  asked : event.action.operation? = some (.deletePage pageId)
  found : ∃ page, event.store.page? pageId = some page

/-- There is no such page, and its number belongs to a step of the past. -/
structure Session.IsGone (pageId : Uuid) (session : Session) : Prop where
  missing : session.service.store.page? pageId = none
  number : ∃ step < session.count, pageId = Session.identifier 11 step

theorem Event.Deletes.isGone {event : Event} {pageId : Uuid} (h : event.Deletes pageId)
    (orderly : event.found.IsOrderly) : event.left.IsGone pageId := by
  obtain ⟨page, found⟩ := h.found
  constructor
  · have deleted : (event.found.service.after event.turn (.deletePage pageId)).store =
        event.store.erasePage pageId := by
      simp only [Service.after, Service.perform, Publishing.deletePage_of_found found]
      rfl
    rw [left_service, Session.act_snd h.asked, deleted]
    exact Store.page?_erasePage_self pageId
  · obtain ⟨mem, own⟩ := Store.page?_eq_some found
    obtain ⟨step, earlier, number⟩ := orderly.pages page mem
    exact ⟨step, Nat.lt_succ_of_lt earlier, own.symm.trans number⟩

namespace Session

theorem IsGone.step {pageId : Uuid} {session : Session} (h : session.IsGone pageId)
    (orderly : session.IsOrderly) (pause : Micros) (action : Action) :
    (session.step pause action).2.IsGone pageId := by
  obtain ⟨step, earlier, rfl⟩ := h.number
  exact ⟨orderly.page?_step_of_missing earlier h.missing pause action, step,
    Nat.lt_succ_of_lt earlier, rfl⟩

/-- A page that has been deleted does not come back. -/
theorem isGone_run (ttl : Micros) (steps : List (Micros × Action)) {event : Event}
    (mem : event ∈ (start ttl).history steps) {pageId : Uuid} (deletes : event.Deletes pageId) :
    ((start ttl).run steps).2.IsGone pageId := by
  have all : ((start ttl).run steps).2.IsOrderly ∧ ∀ event ∈ (start ttl).history steps,
      event.Deletes pageId → ((start ttl).run steps).2.IsGone pageId := by
    refine history_induction (motive := fun past session =>
      session.IsOrderly ∧ ∀ event ∈ past, event.Deletes pageId → session.IsGone pageId)
      ⟨isOrderly_start ttl, by simp⟩ fun past found next _ h => ?_
    obtain ⟨orderly, gone⟩ := h
    refine ⟨orderly.step next.1 next.2, List.forall_mem_append.mpr ⟨?_, ?_⟩⟩
    · intro event mem deletes
      exact (gone event mem deletes).step orderly next.1 next.2
    · exact List.forall_mem_singleton.mpr fun deletes => deletes.isGone orderly
  exact all.2 event mem deletes

end Session

/-! ## What is answered -/

def Operation.elementsOwner? : Operation → Option Uuid
  | getElements id | setContent id _ _ | createElement id _ | deleteElement id _ => some id
  | _ => none

/-- How a service deals with the elements of a page, as the map of the page tells. -/
structure Service.Reflects (service : Service) (pageId : Uuid) (map : Option ElementMap) :
    Prop where
  /-- Without a page, all that is about its elements is refused. -/
  missing : map = none → ∀ turn op, op.elementsOwner? = some pageId →
    service.perform turn op = refuse .pageNotFound
  /-- The elements are listed by key, one for each key of the map. -/
  getElements : ∀ m, map = some m → ∀ turn, ∃ rows,
    service.perform turn (.getElements pageId) = .ok (.elements rows, service) ∧
      (rows.Pairwise fun e next => e.key ≤ next.key) ∧ (rows.map (·.key)).Nodup ∧
      ∀ key value, m key = some value ↔
        ∃ e ∈ rows, e.pageId = pageId ∧ e.key = key ∧ e.value = value
  setContent : ∀ m, map = some m → ∀ turn key content, ∃ e service',
    service.perform turn (.setContent pageId key content) = .ok (.element e, service') ∧
      e.pageId = pageId ∧ e.key = key ∧ m.setContent key content key = some e.value
  createElement : ∀ m, map = some m → ∀ turn data,
    if (m data.key).isSome then
      service.perform turn (.createElement pageId data) = refuse .elementExists
    else ∃ e service',
      service.perform turn (.createElement pageId data) = .ok (.element e, service') ∧
        e.pageId = pageId ∧ e.key = data.key ∧ e.value = .ofRequest data
  deleteElement : ∀ m, map = some m → ∀ turn key,
    if (m key).isSome then
      ∃ service', service.perform turn (.deleteElement pageId key) = .ok (.done, service')
    else service.perform turn (.deleteElement pageId key) = refuse .elementNotFound

/-- The rows of a page are those of its map. -/
theorem Store.Consistent.elementMap_eq_some_iff {store : Store} (h : store.Consistent)
    {pageId : Uuid} {key : String} {value : ElementValue} :
    store.elementMap pageId key = some value ↔
      ∃ e ∈ store.elementsOf pageId, e.pageId = pageId ∧ e.key = key ∧ e.value = value := by
  rw [Store.elementMap, Option.map_eq_some_iff]
  refine exists_congr fun e => ?_
  rw [h.element?_eq_some_iff, Store.mem_elementsOf, Element.place, Prod.mk.injEq]
  tauto

namespace Service

variable {service : Service} {turn : Turn} {pageId : Uuid}

theorem perform_of_missing (missing : service.store.page? pageId = none) {op : Operation}
    (about : op.elementsOwner? = some pageId) : service.perform turn op = refuse .pageNotFound := by
  cases op with
  | getElements =>
    cases about
    rw [perform, Publishing.getElements_of_missing missing]
    rfl
  | setContent =>
    cases about
    rw [perform, Publishing.setContent_of_missing missing]
    rfl
  | createElement =>
    cases about
    rw [perform, Publishing.createElement_of_missing missing]
    rfl
  | deleteElement =>
    cases about
    rw [perform, Publishing.deleteElement_of_missing missing]
    rfl
  | _ => cases about

theorem getElements_of_found {page : Page} (found : service.store.page? pageId = some page)
    (consistent : service.store.Consistent) (turn : Turn) :
    ∃ rows, service.perform turn (.getElements pageId) = .ok (.elements rows, service) ∧
      (rows.Pairwise fun e next => e.key ≤ next.key) ∧ (rows.map (·.key)).Nodup ∧
      ∀ key value, service.store.elementMap pageId key = some value ↔
        ∃ e ∈ rows, e.pageId = pageId ∧ e.key = key ∧ e.value = value := by
  refine ⟨service.store.elementsOf pageId, ?_, Store.elementsOf_sorted _ _, ?_,
    fun key value => consistent.elementMap_eq_some_iff⟩
  · rw [perform, Publishing.getElements_of_found found]
    rfl
  · exact consistent.nodup_keys pageId

theorem setContent_of_found {page : Page} (found : service.store.page? pageId = some page)
    (turn : Turn) (key content : String) :
    ∃ e service', service.perform turn (.setContent pageId key content) =
        .ok (.element e, service') ∧ e.pageId = pageId ∧ e.key = key ∧
      (service.store.elementMap pageId).setContent key content key = some e.value := by
  cases held : service.store.element? pageId key with
  | some old =>
    obtain ⟨-, own, same⟩ := Store.element?_eq_some held
    refine ⟨_, _, congrArg (service.commit .element)
      (Publishing.setContent_of_held found held content), own, same, ?_⟩
    simp [ElementMap.setContent, Store.elementMap, held, ElementValue.withContent, Element.value]
  | none =>
    refine ⟨_, _, congrArg (service.commit .element)
      (Publishing.setContent_of_free found held content), rfl, rfl, ?_⟩
    simp [ElementMap.setContent, Store.elementMap, held, ElementValue.withContent, Element.value]

theorem createElement_of_found {page : Page} (found : service.store.page? pageId = some page)
    (turn : Turn) (data : NewElement) :
    if (service.store.elementMap pageId data.key).isSome then
      service.perform turn (.createElement pageId data) = refuse .elementExists
    else ∃ e service',
      service.perform turn (.createElement pageId data) = .ok (.element e, service') ∧
        e.pageId = pageId ∧ e.key = data.key ∧ e.value = .ofRequest data := by
  cases held : service.store.element? pageId data.key with
  | some old =>
    rw [if_pos (by simp [Store.elementMap, held]), perform,
      Publishing.createElement_of_held found (by rw [held]; rfl)]
    rfl
  | none =>
    rw [if_neg (by simp [Store.elementMap, held])]
    exact ⟨_, _, congrArg (service.commit .element)
      (Publishing.createElement_of_free found held), rfl, rfl, Publishing.requested_value _ _ _⟩

theorem deleteElement_of_found {page : Page} (found : service.store.page? pageId = some page)
    (turn : Turn) (key : String) :
    if (service.store.elementMap pageId key).isSome then
      ∃ service', service.perform turn (.deleteElement pageId key) = .ok (.done, service')
    else service.perform turn (.deleteElement pageId key) = refuse .elementNotFound := by
  cases held : service.store.element? pageId key with
  | some old =>
    rw [if_pos (by simp [Store.elementMap, held])]
    exact ⟨_, congrArg service.remove
      (Publishing.deleteElement_of_held found (by rw [held]; rfl))⟩
  | none =>
    rw [if_neg (by simp [Store.elementMap, held]), perform,
      Publishing.deleteElement_of_free found held]
    rfl

/-- A service deals with the elements of a page as the rows of the page tell. -/
theorem reflects (consistent : service.store.Consistent) (pageId : Uuid) :
    service.Reflects pageId (service.store.elementMap? pageId) := by
  cases found : service.store.page? pageId with
  | none =>
    rw [Store.elementMap?_of_missing found]
    exact ⟨fun _ turn op about => perform_of_missing found about, nofun, nofun, nofun, nofun⟩
  | some page =>
    rw [Store.elementMap?_of_found found]
    refine ⟨nofun, ?_, ?_, ?_, ?_⟩
    · rintro _ ⟨⟩
      exact getElements_of_found found consistent
    · rintro _ ⟨⟩
      exact setContent_of_found found
    · rintro _ ⟨⟩
      exact createElement_of_found found
    · rintro _ ⟨⟩
      exact deleteElement_of_found found

end Service

/-- After checked steps, a service deals with the elements of every page as the history tells, and
the map of a page that has been deleted is gone for good. -/
theorem Session.reflects_elementMapIn (ttl : Micros) {steps : List (Micros × Action)}
    (checked : ∀ step ∈ steps, step.2.isChecked = true) (pageId : Uuid) :
    ((start ttl).run steps).2.service.Reflects pageId
        (elementMapIn ((start ttl).history steps) pageId) ∧
      ∀ event ∈ (start ttl).history steps, event.Deletes pageId →
        elementMapIn ((start ttl).history steps) pageId = none := by
  have told := isTold_run ttl checked pageId
  rw [← told.map]
  exact ⟨Service.reflects told.orderly.consistent pageId, fun event mem deletes =>
    Store.elementMap?_of_missing (isGone_run ttl steps mem deletes).missing⟩

/-- The first page gets a title; an element that it does not have cannot be deleted. -/
def Session.titledPage : List (Micros × Action) :=
  firstPage ++
    [(0, .perform (.setContent (identifier 11 2) "title" "Hello")),
     (0, .perform (.deleteElement (identifier 11 2) "subtitle"))]

theorem Session.reflects_titledPage :
    (elementMapIn ((start 60).history titledPage) (identifier 11 2)).map (· "title") =
        some (some ⟨.text, "Hello", some "Title"⟩) ∧
      ((start 60).run titledPage).2.service.Reflects (identifier 11 2)
        (elementMapIn ((start 60).history titledPage) (identifier 11 2)) :=
  ⟨by decide +kernel, (reflects_elementMapIn 60 (by decide) (identifier 11 2)).1⟩

end PagePress
