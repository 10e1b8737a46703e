import PagePress.Proofs.Element.Length
import PagePress.Proofs.Session.Creation
import PagePress.Proofs.Session.Elements

/-!
# Elements that fit their columns

The columns for keys and labels are declared to hold 255 characters. What is given for an element is
checked for that, but the names of variables and the labels made from names are not. So in a session
that creates and changes templates and pages and creates elements, all elements fit their columns
exactly if these do.
-/

namespace PagePress

/-- The number of characters that the columns for keys and labels are declared to hold. -/
def columnLength : Nat := 255

/-- The key and the label of the element are no longer than their columns. -/
structure Element.Fits (e : Element) : Prop where
  key : e.key.length ≤ columnLength
  label : ∀ label ∈ e.label, label.length ≤ columnLength

theorem fits_variableRow (now : Micros) (id : Uuid) (name : List Char) :
    (Store.variableRow now id name).Fits ↔
      name.length ≤ columnLength ∧ (label name).length ≤ columnLength := by
  have key : (Store.variableRow now id name).key.length = name.length := String.length_ofList
  have own : (Store.variableRow now id name).label = some (String.ofList (label name)) := by
    simp [Store.variableRow, ElementDefaults.ofVariable]
  constructor
  · intro fits
    refine ⟨key ▸ fits.key, ?_⟩
    simpa using fits.label _ own
  · rintro ⟨shortKey, shortLabel⟩
    refine ⟨key ▸ shortKey, ?_⟩
    rw [own]
    rintro _ ⟨⟩
    simpa using shortLabel

/-- The label of an element made for a request is the one given, or is made from the key. -/
theorem label_requested (now : Micros) (id : Uuid) (data : NewElement) :
    ((∀ given ∈ data.label, given = "") ∧
        (Publishing.requested now id data).label = some (String.ofList (label data.key.toList))) ∨
      ∃ given ∈ data.label, given ≠ "" ∧ (Publishing.requested now id data).label = some given := by
  obtain ⟨key, kind, content, given⟩ := data
  cases given with
  | none => exact .inl ⟨nofun, rfl⟩
  | some given =>
    by_cases empty : given = ""
    · subst empty
      exact .inl ⟨by simp, rfl⟩
    · have written : given.isEmpty = false := by simpa using empty
      refine .inr ⟨given, rfl, empty, ?_⟩
      simp [Publishing.requested, Publishing.draftElement, Option.filter, written]

/-- An element made for a checked request fits if it has been given a label or if the label made
from its key fits. -/
theorem fits_requested {data : NewElement} (key : IsName data.key)
    (short : ∀ given ∈ data.label, given.length ≤ columnLength) (now : Micros) (id : Uuid) :
    (Publishing.requested now id data).Fits ↔
      ((∀ given ∈ data.label, given = "") → (label data.key.toList).length ≤ columnLength) := by
  have fits : (Publishing.requested now id data).Fits ↔
      ∀ label ∈ (Publishing.requested now id data).label, label.length ≤ columnLength :=
    ⟨fun fits => fits.label, fun label => ⟨key.2, label⟩⟩
  rw [fits]
  rcases label_requested now id data with ⟨absent, made⟩ | ⟨given, mem, present, told⟩
  · simp only [made, Option.mem_def, Option.some.injEq, forall_eq', String.length_ofList]
    exact ⟨fun fits _ => fits, fun fits => fits absent⟩
  · simp only [told, Option.mem_def, Option.some.injEq, forall_eq']
    exact ⟨fun _ absent => absurd (absent given mem) present, fun _ => short given mem⟩

/-! ## What a step adds -/

/-- Whether the action enters a customer or carries out one of the five kinds of submissions. -/
def Action.isEntry : Action → Bool
  | submit _ _ | perform (.createCustomer _ _) => true
  | _ => false

namespace Event

/-- The request for an element, with its page, if the step is the one that creates the element. -/
def createdElement? (event : Event) : Option (Uuid × NewElement) :=
  match event.action.operation? with
  | some (.createElement pageId data) =>
    match event.found.service.perform event.turn (.createElement pageId data) with
    | .ok _ => some (pageId, data)
    | .error _ => none
  | _ => none

def additions (event : Event) : List Element :=
  (event.createdMarkup? event.turn.pageId).elim []
      (Store.variableRows event.time event.turn.pageId) ++
    event.createdElement?.toList.map fun made => Publishing.requested event.time made.1 made.2

variable {event : Event}

theorem createdMarkup?_eq_none
    (pages : ∀ id, event.store.page? id = none → event.left.service.store.page? id = none)
    (id : Uuid) : event.createdMarkup? id = none := by
  unfold createdMarkup?
  split
  · rename_i missing found
    rw [pages _ missing] at found
    cases found
  · rfl

theorem additions_eq_nil
    (pages : ∀ id, event.store.page? id = none → event.left.service.store.page? id = none)
    (made : event.createdElement? = none) : event.additions = [] := by
  rw [additions, createdMarkup?_eq_none pages, made]
  rfl

end Event

/-- Whether the operation enters a customer or a template, or changes a template or a page. -/
def Operation.leavesElements : Operation → Bool
  | createCustomer _ _ | createTemplate _ | updateTemplate _ _ | updatePage _ _ => true
  | _ => false

theorem Effect.elements_of_leavesElements {turn : Turn} {store store' : Store} {op : Operation}
    (effect : Effect turn store op store') (leaves : op.leavesElements = true) :
    store'.elements = store.elements ∧ ∀ id, store.page? id = none → store'.page? id = none := by
  cases effect with
  | nothing => exact ⟨rfl, fun _ => id⟩
  | customerAdded written =>
    obtain ⟨-, -, -, -, rfl⟩ := Store.insertCustomer_eq_some_iff.mp written
    exact ⟨rfl, fun _ => id⟩
  | templateAdded | templateChanged => exact ⟨rfl, fun _ => id⟩
  | pageChanged _ _ written =>
    obtain ⟨-, -, rfl⟩ := Store.updatePage_eq_some_iff.mp written
    refine ⟨rfl, fun id missing => ?_⟩
    rw [Store.page?_replacePage, missing]
    rfl
  | _ => cases leaves

/-- The operation of an entry leaves the elements, creates a page or creates an element. -/
theorem Action.of_isEntry {action : Action} (entry : action.isEntry = true) {op : Operation}
    (asked : action.operation? = some op) :
    op.leavesElements = true ∨ (∃ data, op = .createPage data) ∨
      ∃ pageId data, op = .createElement pageId data ∧ IsName data.key ∧
        ∀ label ∈ data.label, label.length ≤ columnLength := by
  cases action with
  | perform op' =>
    cases op' with
    | createCustomer =>
      cases asked
      exact .inl rfl
    | _ => cases entry
  | submit submission data =>
    have read := (operation?_submit_eq_some_iff.mp asked).1
    cases submission with
    | newTemplate | templateChanges | pageChanges =>
      obtain ⟨_, -, rfl⟩ := Outcome.map_eq_ok_iff.mp read
      exact .inl rfl
    | newPage =>
      obtain ⟨data, -, rfl⟩ := Outcome.map_eq_ok_iff.mp read
      exact .inr (.inl ⟨data, rfl⟩)
    | newElement pageId =>
      obtain ⟨data, formed, rfl⟩ := Outcome.map_eq_ok_iff.mp read
      have short := Form.of_read Request.of_newElement formed
      exact .inr (.inr ⟨pageId, data, rfl, short⟩)
  | _ => cases entry

namespace Event

variable {event : Event}

theorem additions_of_leavesElements {op : Operation} (asked : event.action.operation? = some op)
    (leaves : op.leavesElements = true) :
    event.left.service.store.elements = event.store.elements ++ event.additions := by
  have made : event.createdElement? = none := by
    rw [createdElement?, asked]
    cases op with
    | createElement => cases leaves
    | _ => rfl
  have same : event.left.service.store.elements = event.store.elements ∧
      ∀ id, event.store.page? id = none → event.left.service.store.page? id = none := by
    rw [left_service, Session.act_snd asked]
    rcases event.found.service.effect_of_after event.turn op with same | effect
    · rw [same]
      exact ⟨rfl, fun _ => id⟩
    · exact effect.elements_of_leavesElements leaves
  rw [same.1, additions_eq_nil same.2 made, List.append_nil]

theorem additions_of_createPage (orderly : event.found.IsOrderly) (linked : event.store.Linked)
    {data : NewPage} (asked : event.action.operation? = some (.createPage data)) :
    event.left.service.store.elements = event.store.elements ++ event.additions := by
  have made : event.createdElement? = none := by rw [createdElement?, asked]
  have new := (orderly.isFresh_nextTurn event.pause).page
  have way : Publishing.Creation event.store event.turn.now event.turn.pageId data
      (Publishing.createPage event.store event.turn.now event.turn.pageId data) :=
    Publishing.creation orderly.consistent (linked.isNew new)
  have left : event.left.service.store =
      match Publishing.createPage event.store event.turn.now event.turn.pageId data with
      | .ok (_, store) => store
      | .error _ => event.store := by
    rw [left_service, Session.act_snd asked, Service.after, Service.perform, Service.commit]
    cases Publishing.createPage event.store event.turn.now event.turn.pageId data <;> rfl
  generalize Publishing.createPage event.store event.turn.now event.turn.pageId data = created
    at way left
  cases way with
  | @made template customer hasTemplate own hasCustomer owner free =>
    let page := data.row event.turn.now event.turn.pageId
    have missing : event.store.page? page.id = none := Store.page?_eq_none_iff.mpr new
    have left : event.left.service.store =
        event.store.addPage page (Store.variableRows event.turn.now page.id template.html) := left
    have found : event.left.service.store.page? event.turn.pageId = some page := by
      rw [left]
      exact (Store.page?_append_singleton missing page.id _).trans (if_pos rfl)
    have origin : event.left.service.store.template? page.templateId = some template := by
      rw [left]
      exact orderly.consistent.template?_eq_some_iff.mpr ⟨hasTemplate, own⟩
    have markup : event.createdMarkup? event.turn.pageId = some template.html := by
      rw [createdMarkup?, found, show event.store.page? event.turn.pageId = none from missing]
      exact congrArg (Option.map (·.html)) origin
    rw [additions, markup, made, left]
    exact congrArg _ (List.append_nil _).symm
  | _ =>
    have left : event.left.service.store = event.store := left
    have same : ∀ id, event.store.page? id = none → event.left.service.store.page? id = none := by
      rw [left]
      exact fun _ => id
    rw [additions_eq_nil same made, left, List.append_nil]

theorem createdElement?_of_free {pageId : Uuid} {data : NewElement}
    (asked : event.action.operation? = some (.createElement pageId data)) {page : Page}
    (found : event.store.page? pageId = some page)
    (free : event.store.element? pageId data.key = none) :
    event.createdElement? = some (pageId, data) := by
  have performed : event.found.service.perform event.turn (.createElement pageId data) =
      .ok (.element _, _) :=
    congrArg (event.found.service.commit .element) (Publishing.createElement_of_free found free)
  rw [createdElement?, asked]
  simp [performed]

theorem additions_of_createElement {pageId : Uuid} {data : NewElement}
    (asked : event.action.operation? = some (.createElement pageId data)) :
    event.left.service.store.elements = event.store.elements ++ event.additions := by
  let asking : Operation := .createElement pageId data
  have left : event.left.service = event.found.service.after event.turn asking :=
    (left_service event).trans (Session.act_snd asked)
  have failed {kind : RefusalKind}
      (performed : event.found.service.perform event.turn asking = refuse kind) :
      event.left.service.store.elements = event.store.elements ++ event.additions := by
    have made : event.createdElement? = none := by
      rw [createdElement?, asked]
      simp only [asking] at performed
      simp [performed, refuse]
    have unchanged : event.left.service = event.found.service := by
      rw [left, Service.after, performed]
      rfl
    have same : ∀ id, event.store.page? id = none → event.left.service.store.page? id = none := by
      rw [unchanged]
      exact fun _ => id
    rw [additions_eq_nil same made, unchanged, List.append_nil]
  cases found : event.store.page? pageId with
  | none =>
    exact failed (congrArg (event.found.service.commit .element)
      (Publishing.createElement_of_missing found data))
  | some page =>
    cases held : event.store.element? pageId data.key with
    | some old =>
      exact failed (congrArg (event.found.service.commit .element)
        (Publishing.createElement_of_held found (by rw [held]; rfl)))
    | none =>
      let e := Publishing.requested event.turn.now pageId data
      have performed : event.found.service.perform event.turn asking = .ok (.element e,
          { event.found.service with
            store := { event.store with elements := event.store.elements ++ [e] } }) :=
        congrArg (event.found.service.commit .element)
          (Publishing.createElement_of_free found held)
      have made := createdElement?_of_free asked found held
      rw [Service.after, performed] at left
      have markup : event.createdMarkup? event.turn.pageId = none := by
        refine createdMarkup?_eq_none (fun id missing => ?_) _
        rw [left]
        exact missing
      rw [additions, markup, made, left]
      rfl

/-- A step that is an entry adds its additions and changes no other element. -/
theorem elements_left (event : Event) (orderly : event.found.IsOrderly)
    (linked : event.store.Linked) (entry : event.action.isEntry = true) :
    event.left.service.store.elements = event.store.elements ++ event.additions := by
  rcases Session.act_cases event.found.service event.turn event.action with
    ⟨words, command⟩ | ⟨idle, left⟩ | ⟨op, asked, -⟩
  · rw [command] at entry
    cases entry
  · have made : event.createdElement? = none := by rw [createdElement?, idle]
    rw [← left_service] at left
    have same : ∀ id, event.store.page? id = none → event.left.service.store.page? id = none := by
      rw [left]
      exact fun _ => id
    rw [additions_eq_nil same made, left, List.append_nil]
  · rcases Action.of_isEntry entry asked with leaves | ⟨data, rfl⟩ | ⟨pageId, data, rfl, -⟩
    · exact additions_of_leavesElements asked leaves
    · exact additions_of_createPage orderly linked asked
    · exact additions_of_createElement asked

end Event

/-! ## Whole sessions -/

namespace Session

/-- The store is whole, and its elements are those that the steps of the past have added. -/
structure IsFilled (past : List Event) (session : Session) : Prop where
  orderly : session.IsOrderly
  whole : session.service.store.Linked ∧ session.service.store.WellFormed
  elements : session.service.store.elements = past.flatMap (·.additions)
  entries : ∀ event ∈ past, event.action.isEntry = true

theorem IsFilled.step {past : List Event} {session : Session} (h : session.IsFilled past)
    (pause : Micros) {action : Action} (entry : action.isEntry = true) :
    (session.step pause action).2.IsFilled (past ++ [⟨session, pause, action⟩]) where
  orderly := h.orderly.step pause action
  whole := by
    refine h.orderly.linked_wellFormed_step h.whole pause ?_
    cases action with
    | perform op =>
      cases op with
      | createCustomer => rfl
      | _ => cases entry
    | _ => rfl
  elements := by
    have grown := Event.elements_left ⟨session, pause, action⟩ h.orderly h.whole.1 entry
    rw [List.flatMap_append, List.flatMap_singleton, ← h.elements]
    exact grown
  entries := List.forall_mem_append.mpr ⟨h.entries, List.forall_mem_singleton.mpr entry⟩

theorem isFilled_run (ttl : Micros) {steps : List (Micros × Action)}
    (entries : ∀ step ∈ steps, step.2.isEntry = true) :
    ((start ttl).run steps).2.IsFilled ((start ttl).history steps) :=
  history_induction (motive := fun past session => session.IsFilled past)
    ⟨isOrderly_start ttl, ⟨.empty, .empty⟩, rfl, by simp⟩
    fun _ _ next mem h => h.step next.1 (entries next mem)

end Session

/-- What is given for a new element is checked. -/
theorem Event.checked_of_createdElement? {event : Event} (entry : event.action.isEntry = true)
    {pageId : Uuid} {data : NewElement} (made : event.createdElement? = some (pageId, data)) :
    IsName data.key ∧ ∀ given ∈ data.label, given.length ≤ columnLength := by
  unfold createdElement? at made
  split at made
  · rename_i asked
    split at made
    · obtain ⟨rfl, rfl⟩ := Prod.mk.inj (Option.some.inj made)
      obtain leaves | ⟨_, other⟩ | ⟨_, _, same, checked⟩ := Action.of_isEntry entry asked
      · cases leaves
      · cases other
      · cases same
        exact checked
    · cases made
  · cases made

/-- What a step adds fits exactly if the names in the markup of its page and the labels made from
them do, and the label that it makes for its element. -/
theorem Event.additions_fit_iff {event : Event} (entry : event.action.isEntry = true) :
    (∀ e ∈ event.additions, e.Fits) ↔
      (∀ html ∈ event.createdMarkup? event.turn.pageId,
        ∀ name ∈ Markup.variableNames html.toList,
          name.length ≤ columnLength ∧ (label name).length ≤ columnLength) ∧
      ∀ made ∈ event.createdElement?, (∀ given ∈ made.2.label, given = "") →
        (label made.2.key.toList).length ≤ columnLength := by
  rw [additions, List.forall_mem_append]
  refine and_congr ?_ ?_
  · cases event.createdMarkup? event.turn.pageId with
    | none => simp
    | some html => simp [Store.variableRows, fits_variableRow]
  · cases made : event.createdElement? with
    | none => simp
    | some request =>
      obtain ⟨checked, short⟩ := checked_of_createdElement? entry made
      simpa using fits_requested checked short event.time request.1

/-- In a session of entries, every element has been added by a step, and all elements fit their
columns exactly if all names do that stand in the markup of a page as it is created, and all labels
that are made from a name. A label made from a name is at most about twice as long. -/
theorem Session.elements_fit_iff (ttl : Micros) {steps : List (Micros × Action)}
    (entries : ∀ step ∈ steps, step.2.isEntry = true) :
    let store := ((start ttl).run steps).2.service.store
    let past := (start ttl).history steps
    store.elements = past.flatMap (·.additions) ∧
    ((∀ e ∈ store.elements, e.Fits) ↔
      (∀ event ∈ past, ∀ html ∈ event.createdMarkup? event.turn.pageId,
        ∀ name ∈ Markup.variableNames html.toList,
          name.length ≤ columnLength ∧ (label name).length ≤ columnLength) ∧
      ∀ event ∈ past, ∀ made ∈ event.createdElement?, (∀ given ∈ made.2.label, given = "") →
        (label made.2.key.toList).length ≤ columnLength) ∧
    ∀ name, (label name).length ≤ 2 * name.length + 1 := by
  intro store past
  have filled : ((start ttl).run steps).2.IsFilled past := isFilled_run ttl entries
  refine ⟨filled.elements, ?_, length_label_le⟩
  have each : (∀ e ∈ store.elements, e.Fits) ↔
      ∀ event ∈ past, ∀ e ∈ event.additions, e.Fits := by
    rw [filled.elements]
    simp only [List.mem_flatMap]
    grind
  rw [each, ← forall₂_and]
  exact forall₂_congr fun event mem => Event.additions_fit_iff (filled.entries event mem)

namespace Session

/-- A page whose template has a variable, and an element without a label. -/
def filledPage : List (Micros × Action) :=
  [(0, .perform (.createCustomer (some "Ann") (some "ann@example.com"))),
   (0, .submit .newTemplate
     (.obj [("name", .str "Plain"), ("html_content", .str "<p>\x7b\x7btitle\x7d\x7d</p>")])),
   (0, .submit .newPage
     (.obj [("template_id", .str (identifier 10 1).text),
       ("customer_id", .str (identifier 12 0).text), ("name", .str "First"),
       ("slug", .str "first")])),
   (0, .submit (.newElement (identifier 11 2)) (.obj [("element_key", .str "note")]))]

theorem elements_fit_iff_filledPage :
    (∀ step ∈ filledPage, step.2.isEntry = true) ∧
    ((start 60).run filledPage).2.service.store.elements =
      ((start 60).history filledPage).flatMap (·.additions) ∧
    ((start 60).run filledPage).2.service.store.elements.map (fun e => (e.key, e.label)) =
      [("title", some "Title"), ("note", some "Note")] := by
  have entries : ∀ step ∈ filledPage, step.2.isEntry = true := by decide
  exact ⟨entries, (elements_fit_iff 60 entries).1, by decide +kernel⟩

def longKey : String := String.ofList (List.replicate 129 'A')

theorem length_label_longKey : (label longKey.toList).length = 257 := by
  have letters : longKey.toList = List.replicate 129 'A' := String.toList_ofList
  have long : (label (List.replicate 129 'A')).length = 257 := by decide +kernel
  exact letters ▸ long

/-- The page gets an element with that key, and no label is given. -/
def overfilledPage : List (Micros × Action) :=
  filledPage ++
    [(0, .submit (.newElement (identifier 11 2)) (.obj [("element_key", .ofString longKey)]))]

/-- The label made for it does not fit. -/
theorem overfilledPage_overflows :
    (∀ step ∈ overfilledPage, step.2.isEntry = true) ∧
    ∃ e ∈ ((start 60).run overfilledPage).2.service.store.elements,
      e.key = longKey ∧ ∃ label ∈ e.label, label.length = 257 := by
  refine ⟨by decide +kernel, ?_⟩
  let data : NewElement := ⟨longKey, none, none, none⟩
  let event : Event :=
    { found := ((start 60).run filledPage).2
      pause := 0
      action := .submit (.newElement (identifier 11 2))
        (.obj [("element_key", .ofString longKey)]) }
  have asked : event.action.operation? = some (.createElement (identifier 11 2) data) := by
    decide +kernel
  obtain ⟨page, found⟩ : ∃ page, event.store.page? (identifier 11 2) = some page :=
    Option.isSome_iff_exists.mp (by decide +kernel)
  have free : event.store.element? (identifier 11 2) data.key = none := by decide +kernel
  have made : event.createdElement? = some (identifier 11 2, data) :=
    Event.createdElement?_of_free asked found free
  let e := Publishing.requested event.time (identifier 11 2) data
  have added : e ∈ event.additions := by
    rw [Event.additions, made]
    simp [e]
  have grown := Event.additions_of_createElement asked
  have last : ((start 60).run overfilledPage).2 = event.left :=
    run_append_singleton_snd (start 60) filledPage 0 _
  refine ⟨e, ?_, rfl, ?_⟩
  · rw [last, grown]
    exact List.mem_append_right _ added
  · obtain ⟨-, label⟩ | ⟨given, given_mem, -⟩ := label_requested event.time (identifier 11 2) data
    · exact ⟨_, label, String.length_ofList.trans length_label_longKey⟩
    · cases given_mem

end Session

end PagePress
