import PagePress.Proofs.Command.Demonstration
import PagePress.Proofs.Session.Integrity
import PagePress.Proofs.Session.History

/-!
# Steps that fail

A step that fails leaves the store and the cache as they were, with two exceptions. An operation may
be carried out and its page turn out unfit to be shown; then the step says so, and what was written
stays. And the command that sets up a demonstration writes a customer and a template before it makes
the page, and they stay if the page cannot be made.
-/

namespace PagePress

/-- The response says that the request has failed. What goes wrong behind a page is shown to a
visitor as a document, which is not meant here. -/
def HttpResponse.isError (response : HttpResponse) : Bool :=
  response.header? "content-type" == some "application/json" && 400 ≤ response.status

def Answer.isFailure : Answer → Bool
  | value _ => false
  | failure _ => true
  | report r => r.exitCode != 0
  | response r => r.isError
  | unsent _ => true

/-! ## Pages that cannot be shown -/

/-- A page is shown together with its template and with a customer whose email is an address. -/
def Store.CanShow (store : Store) (page : Page) : Prop :=
  (∃ template, store.template? page.templateId = some template) ∧
    ∃ customer email, store.customer? page.customerId = some customer ∧
      Email.normal? customer.email = some email

def Result.shownPages : Result → List Page
  | page p => [p]
  | pages ps => ps
  | _ => []

/-- The operation changes the service, but a page that it gives cannot be shown. -/
def Service.WritesUnshown (service : Service) (turn : Turn) (op : Operation) : Prop :=
  ∃ result changed, service.perform turn op = .ok (result, changed) ∧ changed ≠ service ∧
    ∃ page ∈ result.shownPages, ¬changed.store.CanShow page

section Show

variable {store : Store} {page : Page} {α : Type}

/-- What shows a page shows its template and its customer. -/
theorem Store.CanShow.isOk_and (h : store.CanShow page) (f : Template → CustomerSummary → α) :
    (Checked.and ((Template.ofPage store page).map f)
      (CustomerSummary.ofPage store page)).isOk = true := by
  obtain ⟨⟨template, found⟩, customer, email, found', address⟩ := h
  simp only [Template.ofPage, CustomerSummary.ofPage, CustomerSummary.ofCustomer, found, found',
    address]
  rfl

/-- Only a page that cannot be shown keeps a result from being shown. -/
theorem Result.exists_of_toJson_eq_error {result : Result} {violations : List Violation}
    (failed : result.toJson store = .error violations) :
    ∃ page ∈ result.shownPages, ¬store.CanShow page := by
  by_contra none
  have fit : ∀ page ∈ result.shownPages, store.CanShow page := by
    intro page mem
    by_contra unfit
    exact none ⟨page, mem, unfit⟩
  have shown : (result.toJson store).isOk = true := by
    cases result with
    | page p =>
      have made := (fit p List.mem_cons_self).isOk_and fun template customer =>
        { page := p, template, customer, elements := store.elementsOf p.id : PageView }
      exact Outcome.isOk_map made
    | pages ps =>
      refine Outcome.isOk_map (Outcome.isOk_mapM fun p mem => ?_)
      exact (fit p mem).isOk_and fun template customer =>
        { page := p, template, customer, elementCount := (store.elementsOf p.id).length : PageItem }
    | _ => rfl
  rw [failed] at shown
  cases shown

theorem Session.exists_of_show?_eq_error {result : Result} {violations : List Violation}
    (failed : Session.show? store result = .error violations) :
    ∃ page ∈ result.shownPages, ¬store.CanShow page := by
  cases result with
  | templates ts => cases failed
  | _ => exact Result.exists_of_toJson_eq_error failed

theorem Service.eq_or_writesUnshown {service changed : Service} {turn : Turn} {op : Operation}
    {result : Result} (done : service.perform turn op = .ok (result, changed))
    (unshown : ∃ page ∈ result.shownPages, ¬changed.store.CanShow page) :
    changed = service ∨ service.WritesUnshown turn op := by
  by_cases same : changed = service
  · exact .inl same
  · exact .inr ⟨result, changed, done, same, unshown⟩

end Show

/-! ## Requests -/

section Requests

variable {service : Service} {turn : Turn}

theorem HttpResponse.isError_json {status : Nat} {value : Json} (fine : status < 400) :
    (HttpResponse.json status value).isError = false := by
  have outside : ¬400 ≤ status := by omega
  simp [isError, json, outside]

theorem HttpResponse.isError_html (status : Nat) (document : String)
    (headers : List (String × String)) :
    (HttpResponse.html status document headers).isError = false := by
  simp [isError, html, header?]

theorem HttpResponse.isError_ofRendering (ttl : Micros) (rendering : Rendering) :
    (HttpResponse.ofRendering ttl rendering).isError = false := by
  unfold ofRendering
  split
  · split
    · exact isError_html 200 _ _
    · exact isError_html 500 _ _
  · exact isError_html 404 _ _

theorem Endpoint.status_lt (endpoint : Endpoint) : endpoint.status < 400 := by
  cases endpoint <;> simp [status]

/-- Only a page that cannot be shown turns what was done into an error. -/
theorem Service.exists_of_present_isError {id : String} {endpoint : Endpoint} {result : Result}
    (failed : (service.present id endpoint result).isError = true) :
    ∃ page ∈ result.shownPages, ¬service.store.CanShow page := by
  unfold present at failed
  split at failed
  · rw [HttpResponse.isError_ofRendering] at failed
    cases failed
  · split at failed
    · rw [HttpResponse.isError_json endpoint.status_lt] at failed
      cases failed
    · split at failed
      · rw [HttpResponse.isError_json endpoint.status_lt] at failed
        cases failed
      · rename_i violations shown
        exact Result.exists_of_toJson_eq_error shown

theorem Service.carryOut_of_isError {id : String} {endpoint : Endpoint} {call : Call}
    (failed : (service.carryOut turn id endpoint call).1.isError = true) :
    (service.carryOut turn id endpoint call).2 = service ∨
      ∃ op, call.operation? = some op ∧ service.WritesUnshown turn op := by
  unfold carryOut at failed ⊢
  cases done : service.execute turn call with
  | error failure => cases failure <;> exact .inl rfl
  | ok made =>
    obtain ⟨result, changed⟩ := made
    obtain ⟨storable, performed⟩ := execute_eq_ok_iff.mp done
    simp only [done] at failed ⊢
    rcases eq_or_writesUnshown performed (exists_of_present_isError failed) with same | unshown
    · exact .inl same
    · exact .inr ⟨_, Call.operation?_eq_some_iff.mpr ⟨storable, rfl⟩, unshown⟩

/-- A request that fails leaves the service alone, unless its operation was carried out and what it
has written cannot be shown. -/
theorem Service.dispatch_of_isError {request : HttpRequest} (sent : request.sendFault? = none)
    (failed : (service.dispatch turn request).1.isError = true) :
    (service.dispatch turn request).2 = service ∨
      ∃ op, request.operation? = some op ∧ service.WritesUnshown turn op := by
  unfold dispatch at failed ⊢
  cases found : Destination.find request.method request.address.path with
  | endpoint endpoint =>
    simp only [found] at failed ⊢
    unfold serve at failed ⊢
    cases call : request.call? endpoint with
    | error rejection => exact .inl rfl
    | ok asked =>
      cases asked with
      | none => exact .inl rfl
      | some asked =>
        by_cases broken : request.broken.any endpoint.uses = true
        · exact .inl (by simp only [broken, if_true])
        · simp only [call, broken] at failed ⊢
          rcases carryOut_of_isError failed with same | ⟨op, asks, unshown⟩
          · exact .inl same
          · have asks' : request.operation? = some op := by
              simp [HttpRequest.operation?, sent, found, call, broken, asks]
            exact .inr ⟨op, asks', unshown⟩
  | _ => exact .inl rfl

theorem Service.isError_handle (request : HttpRequest) :
    (service.handle turn request).1.isError = (service.dispatch turn request).1.isError := by
  have other : [("x-request-id", request.id)].lookup "content-type" = none := rfl
  have header : ((service.handle turn request).1.header? "content-type") =
      (service.dispatch turn request).1.header? "content-type" := by
    simp only [handle, HttpResponse.header?, List.lookup_append, other, Option.or_none]
  rw [HttpResponse.isError, HttpResponse.isError, header]
  rfl

end Requests

/-! ## Commands -/

def Action.IsSeeding (action : Action) : Prop :=
  ∃ words slug email, action = .command words ∧
    Command.ofArguments? words = some (.seedDemo slug email)

namespace Command

variable {store : Store} {turn : Turn}

theorem addCustomer_of_failed {name email : String}
    (failed : (addCustomer store turn name email).1.exitCode ≠ 0) :
    (addCustomer store turn name email).2 = store := by
  unfold addCustomer at failed ⊢
  by_cases known : (store.customerWithEmail? email).isSome = true
  · simp only [known, if_true]
  · simp only [known] at failed ⊢
    cases written : store.insertCustomer turn.now turn.customerId (some name) (some email) with
    | none => rfl
    | some done =>
      rw [written] at failed
      exact absurd rfl failed

/-- A demonstration that cannot be set up leaves the pages and their elements alone. -/
theorem seed_of_failed {slug email : String}
    (failed : (seed store turn slug email).1.exitCode ≠ 0) :
    (seed store turn slug email).2.pages = store.pages ∧
      (seed store turn slug email).2.elements = store.elements := by
  rcases seed_cases store turn slug email with ⟨_, _, -, succeeded, -⟩ | ⟨-, -, left⟩
  · exact absurd succeeded failed
  · rw [left]
    exact ⟨rfl, rfl⟩

/-- A command that fails leaves the store alone, unless it sets up a demonstration. -/
theorem run_of_failed {command : Command} (failed : (command.run store turn).1.exitCode ≠ 0) :
    (command.run store turn).2 = store ∨
      (∃ slug email, command = .seedDemo slug email) ∧
        (command.run store turn).2.pages = store.pages ∧
          (command.run store turn).2.elements = store.elements := by
  cases command with
  | createCustomer name email => exact .inl (addCustomer_of_failed failed)
  | render slug => exact .inl rfl
  | seedDemo slug email =>
    simp only [run] at failed ⊢
    exact .inr ⟨⟨slug, email, rfl⟩, seed_of_failed failed⟩

theorem runLine_of_failed {words : List String}
    (failed : (runLine store turn words).1.exitCode ≠ 0) :
    (runLine store turn words).2 = store ∨
      (Action.command words).IsSeeding ∧
        (runLine store turn words).2.pages = store.pages ∧
          (runLine store turn words).2.elements = store.elements := by
  cases understood : ofArguments? words with
  | none =>
    refine .inl ?_
    simp only [runLine, understood]
  | some command =>
    have ran : runLine store turn words = command.run store turn := by
      simp only [runLine, understood]
    rw [ran] at failed ⊢
    rcases run_of_failed failed with same | ⟨⟨slug, email, rfl⟩, kept⟩
    · exact .inl same
    · exact .inr ⟨⟨words, slug, email, rfl, understood⟩, kept⟩

end Command

/-! ## Steps -/

/-- The operation of the action is carried out, but what it has written cannot be shown. -/
def Action.IsUnshown (service : Service) (turn : Turn) (action : Action) : Prop :=
  ∃ op, action.operation? = some op ∧ service.WritesUnshown turn op

namespace Session

variable {service : Service} {turn : Turn}

/-- An answer says that something failed if the outcome does, or if a page of the result cannot be
shown. -/
theorem conclude_of_isFailure {outcome : Outcome (Result × Service)}
    (failed : (conclude service outcome).1.isFailure = true) :
    (conclude service outcome).2 = service ∨ ∃ result changed,
      outcome = .ok (result, changed) ∧ (conclude service outcome).2 = changed ∧
        ∃ page ∈ result.shownPages, ¬changed.store.CanShow page := by
  cases outcome with
  | error failure => exact .inl rfl
  | ok done =>
    obtain ⟨result, changed⟩ := done
    refine .inr ⟨result, changed, rfl, conclude_ok service changed result, ?_⟩
    cases shown : show? changed.store result with
    | ok value =>
      simp only [conclude, shown] at failed
      cases failed
    | error violations => exact exists_of_show?_eq_error shown

theorem perform_of_isFailure {op : Operation}
    (failed : (conclude service (service.perform turn op)).1.isFailure = true) :
    (conclude service (service.perform turn op)).2 = service ∨ service.WritesUnshown turn op := by
  rcases conclude_of_isFailure failed with same | ⟨result, changed, done, left, unshown⟩
  · exact .inl same
  · rw [left]
    exact Service.eq_or_writesUnshown done unshown

theorem submit_of_isFailure {submission : Submission} {data : Json}
    (failed : (act service turn (.submit submission data)).1.isFailure = true) :
    (act service turn (.submit submission data)).2 = service ∨
      (Action.submit submission data).IsUnshown service turn := by
  simp only [act] at failed ⊢
  cases read : submission.call data with
  | error violations =>
    rw [Service.submit, read]
    exact .inl rfl
  | ok call =>
    rw [Service.submit_of_call read] at failed ⊢
    rcases conclude_of_isFailure failed with same | ⟨result, changed, done, left, unshown⟩
    · exact .inl same
    · obtain ⟨storable, performed⟩ := Service.execute_eq_ok_iff.mp done
      have asked : (Action.submit submission data).operation? = some call.operation := by
        rw [Action.operation?, read]
        exact Call.operation?_eq_some_iff.mpr ⟨storable, rfl⟩
      rw [left]
      rcases Service.eq_or_writesUnshown performed unshown with same | unshown
      · exact .inl same
      · exact .inr ⟨_, asked, unshown⟩

/-- An action that fails leaves the service as it was, unless its pages cannot be shown or it sets
up a demonstration, which may leave a customer and a template behind. -/
theorem act_of_isFailure {action : Action}
    (failed : (act service turn action).1.isFailure = true) :
    (act service turn action).2 = service ∨ action.IsUnshown service turn ∨
      action.IsSeeding ∧ (act service turn action).2.cache = service.cache ∧
        (act service turn action).2.store.pages = service.store.pages ∧
          (act service turn action).2.store.elements = service.store.elements := by
  cases action with
  | perform op =>
    rcases perform_of_isFailure failed with same | unshown
    · exact .inl same
    · exact .inr (.inl ⟨op, rfl, unshown⟩)
  | submit submission data =>
    rcases submit_of_isFailure failed with same | unshown
    · exact .inl same
    · exact .inr (.inl unshown)
  | showContents => cases failed
  | describe => cases failed
  | command words =>
    have failed' : (Command.runLine service.store turn words).1.exitCode ≠ 0 := by
      simpa [act, Answer.isFailure] using failed
    rcases Command.runLine_of_failed failed' with same | ⟨seeding, pages, elements⟩
    · exact .inl (by simp only [act, same])
    · exact .inr (.inr ⟨seeding, rfl, pages, elements⟩)
  | request sent =>
    cases fault : sent.sendFault? with
    | some fault' => exact .inl (by simp only [act, fault])
    | none =>
      simp only [act, fault] at failed ⊢
      have refused : (service.handle turn sent).1.isError = true := failed
      rw [Service.isError_handle] at refused
      rcases Service.dispatch_of_isError fault refused with same | unshown
      · exact .inl same
      · exact .inr (.inl unshown)

/-- A step that fails leaves no trace: the service is as it was, whatever state the step found. The
exceptions are pages that cannot be shown once they are written, and the setting up of a
demonstration, which leaves at least the pages, their elements and the cache alone. Rendering knows
no exception. -/
theorem step_of_isFailure {session : Session} {pause : Micros} {action : Action}
    (failed : (session.step pause action).1.isFailure = true) :
    ((session.step pause action).2.service = session.service ∨
      action.IsUnshown session.service (session.nextTurn pause) ∨
      action.IsSeeding ∧
        (session.step pause action).2.service.cache = session.service.cache ∧
        (session.step pause action).2.service.store.pages = session.service.store.pages ∧
        (session.step pause action).2.service.store.elements = session.service.store.elements) ∧
    ∀ slug, action = .perform (.render slug) →
      (session.step pause action).2.service = session.service := by
  have trace := act_of_isFailure failed
  refine ⟨trace, ?_⟩
  rintro slug rfl
  rcases trace with
    same | ⟨op, asked, result, changed, done, -, page, mem, -⟩ | ⟨⟨_, _, _, same, -⟩, -⟩
  · exact same
  · cases asked
    obtain ⟨⟨rendering, cache⟩, -, made⟩ := Outcome.map_eq_ok_iff.mp done
    cases made
    cases mem
  · cases same

/-- A second page under the slug of the first. -/
def takenSlug : Action :=
  .submit .newPage
    (.obj [("template_id", .str (identifier 10 1).text),
      ("customer_id", .str (identifier 12 0).text), ("name", .str "Second"),
      ("slug", .str "first")])

theorem step_of_isFailure_takenSlug :
    (((start 60).run firstPage).2.step 0 takenSlug).1.isFailure = true ∧
      (((start 60).run firstPage).2.step 0 takenSlug).2.service =
        ((start 60).run firstPage).2.service := by
  have failed : (((start 60).run firstPage).2.step 0 takenSlug).1.isFailure = true := by
    decide +kernel
  have refused : (takenSlug.operation?.any fun op =>
      (((start 60).run firstPage).2.service.perform
        (((start 60).run firstPage).2.nextTurn 0) op).isOk) = false := by
    decide +kernel
  refine ⟨failed, ?_⟩
  rcases (step_of_isFailure failed).1 with
    same | ⟨op, asked, result, changed, done, -⟩ | ⟨⟨_, _, _, same, -⟩, -⟩
  · exact same
  · rw [asked, Option.any_some, done] at refused
    cases refused
  · cases same

/-- The setting up of a demonstration under what is no slug. -/
def badSlug : Action := .command ["seed-demo", "--slug", "Bad Slug"]

/-- It fails over the data of the page, when a customer and a template have been written. -/
theorem badSlug_leaves_trace :
    (∃ report, ((start 60).step 0 badSlug).1 = .report report ∧
      report.failure =
        some (.invalid [{ kind := .mismatch "^[a-z0-9-]+$", path := [.field "slug"] }])) ∧
      ((start 60).step 0 badSlug).2.service.store.customers ≠
        (start 60).service.store.customers ∧
      ((start 60).step 0 badSlug).2.service.store.templates ≠
        (start 60).service.store.templates := by
  let made := Command.runLine (start 60).service.store ((start 60).nextTurn 0)
    ["seed-demo", "--slug", "Bad Slug"]
  refine ⟨⟨made.1, rfl, ?_⟩, ?_, ?_⟩
  · decide +kernel
  · decide +kernel
  · decide +kernel

end Session

end PagePress
