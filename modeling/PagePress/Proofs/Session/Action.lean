import PagePress.Proofs.Command.Run
import PagePress.Session.Basic

/-!
# What actions do

An action carries out at most one operation, unless it is a command, which may carry out several.
Either way its effect on the store is a sequence of effects of operations, which are valid if the
action is checked.
-/

namespace PagePress

/-- The operation that a call comes to, if the storage takes its texts. -/
def Call.operation? (call : Call) : Option Operation :=
  if call.isStorable then some call.operation else none

/-- The operation that a request makes the service carry out, if it comes that far. -/
def HttpRequest.operation? (request : HttpRequest) : Option Operation :=
  match request.sendFault?, Destination.find request.method request.address.path with
  | none, .endpoint endpoint =>
    match request.call? endpoint with
    | .ok (some call) => if request.broken.any endpoint.uses then none else call.operation?
    | _ => none
  | _, _ => none

def Action.operation? : Action → Option Operation
  | .perform op => some op
  | .submit submission data => (submission.call data).toOption.bind Call.operation?
  | .request sent => sent.operation?
  | .showContents | .describe | .command _ => none

/-- The service after an operation, which leaves it alone if it fails. -/
def Service.after (service : Service) (turn : Turn) (op : Operation) : Service :=
  match service.perform turn op with
  | .ok (_, service) => service
  | .error _ => service

namespace Service

variable {service : Service} {turn : Turn} {call : Call}

theorem execute_of_storable (storable : call.isStorable = true) :
    service.execute turn call = service.perform turn call.operation := by
  rw [execute, storable]
  cases service.perform turn call.operation <;> rfl

/-- A text that the storage does not take is told last. -/
theorem execute_of_unstorable (unstorable : call.isStorable = false) :
    service.execute turn call = service.perform turn call.operation >>= fun _ =>
      .error .brokenText := by
  rw [execute, unstorable]
  rfl

theorem execute_eq_ok_iff {done : Result × Service} :
    service.execute turn call = .ok done ↔
      call.isStorable = true ∧ service.perform turn call.operation = .ok done := by
  cases storable : call.isStorable with
  | true => simp [execute_of_storable storable]
  | false =>
    rw [execute_of_unstorable storable]
    cases service.perform turn call.operation <;> simp [bind, Except.bind]

theorem submit_of_call {submission : Submission} {data : Json}
    (read : submission.call data = .ok call) :
    service.submit turn submission data = service.execute turn call := by
  rw [submit, read]
  rfl

end Service

namespace Session

variable {service : Service} {turn : Turn} {op : Operation}

theorem conclude_ok (service changed : Service) (result : Result) :
    (conclude service (.ok (result, changed))).2 = changed := by
  simp only [conclude]
  split <;> rfl

theorem perform_snd (service : Service) (turn : Turn) (op : Operation) :
    (conclude service (service.perform turn op)).2 = service.after turn op := by
  unfold Service.after
  cases service.perform turn op with
  | ok done => exact conclude_ok service done.2 done.1
  | error failure => rfl

theorem execute_snd (service : Service) (turn : Turn) (call : Call) :
    (conclude service (service.execute turn call)).2 =
      call.operation?.elim service (service.after turn) := by
  cases storable : call.isStorable with
  | true =>
    rw [Service.execute_of_storable storable, perform_snd, Call.operation?, if_pos storable]
    rfl
  | false =>
    rw [Service.execute_of_unstorable storable, Call.operation?, storable]
    cases service.perform turn call.operation <;> rfl

/-- Answering a request does to the service what any other answer does. -/
theorem carryOut_snd (service : Service) (turn : Turn) (id : String) (endpoint : Endpoint)
    (call : Call) :
    (service.carryOut turn id endpoint call).2 =
      call.operation?.elim service (service.after turn) := by
  rw [← execute_snd, Service.carryOut]
  cases service.execute turn call with
  | ok done => exact (conclude_ok service done.2 done.1).symm
  | error failure => cases failure <;> rfl

/-- A request does to the service what its operation does. -/
theorem request_snd (service : Service) (turn : Turn) (request : HttpRequest) :
    (act service turn (.request request)).2 =
      request.operation?.elim service (service.after turn) := by
  simp only [act, HttpRequest.operation?]
  cases request.sendFault? with
  | some fault => rfl
  | none =>
    simp only [Service.handle, Service.dispatch]
    cases Destination.find request.method request.address.path with
    | endpoint endpoint =>
      simp only [Service.serve]
      cases request.call? endpoint with
      | error rejection => rfl
      | ok call =>
        cases call with
        | none => rfl
        | some call =>
          by_cases broken : request.broken.any endpoint.uses
          · simp [broken]
          · simp [broken, carryOut_snd]
    | _ => rfl

/-- An action is a command, or it does to the service what its operation does, if it has one. -/
theorem act_cases (service : Service) (turn : Turn) (action : Action) :
    (∃ words, action = .command words) ∨
      (action.operation? = none ∧ (act service turn action).2 = service) ∨
      ∃ op, action.operation? = some op ∧ (act service turn action).2 = service.after turn op := by
  cases action with
  | command words => exact .inl ⟨words, rfl⟩
  | perform op => exact .inr (.inr ⟨op, rfl, perform_snd service turn op⟩)
  | submit submission data =>
    cases read : submission.call data with
    | error violations =>
      refine .inr (.inl ⟨by rw [Action.operation?, read]; rfl, ?_⟩)
      rw [act, Service.submit, read]
      rfl
    | ok call =>
      have asked : (Action.submit submission data).operation? = call.operation? := by
        rw [Action.operation?, read]
        rfl
      rw [asked, act, Service.submit_of_call read, execute_snd]
      cases call.operation? with
      | none => exact .inr (.inl ⟨rfl, rfl⟩)
      | some op => exact .inr (.inr ⟨op, rfl, rfl⟩)
  | showContents | describe => exact .inr (.inl ⟨rfl, rfl⟩)
  | request sent =>
    rw [request_snd, Action.operation?]
    cases sent.operation? with
    | none => exact .inr (.inl ⟨rfl, rfl⟩)
    | some op => exact .inr (.inr ⟨op, rfl, rfl⟩)

/-- An action with an operation does to the service what the operation does. -/
theorem act_snd {action : Action} (asked : action.operation? = some op) :
    (act service turn action).2 = service.after turn op := by
  rcases act_cases service turn action with ⟨words, rfl⟩ | ⟨idle, -⟩ | ⟨op', asked', left⟩
  · cases asked
  · rw [idle] at asked
    cases asked
  · obtain rfl : op' = op := Option.some.inj (asked'.symm.trans asked)
    exact left

/-- A command leaves the cache alone. -/
theorem command_cache (service : Service) (turn : Turn) (words : List String) :
    (act service turn (.command words)).2.cache = service.cache := rfl

end Session

theorem Call.operation?_eq_some_iff {call : Call} {op : Operation} :
    call.operation? = some op ↔ call.isStorable = true ∧ call.operation = op := by
  simp [operation?]

/-- What is submitted is carried out if it can be read and stored. -/
theorem Action.operation?_submit_eq_some_iff {submission : Submission} {data : Json}
    {op : Operation} :
    (submit submission data).operation? = some op ↔
      submission.read data = .ok op ∧ submission.form.isStorable data = true := by
  rw [operation?, Submission.call]
  cases submission.read data with
  | error violations => exact iff_of_false nofun nofun
  | ok op' =>
    refine Call.operation?_eq_some_iff.trans (and_comm.trans ?_)
    simp

/-- The operations of a checked action are valid. -/
theorem Action.isValid_of_operation? {action : Action} (checked : action.isChecked = true)
    {op : Operation} (h : action.operation? = some op) : op.IsValid := by
  cases action with
  | perform op =>
    cases h
    simp only [isChecked, Bool.and_eq_true, Bool.not_eq_true'] at checked
    cases op with
    | createTemplate | updateTemplate | createPage | updatePage => cases checked.2
    | _ => exact checked.1
  | submit submission data =>
    exact Submission.isValid_of_read (operation?_submit_eq_some_iff.mp h).1
  | request request =>
    simp only [operation?, HttpRequest.operation?] at h
    split at h
    · split at h
      · rename_i hcall
        split at h
        · cases h
        · obtain ⟨-, rfl⟩ := Call.operation?_eq_some_iff.mp h
          exact HttpRequest.isValid_of_call? hcall
      · cases h
    · cases h
  | _ => cases h

/-- An action renders if it is told to, or if it is a visitor's request for a page. -/
theorem Action.of_operation?_eq_render {action : Action} {slug : String}
    (asked : action.operation? = some (.render slug)) :
    action = .perform (.render slug) ∨
      ∃ sent, action = .request sent ∧
        Destination.find sent.method sent.address.path = .endpoint (.showPage slug) := by
  cases action with
  | perform op =>
    cases asked
    exact .inl rfl
  | submit submission data =>
    have read := (operation?_submit_eq_some_iff.mp asked).1
    exact absurd rfl (Submission.ne_render_of_read read slug)
  | request sent =>
    refine .inr ⟨sent, rfl, ?_⟩
    simp only [operation?, HttpRequest.operation?] at asked
    split at asked
    · rename_i destination
      split at asked
      · rename_i hcall
        split at asked
        · cases asked
        · have renders := (Call.operation?_eq_some_iff.mp asked).2
          rw [destination, HttpRequest.endpoint_of_render hcall renders]
      · cases asked
    · cases asked
  | _ => cases asked

namespace Service

variable {service : Service} {turn : Turn} {op : Operation}

/-- Only rendering changes the cache. -/
theorem cache_of_perform {service' : Service} {result : Result} (other : ∀ slug, op ≠ .render slug)
    (h : service.perform turn op = .ok (result, service')) : service'.cache = service.cache := by
  cases op with
  | render slug => exact absurd rfl (other slug)
  | customerWithEmail | customerExists | getTemplate | previewTemplate | countPages
  | listTemplates | getPage | getPageBySlug | listPages | isSlugTaken | getElements =>
    rw [of_answer h]
  | deleteTemplate | deletePage | deleteElement =>
    obtain ⟨_, -, rfl⟩ := of_remove h
    rfl
  | _ =>
    obtain ⟨_, _, -, -, rfl⟩ := of_commit h
    rfl

theorem after_cache (other : ∀ slug, op ≠ .render slug) :
    (service.after turn op).cache = service.cache := by
  unfold after
  split
  · rename_i performed
    exact cache_of_perform other performed
  · rfl

theorem after_render_cache (slug : String) :
    (service.after turn (.render slug)).cache =
      match Publishing.render service.store service.cache turn.now slug with
      | .ok (_, cache) => cache
      | .error _ => service.cache := by
  simp only [after, perform]
  cases Publishing.render service.store service.cache turn.now slug <;> rfl

theorem effect_of_after (service : Service) (turn : Turn) (op : Operation) :
    (service.after turn op).store = service.store ∨
      Effect turn service.store op (service.after turn op).store := by
  unfold after
  split
  · rename_i performed
    exact .inr (effect_of_perform performed)
  · exact .inl rfl

end Service

/-- Every action has effects on the store, and those of a checked action are effects of valid
operations. -/
theorem Session.effects_of_act {service : Service} {turn : Turn}
    (fresh : turn.IsFresh service.store) (action : Action) :
    ∃ ops, Effects turn service.store ops (act service turn action).2.store ∧
      (action.isChecked = true → ∀ op ∈ ops, op.IsValid) := by
  rcases act_cases service turn action with ⟨words, rfl⟩ | ⟨-, left⟩ | ⟨op, asked, left⟩
  · obtain ⟨ops, effects, setup⟩ := Command.setup_of_runLine fresh words
    exact ⟨ops, effects, fun _ op mem => (setup op mem).isValid⟩
  · rw [left]
    exact ⟨[], .done, by simp⟩
  · rw [left]
    rcases service.effect_of_after turn op with same | effect
    · rw [same]
      exact ⟨[], .done, by simp⟩
    · refine ⟨[op], .next (fresh.for op) effect .done, fun checked => ?_⟩
      simpa using Action.isValid_of_operation? checked asked

end PagePress
