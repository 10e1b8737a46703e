import PagePress.Command.Run
import PagePress.Decimal.Digits
import PagePress.Http.Server
import PagePress.Publishing.Submission
import PagePress.View.Contents

/-!
# Sessions

A session is a sequence of actions on one service, each at its own time and with identifiers of its
own. An action that fails does not end the session.
-/

namespace PagePress

/-- What is done in one step of a session. -/
inductive Action where
  | perform (operation : Operation)
  | submit (submission : Submission) (data : Json)
  | showContents
  | describe
  | command (words : List String)
  | request (request : HttpRequest)

/-- Whether all data that the action stores is checked first. -/
def Action.isChecked : Action → Bool
  | perform operation => !operation.isRaw && !operation.needsCheck
  | _ => true

/-- What one step of a session answers. -/
inductive Answer where
  | value (value : Json)
  | failure (failure : Failure)
  | report (report : Report)
  | response (response : HttpResponse)
  /-- A request that cannot be sent. -/
  | unsent (fault : SendFault)

/-- A session between two steps. -/
structure Session where
  service : Service
  /-- The time of the last step. -/
  now : Micros := 1704067200 * second
  /-- The number of steps taken. -/
  count : Nat := 0

namespace Session

/-- The number whose hexadecimal digits are the decimal digits of `n`. -/
def decimalAsHex (n : Nat) : Nat :=
  (Decimal.digits n).foldl (fun value c => 16 * value + (c.toNat - 48)) 0

def identifier (kind step : Nat) : Uuid :=
  ⟨kind * Nat.pow 16 31 + 0x40008000000000000000 + decimalAsHex step⟩

/-- A session with an empty store, and a cache whose entries live for `ttl`. -/
def start (ttl : Micros) : Session := { service := { cache := { ttl } } }

/-- What the next step finds around it, if it is taken `pause` and one second after the last. -/
def nextTurn (session : Session) (pause : Micros) : Turn where
  now := session.now + second + pause
  customerId := identifier 12 session.count
  templateId := identifier 10 session.count
  pageId := identifier 11 session.count

/-- How a session shows a result: of templates in a list it shows the names. -/
def show? (store : Store) : Result → Checked Json
  | .templates ts => .ok (.arr (ts.map fun t => .str t.name))
  | result => result.toJson store

/-- Answers with the outcome of an operation. What was written stays, even if it cannot be shown. -/
def conclude (service : Service) : Outcome (Result × Service) → Answer × Service
  | .error failure => (.failure failure, service)
  | .ok (result, service) =>
    match show? service.store result with
    | .ok value => (.value value, service)
    | .error violations => (.failure (.invalid violations), service)

def act (service : Service) (turn : Turn) : Action → Answer × Service
  | .perform operation => conclude service (service.perform turn operation)
  | .submit submission data => conclude service (service.submit turn submission data)
  | .showContents => (.value service.store.contents, service)
  | .describe => (.value (.arr (service.store.descriptions.map .ofString)), service)
  | .command words =>
    let (report, store) := Command.runLine service.store turn words
    (.report report, { service with store })
  | .request request =>
    match request.sendFault? with
    | some fault => (.unsent fault, service)
    | none =>
      let (response, service) := service.handle turn request
      (.response response, service)

def step (session : Session) (pause : Micros) (action : Action) : Answer × Session :=
  let turn := session.nextTurn pause
  let (answer, service) := act session.service turn action
  (answer, { service, now := turn.now, count := session.count + 1 })

def run (session : Session) : List (Micros × Action) → List Answer × Session
  | [] => ([], session)
  | (pause, action) :: rest =>
    let (answer, session) := session.step pause action
    let (answers, session) := session.run rest
    (answer :: answers, session)

end Session

end PagePress
