import PagePress.Json.Basic
import PagePress.Text.Search

/-!
# Events for the error tracker

Events of health checks are dropped, and an event is tagged with the identifier of the request it
belongs to.
-/

namespace PagePress.TrackedEvent

inductive Fault where
  /-- A part of the event is of the wrong type. -/
  | wrongType
  /-- The headers of the request are not looked up by name. -/
  | noHeaders
deriving DecidableEq, Repr

/-- Whether a value holds a text: as a part of a text, an item of a list or a field of an object. -/
def holds (piece : String) : Json → Except Fault Bool
  | .str s => .ok (Text.occursIn piece.toList s.toList)
  | .arr items => .ok (items.any fun item => item.str? == some piece)
  | .obj fields => .ok (Fields.get? fields piece).isSome
  | _ => .error .wrongType

def isHealthCheck (event : Fields) : Except Fault Bool :=
  match event.get? "transaction" with
  | some transaction => holds "/health" transaction
  | none => .ok false

def identifierIn : Json → Except Fault (Option Json)
  | .obj headers => .ok ((Fields.get? headers "x-request-id").filter Json.isTelling)
  | _ => .error .noHeaders

def requestId? (event : Fields) : Except Fault (Option Json) :=
  match event.get? "request" with
  | none => .ok none
  | some (.obj request) =>
    match Fields.get? request "headers" with
    | some headers => identifierIn headers
    | none => .ok none
  | some request => do
    if ← holds "headers" request then .error .wrongType else return none

def tag (event : Fields) (id : Json) : Except Fault Fields :=
  match (event.get? "tags").getD (.obj []) with
  | .obj tags => .ok (event.set "tags" (.obj (Fields.set "request_id" id tags)))
  | _ => .error .wrongType

def outgoing? (event : Fields) : Except Fault (Option Fields) := do
  if ← isHealthCheck event then return none
  match ← requestId? event with
  | none => return some event
  | some id => return some (← tag event id)

end PagePress.TrackedEvent
