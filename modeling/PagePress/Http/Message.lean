import PagePress.Http.Address
import PagePress.Json.Shown

/-!
# Requests and responses
-/

namespace PagePress

/-- What a request sends along. -/
inductive Payload where
  | nothing
  | value (value : Json)
  | text (text : String)

/-- A part of the service that may be broken. -/
inductive Part where
  | templates
  | pages
  | rendering
  /-- What has to be there before a page can be rendered. -/
  | renderingSetup
deriving DecidableEq, Repr

structure HttpRequest where
  id : String
  /-- The scheme and the host under which the server was reached. -/
  origin : String
  method : String
  /-- The address as it was written. -/
  target : String
  payload : Payload := .nothing
  broken : Option Part := none

inductive SendFault where
  /-- The address is too long or holds a control character. -/
  | badAddress
  /-- A number in the value to be sent is not finite. -/
  | badNumber
deriving DecidableEq, Repr

namespace SendFault

def badNumberMessage : String := "Out of range float values are not JSON compliant"

end SendFault

namespace HttpRequest

def address (request : HttpRequest) : Address := Address.read request.target

def sendFault? (request : HttpRequest) : Option SendFault :=
  if !Address.isSendable request.target then some .badAddress
  else match request.payload with
    | .value v => if v.isFinite then none else some .badNumber
    | _ => none

end HttpRequest

/-- What a response holds. -/
inductive Content where
  | empty
  | json (value : Json)
  | html (text : String)

structure HttpResponse where
  status : Nat
  headers : List (String × String)
  content : Content

namespace HttpResponse

def json (status : Nat) (value : Json) (headers : List (String × String) := []) : HttpResponse :=
  { status, headers := ("content-type", "application/json") :: headers, content := .json value }

def html (status : Nat) (document : String) (headers : List (String × String) := []) :
    HttpResponse :=
  { status
    headers := ("content-type", "text/html; charset=utf-8") :: headers
    content := .html document }

def redirect (location : String) : HttpResponse :=
  { status := 307, headers := [("location", location)], content := .empty }

def detail (status : Nat) (message : String) (headers : List (String × String) := []) :
    HttpResponse :=
  json status (.obj [("detail", .str message)]) headers

def header? (response : HttpResponse) (name : String) : Option String :=
  response.headers.lookup name

end HttpResponse

end PagePress
