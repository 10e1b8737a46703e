import PagePress.Http.Message
import PagePress.Http.Route
import PagePress.Json.Reader
import PagePress.Publishing.Submission
import PagePress.Text.Encoding

/-!
# Reading requests

What an endpoint needs is read from the path, the query and the body of the request, and all that is
wrong with them is reported together, along with the values that were refused. Only a body that is
no JSON text is reported alone, and what was refused may be such that it cannot be sent back.
-/

namespace PagePress

/-- Why a request is not carried out. -/
inductive Rejection where
  | invalid (violations : List Violation)
  /-- The body is a JSON text beyond the limits of the reader, or no text at all. -/
  | unreadable
  /-- A value in the body was refused that cannot be sent back. -/
  | unsendable
deriving DecidableEq, Repr

/-- What was read from the body of a request. -/
structure Body (α : Type) where
  data : Checked α
  /-- Whether the storage takes all texts among the data. -/
  isStorable : Bool := true

namespace Payload

def withoutMark : List Char → List Char
  | '\uFEFF' :: s => s
  | s => s

/-- A symbol as it can stand in a JSON text: half a pair is escaped. -/
def spelled : Symbol → List Char
  | .char c => [c]
  | .half unit => '\\' :: 'u' :: Text.hexDigits 4 unit

def decoded? (t : String) : Option (List Char) :=
  let bytes := t.toUTF8.toList
  match Text.Encoding.ofBytes bytes with
  | .utf8 => some (withoutMark t.toList)
  | encoding => (encoding.decode? bytes).map fun text => text.symbols.flatMap spelled

/-- The value of the body, if there is a body at all. -/
def json? : Payload → Except Rejection (Option Json)
  | nothing => .ok none
  | value v => .ok (some v)
  | text t =>
    if t.isEmpty then .ok none
    else match decoded? t with
      | none => .error .unreadable
      | some s =>
        match Json.read s with
        | .ok v => .ok (some v)
        | .error (.malformed left) =>
          .error <| .invalid
            [{ kind := .malformedBody, path := [.field "body", .index (s.length - left)] }]
        | .error .tooDeep | .error .tooLong => .error .unreadable

/-- The value in the body that a violation refuses. What is missing is missed in the whole body. -/
def refused (body : Json) (violation : Violation) : Json :=
  match violation.kind, violation.path with
  | .missing, _ => body
  | _, [.field name] => (body.field? name).getD body
  | _, _ => body

def readValue {α : Type} (form : Form) (fields : Fields → Checked α) :
    Option Json → Except Rejection (Body α)
  | none => .ok { data := .fail .missing }
  | some body =>
    let data := match body with
      | .obj given => fields given
      | _ => .fail .noFields
    match data with
    | .ok _ => .ok { data, isStorable := form.isStorable body }
    | .error violations =>
      if violations.all fun violation => (refused body violation).isSendable then .ok { data }
      else .error .unsendable

def read {α : Type} (payload : Payload) (form : Form) (fields : Fields → Checked α) :
    Except Rejection (Body α) := do
  let body ← readValue form fields (← payload.json?)
  return { body with data := Checked.under (.field "body") body.data }

end Payload

namespace HttpRequest

def pathId (name value : String) : Checked Uuid :=
  Checked.under (.field "path") (Checked.under (.field name) (Request.identifier (.str value)))

def templateId (value : String) : Checked Uuid := pathId "template_id" value

def pageId (value : String) : Checked Uuid := pathId "page_id" value

def customerId (address : Address) : Checked (Option Uuid) :=
  match address.parameter? "customer_id" with
  | none => .ok none
  | some value =>
    Checked.under (.field "query") <| Checked.under (.field "customer_id") <|
      (Request.identifier (.str value)).map some

def call (operation : Checked Operation) : Except Rejection (Option Call) :=
  (operation.mapError .invalid).map fun operation => some { operation }

def callWith {α : Type} (operation : Checked (α → Operation)) (body : Body α) :
    Except Rejection (Option Call) :=
  ((Checked.and operation body.data).mapError .invalid).map fun operation =>
    some { operation, isStorable := body.isStorable }

def call? (request : HttpRequest) : Endpoint → Except Rejection (Option Call)
  | .listTemplates => call (.ok (.listTemplates (request.address.parameter? "search")))
  | .createTemplate => do
    callWith (.ok .createTemplate) (← request.payload.read .newTemplate Request.newTemplate)
  | .getTemplate id => call ((templateId id).map .getTemplate)
  | .previewTemplate id => call ((templateId id).map .previewTemplate)
  | .updateTemplate id => do
    callWith ((templateId id).map .updateTemplate)
      (← request.payload.read .templateChanges Request.templateChanges)
  | .deleteTemplate id => call ((templateId id).map .deleteTemplate)
  | .listPages =>
    call ((customerId request.address).map (.listPages · (request.address.parameter? "search")))
  | .createPage => do
    callWith (.ok .createPage) (← request.payload.read .newPage Request.newPage)
  | .getPageBySlug slug => call (.ok (.getPageBySlug slug))
  | .getPage id => call ((pageId id).map .getPage)
  | .updatePage id => do
    callWith ((pageId id).map .updatePage)
      (← request.payload.read .pageChanges Request.pageChanges)
  | .deletePage id => call ((pageId id).map .deletePage)
  | .publish id => call ((pageId id).map .publish)
  | .unpublish id => call ((pageId id).map .unpublish)
  | .getElements id => call ((pageId id).map .getElements)
  | .createElement id => do
    callWith ((pageId id).map .createElement)
      (← request.payload.read .newElement Request.newElement)
  | .setContent id key => do
    callWith ((pageId id).map (.setContent · key))
      (← request.payload.read .elementContent Request.elementContent)
  | .deleteElement id key => call ((pageId id).map (.deleteElement · key))
  | .showPage slug => call (.ok (.render slug))
  | .health | .handbook | .description => .ok none

end HttpRequest

end PagePress
