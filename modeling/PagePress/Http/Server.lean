import PagePress.Http.Reading
import PagePress.View.Result

/-!
# The server

Carries out requests. Administration is answered with JSON, visitors with documents: what goes wrong
behind a page is shown to a visitor as nothing but the error document.
-/

namespace PagePress

namespace Endpoint

def uses : Endpoint → Part → Bool
  | listTemplates, p | createTemplate, p | getTemplate _, p | previewTemplate _, p
  | updateTemplate _, p | deleteTemplate _, p => p = .templates
  | showPage _, p => p = .rendering ∨ p = .renderingSetup
  | health, _ | handbook, _ | description, _ => false
  | _, p => p = .pages

def status : Endpoint → Nat
  | createTemplate | createPage | createElement _ => 201
  | _ => 200

def farewell : Endpoint → Option String
  | deleteTemplate _ => some "Template deleted successfully."
  | deletePage _ => some "Page deleted successfully."
  | deleteElement _ _ => some "Element deleted successfully."
  | _ => none

def isPublic : Endpoint → Bool
  | showPage _ => true
  | _ => false

end Endpoint

namespace HttpResponse

def ofRefusal (refusal : Refusal) : HttpResponse :=
  json refusal.kind.status
    (.obj [("detail", .str refusal.message), ("code", .str refusal.kind.code)])

def ofBreakdown (requestId : String) (endpoint : Endpoint) : HttpResponse :=
  if endpoint.isPublic then html 500 Markup.errorDocument
  else
    json 500
      (.obj [("detail", .str "Internal server error"), ("request_id", .str requestId)])

def ofRejection (requestId : String) (endpoint : Endpoint) : Rejection → HttpResponse
  | .invalid violations =>
    json 422 (.obj [("detail", .arr (violations.map Violation.toJson))])
  | .unreadable => detail 400 "There was an error parsing the body"
  | .unsendable => ofBreakdown requestId endpoint

/-- What a visitor is shown; a document may be kept for as long as an entry of the render cache
lives. -/
def ofRendering (ttl : Micros) : Rendering → HttpResponse
  | .document document fromCache =>
    if document.isSendable then
      html 200 document.html
        [("cache-control", s!"public, max-age={ttl / second}"),
         ("x-cache", if fromCache then "HIT" else "MISS")]
    else html 500 Markup.errorDocument
  | .notFound => html 404 Markup.notFoundDocument

def ofHealth : HttpResponse :=
  json 200 (.obj [("status", .str "healthy"), ("service", .str "pageforge-api")])

/-- The response of an endpoint that calls for no operation. Of the descriptions of the interface
only the kind of content is told. -/
def ofEndpoint : Endpoint → HttpResponse
  | .handbook => html 200 ""
  | .description => json 200 (.obj [])
  | _ => ofHealth

end HttpResponse

namespace Service

def present (service : Service) (requestId : String) (endpoint : Endpoint) (result : Result) :
    HttpResponse :=
  match result with
  | .rendering rendering => .ofRendering service.cache.ttl rendering
  | result =>
    match endpoint.farewell with
    | some message => .json endpoint.status (.obj [("message", .str message)])
    | none =>
      match result.toJson service.store with
      | .ok value => .json endpoint.status value
      | .error _ => .ofBreakdown requestId endpoint

/-- Answers with the outcome of what a request calls for. What was written stays, even if it cannot
be shown. -/
def carryOut (service : Service) (turn : Turn) (requestId : String) (endpoint : Endpoint)
    (call : Call) : HttpResponse × Service :=
  match service.execute turn call with
  | .ok (result, changed) => (changed.present requestId endpoint result, changed)
  | .error (.refused refusal) => (.ofRefusal refusal, service)
  | .error _ => (.ofBreakdown requestId endpoint, service)

def serve (service : Service) (turn : Turn) (request : HttpRequest) (endpoint : Endpoint) :
    HttpResponse × Service :=
  match request.call? endpoint with
  | .error rejection => (.ofRejection request.id endpoint rejection, service)
  | .ok none => (.ofEndpoint endpoint, service)
  | .ok (some call) =>
    if request.broken.any endpoint.uses then (.ofBreakdown request.id endpoint, service)
    else service.carryOut turn request.id endpoint call

def dispatch (service : Service) (turn : Turn) (request : HttpRequest) :
    HttpResponse × Service :=
  match Destination.find request.method request.address.path with
  | .endpoint endpoint => service.serve turn request endpoint
  | .wrongMethod allowed =>
    (.detail 405 "Method Not Allowed" [("allow", allowed)], service)
  | .elsewhere path => (.redirect (request.address.absolute request.origin path), service)
  | .nowhere => (.detail 404 "Not Found", service)

/-- Answers a request; every response bears the identifier of its request, and a response to a
request for the head alone holds nothing. -/
def handle (service : Service) (turn : Turn) (request : HttpRequest) : HttpResponse × Service :=
  let (response, service) := service.dispatch turn request
  ({ response with
      headers := response.headers ++ [("x-request-id", request.id)]
      content := if request.method = "HEAD" then .empty else response.content },
    service)

end Service

end PagePress
