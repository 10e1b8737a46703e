import PagePress.Text.Search

/-!
# Routes

Each endpoint has a method and a path. A star in a path stands for a parameter, which is one segment
and not empty. Of two routes for the same request the first one counts.
-/

namespace PagePress

/-- An endpoint, with the parameters in its path. -/
inductive Endpoint where
  | listTemplates
  | createTemplate
  | getTemplate (id : String)
  | previewTemplate (id : String)
  | updateTemplate (id : String)
  | deleteTemplate (id : String)
  | listPages
  | createPage
  | getPageBySlug (slug : String)
  | getPage (id : String)
  | updatePage (id : String)
  | deletePage (id : String)
  | publish (id : String)
  | unpublish (id : String)
  | getElements (id : String)
  | createElement (id : String)
  | setContent (id key : String)
  | deleteElement (id key : String)
  | showPage (slug : String)
  | health
  /-- A description of the interface for people. -/
  | handbook
  /-- A description of the interface for programs. -/
  | description
deriving DecidableEq, Repr

/-- An endpoint that waits for the parameters in its path. -/
inductive Target where
  | plain (endpoint : Endpoint)
  | one (endpoint : String → Endpoint)
  | two (endpoint : String → String → Endpoint)

def Target.fill? : Target → List String → Option Endpoint
  | plain endpoint, [] => some endpoint
  | one endpoint, [a] => some (endpoint a)
  | two endpoint, [a, b] => some (endpoint a b)
  | _, _ => none

structure Route where
  methods : List String
  path : String
  target : Target

/-- The parameters in the segments of a path that has the given form. -/
def matchSegments : List (List Char) → List (List Char) → Option (List String)
  | [], [] => some []
  | ['*'] :: form, segment :: path =>
    if segment.isEmpty then none
    else (matchSegments form path).map (String.ofList segment :: ·)
  | part :: form, segment :: path => if part = segment then matchSegments form path else none
  | _, _ => none

namespace Route

def exactEndpoint? (route : Route) (path : List Char) : Option Endpoint :=
  (matchSegments (Text.splitAll '/' route.path.toList) (Text.splitAll '/' path)).bind
    route.target.fill?

/-- The endpoint to which the route leads from this path; a line break that ends the path may be
left out. -/
def endpoint? (route : Route) (path : List Char) : Option Endpoint :=
  (route.exactEndpoint? path).or
    (if path.getLast? = some '\n' then route.exactEndpoint? path.dropLast else none)

def under (method path : String) (target : Target) : Route := ⟨[method], path, target⟩

def toLookAt (path : String) (endpoint : Endpoint) : Route :=
  ⟨["GET", "HEAD"], path, .plain endpoint⟩

def all : List Route := [
  toLookAt "/openapi.json" .description,
  toLookAt "/docs" .handbook,
  toLookAt "/docs/oauth2-redirect" .handbook,
  toLookAt "/redoc" .handbook,
  under "GET" "/api/v1/templates/" (.plain .listTemplates),
  under "POST" "/api/v1/templates/" (.plain .createTemplate),
  under "GET" "/api/v1/templates/*/" (.one .getTemplate),
  under "GET" "/api/v1/templates/*/elements/" (.one .previewTemplate),
  under "PUT" "/api/v1/templates/*/" (.one .updateTemplate),
  under "DELETE" "/api/v1/templates/*/" (.one .deleteTemplate),
  under "GET" "/api/v1/pages/" (.plain .listPages),
  under "POST" "/api/v1/pages/" (.plain .createPage),
  under "GET" "/api/v1/pages/slug/*/" (.one .getPageBySlug),
  under "GET" "/api/v1/pages/*/" (.one .getPage),
  under "PATCH" "/api/v1/pages/*/" (.one .updatePage),
  under "DELETE" "/api/v1/pages/*/" (.one .deletePage),
  under "POST" "/api/v1/pages/*/publish/" (.one .publish),
  under "POST" "/api/v1/pages/*/unpublish/" (.one .unpublish),
  under "GET" "/api/v1/pages/*/elements/" (.one .getElements),
  under "POST" "/api/v1/pages/*/elements/" (.one .createElement),
  under "PATCH" "/api/v1/pages/*/elements/*/" (.two .setContent),
  under "DELETE" "/api/v1/pages/*/elements/*/" (.two .deleteElement),
  under "GET" "/p/*" (.one .showPage),
  under "GET" "/health" (.plain .health)]

end Route

inductive Destination where
  | endpoint (endpoint : Endpoint)
  /-- The path is known, but under other methods, of which those of the first route are named. -/
  | wrongMethod (allowed : String)
  /-- The path is known with another slash at its end. -/
  | elsewhere (path : List Char)
  | nowhere
deriving DecidableEq, Repr

namespace Destination

/-- The path with a slash at its end, or without its slashes at the end. -/
def otherSlash (path : List Char) : List Char :=
  if path.getLast? = some '/' then (path.reverse.dropWhile (· == '/')).reverse else path ++ ['/']

def find (method : String) (path : List Char) : Destination :=
  match (Route.all.filter (·.methods.contains method)).findSome? (·.endpoint? path) with
  | some target => .endpoint target
  | none =>
    match Route.all.find? fun route => (route.endpoint? path).isSome with
    | some route => .wrongMethod (", ".intercalate route.methods)
    | none =>
      if path ≠ ['/'] ∧ Route.all.any fun route => (route.endpoint? (otherSlash path)).isSome then
        .elsewhere (otherSlash path)
      else .nowhere

end Destination

end PagePress
