import PagePress.Cache.Authority
import PagePress.Cache.Parameter

/-!
# Choice of the render cache

A shared cache is reached at an address of the form `scheme://authority/path?query`, where the
authority names user, host and port, and the query holds parameters of the connection.
-/

namespace PagePress

/-- Where rendered documents are kept: by each process for itself, or by a server they share. -/
inductive CacheBackend where
  | memory
  | shared (url : String)
deriving DecidableEq, Repr

inductive BackendFault where
  | missingUrl
  | unknownScheme
  | authority (fault : Authority.Fault)
  | badParameter (name : String)
  | negativeLimit
deriving DecidableEq, Repr

def BackendFault.message : BackendFault → String
  | missingUrl => "RENDER_CACHE_BACKEND=redis requires REDIS_URL"
  | unknownScheme =>
    "Redis URL must specify one of the following schemes (redis://, rediss://, unix://)"
  | authority fault => fault.message
  | badParameter name => "Invalid value for '" ++ name ++ "' in connection URL."
  | negativeLimit => "\"max_connections\" must be a positive integer"

/-- The schemes under which a shared cache can be reached, and whether it is over the network. Under
the others it is on the same machine, and has no port. -/
def cacheSchemes : List (String × Bool) :=
  [("redis://", true), ("rediss://", true), ("unix://", false)]

/-- The parts of the address of a shared cache that are looked at. -/
structure CacheAddress where
  overNetwork : Bool
  authority : List Char
  query : List Char
deriving DecidableEq, Repr

namespace CacheAddress

/-- Reads what follows the scheme of an address. Tabs and line breaks in it do not count. -/
def read (overNetwork : Bool) (s : List Char) : CacheAddress :=
  let s := s.filter fun c => c != '\t' && c != '\r' && c != '\n'
  let isEnd := fun c => c == '/' || c == '?' || c == '#'
  let path := (s.dropWhile (!isEnd ·)).takeWhile (· != '#')
  { overNetwork, authority := s.takeWhile (!isEnd ·)
    query := ((Text.cut? ['?'] path).map (·.2)).getD [] }

def ofUrl? (url : String) : Option CacheAddress :=
  cacheSchemes.findSome? fun (scheme, overNetwork) =>
    if scheme.toList.isPrefixOf url.toList then
      some (read overNetwork (url.toList.drop scheme.length))
    else none

def check (address : CacheAddress) : Except BackendFault Unit := do
  let parameters := Connection.parameters address.query
  (Authority.checkBrackets address.authority).mapError .authority
  (Authority.checkLetters address.authority).mapError .authority
  match Connection.misfit? parameters with
  | some name => throw (.badParameter name)
  | none => pure ()
  if address.overNetwork then (Authority.checkPort address.authority).mapError .authority
  if Connection.limitsBelowZero parameters then throw .negativeLimit

end CacheAddress

/-- The cache that the settings call for. Every name but that of the shared cache means memory. -/
def CacheBackend.choose (backend : String) (url : Option String) :
    Except BackendFault CacheBackend :=
  if backend = "redis" then
    match url.filter (!·.isEmpty) with
    | none => .error .missingUrl
    | some url =>
      match CacheAddress.ofUrl? url with
      | none => .error .unknownScheme
      | some address => address.check.map fun _ => .shared url
  else .ok .memory

end PagePress
