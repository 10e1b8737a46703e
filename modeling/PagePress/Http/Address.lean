import PagePress.Text.Query
import PagePress.Text.Search

/-!
# Addresses

The address of a request has a path and a query. The path is relative to the server: a host in front
of it and a fragment behind it are left out, and steps `.` and `..` are resolved. Path and query may
be percent-encoded, the path twice over. An address may hold no control characters.
-/

namespace PagePress

structure Address where
  /-- The path, decoded. -/
  path : List Char
  /-- The query as it was written, empty if there is none. -/
  query : List Char
deriving DecidableEq, Repr

namespace Address

/-- The segments of a path without the steps to the same segment and to the one before. -/
def resolveSteps (segments : List (List Char)) : List (List Char) :=
  segments.foldl (fun acc segment =>
    if segment = ['.'] then acc
    else if segment = ['.', '.'] then (if acc = [[]] then acc else acc.dropLast)
    else acc ++ [segment]) []

/-- The path with its steps resolved; it starts with exactly one slash. -/
def normalize (path : List Char) : List Char :=
  let path := '/' :: path.dropWhile (· == '/')
  match ['/'].intercalate (resolveSteps (Text.splitAll '/' path)) with
  | [] => ['/']
  | path => path

def maxLength : Nat := 65536

def isControl (c : Char) : Bool := c.toNat < 0x20 || c.toNat = 0x7F

def isSendable (s : String) : Bool := s.length ≤ maxLength && !s.toList.any isControl

def withoutHost : List Char → List Char
  | '/' :: '/' :: s => s.dropWhile (· != '/')
  | s => s

def read (s : String) : Address :=
  let s := s.toList.takeWhile (· != '#')
  let (path, query) := (Text.cut? ['?'] s).getD (s, [])
  { path := Text.decodePercent (Text.decodePercent (normalize (withoutHost path))), query }

def parameters (address : Address) : List (String × String) :=
  Text.queryParameters address.query

/-- The value of a parameter; of several the last one counts. -/
def parameter? (address : Address) (name : String) : Option String :=
  address.parameters.reverse.lookup name

def kept : List Char := ":/%#?=@[]!$&'()*+,;".toList

def keptInPath : List Char := "/:@!$&'()*+,;=".toList

/-- The absolute address of a path at an origin, with the query of this address. -/
def absolute (address : Address) (origin : String) (path : List Char) : String :=
  let query := if address.query.isEmpty then [] else '?' :: address.query
  String.ofList <| Text.encodePercent kept <|
    origin.toList ++ Text.encodePercent keptInPath path ++ query

end Address

end PagePress
