/-!
# The shared render cache

Several servers may share one cache, kept by a key-value server. Each operation is one call, and
the answer to it is given here as data. A failing server counts as a miss.
-/

namespace PagePress.RemoteCache

/-- What the cache asks of the server. -/
inductive Call where
  | get (key : String)
  | setWithExpiry (key : String) (seconds : Int) (html : String)
deriving DecidableEq, Repr

/-- How the server answers. -/
inductive Reply where
  | nothing
  | text (s : String)
  | bytes (b : ByteArray)
  /-- The server or the connection to it failed. -/
  | failure
  /-- Something other than the server failed. -/
  | crash

/-- Why an operation on the cache fails. -/
inductive Fault where
  /-- The stored bytes are no UTF-8 text. -/
  | badEncoding
  | crash
deriving DecidableEq, Repr

def keyOf (slug : String) : String := "pageforge:render:" ++ slug

def getCall (slug : String) : Call := .get (keyOf slug)

def getResult : Reply → Except Fault (Option String)
  | .nothing | .failure => .ok none
  | .text s => .ok (some s)
  | .bytes b =>
    match String.fromUTF8? b with
    | some s => .ok (some s)
    | none => .error .badEncoding
  | .crash => .error .crash

def setCall (seconds : Int) (slug html : String) : Call := .setWithExpiry (keyOf slug) seconds html

def setResult : Reply → Except Fault Unit
  | .crash => .error .crash
  | _ => .ok ()

end PagePress.RemoteCache
