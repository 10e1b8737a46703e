import PagePress.Json.Literal
import PagePress.Log.Context
import PagePress.Log.Template

/-!
# Log records

A log record is a set of named attributes. A context may add to them and replace them. The message
of a record is its attribute `msg`, in which the values of its attribute `args` are put in if it
has some.
-/

namespace PagePress

structure LogRecord where
  attributes : Fields
  /-- The message of the failure that the record tells of. -/
  failure : Option String := none

/-- What a log record is made from. -/
structure LogSource where
  logger : String
  level : String
  message : String
  module : String
  function : String
  line : Nat
deriving DecidableEq, Repr

namespace Contexts

def takenName : LooseText := "self"

/-- Why the field of a context cannot be stamped on a record, if it cannot. A record keeps its class
and its holders, and under another table of attributes it has no message. -/
def stampFault? : LooseText × Json → Option LogFault
  | (name, value) =>
    if name = "__class__" then some .unusable
    else if name = "__weakref__" then some .noAttribute
    else if name = "__dict__" then
      match value with
      | .obj _ => some .noAttribute
      | _ => some .unusable
    else none

def fault? (contexts : Contexts) : Option LogFault :=
  if contexts.any fun fields => fields.any fun field => field.1 = takenName then some .unusable
  else contexts.findSome? fun fields => fields.findSome? stampFault?

end Contexts

namespace LogRecord

/-- The name of a logger; the one without a name is the root of all. -/
def loggerName (name : String) : String := if name.isEmpty then "root" else name

def plainAttributes (source : LogSource) : Fields :=
  [("name", .str (loggerName source.logger)), ("levelname", .str source.level),
   ("msg", .str source.message), ("module", .str source.module),
   ("funcName", .str source.function), ("lineno", .int source.line)]

/-- The record made under the contexts in force; the innermost has the last word. -/
def stamp (contexts : Contexts) (source : LogSource) (failure : Option String := none) :
    LogRecord :=
  { attributes := contexts.foldl Fields.merge (plainAttributes source), failure }

/-- The record with extra fields, unless a context has given it some. -/
def withExtraFields (record : LogRecord) (fields : Fields) : Except LogFault LogRecord :=
  match record.attributes.get? "extra_fields" with
  | some _ => .error .duplicate
  | none =>
    .ok { record with attributes := record.attributes.set "extra_fields" (.obj fields) }

def make (contexts : Contexts) (source : LogSource) (extra : Option Fields)
    (failure : Option String) : Except LogFault LogRecord :=
  match contexts.fault? with
  | some fault => .error fault
  | none =>
    let record := stamp contexts source failure
    match extra with
    | some fields => record.withExtraFields fields
    | none => .ok record

def value (record : LogRecord) (name : LooseText) : Json :=
  (record.attributes.get? name).getD .null

/-- The attribute that stands for the message and must not be replaced. -/
def messageAttribute : LooseText := "getMessage"

def message (record : LogRecord) : Except LogFault LooseText :=
  let message := (record.value "msg").display
  let values := record.value "args"
  if (record.attributes.get? messageAttribute).isSome then .error .unusable
  else if values.isTelling then LogTemplate.fill message.toList values
  else .ok message

end LogRecord

end PagePress
