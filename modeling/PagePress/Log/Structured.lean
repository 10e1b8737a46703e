import PagePress.Json.Writer
import PagePress.Log.Extra
import PagePress.Log.Record

/-!
# Structured log lines

A record is written as one JSON object: what every record has, then what is known of the request it
belongs to, then its extra fields, then the failure it tells of.
-/

namespace PagePress.LogRecord

def requestAttributes : List LooseText :=
  ["request_id", "path", "method", "status_code", "duration", "slug"]

def baseFields (timestamp : String) (record : LogRecord) (message : LooseText) : Fields :=
  [("timestamp", .str timestamp), ("level", record.value "levelname"),
   ("logger", record.value "name"), ("message", .str message),
   ("module", record.value "module"), ("function", record.value "funcName"),
   ("line", record.value "lineno")]

def requestFields (record : LogRecord) : Fields :=
  requestAttributes.filterMap fun name => (record.attributes.get? name).map fun v => (name, v)

def withExtra (record : LogRecord) (fields : Fields) : Except LogFault Fields :=
  match record.attributes.get? "extra_fields" with
  | none => .ok fields
  | some extra => ExtraFields.merge fields extra

def trace (message : String) : String :=
  if message.isEmpty then "RuntimeError" else s!"RuntimeError: {message}"

def failureFields (message : String) : Fields :=
  [("exception", .obj
    [("type", .str "RuntimeError"), ("message", .str message),
     ("traceback", .str (trace message))])]

/-- The failure that the record tells of, if it tells of one. What a context puts in its place is no
failure, unless it says nothing at all. -/
def failureTold (record : LogRecord) : Except LogFault Fields :=
  match record.attributes.get? "exc_info" with
  | none => .ok (record.failure.elim [] failureFields)
  | some value =>
    if value.isTelling then
      match value with
      | .arr _ | .str _ => .error .noAttribute
      | .obj _ => .error .noEntry
      | _ => .error .unusable
    else .ok []

def structuredFields (timestamp : String) (record : LogRecord) : Except LogFault Fields := do
  let fields := record.baseFields timestamp (← record.message) ++ record.requestFields
  let fields ← record.withExtra fields
  return fields.merge (← record.failureTold)

def structuredLine (timestamp : String) (record : LogRecord) : Except LogFault String :=
  (record.structuredFields timestamp).map fun fields => (Json.obj fields).text

end PagePress.LogRecord
