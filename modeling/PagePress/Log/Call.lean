import PagePress.Json.Basic
import PagePress.Log.Level
import PagePress.Log.Record

/-!
# Calls of a logger

A logger is given a message and named fields. A call below the least level of the logger makes no
record, but its fields have to be well named all the same.
-/

namespace PagePress

structure LogCall where
  level : LogLevel
  message : String
  fields : Fields

namespace LogCall

def takenNames : List LooseText := ["level", "msg"]

/-- The records that the calls make at a logger with the given least level; one whose level is not
set makes none. -/
def records (least : LogLevel) (calls : List LogCall) : Except LogFault (List LogCall) :=
  if calls.any fun call => call.fields.any fun field => takenNames.contains field.1 then
    .error .unusable
  else if least = .notSet then .ok []
  else .ok (calls.filter (·.level.passes least))

end LogCall

end PagePress
