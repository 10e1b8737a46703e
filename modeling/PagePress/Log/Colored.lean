import PagePress.Log.Record

/-!
# Coloured log lines

A record is written as a line of text in which the name of its level has a colour. The record keeps
the coloured name. What the record notes about a failure follows on lines of its own.
-/

namespace PagePress.LogRecord

def colorEnd : LooseText := "\x1b[0m"

def colorStart (level : LooseText) : LooseText :=
  match level.toString? with
  | some "DEBUG" => "\x1b[36m"
  | some "INFO" => "\x1b[32m"
  | some "WARNING" => "\x1b[33m"
  | some "ERROR" => "\x1b[31m"
  | some "CRITICAL" => "\x1b[35m"
  | _ => colorEnd

/-- The name of a level in its colour. Lists and objects are no names. -/
def coloredName : Json → Except LogFault LooseText
  | .arr _ | .obj _ => .error .unusable
  | .str s => .ok (colorStart s ++ s ++ colorEnd)
  | j => .ok (colorEnd ++ j.display ++ colorEnd)

def colored (record : LogRecord) : Except LogFault LogRecord :=
  (coloredName (record.value "levelname")).map fun name =>
    { record with attributes := record.attributes.set "levelname" (.str name) }

/-- The text with a note on a new line, if there is something to note. -/
def withNote (text : LooseText) (note : Json) : Except LogFault LooseText :=
  if note.isTelling then
    match note with
    | .str note =>
      let isEnded := text.symbols.getLast? = some (.char '\n')
      .ok (text ++ (if isEnded then "" else "\n") ++ note)
    | _ => .error .unusable
  else .ok text

def line (record : LogRecord) : Except LogFault LooseText := do
  let message ← record.message
  let number ← LogTemplate.wholeNumber (record.value "lineno")
  let text : LooseText :=
    (record.value "name").display ++ " - " ++ (record.value "levelname").display ++ " - ["
      ++ (record.value "funcName").display ++ ":" ++ .ofList (Decimal.integer number) ++ "] - "
      ++ message
  withNote (← withNote text (record.value "exc_text")) (record.value "stack_info")

end PagePress.LogRecord
