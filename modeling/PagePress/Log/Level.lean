import PagePress.Text.LetterCase
import PagePress.Text.Quoted

/-!
# Log levels
-/

namespace PagePress

/-- How much a log record matters. -/
inductive LogLevel where
  | notSet
  | debug
  | info
  | warning
  | error
  | critical
deriving DecidableEq, Repr

namespace LogLevel

def rank : LogLevel → Nat
  | notSet => 0
  | debug => 10
  | info => 20
  | warning => 30
  | error => 40
  | critical => 50

def passes (level least : LogLevel) : Bool := least.rank ≤ level.rank

def name : LogLevel → String
  | notSet => "NOTSET"
  | debug => "DEBUG"
  | info => "INFO"
  | warning => "WARNING"
  | error => "ERROR"
  | critical => "CRITICAL"

/-- The level with the given name; two of them have a second name. -/
def ofName? : String → Option LogLevel
  | "NOTSET" => some notSet
  | "DEBUG" => some debug
  | "INFO" => some info
  | "WARNING" | "WARN" => some warning
  | "ERROR" => some error
  | "CRITICAL" | "FATAL" => some critical
  | _ => none

def unknownName (s : String) : String := "Unknown level: " ++ String.ofList (Text.quoted s.toList)

end LogLevel

inductive LogLayout where
  /-- One JSON object a line. -/
  | structured
  /-- A line of text with a coloured level. -/
  | colored
deriving DecidableEq, Repr

/-- How the service writes its log. -/
structure LogSetup where
  level : LogLevel
  layout : LogLayout
deriving DecidableEq, Repr

namespace LogSetup

/-- The least level of the parts that say too much. -/
def quietLevel : LogLevel := .warning

/-- The set-up by what is asked for, and where nothing is asked for, by the environment; it fails
with a name that no level has. -/
def choose (level : Option String) (structured : Option Bool)
    (environment : List (String × String)) : Except String LogSetup :=
  let upper (s : String) := String.ofList (Text.upper s.toList)
  let lower (s : String) := String.ofList (Text.lower s.toList)
  let name := level.getD (upper ((environment.lookup "LOG_LEVEL").getD "INFO"))
  let structured :=
    structured.getD (lower ((environment.lookup "JSON_LOGS").getD "false") = "true")
  match LogLevel.ofName? name with
  | some level => .ok { level, layout := if structured then .structured else .colored }
  | none => .error name

end LogSetup

end PagePress
