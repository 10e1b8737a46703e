import PagePress.Element.Kind
import PagePress.Json.Basic

/-!
# Violations

What is wrong with data given to the service, and where. All violations of a request are reported
together.
-/

namespace PagePress

/-- What is wrong with a value. -/
inductive ViolationKind where
  | missing
  | notText
  /-- The text has a broken pair. -/
  | brokenText
  | tooShort (least : Nat)
  | tooLong (most : Nat)
  | mismatch (pattern : String)
  | notKind
  | notTruth
  | unreadableTruth
  | notIdentifier
  | unreadableIdentifier
  | unreadableInteger
  | oversizedInteger
  | notList
  | nullGiven
  | notAddress
  /-- The data as a whole is no object; it should describe what is named here. -/
  | notObject (name : String)
  /-- There is nothing here whose fields could be read. -/
  | noFields
  /-- The body of a request is no JSON text. -/
  | malformedBody
deriving DecidableEq, Repr

namespace ViolationKind

def code : ViolationKind → String
  | missing => "missing"
  | notText => "string_type"
  | brokenText => "string_unicode"
  | tooShort _ => "string_too_short"
  | tooLong _ => "string_too_long"
  | mismatch _ => "string_pattern_mismatch"
  | notKind => "enum"
  | notTruth => "bool_type"
  | unreadableTruth => "bool_parsing"
  | notIdentifier => "uuid_type"
  | unreadableIdentifier => "uuid_parsing"
  | unreadableInteger => "int_parsing"
  | oversizedInteger => "int_parsing_size"
  | notList => "list_type"
  | nullGiven | notAddress => "value_error"
  | notObject _ => "model_type"
  | noFields => "model_attributes_type"
  | malformedBody => "json_invalid"

def characters (n : Nat) : String := if n = 1 then "1 character" else s!"{n} characters"

def message : ViolationKind → Option String
  | missing => "Field required"
  | notText => "Input should be a valid string"
  | brokenText =>
    "Input should be a valid string, unable to parse raw data as a unicode string"
  | tooShort least => s!"String should have at least {characters least}"
  | tooLong most => s!"String should have at most {characters most}"
  | mismatch pattern => s!"String should match pattern '{pattern}'"
  | notKind => "Input should be 'TEXT', 'IMAGE', 'COLOR' or 'LINK'"
  | notTruth => "Input should be a valid boolean"
  | unreadableTruth => "Input should be a valid boolean, unable to interpret input"
  | notIdentifier => "UUID input should be a string, bytes or UUID object"
  | unreadableInteger =>
    "Input should be a valid integer, unable to parse string as an integer"
  | oversizedInteger => "Unable to parse input string as an integer, exceeded maximum size"
  | notList => "Input should be a valid list"
  | nullGiven => "Value error, may be omitted but not null"
  | notObject name => s!"Input should be a valid dictionary or instance of {name}"
  | noFields => "Input should be a valid dictionary or object to extract fields from"
  | unreadableIdentifier | notAddress | malformedBody => none

end ViolationKind

/-- One step on the way to a value: the name of a field, or a place in a list or a text. -/
inductive Step where
  | field (name : String)
  | index (i : Nat)
deriving DecidableEq, Repr

structure Violation where
  kind : ViolationKind
  path : List Step
deriving DecidableEq, Repr

/-- The violation seen from further outside. -/
def Violation.under (step : Step) (v : Violation) : Violation := { v with path := step :: v.path }

/-- What is said about the violation; nothing about a value that is an email address. -/
def Violation.message (v : Violation) : Option String :=
  if v.path.contains (.field "email") then none else v.kind.message

/-- A value, or all that is wrong with it. -/
abbrev Checked (α : Type) := Except (List Violation) α

namespace Checked

/-- Applies a checked function to a checked value; violations of both are reported. -/
def and {α β : Type} (f : Checked (α → β)) (x : Checked α) : Checked β :=
  match f, x with
  | .ok f, .ok x => .ok (f x)
  | .ok _, .error e => .error e
  | .error e, .ok _ => .error e
  | .error e, .error e' => .error (e ++ e')

def fail {α : Type} (kind : ViolationKind) : Checked α := .error [{ kind, path := [] }]

def under {α : Type} (step : Step) (x : Checked α) : Checked α :=
  x.mapError (·.map (Violation.under step))

end Checked

end PagePress
