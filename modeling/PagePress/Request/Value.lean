import PagePress.Email
import PagePress.Request.Violation
import PagePress.Text.Word
import PagePress.Uuid

/-!
# Checks of single values
-/

namespace PagePress.Request

def looseText : Json → Checked LooseText
  | .str s => .ok s
  | _ => .fail .notText

/-- Reads a text that is not looked at more closely. Half of a pair in it becomes a damaged
character, which nobody sees: the storage refuses the text that was given. -/
def text (j : Json) : Checked String := (looseText j).map fun s => String.ofList s.toList

def wholeText (j : Json) : Checked String :=
  looseText j >>= fun s => s.toString?.getDM (.fail .brokenText)

def atLeast (least : Nat) (s : String) : Checked String :=
  if s.length < least then .fail (.tooShort least) else .ok s

def atMost (most : Nat) (s : String) : Checked String :=
  if most < s.length then .fail (.tooLong most) else .ok s

/-- Reads a text all of whose characters are of a class, which `pattern` describes. -/
def allOf (isMember : Char → Bool) (pattern : String) (s : String) : Checked String :=
  if s.toList.all isMember then .ok s else .fail (.mismatch pattern)

def name (j : Json) : Checked String := wholeText j >>= atLeast 1 >>= atMost 255

def isSlugChar (c : Char) : Bool := ('a' ≤ c && c ≤ 'z') || c.isDigit || c == '-'

def slug (j : Json) : Checked String := name j >>= allOf isSlugChar "^[a-z0-9-]+$"

def elementKey (j : Json) : Checked String := name j >>= allOf Text.isName "^\\w+$"

def shortText (most : Nat) (j : Json) : Checked String := wholeText j >>= atMost most

def someText (j : Json) : Checked String := wholeText j >>= atLeast 1

def truthWords : List (String × Bool) :=
  [("true", true), ("t", true), ("yes", true), ("y", true), ("on", true), ("1", true),
   ("false", false), ("f", false), ("no", false), ("n", false), ("off", false), ("0", false)]

def isMachineSize (n : Int) : Bool := -9223372036854775808 ≤ n && n ≤ 9223372036854775807

/-- Reads a truth value: itself, the numbers one and zero, or one of its words in any letter case. A
number that is no integer of machine size is of the wrong type altogether. -/
def truth : Json → Checked Bool
  | .bool b => .ok b
  | .int n =>
    if n = 0 then .ok false
    else if n = 1 then .ok true
    else if isMachineSize n then .fail .unreadableTruth else .fail .notTruth
  | .real x =>
    if x == 0.0 then .ok false
    else if x == 1.0 then .ok true
    else if x.floor == x && x.abs < 9223372036854775808.0 then .fail .unreadableTruth
    else .fail .notTruth
  | .str s =>
    match truthWords.lookup (String.ofList (s.toList.map Char.toLower)) with
    | some b => .ok b
    | none => .fail .unreadableTruth
  | _ => .fail .notTruth

def identifier : Json → Checked Uuid
  | .str s =>
    match Uuid.ofText? s.toList with
    | some id => .ok id
    | none => .fail .unreadableIdentifier
  | _ => .fail .notIdentifier

def elementKind : Json → Checked ElementKind
  | .str s =>
    match s.toString?.bind ElementKind.ofName? with
    | some kind => .ok kind
    | none => .fail .notKind
  | _ => .fail .notKind

def email (j : Json) : Checked String := do
  match Email.normal? (← text j) with
  | some address => .ok address
  | none => .fail .notAddress

def nullable {α : Type} (read : Json → Checked α) : Json → Checked (Option α)
  | .null => .ok none
  | j => (read j).map some

/-- Reads a value that may be left out but not null. -/
def notNull {α : Type} (read : Json → Checked α) : Json → Checked α
  | .null => .fail .nullGiven
  | j => read j

def required {α : Type} (fields : Fields) (field : String) (read : Json → Checked α) : Checked α :=
  Checked.under (.field field) <|
    match fields.get? field with
    | some value => read value
    | none => .fail .missing

/-- Reads a field that may be left out, which is kept apart from every value it may have. -/
def optional {α : Type} (fields : Fields) (field : String) (read : Json → Checked α) :
    Checked (Option α) :=
  Checked.under (.field field) <|
    match fields.get? field with
    | some value => (read value).map some
    | none => .ok none

def withDefault {α : Type} (fields : Fields) (field : String) (value : α)
    (read : Json → Checked α) : Checked α :=
  (optional fields field read).map (·.getD value)

end PagePress.Request
