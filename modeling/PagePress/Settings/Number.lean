import PagePress.Decimal.Digits
import PagePress.Text.Blank
import PagePress.Text.Search

/-!
# Integers in settings

An integer is written in decimal digits. Besides its plain form it may have white space around it, a
plus sign, leading zeros, single underscores between its digits, and a fraction of zeros.
-/

namespace PagePress

/-- Why a text is no integer. -/
inductive NumberFault where
  | unreadable
  | oversized
deriving DecidableEq, Repr

namespace Settings

/-- The size of a number without a sign in plain form, of at most `most` digits and without leading
zeros. -/
def plainDigits (most : Nat) (ds : List Char) : Except NumberFault Nat :=
  let run := ds.takeWhile Char.isDigit
  if run.head? = some '0' ∧ run ≠ ['0'] then .error .unreadable
  else if most < run.length then .error .oversized
  else if ds.isEmpty || !ds.all Char.isDigit then .error .unreadable
  else .ok (Decimal.ofDigits ds)

/-- Reads an integer in plain form; a minus sign counts as one of its digits. -/
def plainInteger : List Char → Except NumberFault Int
  | '-' :: ds => (plainDigits (Decimal.maxDigits - 1) ds).map fun n => -n
  | ds => (plainDigits Decimal.maxDigits ds).map fun n => n

/-- The text without a plus sign at its start, which no other sign may follow. -/
def withoutPlus : List Char → Option (List Char)
  | '+' :: '-' :: _ => none
  | '+' :: s => some s
  | s => some s

/-- The rest of a number behind its first zero, where `last` is the zero or underscore read last.
The zero in front of a point stays. -/
def afterZeros (last : Char) : List Char → Option (List Char)
  | [] => some [last]
  | c :: s =>
    if c = '0' ∨ c = '_' then afterZeros c s
    else if c = '.' then some (last :: c :: s)
    else if c.isDigit ∨ c = '-' then some (c :: s)
    else none

/-- The text without the leading zeros of a number. A sign may stand behind them. -/
def withoutZeros : List Char → Option (List Char)
  | [] => none
  | c :: s =>
    if c = '0' then afterZeros c s
    else if c.isDigit ∨ c = '-' then some (c :: s)
    else none

def withoutSignedZeros : List Char → Option (List Char)
  | '-' :: s => (withoutZeros s).map ('-' :: ·)
  | s => withoutZeros s

def withoutFraction (s : List Char) : List Char :=
  match Text.cut? ['.'] s with
  | some (front, fraction) =>
    if !fraction.isEmpty && fraction.all (· == '0') then front else s
  | none => s

/-- The text without its underscores, which stand alone and not at its ends. -/
def withoutUnderscores (s : List Char) : Option (List Char) :=
  if s.head? = some '_' ∨ s.getLast? = some '_' ∨ Text.occursIn ['_', '_'] s then none
  else some (s.filter (· != '_'))

def plainForm? (s : List Char) : Option (List Char) := do
  withoutUnderscores (withoutFraction (← withoutSignedZeros (← withoutPlus (Text.trimSpacing s))))

def integer (s : List Char) : Except NumberFault Int :=
  match plainInteger s with
  | .error .unreadable =>
    match (plainForm? s).map plainInteger with
    | some (.ok n) => .ok n
    | _ => .error .unreadable
  | result => result

end Settings

end PagePress
