import PagePress.Text.Hex

/-!
# Faults of log records

Why a log record cannot be made or written.
-/

namespace PagePress

/-- Why a log record cannot be made or written. -/
inductive LogFault where
  /-- A field has the name of an attribute that is already there. -/
  | duplicate
  /-- Something is not of a type that can be used in its place. -/
  | unusable
  /-- A table has no entry for what is looked up in it. -/
  | noEntry
  /-- Something lacks an attribute that is asked for or set. -/
  | noAttribute
  /-- A number is too large to be written as asked for. -/
  | outOfRange
  /-- A whole number is asked for, and there is no number at all. -/
  | notANumber
  /-- The extra fields are a list, in which an item has this length and should have two parts. -/
  | noPair (index length : Nat)
  /-- A conversion in the message is broken off. -/
  | brokenConversion
  /-- The key of a conversion in the message is not closed. -/
  | brokenKey
  /-- The letter of a conversion, at this place in the message, has no meaning. -/
  | unknownConversion (letter : Char) (index : Nat)
  /-- A conversion asks for too many characters. -/
  | oversizedWidth
  /-- A conversion asks for too many digits. -/
  | oversizedPrecision
deriving DecidableEq, Repr

namespace LogFault

def hexText (n : Nat) : String := String.ofList (Nat.toDigits 16 n)

def shownLetter (c : Char) : Char := if 31 ≤ c.toNat ∧ c.toNat < 126 then c else '?'

/-- What is said about a fault in a value, as opposed to one in its type. -/
def message? : LogFault → Option String
  | notANumber => "cannot convert float NaN to integer"
  | noPair index length =>
    s!"dictionary update sequence element #{index} has length {length}; 2 is required"
  | brokenConversion => "incomplete format"
  | brokenKey => "incomplete format key"
  | unknownConversion letter index =>
    some <| "unsupported format character '" ++ String.singleton (shownLetter letter)
      ++ s!"' (0x{hexText letter.toNat}) at index {index}"
  | oversizedWidth => "width too big"
  | oversizedPrecision => "precision too big"
  | duplicate | unusable | noEntry | noAttribute | outOfRange => none

end LogFault

end PagePress
