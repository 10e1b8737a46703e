import PagePress.Decimal.Digits
import PagePress.Text.Blank
import PagePress.Text.Search

/-!
# Numerals

A numeral is a number as people write it into a text. Its digits may be those of any script, single
underscores may stand between them, and white space may stand around it.
-/

namespace PagePress.Decimal

/-- The zeros of the scripts that have decimal digits; the other nine digits follow each. -/
def zeros : List Nat :=
  [0x30, 0x660, 0x6F0, 0x7C0, 0x966, 0x9E6, 0xA66, 0xAE6, 0xB66, 0xBE6, 0xC66, 0xCE6, 0xD66,
   0xDE6, 0xE50, 0xED0, 0xF20, 0x1040, 0x1090, 0x17E0, 0x1810, 0x1946, 0x19D0, 0x1A80, 0x1A90,
   0x1B50, 0x1BB0, 0x1C40, 0x1C50, 0xA620, 0xA8D0, 0xA900, 0xA9D0, 0xA9F0, 0xAA50, 0xABF0, 0xFF10,
   0x104A0, 0x10D30, 0x11066, 0x110F0, 0x11136, 0x111D0, 0x112F0, 0x11450, 0x114D0, 0x11650,
   0x116C0, 0x11730, 0x118E0, 0x11950, 0x11C50, 0x11D50, 0x11DA0, 0x16A60, 0x16AC0, 0x16B50,
   0x1D7CE, 0x1D7D8, 0x1D7E2, 0x1D7EC, 0x1D7F6, 0x1E140, 0x1E2F0, 0x1E950, 0x1FBF0]

def scriptDigit? (c : Char) : Option Nat :=
  (zeros.find? fun first => first ≤ c.toNat && c.toNat ≤ first + 9).map (c.toNat - ·)

namespace Numeral

/-- The numeral in the digits `0` to `9`, without the white space around it. -/
def plain (s : List Char) : List Char :=
  (Text.trimSpacing s).map fun c => (scriptDigit? c).elim c digitChar

def sign : List Char → Bool × List Char
  | '-' :: s => (true, s)
  | '+' :: s => (false, s)
  | s => (false, s)

/-- The digits of a run of digits, which single underscores may divide. -/
def digits? (s : List Char) : Option (List Char) :=
  let runs := Text.splitAll '_' s
  if runs.all fun run => !run.isEmpty && run.all Char.isDigit then some runs.flatten else none

def integer? (s : List Char) : Option Int := do
  let (negative, s) := sign (plain s)
  let digits ← digits? s
  if maxDigits < digits.length then none
  else some (if negative then -(ofDigits digits : Int) else ofDigits digits)

def isFixed (s : List Char) : Bool :=
  match Text.cut? ['.'] s with
  | none => (digits? s).isSome
  | some (whole, fraction) =>
    !(whole.isEmpty && fraction.isEmpty) && (whole.isEmpty || (digits? whole).isSome)
      && (fraction.isEmpty || (digits? fraction).isSome)

/-- The numerals of what is no finite number. -/
def boundless : List String := ["inf", "infinity", "nan"]

/-- Whether the text is a numeral of a real number, of an infinite one, or of none. -/
def isReal (s : List Char) : Bool :=
  let body := (sign (plain s)).2.map Char.toLower
  boundless.any (·.toList == body) ||
    match Text.cut? ['e'] body with
    | none => isFixed body
    | some (front, exponent) => isFixed front && (digits? (sign exponent).2).isSome

end Numeral

end PagePress.Decimal
