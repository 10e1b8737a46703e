import PagePress.Decimal.Notation
import PagePress.Json.Basic
import PagePress.Text.Hex

/-!
# Writing JSON

A value is written on one line in printable ASCII: a comma or a colon is followed by one space, and
every character other than printable ASCII is escaped by its 16-bit units.
-/

namespace PagePress.Json

def specialNames : Decimal.SpecialNames := { nan := "NaN", infinity := "Infinity" }

def unitEscape (u : Nat) : List Char := '\\' :: 'u' :: Text.hexDigits 4 u

def escapeChar (c : Char) : List Char :=
  if c = '"' then ['\\', '"']
  else if c = '\\' then ['\\', '\\']
  else if c = '\n' then ['\\', 'n']
  else if c = '\r' then ['\\', 'r']
  else if c = '\t' then ['\\', 't']
  else if c = '\x0c' then ['\\', 'f']
  else if c = '\x08' then ['\\', 'b']
  else if 0x20 ≤ c.toNat ∧ c.toNat ≤ 0x7E then [c]
  else if c.toNat < 0x10000 then unitEscape c.toNat
  else
    unitEscape (0xD800 + (c.toNat - 0x10000) / 0x400) ++
      unitEscape (0xDC00 + (c.toNat - 0x10000) % 0x400)

def escapeSymbol : Symbol → List Char
  | .char c => escapeChar c
  | .half unit => unitEscape unit

def writeString (s : LooseText) : List Char := '"' :: s.symbols.flatMap escapeSymbol ++ ['"']

mutual

def write : Json → List Char
  | null => "null".toList
  | bool true => "true".toList
  | bool false => "false".toList
  | int n => Decimal.integer n
  | real x => Decimal.real specialNames x
  | str s => writeString s
  | arr [] => ['[', ']']
  | arr (item :: items) => '[' :: write item ++ writeItems items
  | obj [] => ['{', '}']
  | obj ((name, value) :: fields) =>
    '{' :: writeString name ++ ':' :: ' ' :: write value ++ writeFields fields

def writeItems : List Json → List Char
  | [] => [']']
  | item :: items => ',' :: ' ' :: write item ++ writeItems items

def writeFields : List (LooseText × Json) → List Char
  | [] => ['}']
  | (name, value) :: fields =>
    ',' :: ' ' :: writeString name ++ ':' :: ' ' :: write value ++ writeFields fields

end

def text (j : Json) : String := String.ofList j.write

end PagePress.Json
