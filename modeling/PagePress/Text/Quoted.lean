import PagePress.Text.Hex
import PagePress.Text.Loose
import PagePress.Text.Printable

/-!
# Quoted text

A text in single quotes, or in double quotes if it holds a single quote and no double quote. The
quote, the backslash, the characters that are not printable and broken pairs are escaped.
-/

namespace PagePress.Text

def escapedChar (c : Char) : List Char :=
  if c.toNat < 0x100 then '\\' :: 'x' :: hexDigits 2 c.toNat
  else if c.toNat < 0x10000 then '\\' :: 'u' :: hexDigits 4 c.toNat
  else '\\' :: 'U' :: hexDigits 8 c.toNat

def quotedChar (quote c : Char) : List Char :=
  if c = quote ∨ c = '\\' then ['\\', c]
  else if c = '\t' then ['\\', 't']
  else if c = '\n' then ['\\', 'n']
  else if c = '\r' then ['\\', 'r']
  else if isPrintable c then [c]
  else escapedChar c

def quoteFor (s : List Char) : Char := if s.contains '\'' && !s.contains '"' then '"' else '\''

def quoted (s : List Char) : List Char :=
  quoteFor s :: s.flatMap (quotedChar (quoteFor s)) ++ [quoteFor s]

def quotedSymbol (quote : Char) : Symbol → List Char
  | .char c => quotedChar quote c
  | .half unit => '\\' :: 'u' :: hexDigits 4 unit

def quotedLoose (t : LooseText) : List Char :=
  let quote := quoteFor t.toList
  quote :: t.symbols.flatMap (quotedSymbol quote) ++ [quote]

end PagePress.Text
