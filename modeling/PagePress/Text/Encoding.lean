import PagePress.Text.Loose

/-!
# Encodings

A text may come in bytes of one, two or four to a unit, with the greater or the smaller ones first.
As every text starts with a character of ASCII, the zeros among the first bytes tell which of these
it is.
-/

namespace PagePress.Text

/-- How a text is put into bytes. -/
inductive Encoding where
  /-- One to four bytes for each character. -/
  | utf8
  /-- Units of two bytes. -/
  | utf16 (greatFirst : Bool)
  /-- Units of four bytes. -/
  | utf32 (greatFirst : Bool)
deriving DecidableEq, Repr

namespace Encoding

def ofBytes : List UInt8 → Encoding
  | a :: b :: c :: d :: _ =>
    if a = 0 then (if b = 0 then utf32 true else utf16 true)
    else if b = 0 then (if c = 0 ∧ d = 0 then utf32 false else utf16 false)
    else utf8
  | [a, b] => if a = 0 then utf16 true else if b = 0 then utf16 false else utf8
  | _ => utf8

def numberOf (bytes : List UInt8) : Nat := bytes.foldl (fun n b => 256 * n + b.toNat) 0

/-- The numbers of two bytes each, if nothing is left over. -/
def pairs? (greatFirst : Bool) : List UInt8 → Option (List Nat)
  | [] => some []
  | a :: b :: rest =>
    (pairs? greatFirst rest).map (numberOf (if greatFirst then [a, b] else [b, a]) :: ·)
  | _ => none

def quads? (greatFirst : Bool) : List UInt8 → Option (List Nat)
  | [] => some []
  | a :: b :: c :: d :: rest =>
    (quads? greatFirst rest).map (numberOf (if greatFirst then [a, b, c, d] else [d, c, b, a]) :: ·)
  | _ => none

def symbol? (n : Nat) : Option Symbol := if n < 0x110000 then some (.ofUnit n) else none

/-- The text that bytes stand for, if they are well-formed but for broken pairs. -/
def decode? (encoding : Encoding) (bytes : List UInt8) : Option LooseText :=
  match encoding with
  | utf8 => some (.ofList (Text.ofBytes bytes))
  | utf16 greatFirst => (pairs? greatFirst bytes).map fun units => ⟨Symbol.ofUnits units⟩
  | utf32 greatFirst => do
    let numbers ← quads? greatFirst bytes
    return ⟨← numbers.mapM symbol?⟩

end Encoding

end PagePress.Text
