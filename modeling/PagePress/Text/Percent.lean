import PagePress.Text.Hex
import PagePress.Text.Lossy

/-!
# Percent encoding

In an address, a byte may be written as a percent sign and two hexadecimal digits. A percent sign
that is not followed by two digits stands for itself.
-/

namespace PagePress.Text

def percentBytes : List Char → List UInt8
  | [] => []
  | '%' :: a :: b :: rest =>
    match hexValue? a, hexValue? b with
    | some x, some y => UInt8.ofNat (16 * x + y) :: percentBytes rest
    | _, _ => String.utf8EncodeChar '%' ++ percentBytes (a :: b :: rest)
  | c :: rest => String.utf8EncodeChar c ++ percentBytes rest

def decodePercent (s : List Char) : List Char := ofBytes (percentBytes s)

def percentByte (b : UInt8) : List Char := '%' :: (hexDigits 2 b.toNat).map Char.toUpper

/-- The text with every character encoded that is neither a letter, a digit or one of `_.-~`, nor
among `kept`. -/
def encodePercent (kept : List Char) (s : List Char) : List Char :=
  s.flatMap fun c =>
    if c.isAlphanum || "_.-~".toList.contains c || kept.contains c then [c]
    else (String.utf8EncodeChar c).flatMap percentByte

end PagePress.Text
