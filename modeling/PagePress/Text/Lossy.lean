/-!
# Reading damaged text

Bytes are read as UTF-8, and what is not well-formed is read as U+FFFD: one of it for each start of
a character that is broken off, and one for each byte that cannot start a character.
-/

namespace PagePress.Text

def damaged : Char := '\uFFFD'

/-- A character whose first bytes have been read. -/
structure Pending where
  /-- The number of bytes still to come. -/
  left : Nat
  /-- The value of the bits read so far. -/
  value : Nat
  /-- The bounds of the next byte. -/
  low : Nat
  high : Nat
deriving DecidableEq, Repr

def Pending.ofFirst? (b : Nat) : Option Pending :=
  if 0xC2 ≤ b ∧ b ≤ 0xDF then some ⟨1, b - 0xC0, 0x80, 0xBF⟩
  else if b = 0xE0 then some ⟨2, 0, 0xA0, 0xBF⟩
  else if b = 0xED then some ⟨2, 13, 0x80, 0x9F⟩
  else if 0xE1 ≤ b ∧ b ≤ 0xEF then some ⟨2, b - 0xE0, 0x80, 0xBF⟩
  else if b = 0xF0 then some ⟨3, 0, 0x90, 0xBF⟩
  else if 0xF1 ≤ b ∧ b ≤ 0xF3 then some ⟨3, b - 0xF0, 0x80, 0xBF⟩
  else if b = 0xF4 then some ⟨3, 4, 0x80, 0x8F⟩
  else none

/-- The characters that a byte completes when none is pending, and what it leaves pending. -/
def readFirst (b : Nat) : List Char × Option Pending :=
  if b < 0x80 then ([Char.ofNat b], none)
  else match Pending.ofFirst? b with
    | some pending => ([], some pending)
    | none => ([damaged], none)

def readByte (pending : Option Pending) (b : Nat) : List Char × Option Pending :=
  match pending with
  | none => readFirst b
  | some p =>
    if p.low ≤ b ∧ b ≤ p.high then
      let value := 64 * p.value + (b - 0x80)
      if p.left ≤ 1 then ([Char.ofNat value], none)
      else ([], some { left := p.left - 1, value, low := 0x80, high := 0xBF })
    else (damaged :: (readFirst b).1, (readFirst b).2)

def readBytes : Option Pending → List UInt8 → List Char
  | none, [] => []
  | some _, [] => [damaged]
  | pending, b :: rest =>
    (readByte pending b.toNat).1 ++ readBytes (readByte pending b.toNat).2 rest

def ofBytes (bytes : List UInt8) : List Char := readBytes none bytes

end PagePress.Text
