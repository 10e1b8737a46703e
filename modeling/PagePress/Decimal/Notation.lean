import PagePress.Decimal.Digits
import PagePress.Decimal.Shortest

/-!
# Writing and reading binary64 numbers

A number is written with the fewest digits that read back: positionally with a point while the
exponent of its first digit is from -4 to 15, and otherwise with a signed exponent of at least two
digits. How the values that are no finite numbers are spelled is left to the format.
-/

namespace PagePress.Decimal

/-- The spelling of the values that are no finite numbers. -/
structure SpecialNames where
  nan : String
  infinity : String

def layout (d : Dec) : List Char :=
  let ds := digits d.digits
  let leading : Int := ds.length - 1 + d.exponent
  if -4 ≤ leading ∧ leading < 16 then
    if 0 ≤ d.exponent then ds ++ List.replicate d.exponent.toNat '0' ++ ['.', '0']
    else if 0 ≤ leading then
      ds.take (leading.toNat + 1) ++ '.' :: ds.drop (leading.toNat + 1)
    else '0' :: '.' :: List.replicate (-leading - 1).toNat '0' ++ ds
  else
    let front := ds.take 1 ++ (if ds.length = 1 then [] else '.' :: ds.drop 1)
    front ++ 'e' :: (if leading < 0 then '-' else '+') :: padded 2 leading.natAbs

def real (names : SpecialNames) (x : Float) : List Char :=
  if x.isNaN then names.nan.toList
  else
    let bits := x.toBits
    let magnitude := bits &&& 0x7FFFFFFFFFFFFFFF
    let text :=
      if magnitude = 0x7FF0000000000000 then names.infinity.toList
      else if magnitude = 0 then ['0', '.', '0']
      else layout (Rounded.ofBits magnitude).shortest
    if bits = magnitude then text else '-' :: text

/-- The whole part of a binary64 number, towards zero, if it is finite. -/
def wholePart? (x : Float) : Option Int :=
  let bits := x.toBits
  let magnitude := bits &&& 0x7FFFFFFFFFFFFFFF
  if 0x7FF0000000000000 ≤ magnitude then none
  else
    let value := Rounded.ofBits magnitude
    let whole : Int := (value.num / value.den : Nat)
    some (if bits = magnitude then whole else -whole)

/-- The binary64 number nearest to `digits * 10 ^ exponent`. Beyond the range of binary64 the answer
is plain, and powers of ten that large are not computed. -/
def nearest (negative : Bool) (ds : List Char) (exponent : Int) : Float :=
  let ds := ds.dropWhile (· == '0')
  let leading : Int := ds.length + exponent
  let x : Float :=
    if ds.isEmpty ∨ leading < -400 then 0.0
    else if 400 < leading then 1.0 / 0.0
    else Float.ofScientific (ofDigits ds) (exponent < 0) exponent.natAbs
  if negative then -x else x

end PagePress.Decimal
