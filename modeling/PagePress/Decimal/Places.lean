import PagePress.Decimal.Digits
import PagePress.Decimal.Shortest

/-!
# Decimals with a given number of digits

A value is rounded to the nearest decimal with the digits asked for, to the even one at a tie. It is
written positionally, with an exponent, or in whichever of the two ways suits its size.
-/

namespace PagePress.Decimal

/-- The whole number nearest to `num / den`, the even one at a tie. -/
def roundDiv (num den : Nat) : Nat :=
  let whole := num / den
  match compare (2 * (num % den)) den with
  | .lt => whole
  | .gt => whole + 1
  | .eq => if whole % 2 = 0 then whole else whole + 1

/-- The value in steps of `10 ^ exponent`. -/
def Rounded.toSteps (x : Rounded) (exponent : Int) : Nat :=
  roundDiv (x.num * tenTo (-exponent).toNat) (x.den * tenTo exponent.toNat)

def Rounded.toDigits (x : Rounded) (count : Nat) : Dec :=
  if x.num = 0 then ⟨0, 1 - (count : Int)⟩
  else
    let exponent := x.scale - count
    let n := x.toSteps exponent
    if n < tenTo count then ⟨n, exponent⟩ else ⟨n / 10, exponent + 1⟩

/-- Digits with a point in front of the last `places` of them; a point that ends the number is
written only if it is asked for. -/
def pointed (point : Bool) (places : Nat) (ds : List Char) : List Char :=
  let front := ds.take (ds.length - places)
  if places = 0 then front ++ (if point then ['.'] else [])
  else front ++ '.' :: ds.drop (ds.length - places)

/-- The number without the zeros that end its fraction, and without a point that ends it. -/
def withoutFinalZeros (s : List Char) : List Char :=
  if s.contains '.' then
    match s.reverse.dropWhile (· == '0') with
    | '.' :: front => front.reverse
    | back => back.reverse
  else s

def Rounded.fixed (x : Rounded) (point : Bool) (places : Nat) : List Char :=
  pointed point places (padded (places + 1) (x.toSteps (-(places : Int))))

/-- The exponent of the first digit of a number written with `count` digits. -/
def Dec.leading (d : Dec) (count : Nat) : Int := d.exponent + count - 1

def exponentMark (exponent : Int) : List Char :=
  'e' :: (if exponent < 0 then '-' else '+') :: padded 2 exponent.natAbs

def Rounded.scientific (x : Rounded) (point : Bool) (places : Nat) : List Char :=
  let d := x.toDigits (places + 1)
  pointed point places (padded (places + 1) d.digits) ++ exponentMark (d.leading (places + 1))

/-- The value with `count` digits, with an exponent if it is very small or has more whole digits
than that. Unless `point` is set, zeros at the end of the fraction are left out. -/
def Rounded.general (x : Rounded) (point : Bool) (count : Nat) : List Char :=
  let d := x.toDigits count
  let leading := d.leading count
  let strip (s : List Char) := if point then s else withoutFinalZeros s
  if leading < -4 ∨ (count : Int) ≤ leading then
    strip (pointed point (count - 1) (padded count d.digits)) ++ exponentMark leading
  else
    let places := (count - 1 - leading).toNat
    strip (pointed point places (padded (places + 1) d.digits))

end PagePress.Decimal
