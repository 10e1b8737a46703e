/-!
# Shortest decimals

The decimal with the fewest digits that reads back to a given binary64 value: among the decimals in
the interval of reals that round to the value, one with the fewest digits, and of those the nearest.
All arithmetic is exact.
-/

namespace PagePress.Decimal

def tenTo (k : Nat) : Nat := Nat.pow 10 k

/-- A positive binary64 value, as the exact fraction `num / den`, with the interval of reals that
round to it: from `num / den - below / den` to `num / den + above / den`. -/
structure Rounded where
  num : Nat
  den : Nat
  below : Nat
  above : Nat
  /-- Whether the ends of the interval round to the value too. -/
  closed : Bool

/-- The positive finite value with the given bits. A value at the bottom of its binade is half as
far from the value below it as from the one above. -/
def Rounded.ofBits (bits : UInt64) : Rounded :=
  let field := ((bits >>> 52) &&& 0x7FF).toNat
  let fraction := (bits &&& 0xFFFFFFFFFFFFF).toNat
  let mantissa := if field = 0 then fraction else 4503599627370496 + fraction
  -- the value is `mantissa * 2 ^ (field' - 1075)`; quarters of a unit keep the ends integral
  let shift := (if field = 0 then 1 else field : Nat)
  let up := Nat.pow 2 (shift - 1077)
  let down := Nat.pow 2 (1077 - shift)
  { num := 4 * mantissa * up
    den := down
    below := (if fraction = 0 ∧ 1 < field then 1 else 2) * up
    above := 2 * up
    closed := mantissa % 2 = 0 }

/-- A decimal, `digits * 10 ^ exponent`. -/
structure Dec where
  digits : Nat
  exponent : Int
deriving DecidableEq, Repr

/-- Whether the decimal lies in the interval of reals that round to the value. -/
def Rounded.admits (x : Rounded) (d : Dec) : Bool :=
  let left := d.digits * tenTo d.exponent.toNat * x.den
  let unit := tenTo (-d.exponent).toNat
  let low := (x.num - x.below) * unit
  let high := (x.num + x.above) * unit
  if x.closed then low ≤ left && left ≤ high else low < left && left < high

def Rounded.steps (x : Rounded) (exponent : Int) : Nat :=
  x.num * tenTo (-exponent).toNat / (x.den * tenTo exponent.toNat)

def Rounded.below10 (x : Rounded) (k : Int) : Bool :=
  x.num * tenTo (-k).toNat < x.den * tenTo k.toNat

/-- The least `k`, from the given one up, with the value below `10 ^ k`. The start is at most a few
steps too low. -/
def Rounded.scaleFrom (x : Rounded) : Nat → Int → Int
  | 0, k => k
  | fuel + 1, k => if x.below10 k then k else x.scaleFrom fuel (k + 1)

def Rounded.scale (x : Rounded) : Int :=
  x.scaleFrom 5 (((x.num.log2 : Int) - x.den.log2 - 1) * 30103 / 100000 - 1)

/-- The nearer of the two decimals `n` and `n + 1` steps of `10 ^ exponent`, the even one at a tie.
-/
def Rounded.nearer (x : Rounded) (n : Nat) (exponent : Int) : Nat :=
  let twice := 2 * x.num * tenTo (-exponent).toNat
  let middle := (2 * n + 1) * (x.den * tenTo exponent.toNat)
  match compare twice middle with
  | .lt => n
  | .gt => n + 1
  | .eq => if n % 2 = 0 then n else n + 1

/-- The decimal on the grid of `10 ^ exponent` that reads back, if there is one. -/
def Rounded.onGrid? (x : Rounded) (exponent : Int) : Option Dec :=
  let n := x.steps exponent
  match x.admits ⟨n, exponent⟩, x.admits ⟨n + 1, exponent⟩ with
  | true, true => some ⟨x.nearer n exponent, exponent⟩
  | true, false => some ⟨n, exponent⟩
  | false, true => some ⟨n + 1, exponent⟩
  | false, false => none

def Dec.strip (d : Dec) : Dec :=
  if _h : d.digits ≠ 0 ∧ d.digits % 10 = 0 then
    Dec.strip ⟨d.digits / 10, d.exponent + 1⟩
  else d
termination_by d.digits
decreasing_by exact Nat.div_lt_self (by omega) (by omega)

/-- The shortest decimal that reads back: the first grid with a hit, from one digit to seventeen. -/
def Rounded.shortest (x : Rounded) : Dec :=
  let k := x.scale
  match (List.range 17).findSome? (fun i => x.onGrid? (k - (i + 1 : Nat))) with
  | some d => d.strip
  | none => ⟨x.steps (k - 17), k - 17⟩

end PagePress.Decimal
