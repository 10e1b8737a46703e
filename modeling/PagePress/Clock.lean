import PagePress.Decimal.Digits

/-!
# Points in time

Time is counted in microseconds from the start of 1970. A point in time is written as date and time
of day, with six digits of a second only where they are not all zero.
-/

namespace PagePress

/-- A point in time, or a span of it, in microseconds. -/
abbrev Micros := Int

def second : Micros := 1000000

structure Date where
  year : Int
  month : Nat
  day : Nat
deriving DecidableEq, Repr

/-- The day that is so many days after the first of January 1970. Years are counted from March, so
that the day a leap year adds is the last of its year. -/
def Date.ofDays (days : Int) : Date :=
  let z := days + 719468
  let era := z / 146097
  let dayOfEra := (z % 146097).toNat
  let yearOfEra := (dayOfEra - dayOfEra / 1460 + dayOfEra / 36524 - dayOfEra / 146096) / 365
  let dayOfYear := dayOfEra - (365 * yearOfEra + yearOfEra / 4 - yearOfEra / 100)
  let monthFromMarch := (5 * dayOfYear + 2) / 153
  let month := if monthFromMarch < 10 then monthFromMarch + 3 else monthFromMarch - 9
  { year := yearOfEra + era * 400 + (if month ≤ 2 then 1 else 0)
    month
    day := dayOfYear - (153 * monthFromMarch + 2) / 5 + 1 }

def momentText (t : Micros) : String :=
  let seconds := t / second
  let fraction := (t % second).toNat
  let date := Date.ofDays (seconds / 86400)
  let ofDay := (seconds % 86400).toNat
  let two := Decimal.padded 2
  String.ofList <|
    Decimal.padded 4 date.year.toNat ++ '-' :: two date.month ++ '-' :: two date.day
      ++ 'T' :: two (ofDay / 3600) ++ ':' :: two (ofDay / 60 % 60) ++ ':' :: two (ofDay % 60)
      ++ (if fraction = 0 then [] else '.' :: Decimal.padded 6 fraction)

end PagePress
