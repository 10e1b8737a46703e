/-!
# Text in ASCII letters and digits

A text of any characters is written in lower-case letters, digits and hyphens as follows. First
come its ASCII characters and a hyphen, then numbers for the others, from the lowest character to
the highest: each says how many pairs of a character and a place in the text are passed over until
the next insertion. A number is a run of digits, lowest first, and its last digit is the first below
a threshold. The thresholds follow the size of the numbers read so far.
-/

namespace PagePress.Text.Punycode

/-- The value of a digit: the letters count from 0, the decimal digits from 26. -/
def digitValue? (c : Char) : Option Nat :=
  if 'a' ≤ c ∧ c ≤ 'z' then some (c.toNat - 97)
  else if '0' ≤ c ∧ c ≤ '9' then some (c.toNat - 22)
  else none

def threshold (bias place : Nat) : Nat := min 26 (max 1 (36 * (place + 1) - bias))

/-- Reads a number whose digit at `place` comes next and has the given weight, and adds it to
`sum`. -/
def number? (bias place weight sum : Nat) : List Char → Option (Nat × List Char)
  | [] => none
  | c :: s => do
    let digit ← digitValue? c
    let least := threshold bias place
    let sum := sum + digit * weight
    if digit < least then some (sum, s)
    else number? bias (place + 1) (weight * (36 - least)) sum s

theorem length_lt_of_number? {bias place weight sum n : Nat} {s rest : List Char}
    (h : number? bias place weight sum s = some (n, rest)) : rest.length < s.length := by
  induction s generalizing place weight sum with
  | nil => simp [number?] at h
  | cons c s ih =>
    simp only [number?, Option.bind_eq_bind, Option.bind_eq_some_iff] at h
    obtain ⟨digit, _, h⟩ := h
    split at h
    · simp only [Option.some.injEq, Prod.mk.injEq] at h
      simp [← h.2]
    · have := ih h
      simp only [List.length_cons]
      omega

def settle (size : Nat) : Nat :=
  if 455 < size then 36 + settle (size / 35) else 36 * size / (size + 38)

def nextBias (isFirst : Bool) (n length : Nat) : Nat :=
  let size := if isFirst then n / 700 else n / 2
  settle (size + size / length)

/-- Inserts the characters that the numbers in `s` stand for into `text`. The next one is at least
`code`, and if it is the same, its place is at least `place`. -/
def insertAll? (isFirst : Bool) (bias code place : Nat) (text s : List Char) :
    Option (List Char) :=
  if s.isEmpty then some text
  else
    match h : number? bias 0 1 0 s with
    | none => none
    | some (n, rest) =>
      let length := text.length + 1
      let code := code + (place + n) / length
      let place := (place + n) % length
      if code.isValidChar then
        insertAll? false (nextBias isFirst n length) code (place + 1)
          (text.insertIdx place (Char.ofNat code)) rest
      else none
termination_by s.length
decreasing_by exact length_lt_of_number? h

def decode? (s : List Char) : Option (List Char) :=
  let numbers := (s.reverse.takeWhile (· != '-')).reverse
  insertAll? true 72 0x80 0 (s.take (s.length - numbers.length - 1)) numbers

end PagePress.Text.Punycode
