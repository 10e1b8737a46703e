import PagePress.Decimal.Notation
import PagePress.Json.Basic
import PagePress.Text.Hex

/-!
# Reading JSON

The reader takes the usual grammar and the numbers `NaN`, `Infinity` and `-Infinity`. Of fields of
one name the last value counts, at the place of the first. An escaped half of a pair without the
other half stays what it is. The reader refuses control characters in strings, integers of more than
4300 digits, and nesting deeper than 1000.

A fault in the text is reported by the number of characters left where it was noticed.
-/

namespace PagePress.Json

/-- Why a text was refused. -/
inductive Fault where
  /-- The text breaks the grammar where this many characters are left. -/
  | malformed (left : Nat)
  /-- Lists and objects are nested too deeply. -/
  | tooDeep
  /-- An integer has too many digits. -/
  | tooLong
deriving DecidableEq, Repr

/-- What reading the front of a text gives: a value and the rest of the text. -/
abbrev Reading (α : Type) := Except Fault (α × List Char)

def maxDepth : Nat := 1000

def malformedAt {α : Type} (s : List Char) : Reading α := .error (.malformed s.length)

def isSpace (c : Char) : Bool := c == ' ' || c == '\t' || c == '\n' || c == '\r'

def skipSpaces (s : List Char) : List Char := s.dropWhile isSpace

/-! ### Strings -/

/-- The 16-bit unit of four hexadecimal digits that do not end the text, and what follows them. -/
def unit? : List Char → Option (Nat × List Char)
  | a :: b :: c :: d :: rest => do
    if rest.isEmpty then none
    let digit := Text.hexValue?
    return (4096 * (← digit a) + 256 * (← digit b) + 16 * (← digit c) + (← digit d), rest)
  | _ => none

/-- The symbol escaped by its units, for a text that starts with the `u` of an escape, and what
follows it. -/
def readUnits (s : List Char) : Reading Symbol :=
  match unit? (s.drop 1) with
  | none => malformedAt s
  | some (high, rest) =>
    if Symbol.isHigh high && 6 < rest.length then
      match rest with
      | '\\' :: 'u' :: second =>
        match unit? second with
        | none => malformedAt ('u' :: second)
        | some (low, rest') =>
          if Symbol.isLow low then .ok (.ofPair high low, rest')
          else .ok (.ofUnit high, rest)
      | _ => .ok (.ofUnit high, rest)
    else .ok (.ofUnit high, rest)

def shortEscape? : Char → Option Char
  | '"' => some '"'
  | '\\' => some '\\'
  | '/' => some '/'
  | 'b' => some '\x08'
  | 'f' => some '\x0c'
  | 'n' => some '\n'
  | 'r' => some '\r'
  | 't' => some '\t'
  | _ => none

/-- One step in a string: its end, or one symbol. -/
inductive Piece where
  | close (rest : List Char)
  | symbol (s : Symbol) (rest : List Char)

/-- The first piece of the inside of a string. `start` is the number of characters left at its
opening quote, which is where a string without an end is reported. -/
def readPiece (start : Nat) : List Char → Except Fault Piece
  | [] => .error (.malformed start)
  | '"' :: rest => .ok (.close rest)
  | '\\' :: rest =>
    match rest with
    | [] => .error (.malformed start)
    | c :: after =>
      if c = 'u' then (readUnits rest).map fun (s, rest) => .symbol s rest
      else match shortEscape? c with
        | some c => .ok (.symbol (.char c) after)
        | none => .error (.malformed ('\\' :: rest).length)
  | c :: rest =>
    if c.toNat < 0x20 then .error (.malformed (c :: rest).length) else .ok (.symbol (.char c) rest)

theorem length_rest_lt_of_unit? {s rest : List Char} {u : Nat} (h : unit? s = some (u, rest)) :
    rest.length < s.length := by
  unfold unit? at h
  split at h
  · simp only [Option.bind_eq_bind, Option.pure_def] at h
    split at h
    · simp at h
    · simp only [Option.bind_eq_some_iff, Option.some.injEq, Prod.mk.injEq] at h
      obtain ⟨_, _, _, _, _, _, _, _, _, rfl⟩ := h
      simp only [List.length_cons]
      omega
  · contradiction

theorem length_rest_lt_of_readUnits {s rest : List Char} {symbol : Symbol}
    (h : readUnits s = .ok (symbol, rest)) : rest.length < s.length := by
  unfold readUnits at h
  split at h
  · contradiction
  · rename_i high rest' hu
    have hlt := length_rest_lt_of_unit? hu
    have hd : (s.drop 1).length ≤ s.length := by simp
    split at h
    · split at h
      · rename_i second _
        split at h
        · contradiction
        · rename_i low rest'' hl
          have := length_rest_lt_of_unit? hl
          simp only [List.length_cons] at hlt
          split at h
          · simp only [Except.ok.injEq, Prod.mk.injEq] at h
            rw [← h.2]
            omega
          · simp only [Except.ok.injEq, Prod.mk.injEq] at h
            rw [← h.2]
            simp only [List.length_cons]
            omega
      · simp only [Except.ok.injEq, Prod.mk.injEq] at h
        rw [← h.2]
        omega
    · simp only [Except.ok.injEq, Prod.mk.injEq] at h
      rw [← h.2]
      omega

theorem length_rest_lt_of_readPiece {start : Nat} {s rest : List Char} {symbol : Symbol}
    (h : readPiece start s = .ok (.symbol symbol rest)) : rest.length < s.length := by
  unfold readPiece at h
  split at h
  · contradiction
  · simp at h
  · split at h
    · contradiction
    · rename_i after
      split at h
      · rename_i heq
        subst heq
        cases hu : readUnits ('u' :: after) with
        | error e => simp [hu, Except.map] at h
        | ok p =>
          simp only [hu, Except.map, Except.ok.injEq, Piece.symbol.injEq] at h
          have : p.2.length < ('u' :: after).length := length_rest_lt_of_readUnits hu
          rw [← h.2]
          simp only [List.length_cons] at this ⊢
          omega
      · split at h
        · simp only [Except.ok.injEq, Piece.symbol.injEq] at h
          rw [← h.2]
          simp only [List.length_cons]
          omega
        · contradiction
  · split at h
    · contradiction
    · simp only [Except.ok.injEq, Piece.symbol.injEq] at h
      simp [← h.2]

def readString (start : Nat) (s : List Char) : Reading (List Symbol) :=
  match _h : readPiece start s with
  | .error e => .error e
  | .ok (.close rest) => .ok ([], rest)
  | .ok (.symbol symbol rest) =>
    (readString start rest).map fun (text, rest) => (symbol :: text, rest)
termination_by s.length
decreasing_by exact length_rest_lt_of_readPiece _h

/-! ### Numbers -/

def readFraction : List Char → List Char × List Char
  | '.' :: d :: s =>
    if d.isDigit then (d :: s.takeWhile Char.isDigit, s.dropWhile Char.isDigit)
    else ([], '.' :: d :: s)
  | s => ([], s)

def readExponent (s : List Char) : Option (Bool × List Char) × List Char :=
  match s with
  | c :: r =>
    if c = 'e' ∨ c = 'E' then
      let (negative, ds) := match r with
        | '-' :: r => (true, r)
        | '+' :: r => (false, r)
        | r => (false, r)
      if (ds.takeWhile Char.isDigit).isEmpty then (none, s)
      else (some (negative, ds.takeWhile Char.isDigit), ds.dropWhile Char.isDigit)
    else (none, s)
  | [] => (none, s)

/-- The whole part of a number: a lone zero, or digits that do not start with one. -/
def readWhole : List Char → Option (List Char × List Char)
  | '0' :: s => some (['0'], s)
  | c :: s =>
    if c.isDigit then some (c :: s.takeWhile Char.isDigit, s.dropWhile Char.isDigit) else none
  | [] => none

/-- The number whose sign has been read; `s` is the text from the sign on. -/
def readNumber (s : List Char) (negative : Bool) (unsigned : List Char) : Reading Json :=
  match readWhole unsigned with
  | none => malformedAt s
  | some (whole, rest) =>
    match readFraction rest with
    | (fraction, rest) =>
      match readExponent rest with
      | (none, rest) =>
        if fraction.isEmpty then
          if Decimal.maxDigits < whole.length then .error .tooLong
          else
            let n : Int := Decimal.ofDigits whole
            .ok (int (if negative then -n else n), rest)
        else .ok (real (Decimal.nearest negative (whole ++ fraction) (-fraction.length)), rest)
      | (some (down, ds), rest) =>
        let e : Int := Decimal.ofDigits ds
        let exponent := (if down then -e else e) - fraction.length
        .ok (real (Decimal.nearest negative (whole ++ fraction) exponent), rest)

/-! ### Values -/

def words : List (String × Json) :=
  [("null", null), ("true", bool true), ("false", bool false), ("NaN", real (0.0 / 0.0)),
   ("Infinity", real (1.0 / 0.0)), ("-Infinity", real (-1.0 / 0.0))]

def readScalar (s : List Char) : Reading Json :=
  match words.find? (fun (word, _) => word.toList.isPrefixOf s) with
  | some (word, value) => .ok (value, s.drop word.length)
  | none =>
    match s with
    | '-' :: unsigned => readNumber s true unsigned
    | _ => readNumber s false s

/-- The items of a list that has at least one, and what follows its end. Every item takes at least
one character, so `fuel` is the length of the text. -/
def readItems (readItem : List Char → Reading Json) :
    Nat → List Char → Except Fault (List Json × List Char)
  | 0, s => malformedAt s
  | fuel + 1, s => do
    let (item, s) ← readItem s
    match skipSpaces s with
    | ']' :: rest => return ([item], rest)
    | ',' :: rest =>
      let (items, rest) ← readItems readItem fuel (skipSpaces rest)
      return (item :: items, rest)
    | rest => malformedAt rest

def readFields (readItem : List Char → Reading Json) :
    Nat → List Char → Except Fault (List (LooseText × Json) × List Char)
  | 0, s => malformedAt s
  | fuel + 1, s =>
    match s with
    | '"' :: inside => do
      let (name, s) ← readString s.length inside
      match skipSpaces s with
      | ':' :: s =>
        let (value, s) ← readItem (skipSpaces s)
        match skipSpaces s with
        | '}' :: rest => return ([(⟨name⟩, value)], rest)
        | ',' :: rest =>
          let (fields, rest) ← readFields readItem fuel (skipSpaces rest)
          return ((⟨name⟩, value) :: fields, rest)
        | rest => malformedAt rest
      | rest => malformedAt rest
    | _ => malformedAt s

def readValue : Nat → List Char → Reading Json
  | 0, _ => .error .tooDeep
  | depth + 1, s =>
    match s with
    | '"' :: inside =>
      (readString s.length inside).map fun (t, rest) => (str ⟨t⟩, rest)
    | '[' :: inside =>
      match skipSpaces inside with
      | ']' :: rest => .ok (arr [], rest)
      | body =>
        (readItems (readValue depth) s.length body).map fun (items, rest) => (arr items, rest)
    | '{' :: inside =>
      match skipSpaces inside with
      | '}' :: rest => .ok (obj [], rest)
      | body =>
        (readFields (readValue depth) s.length body).map fun (fields, rest) =>
          (obj (Fields.ofPairs fields), rest)
    | _ => readScalar s

/-- The value that a text holds. A text that starts with a byte order mark is malformed from its
start. -/
def read (s : List Char) : Except Fault Json :=
  if s.head? = some '\uFEFF' then .error (.malformed s.length)
  else do
    let (value, rest) ← readValue maxDepth (skipSpaces s)
    match skipSpaces rest with
    | [] => return value
    | rest => .error (.malformed rest.length)

end PagePress.Json
