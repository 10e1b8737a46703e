import PagePress.Decimal.Notation
import PagePress.Decimal.Places
import PagePress.Json.Literal
import PagePress.Log.Fault

/-!
# Message templates

A message may hold conversions, each of which stands for a value given along with it:
`%`, possibly the key of a value in parentheses, flags, a width, a precision, and a letter that says
how the value is written. Only one value can be given; it is taken by one conversion, or, if it is
a table or a list, any number of conversions may look up their values in it. Two percent signs stand
for one.
-/

namespace PagePress.LogTemplate

/-- The value that a conversion takes next. -/
structure Given where
  value : Json
  isTaken : Bool := false

/-- What the conversions of a template work on: the value given as a whole, and the one to be taken
next. -/
structure Source where
  whole : Json
  next : Given

def Source.ofValue (value : Json) : Source := { whole := value, next := { value } }

namespace Source

def take (source : Source) : Except LogFault (Json × Source) :=
  if source.next.isTaken then .error .unusable
  else .ok (source.next.value, { source with next := { source.next with isTaken := true } })

def lookUp (source : Source) (key : List Char) : Except LogFault Source :=
  match source.whole with
  | .obj fields =>
    match Fields.get? fields (.ofList key) with
    | some value => .ok { source with next := { value } }
    | none => .error .noEntry
  | _ => .error .unusable

def isDone (source : Source) : Bool :=
  match source.whole with
  | .obj _ | .arr _ => true
  | _ => source.next.isTaken

end Source

/-- How a value is written. -/
structure Conversion where
  /-- The flags, in any order. -/
  flags : List Char := []
  leftAligned : Bool := false
  width : Nat := 0
  precision : Option Nat := none

namespace Conversion

def has (conversion : Conversion) (flag : Char) : Bool := conversion.flags.contains flag

def isLeft (conversion : Conversion) : Bool := conversion.leftAligned || conversion.has '-'

/-- A value filled up to the width of the conversion, where zeros go behind its sign. -/
def fill (conversion : Conversion) (zeros : Bool) (sign : List Char) (body : List Symbol) :
    LooseText :=
  let space := conversion.width - (sign.length + body.length)
  let sign := sign.map Symbol.char
  let blank (c : Char) : List Symbol := List.replicate space (.char c)
  if conversion.isLeft then ⟨sign ++ body ++ blank ' '⟩
  else if zeros then ⟨sign ++ blank '0' ++ body⟩
  else ⟨blank ' ' ++ sign ++ body⟩

/-- A text, cut off at the precision and filled up. -/
def fillText (conversion : Conversion) (s : List Symbol) : LooseText :=
  conversion.fill false [] (match conversion.precision with
    | some most => s.take most
    | none => s)

def sign (conversion : Conversion) (negative : Bool) : List Char :=
  if negative then ['-']
  else if conversion.has '+' then ['+']
  else if conversion.has ' ' then [' ']
  else []

/-- A number, filled up; `front` stands between its sign and its digits. -/
def fillNumber (conversion : Conversion) (negative : Bool) (front body : List Char) : LooseText :=
  conversion.fill (conversion.has '0') (conversion.sign negative ++ front) (body.map .char)

end Conversion

/-! ### Numbers -/

/-- The whole number that a value stands for; a fraction is cut off. -/
def wholeNumber : Json → Except LogFault Int
  | .int n => .ok n
  | .bool b => .ok (if b then 1 else 0)
  | .real x =>
    match Decimal.wholePart? x with
    | some n => .ok n
    | none => .error (if x.isNaN then .notANumber else .outOfRange)
  | _ => .error .unusable

def integer : Json → Except LogFault Int
  | .int n => .ok n
  | .bool b => .ok (if b then 1 else 0)
  | _ => .error .unusable

def realNumber : Json → Except LogFault Float
  | .real x => .ok x
  | .bool b => .ok (if b then 1.0 else 0.0)
  | .int n =>
    let x := Decimal.nearest (n < 0) (Decimal.digits n.natAbs) 0
    if x.isInf then .error .outOfRange else .ok x
  | _ => .error .unusable

/-- An integer in digits of a base, at least as many as the precision says. -/
def convertInteger (conversion : Conversion) (base : Nat) (front : List Char) (n : Int) :
    LooseText :=
  let ds := Nat.toDigits base n.natAbs
  let zeros := List.replicate (conversion.precision.getD 0 - ds.length) '0'
  conversion.fillNumber (n < 0) (if conversion.has '#' then front else []) (zeros ++ ds)

def inCase (upper : Bool) (s : List Char) : List Char := if upper then s.map Char.toUpper else s

def realText (conversion : Conversion) (letter : Char) (x : Float) : List Char :=
  let magnitude := x.toBits &&& 0x7FFFFFFFFFFFFFFF
  let point := conversion.has '#'
  let precision := conversion.precision.getD 6
  if x.isNaN then "nan".toList
  else if magnitude = 0x7FF0000000000000 then "inf".toList
  else
    let value := Decimal.Rounded.ofBits magnitude
    if letter = 'f' then value.fixed point precision
    else if letter = 'e' then value.scientific point precision
    else value.general point (if precision = 0 then 1 else precision)

def convertReal (conversion : Conversion) (letter : Char) (x : Float) : LooseText :=
  let negative := !x.isNaN && x.toBits ≠ x.toBits &&& 0x7FFFFFFFFFFFFFFF
  conversion.fillNumber negative []
    (inCase letter.isUpper (realText conversion letter.toLower x))

def symbolOf (n : Int) : Except LogFault Symbol :=
  if n < 0 ∨ 0x10FFFF < n then .error .outOfRange
  else if 0xD800 ≤ n ∧ n < 0xE000 then .ok (.half n.toNat)
  else .ok (.char (Char.ofNat n.toNat))

def oneSymbol : Json → Except LogFault Symbol
  | .str s =>
    match s.symbols with
    | [symbol] => .ok symbol
    | _ => .error .unusable
  | j => integer j >>= symbolOf

/-! ### Conversions -/

def plainLiteral (value : Json) : List Char :=
  value.literal.flatMap fun c => if c.toNat < 128 then [c] else Text.escapedChar c

/-- A value as the letter of a conversion says; `index` is the place of the letter. -/
def convert (conversion : Conversion) (letter : Char) (index : Nat) (value : Json) :
    Except LogFault LooseText :=
  match letter with
  | 's' => .ok (conversion.fillText value.display.symbols)
  | 'r' => .ok (conversion.fillText (value.literal.map .char))
  | 'a' => .ok (conversion.fillText ((plainLiteral value).map .char))
  | 'c' => (oneSymbol value).map fun symbol => conversion.fill false [] [symbol]
  | 'd' | 'i' | 'u' => (wholeNumber value).map (convertInteger conversion 10 [])
  | 'o' => (integer value).map (convertInteger conversion 8 ['0', 'o'])
  | 'x' => (integer value).map (convertInteger conversion 16 ['0', 'x'])
  | 'X' =>
    (integer value).map fun n =>
      let text := convertInteger conversion 16 ['0', 'x'] n
      .ofList (text.toList.map Char.toUpper)
  | 'e' | 'E' | 'f' | 'F' | 'g' | 'G' => (realNumber value).map (convertReal conversion letter)
  | _ => .error (.unknownConversion letter index)

/-- The key that the text starts with, up to the parenthesis that closes it, and what follows. Keys
may hold parentheses in pairs. -/
def readKey : Nat → List Char → Except LogFault (List Char × List Char)
  | _, [] => .error .brokenKey
  | depth, c :: s =>
    if c = ')' ∧ depth = 0 then .ok ([], s)
    else
      let inside := if c = '(' then depth + 1 else if c = ')' then depth - 1 else depth
      (readKey inside s).map fun (key, rest) => (c :: key, rest)

def readCount (most : Nat) (fault : LogFault) (s : List Char) :
    Except LogFault (Option Nat × List Char) :=
  let ds := s.takeWhile Char.isDigit
  let n := Decimal.ofDigits ds
  if most < n then .error fault
  else .ok (if ds.isEmpty then none else some n, s.dropWhile Char.isDigit)

def takeCount (most : Int) (source : Source) : Except LogFault (Int × Source) := do
  let (value, source) ← source.take
  let n ← integer value
  if n < -most - 1 ∨ most < n then .error .outOfRange else return (n, source)

def maxWidth : Nat := 9223372036854775807

def maxPrecision : Nat := 2147483647

def readWidth (conversion : Conversion) (source : Source) :
    List Char → Except LogFault (Conversion × Source × List Char)
  | '*' :: s => do
    let (n, source) ← takeCount maxWidth source
    return ({ conversion with width := n.natAbs, leftAligned := n < 0 }, source, s)
  | s => do
    let (n, s) ← readCount maxWidth .oversizedWidth s
    return ({ conversion with width := n.getD 0 }, source, s)

/-- Reads the precision of a conversion. A point alone stands for zero. -/
def readPrecision (conversion : Conversion) (source : Source) :
    List Char → Except LogFault (Conversion × Source × List Char)
  | '.' :: '*' :: s => do
    let (n, source) ← takeCount maxPrecision source
    return ({ conversion with precision := some n.toNat }, source, s)
  | '.' :: s => do
    let (n, s) ← readCount maxPrecision .oversizedPrecision s
    return ({ conversion with precision := some (n.getD 0) }, source, s)
  | s => .ok (conversion, source, s)

/-- The text without a size mark, which says nothing here. -/
def withoutSizeMark : List Char → List Char
  | c :: s => if c = 'h' ∨ c = 'l' ∨ c = 'L' then s else c :: s
  | [] => []

def readLookUp (source : Source) : List Char → Except LogFault (Source × List Char)
  | '(' :: s =>
    match source.whole with
    | .obj _ | .arr _ => do
      let (key, s) ← readKey 0 s
      return (← source.lookUp key, s)
    | _ => .error .unusable
  | s => .ok (source, s)

def isFlag (c : Char) : Bool := "-+ #0".toList.contains c

/-- Carries out the conversion whose percent sign has been read, in a template of `size`
characters: its text, what is left of the source, and the rest of the template. -/
def runConversion (size : Nat) (source : Source) (s : List Char) :
    Except LogFault (LooseText × Source × List Char) := do
  let (source, s) ← readLookUp source s
  let conversion : Conversion := { flags := s.takeWhile isFlag }
  let (conversion, source, s) ← readWidth conversion source (s.dropWhile isFlag)
  let (conversion, source, s) ← readPrecision conversion source s
  match withoutSizeMark s with
  | [] => .error .brokenConversion
  | letter :: rest =>
    let (value, source) ← source.take
    let text ← convert conversion letter (size - rest.length - 1) value
    return (text, source, rest)

/-- Carries out all conversions of a template of `size` characters. Each takes at least one
character, so `fuel` is the length of the text. -/
def run (size : Nat) : Nat → Source → List Char → Except LogFault (LooseText × Source)
  | 0, source, _ => .ok ("", source)
  | fuel + 1, source, s =>
    match s with
    | [] => .ok ("", source)
    | '%' :: '%' :: s => do
      let (back, source) ← run size fuel source s
      return (⟨.char '%' :: back.symbols⟩, source)
    | '%' :: s => do
      let (front, source, s) ← runConversion size source s
      let (back, source) ← run size fuel source s
      return (front ++ back, source)
    | c :: s => do
      let (back, source) ← run size fuel source s
      return (⟨.char c :: back.symbols⟩, source)

/-- The template with the given value put in. The value has to be used, unless it is a table or a
list. -/
def fill (template : List Char) (value : Json) : Except LogFault LooseText := do
  let (text, source) ← run template.length template.length (Source.ofValue value) template
  if source.isDone then return text else .error .unusable

end PagePress.LogTemplate
