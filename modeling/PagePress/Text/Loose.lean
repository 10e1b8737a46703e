import PagePress.Text.Lossy

/-!
# Loose text

A text that comes as 16-bit units may hold one half of a pair without the other. Such a half is no
character: it can be passed on by its number, but not be shown.
-/

namespace PagePress

/-- A character, or one half of a pair of 16-bit units. -/
inductive Symbol where
  | char (c : Char)
  | half (unit : Nat)
deriving DecidableEq, Repr, Inhabited

namespace Symbol

def isWhole : Symbol → Bool
  | char _ => true
  | half _ => false

/-- Whether the unit is the first of a pair. -/
def isHigh (unit : Nat) : Bool := 0xD800 ≤ unit && unit < 0xDC00

/-- Whether the unit is the second of a pair. -/
def isLow (unit : Nat) : Bool := 0xDC00 ≤ unit && unit < 0xE000

def ofUnit (unit : Nat) : Symbol :=
  if isHigh unit || isLow unit then .half unit else .char (Char.ofNat unit)

def ofPair (high low : Nat) : Symbol :=
  .char (Char.ofNat (0x10000 + (high - 0xD800) * 0x400 + (low - 0xDC00)))

def ofUnits : List Nat → List Symbol
  | [] => []
  | [unit] => [ofUnit unit]
  | unit :: next :: rest =>
    if isHigh unit && isLow next then ofPair unit next :: ofUnits rest
    else ofUnit unit :: ofUnits (next :: rest)

/-- The character of the symbol; half a pair is read as damaged text. -/
def toChar : Symbol → Char
  | char c => c
  | half _ => Text.damaged

end Symbol

/-- A text in which pairs of units may be broken. -/
structure LooseText where
  symbols : List Symbol
deriving DecidableEq, Repr, Inhabited

namespace LooseText

def ofList (s : List Char) : LooseText := ⟨s.map .char⟩

def ofString (s : String) : LooseText := ofList s.toList

instance : Coe String LooseText := ⟨ofString⟩

instance : Append LooseText := ⟨fun s t => ⟨s.symbols ++ t.symbols⟩⟩

def isEmpty (t : LooseText) : Bool := t.symbols.isEmpty

def isWhole (t : LooseText) : Bool := t.symbols.all Symbol.isWhole

/-- The characters of the text, where half a pair is read as damaged text. -/
def toList (t : LooseText) : List Char := t.symbols.map Symbol.toChar

def toString? (t : LooseText) : Option String :=
  if t.isWhole then some (String.ofList t.toList) else none

def join (sep : LooseText) (texts : List LooseText) : LooseText :=
  ⟨sep.symbols.intercalate (texts.map symbols)⟩

@[simp] theorem toList_ofList (s : List Char) : (ofList s).toList = s := by
  simp only [ofList, toList, List.map_map]
  exact List.map_id'' (fun _ => rfl) s

@[simp] theorem isWhole_ofList (s : List Char) : (ofList s).isWhole = true := by
  simp [ofList, isWhole, Symbol.isWhole]

@[simp] theorem toString?_ofString (s : String) : (ofString s).toString? = some s := by
  simp [toString?, ofString]

end LooseText

end PagePress
