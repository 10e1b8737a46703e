import PagePress.Json.Writer
import PagePress.Log.Fault

/-!
# Extra fields given as pairs

The extra fields of a record may be given as a list of pairs. A pair is a list of two items, a text
of two characters, or an object with two fields, of which only the names count. The first part of a
pair is a text or another simple value; numbers that are equal are one key, and so are a truth value
and the number it stands for. A key that is there keeps its place and its spelling.
-/

namespace PagePress

namespace Json

/-- The whole number that a number or a truth value is equal to. -/
def wholeValue? : Json → Option Int
  | bool b => some (if b then 1 else 0)
  | int n => some n
  | real x => (Decimal.wholePart? x).filter fun _ => x.floor == x
  | _ => none

def isSameKey : Json → Json → Bool
  | str a, str b => a = b
  | null, null => true
  | real x, real y => x == y || (x.isNaN && y.isNaN)
  | a, b => a.wholeValue?.isSome && a.wholeValue? == b.wholeValue?

def isSimple : Json → Bool
  | arr _ | obj _ => false
  | _ => true

def keyName : Json → LooseText
  | str s => s
  | j => .ofList j.write

end Json

namespace ExtraFields

abbrev Table := List (Json × Json)

/-- Sets a field: one that is there keeps its place and its key, a new one goes to the end. -/
def Table.set (key value : Json) : Table → Table
  | [] => [(key, value)]
  | (k, v) :: rest =>
    if k.isSameKey key then (k, value) :: rest else (k, v) :: Table.set key value rest

def parts? : Json → Option (List Json)
  | .arr items => some items
  | .str s => some (s.symbols.map fun symbol => .str ⟨[symbol]⟩)
  | .obj fields => some (fields.map fun field => .str field.1)
  | _ => none

def setItem (table : Table) (index : Nat) (item : Json) : Except LogFault Table :=
  match parts? item with
  | none => .error .unusable
  | some [key, value] => if key.isSimple then .ok (table.set key value) else .error .unusable
  | some parts => .error (.noPair index parts.length)

def mergePairs (fields : Fields) (items : List Json) : Except LogFault Fields := do
  let table : Table := fields.map fun (name, value) => (.str name, value)
  let table ← items.zipIdx.foldlM (fun table (item, index) => setItem table index item) table
  return table.map fun (key, value) => (key.keyName, value)

/-- The fields changed and extended by extra fields of any kind. -/
def merge (fields : Fields) : Json → Except LogFault Fields
  | .obj extra => .ok (fields.merge extra)
  | .arr items => mergePairs fields items
  | .str s => mergePairs fields (s.symbols.map fun symbol => .str ⟨[symbol]⟩)
  | _ => .error .unusable

end ExtraFields

end PagePress
