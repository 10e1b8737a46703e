import PagePress.Text.Loose

/-!
# Ordered JSON values

A JSON value whose objects keep their fields in order. Integers are kept apart from other numbers
and have any size. Strings and the names of fields may hold broken pairs.
-/

namespace PagePress

inductive Json where
  | null
  | bool (b : Bool)
  | int (n : Int)
  | real (x : Float)
  | str (s : LooseText)
  | arr (items : List Json)
  | obj (fields : List (LooseText × Json))
deriving Inhabited

/-- The fields of an object in order, each name once. -/
abbrev Fields := List (LooseText × Json)

namespace Fields

def get? (fields : Fields) (name : LooseText) : Option Json := fields.lookup name

/-- Sets a field: one that is there keeps its place, a new one goes to the end. -/
def set (name : LooseText) (value : Json) : Fields → Fields
  | [] => [(name, value)]
  | (n, v) :: rest => if n = name then (n, value) :: rest else (n, v) :: set name value rest

def merge (fields updates : Fields) : Fields :=
  updates.foldl (fun acc (name, value) => set name value acc) fields

/-- The fields given by a list of pairs: a repeated name keeps its first place and its last value.
-/
def ofPairs (pairs : List (LooseText × Json)) : Fields := merge [] pairs

end Fields

namespace Json

def fields? : Json → Option Fields
  | obj fields => some fields
  | _ => none

def str? : Json → Option String
  | str s => s.toString?
  | _ => none

/-- Whether a value says something: it is not null, false, zero or empty. -/
def isTelling : Json → Bool
  | null => false
  | bool b => b
  | int n => n ≠ 0
  | real x => x != 0.0
  | str s => !s.isEmpty
  | arr items => !items.isEmpty
  | obj fields => !fields.isEmpty

def looseStr? : Json → Option LooseText
  | str s => some s
  | _ => none

def field? (j : Json) (name : LooseText) : Option Json := j.fields?.bind (·.get? name)

def ofString (s : String) : Json := str s

def ofOption (s : Option String) : Json := s.elim null ofString

end Json

end PagePress
