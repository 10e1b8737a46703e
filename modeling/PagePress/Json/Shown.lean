import PagePress.Json.Basic

/-!
# Values that can be sent

A value can be sent to a client if all its numbers are finite and no pair in its texts is broken.
-/

namespace PagePress.Json

def isFiniteNumber (x : Float) : Bool := !(x.isNaN || x.isInf)

mutual

def isFinite : Json → Bool
  | real x => isFiniteNumber x
  | arr items => areFinite items
  | obj fields => haveFinite fields
  | _ => true

def areFinite : List Json → Bool
  | [] => true
  | item :: items => isFinite item && areFinite items

def haveFinite : List (LooseText × Json) → Bool
  | [] => true
  | (_, value) :: fields => isFinite value && haveFinite fields

end

mutual

/-- Whether no pair in the texts of the value is broken. -/
def isWhole : Json → Bool
  | str s => s.isWhole
  | arr items => areWhole items
  | obj fields => haveWhole fields
  | _ => true

def areWhole : List Json → Bool
  | [] => true
  | item :: items => isWhole item && areWhole items

def haveWhole : List (LooseText × Json) → Bool
  | [] => true
  | (name, value) :: fields => name.isWhole && isWhole value && haveWhole fields

end

def isSendable (j : Json) : Bool := j.isFinite && j.isWhole

end PagePress.Json
