import PagePress.Json.Writer
import PagePress.Text.Quoted

/-!
# Values as literals

The literal notation of a value spells the constants `None`, `True` and `False`, quotes strings, and
writes lists and objects with their items in this notation.
-/

namespace PagePress.Json

def literalNames : Decimal.SpecialNames := { nan := "nan", infinity := "inf" }

mutual

def literal : Json → List Char
  | null => "None".toList
  | bool true => "True".toList
  | bool false => "False".toList
  | int n => Decimal.integer n
  | real x => Decimal.real literalNames x
  | str s => Text.quotedLoose s
  | arr [] => ['[', ']']
  | arr (item :: items) => '[' :: literal item ++ literalItems items
  | obj [] => ['{', '}']
  | obj ((name, value) :: fields) =>
    '{' :: Text.quotedLoose name ++ ':' :: ' ' :: literal value ++ literalFields fields

def literalItems : List Json → List Char
  | [] => [']']
  | item :: items => ',' :: ' ' :: literal item ++ literalItems items

def literalFields : List (LooseText × Json) → List Char
  | [] => ['}']
  | (name, value) :: fields =>
    ',' :: ' ' :: Text.quotedLoose name ++ ':' :: ' ' :: literal value ++ literalFields fields

end

/-- The value as it is put into a text: a string as it is, all else as a literal. -/
def display : Json → LooseText
  | str s => s
  | j => .ofList j.literal

end PagePress.Json
