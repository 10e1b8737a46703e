import PagePress.Text.LetterCase
import PagePress.Text.Quoted
import PagePress.Text.Search

/-!
# Kinds of page elements

An element holds a text, an image address, a colour or a link target. The kind of a template
variable is inferred from the words in its name.
-/

namespace PagePress

inductive ElementKind where
  | text
  | image
  | color
  | link
deriving DecidableEq, Repr

namespace ElementKind

def name : ElementKind → String
  | text => "TEXT"
  | image => "IMAGE"
  | color => "COLOR"
  | link => "LINK"

def ofName? (s : String) : Option ElementKind :=
  [text, image, color, link].find? (·.name == s)

def unknownName (s : String) : String :=
  String.ofList (Text.quoted s.toList) ++ " is not a valid ElementType"

/-- The words that hint at a kind, in the order in which they are looked for. -/
def hints : List (ElementKind × List String) :=
  [(image, ["image", "img", "logo", "photo"]),
   (color, ["color", "bg", "background"]),
   (link, ["link", "url", "href"])]

/-- The kind a variable's name hints at: the first kind with a word that occurs in the name in any
letter case, and otherwise text. -/
def infer (variableName : String) : ElementKind :=
  let lowered := Text.lower variableName.toList
  match hints.find? (fun (_, words) => words.any (fun w => Text.occursIn w.toList lowered)) with
  | some (kind, _) => kind
  | none => text

/-- The content an element of this kind starts out with: a fixed value, or its label for a text. -/
def defaultContent (kind : ElementKind) (label : String) : String :=
  match kind with
  | image => "https://placehold.co/600x400"
  | color => "#3B82F6"
  | link => "#"
  | text => label

end ElementKind

end PagePress
