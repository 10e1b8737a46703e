import Mathlib.Logic.Function.Basic
import PagePress.Publishing.Operation

/-!
# Element maps

The elements of a page as a finite map from keys to values, and what every operation does to the map
of a page. The operations here know nothing of rows; that the store carries them out is shown
elsewhere.
-/

namespace PagePress

/-- What a page holds under a key. -/
structure ElementValue where
  kind : ElementKind
  content : String
  label : Option String
deriving DecidableEq, Repr

namespace ElementValue

def ofVariable (name : String) : ElementValue :=
  let made := ElementDefaults.ofVariable name
  { kind := made.kind, content := made.content, label := some made.label }

/-- The value that is asked for. What is left out is taken from the name of the key, and so is an
empty label; the content left out is the one that goes with the kind and the label. -/
def ofRequest (data : NewElement) : ElementValue :=
  let made := ElementDefaults.ofVariable data.key
  let kind := match data.kind with
    | some kind => kind
    | none => made.kind
  let label := match data.label with
    | some label => if label = "" then made.label else label
    | none => made.label
  let content := match data.content with
    | some content => content
    | none => kind.defaultContent label
  { kind, content, label := some label }

/-- The value with a content, which is a text without a label where there is no value. -/
def withContent (content : String) : Option ElementValue → ElementValue
  | some value => { value with content }
  | none => { kind := .text, content, label := none }

end ElementValue

abbrev ElementMap := String → Option ElementValue

namespace ElementMap

/-- The map of a page made from markup: a value for every variable. -/
def ofMarkup (html : String) : ElementMap := fun key =>
  if key.toList ∈ Markup.variableNames html.toList then some (.ofVariable key) else none

def setContent (map : ElementMap) (key content : String) : ElementMap :=
  Function.update map key (some (.withContent content (map key)))

def add (map : ElementMap) (data : NewElement) : ElementMap :=
  if (map data.key).isSome then map else Function.update map data.key (some (.ofRequest data))

def erase (map : ElementMap) (key : String) : ElementMap := Function.update map key none

/-- What an operation does to the map of a page that exists. Only four operations change it, and
only if they are about this page. -/
def next (pageId : Uuid) : Operation → ElementMap → Option ElementMap
  | .deletePage id, map => if id = pageId then none else some map
  | .setContent id key content, map =>
    some (if id = pageId then map.setContent key content else map)
  | .createElement id data, map => some (if id = pageId then map.add data else map)
  | .deleteElement id key, map => some (if id = pageId then map.erase key else map)
  | _, map => some map

end ElementMap

end PagePress
