import PagePress.Element.Kind
import PagePress.Element.Label

/-!
# Elements made from a variable's name
-/

namespace PagePress

/-- What an element made from a variable starts out with. -/
structure ElementDefaults where
  kind : ElementKind
  content : String
  label : String
deriving DecidableEq, Repr

def ElementDefaults.ofVariable (name : String) : ElementDefaults :=
  let kind := ElementKind.infer name
  let label := String.ofList (PagePress.label name.toList)
  { kind, label, content := kind.defaultContent label }

end PagePress
