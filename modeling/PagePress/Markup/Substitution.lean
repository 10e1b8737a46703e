import PagePress.Markup.Placeholder
import PagePress.Markup.Slot

/-!
# Substituting element contents

Key by key, the placeholders and then the slots of the key receive the content of its element.
-/

namespace PagePress.Markup

def substitute (key value html : List Char) : List Char :=
  fillSlots key value (fillPlaceholders key value html)

/-- The text with the given contents put in, one key after the other. -/
def substituteAll (html : List Char) (contents : List (List Char × List Char)) : List Char :=
  contents.foldl (fun text (key, value) => substitute key value text) html

end PagePress.Markup
