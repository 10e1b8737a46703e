import PagePress.Text.Percent
import PagePress.Text.Search

/-!
# Queries

The query of an address holds parameters, `name=value`, with ampersands between them. Names and
values are percent-encoded, and a plus sign in them stands for a space.
-/

namespace PagePress.Text

def decodeQuery (s : List Char) : List Char :=
  decodePercent (s.map fun c => if c = '+' then ' ' else c)

/-- The parameters of a query, in order. A name without a value has the empty one. -/
def queryParameters (query : List Char) : List (String × String) :=
  ((splitAll '&' query).filter (!·.isEmpty)).map fun part =>
    let (name, value) := (cut? ['='] part).getD (part, [])
    (String.ofList (decodeQuery name), String.ofList (decodeQuery value))

end PagePress.Text
