import PagePress.Text.Blank
import PagePress.Text.LetterCase
import PagePress.Text.Search

/-!
# Labels

The label of a variable is its name in words: a capital ASCII letter starts a new word, an
underscore separates two, and every word is capitalised.
-/

namespace PagePress

def capitalize : List Char → List Char
  | [] => []
  | c :: s => Text.upperOf c ++ Text.lower s

/-- The name with a space before every capital ASCII letter and in place of every underscore. -/
def spaced (name : List Char) : List Char :=
  name.flatMap fun c =>
    if c.isUpper then [' ', c] else if c = '_' then [' '] else [c]

/-- The words of a name, some of them empty where separators meet. -/
def labelWords (name : List Char) : List (List Char) :=
  Text.splitAll ' ' (Text.dropBlanks (spaced name))

/-- The label of a variable: the words of its name, capitalised and joined by spaces. -/
def label (name : List Char) : List Char :=
  [' '].intercalate ((labelWords name).map capitalize)

end PagePress
