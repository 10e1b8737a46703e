/-!
# Search patterns

In a pattern, `%` stands for any text and `_` for any one character; ASCII letters match in either
case. A text and a pattern end where their first null character is, and the last two characters of
the basic plane, which are no characters proper, are read as the mark for a damaged one.

A pattern is matched against all ends of a text at once: the row of a pattern says for every place
in the text whether the pattern matches what follows it.
-/

namespace PagePress.Text

def upToNull (s : List Char) : List Char := s.takeWhile (· != '\x00')

def foldChar (c : Char) : Char := if c = '\uFFFE' ∨ c = '\uFFFF' then '\uFFFD' else c.toLower

/-- Whether a character of a pattern other than `%` matches a character of a text. -/
def matchesChar (c d : Char) : Bool := c == '_' || foldChar c == foldChar d

/-- For every place in a row, whether the row holds there or further on. -/
def anyFurther : List Bool → List Bool
  | [] => []
  | b :: row =>
    match anyFurther row with
    | [] => [b]
    | further :: rest => (b || further) :: further :: rest

/-- The row of a character of a pattern that stands in front of a pattern with the given row. -/
def charRow (c : Char) : List Char → List Bool → List Bool
  | d :: s, _ :: row => (matchesChar c d && row.headD false) :: charRow c s row
  | _, _ => [false]

/-- The row of a pattern: for every place in the text, from the first character to the end, whether
the pattern matches the whole rest of the text. -/
def patternRow : List Char → List Char → List Bool
  | [], s => s.map (fun _ => false) ++ [true]
  | c :: p, s =>
    if c = '%' then anyFurther (patternRow p s) else charRow c s (patternRow p s)

def matchesPattern (p s : List Char) : Bool := (patternRow p s).headD false

def patternOf (search : String) : List Char := '%' :: search.toList ++ ['%']

def isFound (search text : String) : Bool :=
  matchesPattern (upToNull (patternOf search)) (upToNull text.toList)

end PagePress.Text
