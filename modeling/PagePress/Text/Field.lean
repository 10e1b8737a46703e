import PagePress.Text.Search

/-!
# Fields

A form is a text with fields, each of them a name in braces. It is filled in one pass from the left,
which does not look again at what it has put in, so that a brace in a value stands for itself.
-/

namespace PagePress.Text

/-- The form with its fields filled. A field without a value stays as it is, and so does all from a
brace that is not closed. -/
def fillFields (values : List (String × List Char)) : List Char → List Char
  | [] => []
  | c :: s =>
    if c = '{' then
      match _h : through? '}' s with
      | some (field, rest) =>
        (values.lookup (String.ofList field.dropLast)).getD ('{' :: field) ++ fillFields values rest
      | none => c :: s
    else c :: fillFields values s
termination_by s => s.length
decreasing_by
  · exact Nat.lt_succ_of_lt (length_rest_lt_of_through? _h)
  · simp

end PagePress.Text
