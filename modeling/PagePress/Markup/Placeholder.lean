import PagePress.Text.Search
import PagePress.Text.Word

/-!
# Placeholders

A template marks the places of its variables as `{` `{` name `}` `}`, where a variable's name
consists of ASCII letters, digits and underscores. The markup alone tells which variables a
template has.
-/

namespace PagePress.Markup

def placeholder (name : List Char) : List Char := '{' :: '{' :: name ++ ['}', '}']

/-- The name in the placeholder that the text starts with, and what follows the placeholder. -/
def placeholder? : List Char → Option (List Char × List Char)
  | '{' :: '{' :: s =>
    match s.dropWhile Text.isAsciiWord with
    | '}' :: '}' :: rest =>
      if (s.takeWhile Text.isAsciiWord).isEmpty then none
      else some (s.takeWhile Text.isAsciiWord, rest)
    | _ => none
  | _ => none

theorem length_dropWhile_le {α : Type} (p : α → Bool) (l : List α) :
    (l.dropWhile p).length ≤ l.length :=
  (List.dropWhile_sublist p).length_le

theorem length_rest_lt_of_placeholder? {s name rest : List Char}
    (h : placeholder? s = some (name, rest)) : rest.length < s.length := by
  unfold placeholder? at h
  split at h
  · rename_i t
    split at h
    · rename_i r hr
      split at h
      · contradiction
      · simp only [Option.some.injEq, Prod.mk.injEq] at h
        have := length_dropWhile_le Text.isAsciiWord t
        rw [hr, h.2] at this
        simp only [List.length_cons] at this ⊢
        omega
    · contradiction
  · contradiction

def placeholderNames : List Char → List (List Char)
  | [] => []
  | c :: s =>
    match _h : placeholder? (c :: s) with
    | some (name, rest) => name :: placeholderNames rest
    | none => placeholderNames s
termination_by s => s.length
decreasing_by
  · exact length_rest_lt_of_placeholder? _h
  · simp

/-- The variables of a template: the names in its placeholders, each once, by first occurrence. -/
def variableNames (html : List Char) : List (List Char) := (placeholderNames html).eraseDups

def fillPlaceholders (key value html : List Char) : List Char :=
  Text.replaceAll (placeholder key) value html

end PagePress.Markup
