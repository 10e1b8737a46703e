/-!
# Text for a terminal

What is printed where there is no terminal comes without the control sequences of one, and all its
lines end alike.
-/

namespace PagePress.Text

def isSequenceChar (c : Char) : Bool := c.isDigit || c == ';' || c == '?'

/-- What follows the control sequence that the text starts with: an escape, a bracket, digits and
marks, and a letter. -/
def afterSequence? : List Char → Option (List Char)
  | '\x1b' :: '[' :: s =>
    match s.dropWhile isSequenceChar with
    | c :: rest => if c.isAlpha then some rest else none
    | [] => none
  | _ => none

theorem length_lt_of_afterSequence? {s rest : List Char} (h : afterSequence? s = some rest) :
    rest.length < s.length := by
  unfold afterSequence? at h
  split at h
  · rename_i t
    split at h
    · rename_i c u hu
      split at h
      · simp only [Option.some.injEq] at h
        subst h
        have := (List.dropWhile_sublist (l := t) isSequenceChar).length_le
        rw [hu] at this
        simp only [List.length_cons] at this ⊢
        omega
      · contradiction
    · contradiction
  · contradiction

def withoutSequences : List Char → List Char
  | [] => []
  | c :: s =>
    match _h : afterSequence? (c :: s) with
    | some rest => withoutSequences rest
    | none => c :: withoutSequences s
termination_by s => s.length
decreasing_by
  · exact length_lt_of_afterSequence? _h
  · simp

/-- The text whose lines all end with a line feed alone. -/
def withPlainEnds : List Char → List Char
  | [] => []
  | '\r' :: '\n' :: s => '\n' :: withPlainEnds s
  | c :: s => c :: withPlainEnds s

def printedLine (line : String) : String :=
  String.ofList (withPlainEnds (withoutSequences line.toList ++ ['\n']))

end PagePress.Text
