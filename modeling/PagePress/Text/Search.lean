/-!
# Finding and replacing a piece of text

The pieces looked for are never empty. Occurrences are found from the left and do not overlap.
-/

namespace PagePress.Text

def occursIn (piece : List Char) : List Char → Bool
  | [] => piece.isEmpty
  | c :: s => piece.isPrefixOf (c :: s) || occursIn piece s

/-- What stands before and after the first occurrence of `piece`. -/
def cut? (piece : List Char) : List Char → Option (List Char × List Char)
  | [] => if piece.isEmpty then some ([], []) else none
  | c :: s =>
    if piece.isPrefixOf (c :: s) then some ([], (c :: s).drop piece.length)
    else (cut? piece s).map fun (before, after) => (c :: before, after)

def replaceFirst (piece replacement s : List Char) : List Char :=
  match cut? piece s with
  | none => s
  | some (before, after) => before ++ replacement ++ after

/-- The text with every occurrence of `piece` replaced; what is inserted is not looked at again. -/
def replaceAll (piece replacement : List Char) : List Char → List Char
  | [] => []
  | c :: s =>
    if piece.isPrefixOf (c :: s) then
      replacement ++ replaceAll piece replacement (s.drop (piece.length - 1))
    else c :: replaceAll piece replacement s
termination_by s => s.length
decreasing_by all_goals simp +arith

/-- The text cut at every occurrence of the character `sep`. -/
def splitAll (sep : Char) : List Char → List (List Char)
  | [] => [[]]
  | c :: s =>
    if c = sep then [] :: splitAll sep s
    else match splitAll sep s with
      | [] => [[c]]
      | word :: words => (c :: word) :: words

/-- What stands up to the first `stop`, that character included, and what follows it. -/
def through? (stop : Char) : List Char → Option (List Char × List Char)
  | [] => none
  | c :: s =>
    if c = stop then some ([c], s)
    else (through? stop s).map fun (front, rest) => (c :: front, rest)

theorem length_rest_lt_of_through? {stop : Char} {s front rest : List Char}
    (h : through? stop s = some (front, rest)) : rest.length < s.length := by
  induction s generalizing front with
  | nil => simp [through?] at h
  | cons c s ih =>
    simp only [through?] at h
    split at h
    · simp only [Option.some.injEq, Prod.mk.injEq] at h
      simp [← h.2]
    · simp only [Option.map_eq_some_iff, Prod.mk.injEq, Prod.exists] at h
      obtain ⟨_, _, h, _, rfl⟩ := h
      have := ih h
      simp only [List.length_cons]
      omega

end PagePress.Text
