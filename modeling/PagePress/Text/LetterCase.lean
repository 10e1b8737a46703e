import PagePress.Text.CaseTable

/-!
# Upper and lower case

Full case mapping: one character may become several, and a capital sigma that ends a word becomes
the final small sigma. ASCII letters go to ASCII letters, so the table is asked only beyond them.
-/

namespace PagePress.Text

def caseForm (expansions : List (Nat × List Nat)) (runs : List CaseRun) (n : Nat) : List Char :=
  match expansions.lookup n with
  | some codes => codes.map Char.ofNat
  | none => [Char.ofNat ((runs.findSome? (·.map? n)).getD n)]

def upperOf (c : Char) : List Char :=
  if c.toNat < 128 then [c.toUpper] else caseForm upperExpansions upperRuns c.toNat

/-- The lower-case form of a character, whatever stands around it. -/
def lowerOf (c : Char) : List Char :=
  if c.toNat < 128 then [c.toLower] else caseForm lowerExpansions lowerRuns c.toNat

def upper (s : List Char) : List Char := s.flatMap upperOf

/-- Whether the first character that is not ignored has case. -/
def startsCased (s : List Char) : Bool :=
  match s.dropWhile (fun c => inRanges caseIgnorableRanges c.toNat) with
  | [] => false
  | c :: _ => inRanges casedRanges c.toNat

/-- The lower-case form of a text that follows `before`, which is given in reverse. -/
def lowerAfter (before : List Char) : List Char → List Char
  | [] => []
  | c :: rest =>
    let form :=
      if c = 'Σ' then [if startsCased before && !startsCased rest then 'ς' else 'σ']
      else lowerOf c
    form ++ lowerAfter (c :: before) rest

def lower (s : List Char) : List Char := lowerAfter [] s

end PagePress.Text
