import PagePress.Text.Blank
import PagePress.Text.Search
import PagePress.Text.Word

/-!
# The body tag

Sets the class of the first body tag of a document. Names of tags and attributes are compared
without regard to case; a class value may be quoted either way or bare.
-/

namespace PagePress.Markup

/-- Whether a character of the text matches a small ASCII letter of a name in any case. The long
small s counts as an s. -/
def matchesLetter (letter c : Char) : Bool := c.toLower == letter || (letter == 's' && c == 'ſ')

def afterName? : List Char → List Char → Option (List Char)
  | [], s => some s
  | _ :: _, [] => none
  | letter :: name, c :: s => if matchesLetter letter c then afterName? name s else none

/-- A body tag cut out of the text: what follows its name up to the closing `>`, and the rest. -/
structure BodyTag where
  attributes : List Char
  rest : List Char
deriving DecidableEq, Repr

def BodyTag.at? : List Char → Option BodyTag
  | '<' :: s => do
    let afterName ← afterName? "body".toList s
    let next ← afterName.head?
    if Text.isWord next then none
    let (attributes, rest) ← Text.through? '>' afterName
    return { attributes := attributes.dropLast, rest }
  | _ => none

def quotedValue? (quote : Char) (s : List Char) : Option (List Char) :=
  (Text.through? quote s).map (·.2)

def bareValue? (s : List Char) : Option (List Char) :=
  match s with
  | [] => none
  | c :: _ =>
    if Text.isBlank c || c == '>' then none
    else some (s.dropWhile fun c => !(Text.isBlank c || c == '>'))

/-- What follows the attribute value that the text starts with. A quote that is not closed is part
of a bare value. -/
def attributeValue? : List Char → Option (List Char)
  | '"' :: s => (quotedValue? '"' s).or (bareValue? ('"' :: s))
  | '\'' :: s => (quotedValue? '\'' s).or (bareValue? ('\'' :: s))
  | s => bareValue? s

/-- What follows the class attribute, with the white space before it, that the text starts with. -/
def afterClassAttribute? : List Char → Option (List Char)
  | [] => none
  | c :: s => do
    if !Text.isBlank c then none
    match Text.dropBlanks (← afterName? "class".toList s) with
    | '=' :: value => attributeValue? (Text.dropBlanks value)
    | _ => none

theorem length_le_of_afterName? {name s rest : List Char} (h : afterName? name s = some rest) :
    rest.length ≤ s.length := by
  induction name generalizing s with
  | nil => simp_all [afterName?]
  | cons letter name ih =>
    cases s with
    | nil => simp [afterName?] at h
    | cons c s =>
      simp only [afterName?] at h
      split at h
      · have := ih h
        simp only [List.length_cons]
        omega
      · contradiction

theorem length_dropBlanks_le (s : List Char) : (Text.dropBlanks s).length ≤ s.length :=
  (List.dropWhile_sublist Text.isBlank).length_le

theorem length_le_of_bareValue? {s rest : List Char} (h : bareValue? s = some rest) :
    rest.length ≤ s.length := by
  unfold bareValue? at h
  split at h
  · contradiction
  · split at h
    · contradiction
    · simp only [Option.some.injEq] at h
      subst h
      exact (List.dropWhile_sublist _).length_le

theorem length_le_of_quotedValue? {quote : Char} {s rest : List Char}
    (h : quotedValue? quote s = some rest) : rest.length ≤ s.length := by
  simp only [quotedValue?, Option.map_eq_some_iff, Prod.exists] at h
  obtain ⟨_, _, h, rfl⟩ := h
  have := Text.length_rest_lt_of_through? h
  omega

theorem length_le_of_attributeValue? {s rest : List Char} (h : attributeValue? s = some rest) :
    rest.length ≤ s.length := by
  unfold attributeValue? at h
  split at h
  · rcases Option.or_eq_some_iff.1 h with h | ⟨_, h⟩
    · have := length_le_of_quotedValue? h
      simp only [List.length_cons]
      omega
    · exact length_le_of_bareValue? h
  · rcases Option.or_eq_some_iff.1 h with h | ⟨_, h⟩
    · have := length_le_of_quotedValue? h
      simp only [List.length_cons]
      omega
    · exact length_le_of_bareValue? h
  · exact length_le_of_bareValue? h

theorem length_lt_of_afterClassAttribute? {s rest : List Char}
    (h : afterClassAttribute? s = some rest) : rest.length < s.length := by
  cases s with
  | nil => simp [afterClassAttribute?] at h
  | cons c s =>
    simp only [afterClassAttribute?, Option.bind_eq_bind] at h
    split at h
    · simp at h
    · simp only [Option.bind_eq_some_iff] at h
      obtain ⟨t, ht, h⟩ := h
      split at h
      · rename_i value hv
        have h1 := length_le_of_afterName? ht
        have h2 := length_dropBlanks_le t
        have h3 := length_dropBlanks_le value
        have h4 := length_le_of_attributeValue? h
        rw [hv] at h2
        simp only [List.length_cons] at h2 ⊢
        omega
      · contradiction

def withoutClass : List Char → List Char
  | [] => []
  | c :: s =>
    match _h : afterClassAttribute? (c :: s) with
    | some rest => withoutClass rest
    | none => c :: withoutClass s
termination_by s => s.length
decreasing_by
  · exact length_lt_of_afterClassAttribute? _h
  · simp

/-- The document with the class of its first body tag set to exactly `bodyClass`; unchanged if it
has no body tag. -/
def setBodyClass (bodyClass : List Char) : List Char → List Char
  | [] => []
  | c :: s =>
    match BodyTag.at? (c :: s) with
    | some tag =>
      "<body class=\"".toList ++ bodyClass ++ "\"".toList ++ withoutClass tag.attributes
        ++ ">".toList ++ tag.rest
    | none => c :: setBodyClass bodyClass s

end PagePress.Markup
