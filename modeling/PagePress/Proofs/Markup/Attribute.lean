import PagePress.Proofs.Element.Label
import PagePress.Proofs.Markup.BodyTag

/-!
# The attributes of the body tag

When the body tag gets its class, class attributes are cut out of the text of the tag wherever one
seems to stand, also within the value of another attribute. As long as no value that is to stay
reads like that, exactly the class attributes go, and all others stay as they are.
-/

namespace PagePress.Markup

/-- A name and a value in a tag. -/
structure Attribute where
  name : List Char
  value : List Char
deriving DecidableEq, Repr

namespace Attribute

/-- The attribute as it is written: behind a space, and with its value in quotes. -/
def text (a : Attribute) : List Char := ' ' :: (a.name ++ '=' :: '"' :: (a.value ++ ['"']))

def isNameChar (c : Char) : Bool := c == '-' || c.isAlphanum

/-- The name has only such characters, and the value ends neither itself nor the tag. -/
structure IsProper (a : Attribute) : Prop where
  name : ∀ c ∈ a.name, isNameChar c = true
  quote : '"' ∉ a.value
  closing : '>' ∉ a.value

instance (a : Attribute) : Decidable a.IsProper :=
  decidable_of_iff (a.name.all isNameChar = true ∧ '"' ∉ a.value ∧ '>' ∉ a.value)
    ⟨fun ⟨name, quote, closing⟩ => { name := List.all_eq_true.mp name, quote, closing },
      fun ⟨name, quote, closing⟩ => ⟨List.all_eq_true.mpr name, quote, closing⟩⟩

def isClass (a : Attribute) : Bool := a.name.map Char.toLower == "class".toList

end Attribute

/-- Whether the text starts with white space, `class` in any letter case, and an equals sign that
more white space may precede. -/
def startsClass : List Char → Bool
  | [] => false
  | c :: s =>
    Text.isBlank c && (afterName? "class".toList s).any fun rest =>
      (Text.dropBlanks rest).head? == some '='

/-- Whether something that reads like the start of a class attribute stands in the text. -/
def assignsClass : List Char → Bool
  | [] => false
  | c :: s => startsClass (c :: s) || assignsClass s

def attributesText (attributes : List Attribute) : List Char := attributes.flatMap Attribute.text

variable {letter c : Char} {name rest s t u pre post bodyClass : List Char} {a : Attribute}
  {attributes : List Attribute}

/-! ## Names without regard to case -/

theorem matchesLetter_iff (plain : letter ≠ 's' ∨ c ≠ 'ſ') :
    matchesLetter letter c = true ↔ c.toLower = letter := by
  rcases plain with plain | plain <;> simp [matchesLetter, plain]

/-- Without the long small s, letters are the same if they are so in lower case. -/
theorem afterName?_eq_some_iff (plain : 's' ∉ name ∨ 'ſ' ∉ s) :
    afterName? name s = some rest ↔ ∃ front, front.map Char.toLower = name ∧ s = front ++ rest := by
  induction name generalizing s with
  | nil => simp [afterName?]
  | cons letter name ih =>
    cases s with
    | nil => simp [afterName?]
    | cons c s =>
      have here : letter ≠ 's' ∨ c ≠ 'ſ' := by
        refine plain.imp ?_ ?_ <;> rintro absent rfl <;> exact absent List.mem_cons_self
      have later : 's' ∉ name ∨ 'ſ' ∉ s :=
        plain.imp (mt (List.mem_cons_of_mem _)) (mt (List.mem_cons_of_mem _))
      rw [afterName?, Option.ite_none_right_eq_some, matchesLetter_iff here, ih later]
      constructor
      · rintro ⟨rfl, front, rfl, rfl⟩
        exact ⟨c :: front, rfl, rfl⟩
      · rintro ⟨_ | ⟨d, front⟩, same, parts⟩
        · cases same
        · obtain ⟨rfl, rfl⟩ := List.cons.inj same
          obtain ⟨rfl, rfl⟩ := List.cons.inj parts
          exact ⟨rfl, front, rfl, rfl⟩

/-- No body tag opens in a text without `<body`. -/
theorem opensBody_eq_false (absent : ¬"<body".toList <:+: s.map Char.toLower) :
    opensBody s = false := by
  induction s with
  | nil => rfl
  | cons c s ih =>
    rw [List.map_cons, List.infix_cons_iff, not_or] at absent
    rw [opensBody, ih absent.2, Bool.or_false, ← Bool.not_eq_true]
    intro starts
    unfold startsBody at starts
    split at starts
    · rename_i s same
      obtain ⟨rfl, rfl⟩ := List.cons.inj same
      obtain ⟨rest, found, -⟩ := (Option.any_eq_true _ _).mp starts
      obtain ⟨front, body, rfl⟩ := (afterName?_eq_some_iff (.inl (by decide))).mp found
      exact absent.1 ⟨rest.map Char.toLower, by simp [body]⟩
    · cases starts

/-- The first body tag of a text, with the text up to its `>`. -/
theorem setBodyClass_tag (absent : ¬"<body".toList <:+: pre.map Char.toLower) (closing : '>' ∉ t)
    (apart : t.head?.all (!Text.isWord ·) = true) (post : List Char) :
    setBodyClass bodyClass (pre ++ "<body".toList ++ t ++ '>' :: post) =
      pre ++ "<body class=\"".toList ++ bodyClass ++ "\"".toList ++ withoutClass t ++
        ">".toList ++ post := by
  have name : afterName? "body".toList ("body".toList ++ (t ++ '>' :: post)) =
      some (t ++ '>' :: post) :=
    (afterName?_eq_some_iff (.inl (by decide))).mpr ⟨"body".toList, by decide, rfl⟩
  have closes := Text.through?_append_cons (t := post) closing
  have tag : BodyTag.at? ('<' :: ("body".toList ++ (t ++ '>' :: post))) =
      some { attributes := t, rest := post } := by
    rw [BodyTag.at?_eq_some_iff]
    cases t with
    | nil => exact ⟨'>', post, ['>'], name, by decide, closes, rfl⟩
    | cons d t =>
      have outside : Text.isWord d = false := by simpa using apart
      exact ⟨d, _, _, name, outside, closes, List.dropLast_concat.symm⟩
  have whole : pre ++ "<body".toList ++ t ++ '>' :: post =
      pre ++ '<' :: ("body".toList ++ (t ++ '>' :: post)) := by
    simp
  rw [whole, setBodyClass_append_of_not_opens (opensBody_eq_false absent),
    setBodyClass_of_some tag]
  simp only [List.append_assoc]

/-! ## Cutting class attributes out -/

theorem withoutClass_of_none (none : afterClassAttribute? (c :: s) = none) :
    withoutClass (c :: s) = c :: withoutClass s := by
  rw [withoutClass]
  split
  · rename_i found
    rw [none] at found
    cases found
  · rfl

theorem withoutClass_of_some (found : afterClassAttribute? s = some rest) :
    withoutClass s = withoutClass rest := by
  cases s with
  | nil => cases found
  | cons c s =>
    rw [withoutClass]
    split
    · rename_i found'
      rw [found] at found'
      rw [Option.some.inj found']
    · rename_i none
      rw [found] at none
      cases none

/-- A text in which no class attribute starts is copied. -/
theorem withoutClass_append
    (copied : ∀ u, u <:+ s → u ≠ [] → afterClassAttribute? (u ++ t) = none) :
    withoutClass (s ++ t) = s ++ withoutClass t := by
  induction s with
  | nil => rfl
  | cons c s ih =>
    have here := copied (c :: s) List.suffix_rfl (List.cons_ne_nil c s)
    have later := ih fun u suffix => copied u (suffix.trans (List.suffix_cons c s))
    rw [List.cons_append] at here ⊢
    rw [withoutClass_of_none here, later]
    rfl

theorem afterClassAttribute?_of_not_blank (plain : Text.isBlank c = false) :
    afterClassAttribute? (c :: s) = none := by
  simp [afterClassAttribute?, plain]

theorem withoutClass_append_of_not_blank (plain : ∀ c ∈ s, Text.isBlank c = false) :
    withoutClass (s ++ t) = s ++ withoutClass t := by
  refine withoutClass_append fun u suffix nonempty => ?_
  obtain ⟨d, u, rfl⟩ := List.exists_cons_of_ne_nil nonempty
  exact afterClassAttribute?_of_not_blank (plain d (suffix.subset List.mem_cons_self))

theorem dropBlanks_cons (plain : Text.isBlank c = false) : Text.dropBlanks (c :: s) = c :: s :=
  List.dropWhile_cons_of_neg (by simp [plain])

theorem dropBlanks_append_cons (plain : Text.isBlank c = false) :
    Text.dropBlanks (s ++ c :: t) = Text.dropBlanks s ++ c :: t := by
  have stops : List.dropWhile Text.isBlank (c :: t) = c :: t := dropBlanks_cons plain
  rw [Text.dropBlanks, List.dropWhile_append, stops, Text.dropBlanks]
  split
  · rename_i all
    rw [List.isEmpty_iff.mp all]
    rfl
  · rfl

/-- A value does not reach over the quote behind it, so that a class attribute has to be read within
the value up to its equals sign. -/
theorem afterClassAttribute?_append_quote (nonempty : s ≠ []) (other : startsClass s = false) :
    afterClassAttribute? (s ++ '"' :: t) = none := by
  obtain ⟨c, s, rfl⟩ := List.exists_cons_of_ne_nil nonempty
  cases blank : Text.isBlank c with
  | false => exact afterClassAttribute?_of_not_blank blank
  | true =>
    have name : afterName? "class".toList (s ++ '"' :: t) =
        (afterName? "class".toList s).map (· ++ '"' :: t) :=
      afterName?_append_cons (by simp [matchesLetter])
    simp only [startsClass, blank, Bool.true_and] at other
    simp only [List.cons_append, afterClassAttribute?, blank, name, bind]
    -- the quote is no letter, no white space and no equals sign: none of the three steps passes it
    cases found : afterName? "class".toList s with
    | none => rfl
    | some rest =>
      have blanks : Text.dropBlanks (rest ++ '"' :: t) = Text.dropBlanks rest ++ '"' :: t :=
        dropBlanks_append_cons (by decide)
      rw [found, Option.any_some] at other
      simp only [Option.map_some, Option.bind_some, blanks]
      cases head : Text.dropBlanks rest with
      | nil => rfl
      | cons d after =>
        have apart : d ≠ '=' := by
          rintro rfl
          simp [head] at other
        simp [apart]

theorem startsClass_of_suffix (other : assignsClass s = false) (suffix : u <:+ s) :
    startsClass u = false := by
  induction s with
  | nil =>
    rw [List.suffix_nil.mp suffix]
    rfl
  | cons c s ih =>
    obtain ⟨here, later⟩ := Bool.or_eq_false_iff.mp other
    rcases List.suffix_cons_iff.mp suffix with rfl | suffix
    · exact here
    · exact ih later suffix

/-! ## Attributes -/

theorem attributesText_cons (a : Attribute) (attributes : List Attribute) :
    attributesText (a :: attributes) = a.text ++ attributesText attributes := List.flatMap_cons

theorem attributesText_append (front back : List Attribute) :
    attributesText (front ++ back) = attributesText front ++ attributesText back :=
  List.flatMap_append

namespace Attribute

theorem isBlank_of_isNameChar (plain : isNameChar c = true) : Text.isBlank c = false := by
  have small : ∀ n : Fin 128, isNameChar (Char.ofNat n) = true →
      Text.isBlank (Char.ofNat n) = false := by
    decide
  have ascii : c.toNat < 128 := by
    rcases Bool.or_eq_true_iff.mp plain with hyphen | word
    · rw [beq_iff_eq.mp hyphen]
      decide
    · exact toNat_lt_of_isPlainChar (by simp [isPlainChar, word])
  have here := small ⟨c.toNat, ascii⟩
  rw [Char.ofNat_toNat] at here
  exact here plain

namespace IsProper

theorem not_mem_name (proper : a.IsProper) (other : isNameChar c = false) : c ∉ a.name := by
  intro mem
  rw [proper.name c mem] at other
  cases other

theorem not_mem_text (proper : a.IsProper) : '>' ∉ a.text := by
  simp [text, proper.not_mem_name (c := '>') (by decide), proper.closing]

theorem isClass_iff (proper : a.IsProper) :
    a.isClass = true ↔ afterName? "class".toList a.name = some [] := by
  have plain : 'ſ' ∉ a.name := proper.not_mem_name (by decide)
  rw [afterName?_eq_some_iff (.inr plain), isClass, beq_iff_eq]
  simp

/-- Within a name, nothing that reads like an attribute value follows. -/
theorem apart_of_afterName? (proper : a.IsProper)
    (found : afterName? "class".toList a.name = some (c :: rest)) :
    Text.isBlank c = false ∧ c ≠ '=' := by
  have plain : 'ſ' ∉ a.name := proper.not_mem_name (by decide)
  obtain ⟨front, -, parts⟩ := (afterName?_eq_some_iff (.inr plain)).mp found
  have mem : c ∈ a.name := parts ▸ List.mem_append_right front List.mem_cons_self
  refine ⟨isBlank_of_isNameChar (proper.name c mem), ?_⟩
  rintro rfl
  exact proper.not_mem_name (by decide) mem

/-- A class attribute is read where an attribute stands exactly if it is one, and then it is read up
to its end. -/
theorem afterClassAttribute?_text (proper : a.IsProper) (t : List Char) :
    afterClassAttribute? (a.text ++ t) = if a.isClass then some t else none := by
  have text : a.text ++ t = ' ' :: (a.name ++ '=' :: '"' :: (a.value ++ '"' :: t)) := by
    simp [Attribute.text]
  have name : ∀ u, afterName? "class".toList (a.name ++ '=' :: u) =
      (afterName? "class".toList a.name).map (· ++ '=' :: u) := fun u =>
    afterName?_append_cons (by simp [matchesLetter])
  have space : Text.isBlank ' ' = true := by decide
  have isClass := proper.isClass_iff
  simp only [text, afterClassAttribute?, space, name, bind]
  cases found : afterName? "class".toList a.name with
  | none =>
    rw [found] at isClass
    simp [isClass]
  | some rest =>
    cases rest with
    | nil =>
      have value : Text.through? '"' (a.value ++ '"' :: t) = some (a.value ++ ['"'], t) :=
        Text.through?_append_cons proper.quote
      have equals : Text.dropBlanks ('=' :: '"' :: (a.value ++ '"' :: t)) =
        '=' :: '"' :: (a.value ++ '"' :: t) := dropBlanks_cons (by decide)
      have quote : Text.dropBlanks ('"' :: (a.value ++ '"' :: t)) = '"' :: (a.value ++ '"' :: t) :=
        dropBlanks_cons (by decide)
      simp [equals, quote, attributeValue?, quotedValue?, value, isClass.mpr found]
    | cons d rest =>
      obtain ⟨plain, apart⟩ := proper.apart_of_afterName? found
      rw [found] at isClass
      simp [dropBlanks_cons plain, apart, isClass]

/-- An attribute is copied or cut out as a whole, unless its value is to stay and reads like a class
attribute. -/
theorem withoutClass_text_append (proper : a.IsProper)
    (spared : a.isClass = false → assignsClass a.value = false) (t : List Char) :
    withoutClass (a.text ++ t) = (if a.isClass then [] else a.text) ++ withoutClass t := by
  have read := proper.afterClassAttribute?_text t
  cases isClass : a.isClass with
  | true =>
    rw [isClass, if_pos rfl] at read
    rw [withoutClass_of_some read]
    rfl
  | false =>
    have front : ∀ c ∈ a.name ++ ['=', '"'], Text.isBlank c = false := by
      intro c mem
      rcases List.mem_append.mp mem with name | sign
      · exact isBlank_of_isNameChar (proper.name c name)
      · obtain rfl | rfl : c = '=' ∨ c = '"' := by simpa using sign
        · decide
        · decide
    have value : ∀ u, u <:+ a.value → u ≠ [] → afterClassAttribute? (u ++ '"' :: t) = none :=
      fun u suffix nonempty => afterClassAttribute?_append_quote nonempty
        (startsClass_of_suffix (spared isClass) suffix)
    have quote : afterClassAttribute? ('"' :: t) = none :=
      afterClassAttribute?_of_not_blank (by decide)
    have parts : a.text ++ t = ' ' :: (a.name ++ ['=', '"'] ++ (a.value ++ '"' :: t)) := by
      simp [text]
    rw [isClass, if_neg Bool.false_ne_true, parts] at read
    rw [parts, withoutClass_of_none read, withoutClass_append_of_not_blank front,
      withoutClass_append value, withoutClass_of_none quote]
    simp [text]

end IsProper

end Attribute

/-- In front of any text, exactly the class attributes go. -/
theorem withoutClass_attributesText_append (proper : ∀ a ∈ attributes, a.IsProper)
    (spared : ∀ a ∈ attributes, a.isClass = false → assignsClass a.value = false) (t : List Char) :
    withoutClass (attributesText attributes ++ t) =
      attributesText (attributes.filter fun a => !a.isClass) ++ withoutClass t := by
  induction attributes with
  | nil => rfl
  | cons a attributes ih =>
    obtain ⟨here, later⟩ := List.forall_mem_cons.mp proper
    obtain ⟨sparedHere, sparedLater⟩ := List.forall_mem_cons.mp spared
    rw [attributesText_cons, List.append_assoc, here.withoutClass_text_append sparedHere,
      ih later sparedLater]
    cases isClass : a.isClass <;> simp [isClass, attributesText_cons]

theorem not_mem_attributesText (proper : ∀ a ∈ attributes, a.IsProper) :
    '>' ∉ attributesText attributes := by
  simp only [attributesText, List.mem_flatMap, not_exists, not_and]
  exact fun a mem => (proper a mem).not_mem_text

theorem head?_attributesText (attributes : List Attribute) :
    (attributesText attributes).head?.all (!Text.isWord ·) = true := by
  cases attributes with
  | nil => rfl
  | cons a attributes =>
    have space : Text.isWord ' ' = false := by decide
    simp [attributesText_cons, Attribute.text, space]

/-- The class of the body tag is set, and what stands before and behind the tag is copied. Up to the
first attribute that is to stay and has a value that reads like a class attribute, exactly the class
attributes go; if there is none, that is all of them. -/
theorem setBodyClass_attributes (absent : ¬"<body".toList <:+: pre.map Char.toLower)
    {front back : List Attribute} (proper : ∀ a ∈ front ++ back, a.IsProper)
    (spared : ∀ a ∈ front, a.isClass = false → assignsClass a.value = false) :
    setBodyClass bodyClass
        (pre ++ "<body".toList ++ attributesText (front ++ back) ++ '>' :: post) =
      pre ++ "<body class=\"".toList ++ bodyClass ++ "\"".toList ++
        attributesText (front.filter fun a => !a.isClass) ++ withoutClass (attributesText back) ++
          ">".toList ++ post := by
  have properFront : ∀ a ∈ front, a.IsProper := fun a mem => proper a (List.mem_append_left _ mem)
  rw [setBodyClass_tag absent (not_mem_attributesText proper) (head?_attributesText _),
    attributesText_append, withoutClass_attributesText_append properFront spared]
  simp only [List.append_assoc]

/-- An attribute with a value that reads like a class attribute. -/
def note : Attribute := ⟨"data-note".toList, "set class=wide here".toList⟩

/-- Attributes whose values are safe: one has a class attribute without its white space, and one
that reads like a class attribute is a class attribute itself. -/
def safeAttributes : List Attribute :=
  [⟨"id".toList, "top".toList⟩, ⟨"CLASS".toList, "wide class = dark".toList⟩,
    ⟨"data-class".toList, "class='x'".toList⟩]

theorem setBodyClass_attributes_note :
    ¬"<body".toList <:+: "<p></p>".toList.map Char.toLower ∧
      (∀ a ∈ safeAttributes ++ [note], a.IsProper) ∧
      (∀ a ∈ safeAttributes, a.isClass = false → assignsClass a.value = false) ∧
      setBodyClass "dark".toList
          ("<p></p>".toList ++ "<body".toList ++ attributesText (safeAttributes ++ [note]) ++
            '>' :: "<body class=\"a\">".toList) =
        "<p></p>".toList ++ "<body class=\"".toList ++ "dark".toList ++ "\"".toList ++
          attributesText (safeAttributes.filter fun a => !a.isClass) ++
            withoutClass (attributesText [note]) ++ ">".toList ++ "<body class=\"a\">".toList := by
  have absent : ¬"<body".toList <:+: "<p></p>".toList.map Char.toLower := by decide
  have proper : ∀ a ∈ safeAttributes ++ [note], a.IsProper := by decide
  have spared : ∀ a ∈ safeAttributes, a.isClass = false → assignsClass a.value = false := by decide
  exact ⟨absent, proper, spared, setBodyClass_attributes absent proper spared⟩

/-- The value of an attribute loses what reads like a class attribute in it. -/
theorem setBodyClass_note_ne :
    note.IsProper ∧ note.isClass = false ∧
      setBodyClass "dark".toList ("<body".toList ++ attributesText [note] ++ ">".toList) =
        "<body class=\"dark\" data-note=\"set here\">".toList ∧
      setBodyClass "dark".toList ("<body".toList ++ attributesText [note] ++ ">".toList) ≠
        "<body class=\"dark\"".toList ++ attributesText [note] ++ ">".toList :=
  ⟨by decide, by decide, by decide +kernel, by decide +kernel⟩

end PagePress.Markup
