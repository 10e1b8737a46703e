import PagePress.Markup.BodyTag
import PagePress.Proofs.Text.Search

/-!
# Where the body tag is looked for

The tag that receives the class is the first body tag of the whole text. A text in which no body tag
opens does not matter for what follows it, and after a text with a complete one nothing does.
-/

namespace PagePress.Markup

/-- Whether the text starts with `<body` in any letter case, and not with a longer name. -/
def startsBody : List Char → Bool
  | '<' :: s => (afterName? "body".toList s).any fun rest => rest.head?.all (!Text.isWord ·)
  | _ => false

def opensBody : List Char → Bool
  | [] => false
  | c :: s => startsBody (c :: s) || opensBody s

variable {name rest s t u bodyClass : List Char} {c : Char}

/-! ## Names -/

theorem afterName?_append (found : afterName? name s = some rest) (t : List Char) :
    afterName? name (s ++ t) = some (rest ++ t) := by
  induction name generalizing s with
  | nil =>
    simp only [afterName?, Option.some.injEq] at found ⊢
    rw [found]
  | cons letter name ih =>
    cases s with
    | nil => simp [afterName?] at found
    | cons c s =>
      simp only [afterName?, Option.ite_none_right_eq_some] at found
      simp only [List.cons_append, afterName?, found.1, if_true, ih found.2]

/-- A name does not reach over a character that is not a letter of it. -/
theorem afterName?_append_cons (other : ∀ letter ∈ name, matchesLetter letter c = false) :
    afterName? name (s ++ c :: t) = (afterName? name s).map (· ++ c :: t) := by
  induction name generalizing s with
  | nil => rfl
  | cons letter name ih =>
    cases s with
    | nil => simp [afterName?, other letter List.mem_cons_self]
    | cons d s =>
      have later := ih (s := s) fun letter mem => other letter (List.mem_cons_of_mem _ mem)
      by_cases same : matchesLetter letter d = true <;> simp [afterName?, same, later]

/-! ## Tags -/

theorem BodyTag.at?_of_ne (other : c ≠ '<') : BodyTag.at? (c :: s) = none := by
  simp [BodyTag.at?, other]

/-- A tag opens only where `<body` stands. -/
theorem BodyTag.at?_append_eq_none (nonempty : s ≠ []) (closed : startsBody s = false)
    (t : List Char) : BodyTag.at? (s ++ '<' :: t) = none := by
  cases s with
  | nil => exact absurd rfl nonempty
  | cons c s =>
    by_cases opening : c = '<'
    · subst opening
      have name : afterName? "body".toList (s ++ '<' :: t) =
          (afterName? "body".toList s).map (· ++ '<' :: t) :=
        afterName?_append_cons (by simp [matchesLetter])
      simp only [startsBody] at closed
      simp only [List.cons_append, BodyTag.at?, name]
      cases found : afterName? "body".toList s with
      | none => rfl
      | some rest =>
        rw [found] at closed
        cases rest with
        | nil => simp at closed
        | cons d rest =>
          have word : Text.isWord d = true := by simpa using closed
          simp [word]
    · exact BodyTag.at?_of_ne opening

theorem BodyTag.at?_eq_some_iff {tag : BodyTag} :
    BodyTag.at? ('<' :: s) = some tag ↔ ∃ d next front,
      afterName? "body".toList s = some (d :: next) ∧ Text.isWord d = false ∧
      Text.through? '>' (d :: next) = some (front, tag.rest) ∧
      tag.attributes = front.dropLast := by
  simp only [BodyTag.at?, Option.bind_eq_bind, Option.bind_eq_some_iff, List.head?_eq_some_iff]
  constructor
  · rintro ⟨_, name, d, ⟨next, rfl⟩, found⟩
    split at found
    · cases found
    · rename_i outside
      obtain ⟨⟨front, rest⟩, closed, made⟩ := Option.bind_eq_some_iff.mp found
      obtain rfl := Option.some.inj made
      exact ⟨d, next, front, name, by simpa using outside, closed, rfl⟩
  · rintro ⟨d, next, front, name, outside, closed, attributes⟩
    refine ⟨_, name, d, ⟨next, rfl⟩, ?_⟩
    simp [outside, closed, ← attributes]

/-- A tag that is complete stays the tag that it is, whatever follows. -/
theorem BodyTag.at?_append {tag : BodyTag} (found : BodyTag.at? s = some tag) (t : List Char) :
    BodyTag.at? (s ++ t) = some { tag with rest := tag.rest ++ t } := by
  cases s with
  | nil => cases found
  | cons c s =>
    by_cases opening : c = '<'
    · subst opening
      obtain ⟨d, next, front, name, outside, closed, attributes⟩ := at?_eq_some_iff.mp found
      exact at?_eq_some_iff.mpr ⟨d, next ++ t, front, afterName?_append name t, outside,
        Text.through?_append closed t, attributes⟩
    · rw [at?_of_ne opening] at found
      cases found

/-- A tag that opens is complete once a `>` follows. -/
theorem BodyTag.exists_at?_eq_some (opening : startsBody s = true) (closing : '>' ∈ t) :
    ∃ tag, BodyTag.at? (s ++ '<' :: t) = some tag := by
  unfold startsBody at opening
  split at opening
  · rename_i s
    obtain ⟨next, name, outside⟩ := (Option.any_eq_true _ _).mp opening
    have name' := afterName?_append name ('<' :: t)
    have closes : '>' ∈ next ++ '<' :: t := by simp [closing]
    obtain ⟨⟨front, rest⟩, closed⟩ :=
      Option.ne_none_iff_exists'.mp (mt Text.through?_eq_none_iff.mp (not_not_intro closes))
    cases next with
    | nil => exact ⟨⟨_, rest⟩, at?_eq_some_iff.mpr ⟨_, _, front, name', by decide, closed, rfl⟩⟩
    | cons d next =>
      have outside : Text.isWord d = false := by simpa using outside
      exact ⟨⟨_, rest⟩, at?_eq_some_iff.mpr ⟨_, _, front, name', outside, closed, rfl⟩⟩
  · cases opening

/-! ## Setting the class -/

theorem setBodyClass_of_none (noTag : BodyTag.at? (c :: s) = none) :
    setBodyClass bodyClass (c :: s) = c :: setBodyClass bodyClass s := by
  rw [setBodyClass, noTag]

theorem setBodyClass_of_some {tag : BodyTag} (found : BodyTag.at? (c :: s) = some tag) :
    setBodyClass bodyClass (c :: s) =
      "<body class=\"".toList ++ bodyClass ++ "\"".toList ++ withoutClass tag.attributes ++
        ">".toList ++ tag.rest := by
  rw [setBodyClass, found]

theorem setBodyClass_append_of_not_mem (plain : '<' ∉ s) (t : List Char) :
    setBodyClass bodyClass (s ++ t) = s ++ setBodyClass bodyClass t := by
  induction s with
  | nil => rfl
  | cons c s ih =>
    have other : c ≠ '<' := fun same => plain (same ▸ List.mem_cons_self)
    rw [List.cons_append, setBodyClass_of_none (BodyTag.at?_of_ne other),
      ih fun mem => plain (List.mem_cons_of_mem c mem)]
    rfl

/-- A closing tag is copied. -/
theorem setBodyClass_closingTag (plain : '<' ∉ s) (t : List Char) :
    setBodyClass bodyClass ('<' :: '/' :: (s ++ t)) =
      '<' :: '/' :: (s ++ setBodyClass bodyClass t) := by
  have slash : '<' ∉ '/' :: s := by simp [plain]
  have noTag : BodyTag.at? ('<' :: '/' :: (s ++ t)) = none := by
    simp [BodyTag.at?, afterName?, matchesLetter]
  rw [setBodyClass_of_none noTag, ← List.cons_append, setBodyClass_append_of_not_mem slash]
  rfl

/-- Where no body tag opens, the class is set in what follows. -/
theorem setBodyClass_append_of_not_opens (closed : opensBody s = false) (t : List Char) :
    setBodyClass bodyClass (s ++ '<' :: t) = s ++ setBodyClass bodyClass ('<' :: t) := by
  induction s with
  | nil => rfl
  | cons c s ih =>
    obtain ⟨here, later⟩ := Bool.or_eq_false_iff.mp closed
    have noTag : BodyTag.at? (c :: (s ++ '<' :: t)) = none :=
      BodyTag.at?_append_eq_none (List.cons_ne_nil c s) here t
    rw [List.cons_append, setBodyClass_of_none noTag, ih later]
    rfl

/-- Where a body tag opens and a tag is complete, the class is set there, and what follows is
copied. -/
theorem setBodyClass_append_of_opens (opening : opensBody s = true) (closing : '>' ∈ t)
    (u : List Char) :
    setBodyClass bodyClass (s ++ '<' :: t ++ u) = setBodyClass bodyClass (s ++ '<' :: t) ++ u := by
  induction s with
  | nil => cases opening
  | cons c s ih =>
    by_cases here : startsBody (c :: s) = true
    · obtain ⟨tag, found⟩ := BodyTag.exists_at?_eq_some here closing
      have found' := BodyTag.at?_append found u
      rw [List.cons_append] at found
      rw [List.cons_append, List.cons_append] at found'
      rw [List.cons_append, List.cons_append, setBodyClass_of_some found',
        setBodyClass_of_some found, List.append_assoc _ tag.rest]
    · have here : startsBody (c :: s) = false := by simpa using here
      have later : opensBody s = true := by simpa [opensBody, here] using opening
      have noTag : ∀ t, BodyTag.at? (c :: (s ++ '<' :: t)) = none :=
        BodyTag.at?_append_eq_none (List.cons_ne_nil c s) here
      have noTag' : BodyTag.at? (c :: (s ++ '<' :: t ++ u)) = none := by simpa using noTag (t ++ u)
      rw [List.cons_append, List.cons_append, setBodyClass_of_none noTag', ih later,
        setBodyClass_of_none (noTag t)]
      rfl

end PagePress.Markup
