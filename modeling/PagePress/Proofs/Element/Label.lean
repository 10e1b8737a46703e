import PagePress.Element.Defaults
import PagePress.Proofs.Markup.Placeholder

/-!
# What labels consist of

The label of a variable has ASCII letters, ASCII digits and spaces, and nothing else. So the content
that an element starts out with, a label or one of three fixed texts, has no brace.
-/

namespace PagePress

def isPlainChar (c : Char) : Bool := c == ' ' || c.isAlphanum

variable {c : Char} {s word name : List Char}

theorem toNat_lt_of_isPlainChar (plain : isPlainChar c = true) : c.toNat < 128 := by
  have ranges : (c == ' ' || (decide ('A'.val ≤ c.val ∧ c.val ≤ 'Z'.val) ||
      (decide ('a'.val ≤ c.val) && decide (c.val ≤ 'z'.val)) ||
      (decide ('0'.val ≤ c.val) && decide (c.val ≤ '9'.val)))) = true := plain
  simp only [Bool.or_eq_true, Bool.and_eq_true, beq_iff_eq, decide_eq_true_eq,
    UInt32.le_iff_toNat_le] at ranges
  change c = ' ' ∨ ((65 ≤ c.toNat ∧ c.toNat ≤ 90) ∨ (97 ≤ c.toNat ∧ c.toNat ≤ 122)) ∨
    (48 ≤ c.toNat ∧ c.toNat ≤ 57) at ranges
  rcases ranges with rfl | letter | digit
  · decide
  · omega
  · omega

/-- What holds of the plain characters among the first 128 characters holds of all. -/
theorem forall_isPlainChar {P : Char → Prop}
    (small : ∀ n : Fin 128, isPlainChar (Char.ofNat n) = true → P (Char.ofNat n)) :
    ∀ c, isPlainChar c = true → P c := by
  intro c plain
  have here := small ⟨c.toNat, toNat_lt_of_isPlainChar plain⟩
  rw [Char.ofNat_toNat] at here
  exact here plain

/-- Upper and lower case of such a character are such characters. -/
theorem isPlainChar_case (plain : isPlainChar c = true) :
    isPlainChar c.toUpper = true ∧ isPlainChar c.toLower = true :=
  forall_isPlainChar
    (P := fun c => isPlainChar c.toUpper = true ∧ isPlainChar c.toLower = true) (by decide) c plain

namespace Text

theorem lowerAfter_of_isPlainChar (plain : ∀ c ∈ s, isPlainChar c = true) (before : List Char) :
    lowerAfter before s = s.map Char.toLower := by
  induction s generalizing before with
  | nil => rfl
  | cons d s ih =>
    have ascii := toNat_lt_of_isPlainChar (plain d List.mem_cons_self)
    have notSigma : d ≠ 'Σ' := by
      rintro rfl
      exact absurd ascii (by decide)
    rw [lowerAfter, if_neg notSigma, lowerOf, if_pos ascii,
      ih fun e mem => plain e (List.mem_cons_of_mem d mem)]
    rfl

theorem isPlainChar_lowerAfter (plain : ∀ c ∈ s, isPlainChar c = true) (before : List Char) :
    ∀ c ∈ lowerAfter before s, isPlainChar c = true := by
  rw [lowerAfter_of_isPlainChar plain]
  intro c mem
  obtain ⟨d, inside, rfl⟩ := List.mem_map.mp mem
  exact (isPlainChar_case (plain d inside)).2

theorem subset_of_mem_splitAll {sep : Char} (mem : word ∈ splitAll sep s) : word ⊆ s := by
  induction s generalizing word with
  | nil =>
    obtain rfl : word = [] := by simpa [splitAll] using mem
    exact List.Subset.refl _
  | cons c s ih =>
    rw [splitAll] at mem
    split at mem
    · rcases List.mem_cons.mp mem with rfl | later
      · exact List.nil_subset _
      · exact List.subset_cons_of_subset c (ih later)
    · split at mem
      · obtain rfl : word = [c] := by simpa using mem
        simp
      · rename_i first others parts
        rcases List.mem_cons.mp mem with rfl | later
        · have inside : first ⊆ s := ih (by rw [parts]; exact List.mem_cons_self)
          exact List.cons_subset_cons c inside
        · have inside : word ⊆ s := ih (by rw [parts]; exact List.mem_cons_of_mem first later)
          exact List.subset_cons_of_subset c inside

end Text

theorem isPlainChar_capitalize (plain : ∀ c ∈ word, isPlainChar c = true) :
    ∀ c ∈ capitalize word, isPlainChar c = true := by
  cases word with
  | nil => simp [capitalize]
  | cons d word =>
    have here := plain d List.mem_cons_self
    intro c mem
    rw [capitalize, Text.upperOf, if_pos (toNat_lt_of_isPlainChar here)] at mem
    rcases List.mem_append.mp mem with first | later
    · rw [List.mem_singleton.mp first]
      exact (isPlainChar_case here).1
    · have rest : ∀ e ∈ word, isPlainChar e = true := fun e inside =>
        plain e (List.mem_cons_of_mem d inside)
      exact Text.isPlainChar_lowerAfter rest [] c later

theorem isPlainChar_spaced (isVariable : Markup.IsVariable name) :
    ∀ c ∈ spaced name, isPlainChar c = true := by
  intro c mem
  obtain ⟨d, inside, made⟩ := List.mem_flatMap.mp mem
  have isWord : d.isAlphanum = true ∨ d = '_' := by
    simpa [Text.isAsciiWord] using isVariable.2 d inside
  split at made
  · rename_i upper
    have alnum : d.isAlphanum = true := by
      show (d.isUpper || d.isLower || d.isDigit) = true
      simp [upper]
    rcases List.mem_pair.mp made with rfl | rfl
    · rfl
    · simp [isPlainChar, alnum]
  · split at made
    · rw [List.mem_singleton.mp made]
      rfl
    · rename_i notUnderscore
      rw [List.mem_singleton.mp made]
      simp [isPlainChar, isWord.resolve_right notUnderscore]

theorem mem_of_mem_intercalate {sep : List Char} {words : List (List Char)}
    (mem : c ∈ sep.intercalate words) : c ∈ sep ∨ ∃ word ∈ words, c ∈ word := by
  induction words with
  | nil => simp at mem
  | cons word words ih =>
    cases words with
    | nil => exact .inr ⟨word, List.mem_cons_self, by simpa using mem⟩
    | cons next words =>
      rw [List.intercalate_cons_cons, List.mem_append, List.mem_append] at mem
      rcases mem with (here | between) | later
      · exact .inr ⟨word, List.mem_cons_self, here⟩
      · exact .inl between
      · refine (ih later).imp_right fun ⟨w, isWord, inside⟩ => ⟨w, ?_, inside⟩
        exact List.mem_cons_of_mem word isWord

/-- A label has ASCII letters and digits, and spaces between its words. -/
theorem isPlainChar_of_mem_label (isVariable : Markup.IsVariable name) :
    ∀ c ∈ label name, isPlainChar c = true := by
  intro c mem
  rcases mem_of_mem_intercalate mem with between | ⟨_, isWord, inside⟩
  · rw [List.mem_singleton.mp between]
    rfl
  · obtain ⟨word, isPart, rfl⟩ := List.mem_map.mp isWord
    have source : word ⊆ spaced name :=
      List.Subset.trans (Text.subset_of_mem_splitAll isPart) (List.dropWhile_sublist _).subset
    exact isPlainChar_capitalize (fun d here => isPlainChar_spaced isVariable d (source here)) c
      inside

/-- The fixed contents have no brace, and a content is one of these or the label. -/
theorem ElementKind.not_mem_defaultContent {brace : Char} (isBrace : brace ∈ ['{', '}'])
    {text : String} (absent : brace ∉ text.toList) (kind : ElementKind) :
    brace ∉ (kind.defaultContent text).toList := by
  cases kind with
  | text => exact absent
  | image | color | link =>
    simp only [ElementKind.defaultContent]
    rcases List.mem_pair.mp isBrace with rfl | rfl <;> decide

/-- The content that a variable calls for has no brace. -/
theorem ElementDefaults.not_mem_content (isVariable : Markup.IsVariable name) {brace : Char}
    (isBrace : brace ∈ ['{', '}']) :
    brace ∉ (ElementDefaults.ofVariable (String.ofList name)).content.toList := by
  refine ElementKind.not_mem_defaultContent isBrace ?_ _
  rw [String.toList_ofList, String.toList_ofList]
  intro mem
  have plain := isPlainChar_of_mem_label isVariable brace mem
  rcases List.mem_pair.mp isBrace with rfl | rfl
  · exact absurd plain (by decide)
  · exact absurd plain (by decide)

end PagePress
