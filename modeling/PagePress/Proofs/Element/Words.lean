import PagePress.Proofs.Element.Label

/-!
# The words of a label

A label is its variable's name with a space for every underscore and in front of every capital
letter, less the spaces that it would start with, and with the case of its letters set. No letter is
lost, added or moved. So a letter of the name is found in the label by counting letters, and the
word in which it lies by counting the underscores and capital letters up to it.
-/

namespace PagePress

variable {c : Char} {s before after name word : List Char} {starting : Bool}

/-! ## Plain characters -/

theorem isBlank_iff_of_isPlainChar (plain : isPlainChar c = true) :
    Text.isBlank c = true ↔ c = ' ' :=
  forall_isPlainChar (P := fun c => Text.isBlank c = true ↔ c = ' ') (by decide) c plain

theorem toLower_toUpper (plain : isPlainChar c = true) : c.toUpper.toLower = c.toLower :=
  forall_isPlainChar (P := fun c => c.toUpper.toLower = c.toLower) (by decide) c plain

theorem toLower_toLower (plain : isPlainChar c = true) : c.toLower.toLower = c.toLower :=
  forall_isPlainChar (P := fun c => c.toLower.toLower = c.toLower) (by decide) c plain

theorem toUpper_toUpper (plain : isPlainChar c = true) : c.toUpper.toUpper = c.toUpper :=
  forall_isPlainChar (P := fun c => c.toUpper.toUpper = c.toUpper) (by decide) c plain

theorem toUpper_ne_space (plain : isPlainChar c = true) (letter : c ≠ ' ') : c.toUpper ≠ ' ' :=
  forall_isPlainChar (P := fun c => c ≠ ' ' → c.toUpper ≠ ' ') (by decide) c plain letter

theorem toLower_ne_space (plain : isPlainChar c = true) (letter : c ≠ ' ') : c.toLower ≠ ' ' :=
  forall_isPlainChar (P := fun c => c ≠ ' ' → c.toLower ≠ ' ') (by decide) c plain letter

theorem toUpper_of_isUpper (plain : isPlainChar c = true) (upper : c.isUpper = true) :
    c.toUpper = c :=
  forall_isPlainChar (P := fun c => c.isUpper = true → c.toUpper = c) (by decide) c plain upper

namespace Text

theorem splitAll_eq_splitOn (sep : Char) (s : List Char) : splitAll sep s = s.splitOn sep := by
  induction s with
  | nil => rfl
  | cons c s ih =>
    rw [List.splitOn, List.splitOnP_cons_eq_if_modifyHead, ← List.splitOn, splitAll, ih]
    by_cases same : c = sep
    · simp [same]
    · obtain ⟨word, words, split⟩ := List.exists_cons_of_ne_nil (List.splitOnP_ne_nil (· == sep) s)
      rw [← List.splitOn] at split
      simp [same, split]

theorem lower_of_isPlainChar (plain : ∀ c ∈ s, isPlainChar c = true) :
    lower s = s.map Char.toLower :=
  lowerAfter_of_isPlainChar plain []

theorem upper_singleton_of_isPlainChar (plain : isPlainChar c = true) :
    upper [c] = [c.toUpper] := by
  rw [upper, List.flatMap_singleton, upperOf, if_pos (toNat_lt_of_isPlainChar plain)]

end Text

theorem capitalize_of_isPlainChar (plain : ∀ d ∈ c :: word, isPlainChar d = true) :
    capitalize (c :: word) = c.toUpper :: word.map Char.toLower := by
  have ascii := toNat_lt_of_isPlainChar (plain c List.mem_cons_self)
  rw [capitalize, Text.upperOf, if_pos ascii,
    Text.lower_of_isPlainChar fun d mem => plain d (List.mem_cons_of_mem c mem)]
  rfl

/-! ## Setting the case of letters -/

/-- The text with every character that starts a word in upper case and the others in lower case,
where `starting` tells whether the first character starts a word. -/
def setCase (starting : Bool) : List Char → List Char
  | [] => []
  | c :: s =>
    if c = ' ' then ' ' :: setCase true s
    else (if starting then c.toUpper else c.toLower) :: setCase false s

theorem setCase_space (starting : Bool) (s : List Char) :
    setCase starting (' ' :: s) = ' ' :: setCase true s := rfl

theorem setCase_cons (letter : c ≠ ' ') (starting : Bool) (s : List Char) :
    setCase starting (c :: s) = (if starting then c.toUpper else c.toLower) :: setCase false s :=
  if_neg letter

theorem setCase_append_space (s t : List Char) :
    setCase starting (s ++ ' ' :: t) = setCase starting s ++ ' ' :: setCase true t := by
  induction s generalizing starting with
  | nil => rfl
  | cons c s ih =>
    by_cases letter : c = ' '
    · subst letter
      rw [List.cons_append, setCase_space, setCase_space, ih, List.cons_append]
    · rw [List.cons_append, setCase_cons letter, setCase_cons letter, ih, List.cons_append]

/-- To capitalise the words of a text is to set the case of its letters. -/
theorem splitAll_setCase (plain : ∀ c ∈ s, isPlainChar c = true) :
    Text.splitAll ' ' (setCase true s) = (Text.splitAll ' ' s).map capitalize := by
  -- what is left of a word that has begun is in lower case, so the first word is told apart
  suffices both : ∃ word words, Text.splitAll ' ' s = word :: words ∧
      Text.splitAll ' ' (setCase true s) = capitalize word :: words.map capitalize ∧
      Text.splitAll ' ' (setCase false s) = word.map Char.toLower :: words.map capitalize by
    obtain ⟨word, words, split, whole, -⟩ := both
    rw [whole, split, List.map_cons]
  induction s with
  | nil => exact ⟨[], [], rfl, rfl, rfl⟩
  | cons c s ih =>
    obtain ⟨here, rest⟩ := List.forall_mem_cons.mp plain
    obtain ⟨word, words, split, whole, begun⟩ := ih rest
    by_cases letter : c = ' '
    · subst letter
      refine ⟨[], word :: words, by simp [Text.splitAll, split], ?_, ?_⟩ <;>
        simp [setCase_space, Text.splitAll, whole, capitalize]
    · have inside : word ⊆ s :=
        Text.subset_of_mem_splitAll (by rw [split]; exact List.mem_cons_self)
      have wordPlain : ∀ d ∈ c :: word, isPlainChar d = true := fun d mem =>
        plain d (List.cons_subset_cons c inside mem)
      refine ⟨c :: word, words, by simp [Text.splitAll, split, letter], ?_, ?_⟩
      · simp [setCase_cons letter, Text.splitAll, toUpper_ne_space here letter, begun,
          capitalize_of_isPlainChar wordPlain]
      · simp [setCase_cons letter, Text.splitAll, toLower_ne_space here letter, begun]

/-! ## Letters and their words -/

/-- The letters of a text, each with the number of the word in which it lies, where the words are
numbered from `n`. -/
def lettersFrom (n : Nat) (s : List Char) : List (Char × Nat) :=
  ((Text.splitAll ' ' s).zipIdx n).flatMap fun (word, number) => word.map (·, number)

/-- The number of the word in which a letter of the text lies, where letters and words are numbered
from zero. -/
def wordOf? (s : List Char) (i : Nat) : Option Nat := (lettersFrom 0 s)[i]?.map Prod.snd

theorem lettersFrom_space (n : Nat) (s : List Char) :
    lettersFrom n (' ' :: s) = lettersFrom (n + 1) s := by
  simp [lettersFrom, Text.splitAll, List.zipIdx_cons]

theorem lettersFrom_cons (letter : c ≠ ' ') (n : Nat) (s : List Char) :
    lettersFrom n (c :: s) = (c, n) :: lettersFrom n s := by
  rw [lettersFrom, lettersFrom, Text.splitAll, if_neg letter]
  cases Text.splitAll ' ' s with
  | nil => rfl
  | cons word words => rfl

/-- Where the first word has a number greater by `k`, so have the others. -/
theorem lettersFrom_add (n k : Nat) (s : List Char) :
    (lettersFrom (n + k) s).map Prod.snd = ((lettersFrom n s).map Prod.snd).map (· + k) := by
  induction s generalizing n with
  | nil => rfl
  | cons c s ih =>
    by_cases letter : c = ' '
    · subst letter
      rw [lettersFrom_space, lettersFrom_space, ← ih, Nat.add_right_comm]
    · rw [lettersFrom_cons letter, lettersFrom_cons letter]
      simp only [List.map_cons, ih]

theorem lettersFrom_replicate (n k : Nat) (s : List Char) :
    lettersFrom n (List.replicate k ' ' ++ s) = lettersFrom (n + k) s := by
  induction k generalizing n with
  | zero => rfl
  | succ k ih =>
    rw [List.replicate_succ, List.cons_append, lettersFrom_space, ih, Nat.add_right_comm,
      Nat.add_assoc]

theorem lettersFrom_setCase (plain : ∀ c ∈ s, isPlainChar c = true) (starting : Bool) (n : Nat) :
    (lettersFrom n (setCase starting s)).map Prod.snd = (lettersFrom n s).map Prod.snd := by
  induction s generalizing starting n with
  | nil => rfl
  | cons c s ih =>
    obtain ⟨here, rest⟩ := List.forall_mem_cons.mp plain
    by_cases letter : c = ' '
    · subst letter
      rw [setCase_space, lettersFrom_space, lettersFrom_space, ih rest]
    · have kept : (if starting then c.toUpper else c.toLower) ≠ ' ' := by
        split
        · exact toUpper_ne_space here letter
        · exact toLower_ne_space here letter
      rw [setCase_cons letter, lettersFrom_cons kept, lettersFrom_cons letter, List.map_cons,
        List.map_cons, ih rest]

theorem filter_setCase (plain : ∀ c ∈ s, isPlainChar c = true) (starting : Bool) :
    ((setCase starting s).filter (· ≠ ' ')).map Char.toLower =
      (s.filter (· ≠ ' ')).map Char.toLower := by
  induction s generalizing starting with
  | nil => rfl
  | cons c s ih =>
    obtain ⟨here, rest⟩ := List.forall_mem_cons.mp plain
    by_cases letter : c = ' '
    · subst letter
      simpa [setCase_space] using ih rest true
    · have later := ih rest false
      rw [setCase_cons letter]
      cases starting with
      | true => simpa [toUpper_ne_space here letter, letter, toLower_toUpper here] using later
      | false => simpa [toLower_ne_space here letter, letter, toLower_toLower here] using later

/-! ## The name with spaces -/

theorem spaced_underscore (s : List Char) : spaced ('_' :: s) = ' ' :: spaced s := rfl

theorem spaced_upper (upper : c.isUpper = true) (s : List Char) :
    spaced (c :: s) = ' ' :: c :: spaced s := by
  simp [spaced, upper]

theorem spaced_other (upper : ¬c.isUpper = true) (letter : c ≠ '_') (s : List Char) :
    spaced (c :: s) = c :: spaced s := by
  simp [spaced, upper, letter]

theorem spaced_append (s t : List Char) : spaced (s ++ t) = spaced s ++ spaced t :=
  List.flatMap_append

theorem ne_space_of_isAsciiWord (word : Text.isAsciiWord c = true) : c ≠ ' ' := by
  rintro rfl
  exact absurd word (by decide)

theorem filter_spaced (word : ∀ c ∈ s, Text.isAsciiWord c = true) :
    (spaced s).filter (· ≠ ' ') = s.filter (· ≠ '_') := by
  induction s with
  | nil => rfl
  | cons c s ih =>
    have rest := ih fun d mem => word d (List.mem_cons_of_mem c mem)
    have notSpace := ne_space_of_isAsciiWord (word c List.mem_cons_self)
    by_cases letter : c = '_'
    · subst letter
      simpa [spaced_underscore] using rest
    · by_cases upper : c.isUpper = true
      · simpa [spaced_upper upper, notSpace, letter] using rest
      · simpa [spaced_other upper letter, notSpace, letter] using rest

/-- The number of places at which a name is cut: its underscores, and the starts of its capital
letters. -/
def breaks (s : List Char) : Nat := s.countP fun c => c = '_' || c.isUpper

/-- The number of letters of a name, which are all its characters but for the underscores. -/
def letterCount (s : List Char) : Nat := s.countP (· ≠ '_')

theorem breaks_append (s t : List Char) : breaks (s ++ t) = breaks s + breaks t :=
  List.countP_append

theorem lettersFrom_spaced_cons (word : Text.isAsciiWord c = true) (letter : c ≠ '_') (n : Nat)
    (s : List Char) :
    lettersFrom n (spaced (c :: s)) =
      (c, n + breaks [c]) :: lettersFrom (n + breaks [c]) (spaced s) := by
  have notSpace := ne_space_of_isAsciiWord word
  by_cases upper : c.isUpper = true
  · have cut : breaks [c] = 1 := by simp [breaks, upper]
    rw [spaced_upper upper, lettersFrom_space, lettersFrom_cons notSpace, cut]
  · have whole : breaks [c] = 0 := by simp [breaks, upper, letter]
    rw [spaced_other upper letter, lettersFrom_cons notSpace, whole, Nat.add_zero]

/-- A letter of a name lies in the word whose number is that of the breaks up to it. -/
theorem getElem?_lettersFrom_spaced
    (word : ∀ d ∈ before ++ c :: after, Text.isAsciiWord d = true) (letter : c ≠ '_') (n : Nat) :
    (lettersFrom n (spaced (before ++ c :: after)))[letterCount before]? =
      some (c, n + breaks (before ++ [c])) := by
  induction before generalizing n with
  | nil =>
    have here := word c List.mem_cons_self
    rw [List.nil_append, lettersFrom_spaced_cons here letter]
    rfl
  | cons d before ih =>
    have rest := ih fun e mem => word e (List.mem_cons_of_mem d mem)
    have cut : breaks (d :: before ++ [c]) = breaks [d] + breaks (before ++ [c]) :=
      breaks_append [d] (before ++ [c])
    rw [cut, ← Nat.add_assoc, List.cons_append]
    by_cases separator : d = '_'
    · subst separator
      have counted : letterCount ('_' :: before) = letterCount before := by simp [letterCount]
      rw [spaced_underscore, lettersFrom_space, counted, rest]
      rfl
    · have counted : letterCount (d :: before) = letterCount before + 1 := by
        simp [letterCount, separator]
      rw [lettersFrom_spaced_cons (word d List.mem_cons_self) separator, counted,
        List.getElem?_cons_succ, rest]

/-! ## The label -/

theorem exists_dropBlanks (plain : ∀ c ∈ s, isPlainChar c = true) :
    ∃ k, s = List.replicate k ' ' ++ Text.dropBlanks s := by
  induction s with
  | nil => exact ⟨0, rfl⟩
  | cons c s ih =>
    obtain ⟨k, same⟩ := ih fun d mem => plain d (List.mem_cons_of_mem c mem)
    by_cases blank : Text.isBlank c = true
    · obtain rfl := (isBlank_iff_of_isPlainChar (plain c List.mem_cons_self)).mp blank
      refine ⟨k + 1, ?_⟩
      rw [List.replicate_succ, List.cons_append, Text.dropBlanks, List.dropWhile_cons_of_pos blank,
        ← Text.dropBlanks, ← same]
    · refine ⟨0, ?_⟩
      rw [Text.dropBlanks, List.dropWhile_cons_of_neg blank]
      rfl

theorem isPlainChar_dropBlanks (plain : ∀ c ∈ s, isPlainChar c = true) :
    ∀ c ∈ Text.dropBlanks s, isPlainChar c = true := fun c mem =>
  plain c ((List.dropWhile_sublist _).subset mem)

theorem filter_dropBlanks (plain : ∀ c ∈ s, isPlainChar c = true) :
    (Text.dropBlanks s).filter (· ≠ ' ') = s.filter (· ≠ ' ') := by
  obtain ⟨k, same⟩ := exists_dropBlanks plain
  conv => rhs; rw [same]
  simp [List.filter_append]

theorem dropBlanks_append_space (notBlank : Text.isBlank c = false) (s t : List Char) :
    Text.dropBlanks (s ++ ' ' :: c :: t) =
      if Text.dropBlanks s = [] then c :: t else Text.dropBlanks s ++ ' ' :: c :: t := by
  have space : List.dropWhile Text.isBlank (' ' :: c :: t) = c :: t := by
    rw [List.dropWhile_cons_of_pos (by decide), List.dropWhile_cons_of_neg (by simp [notBlank])]
  unfold Text.dropBlanks
  rw [List.dropWhile_append, space]
  by_cases nothing : s.dropWhile Text.isBlank = [] <;> simp [nothing]

section Label

variable (isVariable : Markup.IsVariable name)

include isVariable

theorem label_eq_setCase : label name = setCase true (Text.dropBlanks (spaced name)) := by
  have plain := isPlainChar_dropBlanks (isPlainChar_spaced isVariable)
  rw [label, labelWords, ← splitAll_setCase plain, Text.splitAll_eq_splitOn,
    List.intercalate_splitOn]

theorem dropBlanks_label : Text.dropBlanks (label name) = label name := by
  have plain := isPlainChar_dropBlanks (isPlainChar_spaced isVariable)
  have first := List.head?_dropWhile_not Text.isBlank (spaced name)
  rw [label_eq_setCase isVariable]
  unfold Text.dropBlanks at plain first ⊢
  cases rest : (spaced name).dropWhile Text.isBlank with
  | nil => rfl
  | cons c s =>
    rw [rest] at plain first
    have here := plain c List.mem_cons_self
    have notBlank : Text.isBlank c = false := first
    have letter : c ≠ ' ' := by
      rintro rfl
      exact absurd notBlank (by decide)
    have kept : ¬Text.isBlank c.toUpper = true := fun blank =>
      toUpper_ne_space here letter
        ((isBlank_iff_of_isPlainChar (isPlainChar_case here).1).mp blank)
    rw [setCase_cons letter, if_pos rfl, List.dropWhile_cons_of_neg kept]

theorem eq_capitalize_of_mem_label (mem : word ∈ Text.splitAll ' ' (label name)) :
    word = Text.upper (word.take 1) ++ Text.lower (word.drop 1) := by
  have plain := isPlainChar_dropBlanks (isPlainChar_spaced isVariable)
  rw [label_eq_setCase isVariable, splitAll_setCase plain] at mem
  obtain ⟨source, isPart, rfl⟩ := List.mem_map.mp mem
  have sourcePlain : ∀ c ∈ source, isPlainChar c = true := fun c inside =>
    plain c (Text.subset_of_mem_splitAll isPart inside)
  cases source with
  | nil => rfl
  | cons c source =>
    have here := sourcePlain c List.mem_cons_self
    have lowered : ∀ d ∈ source.map Char.toLower, isPlainChar d = true := by
      intro d inside
      obtain ⟨e, isPart, rfl⟩ := List.mem_map.mp inside
      exact (isPlainChar_case (sourcePlain e (List.mem_cons_of_mem c isPart))).2
    have again : (source.map Char.toLower).map Char.toLower = source.map Char.toLower := by
      rw [List.map_map]
      exact List.map_congr_left fun d inside =>
        toLower_toLower (sourcePlain d (List.mem_cons_of_mem c inside))
    calc capitalize (c :: source)
        = c.toUpper :: source.map Char.toLower := capitalize_of_isPlainChar sourcePlain
      _ = Text.upper [c.toUpper] ++ Text.lower (source.map Char.toLower) := by
          rw [Text.upper_singleton_of_isPlainChar (isPlainChar_case here).1, toUpper_toUpper here,
            Text.lower_of_isPlainChar lowered, again]
          rfl
      _ = _ := by rw [capitalize_of_isPlainChar sourcePlain]; rfl

theorem filter_label :
    ((label name).filter (· ≠ ' ')).map Char.toLower =
      (name.filter (· ≠ '_')).map Char.toLower := by
  have plain := isPlainChar_spaced isVariable
  rw [label_eq_setCase isVariable, filter_setCase (isPlainChar_dropBlanks plain),
    filter_dropBlanks plain, filter_spaced isVariable.2]

/-- A capital letter of the name starts a word, as a space stands in front of it if there is
anything to be parted from. -/
theorem exists_front_label (cut : name = before ++ c :: after) (upper : c.isUpper = true) :
    ∃ front rest, label name = front ++ c :: rest ∧
      (front.filter (· ≠ ' ')).length = letterCount before ∧
      (front = [] ∨ ∃ words, front = words ++ [' ']) := by
  subst cut
  have plain := isPlainChar_spaced isVariable
  rw [spaced_append, spaced_upper upper] at plain
  have here : isPlainChar c = true := plain c (by simp)
  have notSpace : c ≠ ' ' := ne_space_of_isAsciiWord (isVariable.2 c (by simp))
  have notBlank : Text.isBlank c = false := by
    rw [← Bool.not_eq_true, isBlank_iff_of_isPlainChar here]
    exact notSpace
  have start : ∀ rest, setCase true (c :: rest) = c :: setCase false rest := fun rest => by
    rw [setCase_cons notSpace, if_pos rfl, toUpper_of_isUpper here upper]
  have beforePlain : ∀ d ∈ spaced before, isPlainChar d = true := fun d mem =>
    plain d (List.mem_append_left _ mem)
  have counted : ((Text.dropBlanks (spaced before)).filter (· ≠ ' ')).length =
      letterCount before := by
    rw [filter_dropBlanks beforePlain,
      filter_spaced fun d mem => isVariable.2 d (List.mem_append_left _ mem), letterCount,
      List.countP_eq_length_filter]
  rw [label_eq_setCase isVariable, spaced_append, spaced_upper upper,
    dropBlanks_append_space notBlank]
  split
  · rename_i nothing
    refine ⟨[], setCase false (spaced after), start _, ?_, .inl rfl⟩
    rw [← counted, nothing]
  · refine ⟨setCase true (Text.dropBlanks (spaced before)) ++ [' '], setCase false (spaced after),
      ?_, ?_, .inr ⟨_, rfl⟩⟩
    · rw [setCase_append_space, start, List.append_assoc, List.singleton_append]
    · have letters := congrArg List.length
        (filter_setCase (isPlainChar_dropBlanks beforePlain) true)
      rw [List.length_map, List.length_map, counted] at letters
      simpa using letters

/-- The words of a label are numbered from that of the first letter of the name. -/
theorem exists_wordOf?_label :
    ∃ k, ∀ before c after, name = before ++ c :: after → c ≠ '_' →
      ∃ n, wordOf? (label name) (letterCount before) = some n ∧ n + k = breaks (before ++ [c]) := by
  obtain ⟨k, same⟩ := exists_dropBlanks (isPlainChar_spaced isVariable)
  refine ⟨k, ?_⟩
  rintro before c after rfl letter
  have found := getElem?_lettersFrom_spaced isVariable.2 letter 0
  rw [same, lettersFrom_replicate] at found
  have number := congrArg (Option.map Prod.snd) found
  rw [← List.getElem?_map, lettersFrom_add, List.getElem?_map,
    ← lettersFrom_setCase (isPlainChar_dropBlanks (isPlainChar_spaced isVariable)) true,
    ← label_eq_setCase isVariable, List.getElem?_map] at number
  obtain ⟨n, isNumber, sum⟩ := Option.map_eq_some_iff.mp number
  exact ⟨n, isNumber, by simpa using sum⟩

end Label

/-- What a label keeps of its name, and what is said of its words. -/
structure IsLabelOf (name label : List Char) : Prop where
  /-- It does not start with white space. -/
  starts : Text.dropBlanks label = label
  /-- Every word is in lower case but for its first letter, which is in upper case. -/
  capitalized : ∀ word ∈ Text.splitAll ' ' label,
    word = Text.upper (word.take 1) ++ Text.lower (word.drop 1)
  /-- Its letters are those of the name up to case, in the same order. -/
  letters : (label.filter (· ≠ ' ')).map Char.toLower = (name.filter (· ≠ '_')).map Char.toLower
  /-- A capital letter of the name is the first of its word. -/
  begins : ∀ before c after, name = before ++ c :: after → c.isUpper = true →
    ∃ front rest, label = front ++ c :: rest ∧
      (front.filter (· ≠ ' ')).length = letterCount before ∧
      (front = [] ∨ ∃ words, front = words ++ [' '])
  /-- Two letters are in the same word if and only if between them, the second of them included,
  there is neither an underscore nor a capital letter. -/
  together : ∀ before c between d after, name = before ++ c :: (between ++ d :: after) →
    c ≠ '_' → d ≠ '_' →
    ∃ m n, wordOf? label (letterCount before) = some m ∧
      wordOf? label (letterCount (before ++ c :: between)) = some n ∧
      (m = n ↔ ∀ e ∈ between ++ [d], e ≠ '_' ∧ e.isUpper = false)

/-- The label of a variable keeps the letters of its name and the words in which they stand. -/
theorem isLabelOf_label (isVariable : Markup.IsVariable name) : IsLabelOf name (label name) where
  starts := dropBlanks_label isVariable
  capitalized := fun _ => eq_capitalize_of_mem_label isVariable
  letters := filter_label isVariable
  begins := fun _ _ _ => exists_front_label isVariable
  together := by
    intro before c between d after cut letter letter'
    obtain ⟨k, numbered⟩ := exists_wordOf?_label isVariable
    obtain ⟨m, first, sum⟩ := numbered before c (between ++ d :: after) cut letter
    have later : name = (before ++ c :: between) ++ d :: after := by simpa using cut
    obtain ⟨n, second, sum'⟩ := numbered (before ++ c :: between) d after later letter'
    refine ⟨m, n, first, second, ?_⟩
    have apart : breaks (before ++ c :: between ++ [d]) =
        breaks (before ++ [c]) + breaks (between ++ [d]) := by
      rw [← breaks_append]
      simp
    have none : breaks (between ++ [d]) = 0 ↔
        ∀ e ∈ between ++ [d], e ≠ '_' ∧ e.isUpper = false := by
      simp only [breaks, List.countP_eq_zero, Bool.or_eq_true, decide_eq_true_eq, not_or, ne_eq,
        Bool.not_eq_true]
    rw [← none]
    omega

theorem isLabelOf_label_siteURL :
    Markup.IsVariable "_my__siteURL2_b".toList ∧
      IsLabelOf "_my__siteURL2_b".toList (label "_my__siteURL2_b".toList) ∧
      label "_my__siteURL2_b".toList = "My  Site U R L2 B".toList := by
  have isVariable : Markup.IsVariable "_my__siteURL2_b".toList := by decide
  exact ⟨isVariable, isLabelOf_label isVariable, by decide⟩

end PagePress
