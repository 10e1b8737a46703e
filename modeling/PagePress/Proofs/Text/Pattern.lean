import Mathlib.Data.List.Infix
import Mathlib.Data.List.TakeWhile
import PagePress.Text.Pattern

/-!
# What patterns match

A pattern matches a text as a relation says that knows nothing of rows: `%` takes up any run of
characters, `_` any one, and every other character itself. The row of a pattern tells the relation
for all ends of a text at once. So a search text is found where its pattern matches the text, both
as they are read; if it has no wildcard, that is where it is a piece of the text.
-/

namespace PagePress.Text

/-- The pattern matches the text. -/
inductive Like : List Char → List Char → Prop where
  | nil : Like [] []
  | run {p s : List Char} (skipped : List Char) (rest : Like p s) : Like ('%' :: p) (skipped ++ s)
  | one {p s : List Char} (d : Char) (rest : Like p s) : Like ('_' :: p) (d :: s)
  | same {p s : List Char} (c : Char) (rest : Like p s) : Like (c :: p) (c :: s)

def asRead (text : String) : List Char := (upToNull text.toList).map foldChar

def within (p : List Char) : List Char := '%' :: p ++ ['%']

variable {c d : Char} {p s t : List Char} {row : List Bool} {P Q : List Char → Prop}

/-! ## Matching, character by character -/

theorem like_nil_iff : Like [] s ↔ s = [] := by
  constructor
  · rintro ⟨⟩
    rfl
  · rintro rfl
    exact .nil

theorem like_run_iff : Like ('%' :: p) s ↔ ∃ skipped rest, s = skipped ++ rest ∧ Like p rest := by
  constructor
  · intro h
    cases h with
    | run skipped rest => exact ⟨skipped, _, rfl, rest⟩
    | same _ rest => exact ⟨['%'], _, rfl, rest⟩
  · rintro ⟨skipped, rest, rfl, h⟩
    exact .run skipped h

theorem like_cons_iff (noRun : c ≠ '%') :
    Like (c :: p) s ↔ ∃ d rest, s = d :: rest ∧ (c = '_' ∨ c = d) ∧ Like p rest := by
  constructor
  · intro h
    cases h with
    | run => exact absurd rfl noRun
    | one d rest => exact ⟨d, _, rfl, .inl rfl, rest⟩
    | same c rest => exact ⟨c, _, rfl, .inr rfl, rest⟩
  · rintro ⟨d, rest, rfl, rfl | rfl, h⟩
    · exact .one d h
    · exact .same c h

/-- A text without wildcards and a run behind it match what starts with the text. -/
theorem like_append_run_iff (plain : ∀ c ∈ p, c ≠ '%' ∧ c ≠ '_') :
    Like (p ++ ['%']) s ↔ p <+: s := by
  induction p generalizing s with
  | nil =>
    simp only [List.nil_append, List.nil_prefix, iff_true, like_run_iff]
    exact ⟨s, [], (List.append_nil s).symm, .nil⟩
  | cons c p ih =>
    obtain ⟨⟨noRun, noOne⟩, later⟩ := List.forall_mem_cons.mp plain
    rw [List.cons_append, like_cons_iff noRun]
    constructor
    · rintro ⟨d, rest, rfl, one | rfl, h⟩
      · exact absurd one noOne
      · exact List.cons_prefix_cons.mpr ⟨rfl, (ih later).mp h⟩
    · rintro ⟨rest, rfl⟩
      exact ⟨c, p ++ rest, rfl, .inr rfl, (ih later).mpr (List.prefix_append p rest)⟩

/-- Between two runs, a text without wildcards matches the texts of which it is a piece. -/
theorem like_within_iff (plain : ∀ c ∈ p, c ≠ '%' ∧ c ≠ '_') : Like (within p) s ↔ p <:+: s := by
  rw [within, List.cons_append, like_run_iff]
  constructor
  · rintro ⟨skipped, rest, rfl, h⟩
    obtain ⟨after, rfl⟩ := (like_append_run_iff plain).mp h
    exact ⟨skipped, after, by simp⟩
  · rintro ⟨before, after, rfl⟩
    refine ⟨before, p ++ after, by simp, ?_⟩
    exact (like_append_run_iff plain).mpr (List.prefix_append p after)

/-! ## How characters are read -/

theorem toLower_eq_or (c : Char) :
    c.toLower = c ∨ 97 ≤ c.toLower.toNat ∧ c.toLower.toNat ≤ 122 := by
  unfold Char.toLower
  split
  · rename_i upper
    refine .inr ?_
    simp only [ge_iff_le, UInt32.le_iff_toNat_le] at upper
    change 65 ≤ c.val.toNat ∧ c.val.toNat ≤ 90 at upper
    change 97 ≤ (c.val + 32).toNat ∧ (c.val + 32).toNat ≤ 122
    rw [UInt32.toNat_add]
    change 97 ≤ (c.val.toNat + 32) % 2 ^ 32 ∧ (c.val.toNat + 32) % 2 ^ 32 ≤ 122
    omega
  · exact .inl rfl

/-- Only a wildcard is read as a wildcard. -/
theorem foldChar_eq_iff (wildcard : d = '%' ∨ d = '_') : foldChar c = d ↔ c = d := by
  constructor
  · intro same
    unfold foldChar at same
    split at same
    · rcases wildcard with rfl | rfl <;> exact absurd same (by decide)
    · rcases toLower_eq_or c with kept | letter
      · exact kept.symm.trans same
      · rw [same] at letter
        rcases wildcard with rfl | rfl <;> exact absurd letter (by decide)
  · rintro rfl
    rcases wildcard with rfl | rfl <;> decide

theorem matchesChar_iff : matchesChar c d = true ↔ foldChar c = '_' ∨ foldChar c = foldChar d := by
  simp [matchesChar, foldChar_eq_iff (.inr rfl)]

theorem upToNull_eq_self (absent : '\x00' ∉ s) : upToNull s = s := by
  refine List.takeWhile_eq_self_iff.mpr fun c mem => ?_
  simpa using fun null : c = '\x00' => absent (null ▸ mem)

/-- A text that has neither a null character nor one that is read as damaged is read in lower
case. -/
theorem asRead_eq_map_toLower {text : String}
    (usual : ∀ c ∈ text.toList, c ≠ '\x00' ∧ c ≠ '\uFFFE' ∧ c ≠ '\uFFFF') :
    asRead text = text.toList.map Char.toLower := by
  rw [asRead, upToNull_eq_self fun null => (usual _ null).1 rfl]
  refine List.map_congr_left fun c mem => ?_
  obtain ⟨-, first, second⟩ := usual c mem
  rw [foldChar, if_neg (not_or.mpr ⟨first, second⟩)]

/-- Reading a text does not bring wildcards into it. -/
theorem asRead_plain {search : String} (plain : ∀ c ∈ search.toList, c ≠ '%' ∧ c ≠ '_') :
    ∀ c ∈ asRead search, c ≠ '%' ∧ c ≠ '_' := by
  intro c mem
  obtain ⟨d, hd, rfl⟩ := List.mem_map.mp mem
  obtain ⟨noRun, noOne⟩ := plain d ((List.takeWhile_sublist _).subset hd)
  exact ⟨mt (foldChar_eq_iff (.inl rfl)).mp noRun, mt (foldChar_eq_iff (.inr rfl)).mp noOne⟩

/-! ## Rows -/

/-- The row tells of every end of the text, from the whole text to the empty one, whether something
holds of it. -/
inductive Tells (P : List Char → Prop) : List Char → List Bool → Prop where
  | last {b : Bool} (told : b = true ↔ P []) : Tells P [] [b]
  | cons {c : Char} {s : List Char} {b : Bool} {row : List Bool} (told : b = true ↔ P (c :: s))
      (rest : Tells P s row) : Tells P (c :: s) (b :: row)

namespace Tells

theorem headD (h : Tells P s row) : row.headD false = true ↔ P s := by
  cases h with
  | last told => exact told
  | cons told => exact told

theorem congr (h : Tells P s row) (same : ∀ t, P t ↔ Q t) : Tells Q s row := by
  induction h with
  | last told => exact .last (told.trans (same _))
  | cons told _ ih => exact .cons (told.trans (same _)) ih

theorem anyFurther (h : Tells P s row) :
    Tells (fun t => ∃ skipped rest, t = skipped ++ rest ∧ P rest) s (anyFurther row) := by
  induction h with
  | last told => exact .last (told.trans (by simp))
  | @cons c s b row told rest ih =>
    have here (further : Bool) (later : further = true ↔
        ∃ skipped rest, s = skipped ++ rest ∧ P rest) :
        (b || further) = true ↔ ∃ skipped rest, c :: s = skipped ++ rest ∧ P rest := by
      rw [Bool.or_eq_true, told, later]
      constructor
      · rintro (now | ⟨skipped, rest, split, h⟩)
        · exact ⟨[], c :: s, rfl, now⟩
        · exact ⟨c :: skipped, rest, congrArg (c :: ·) split, h⟩
      · rintro ⟨skipped, rest, split, h⟩
        rcases List.cons_eq_append_iff.mp split with ⟨-, rfl⟩ | ⟨skipped, -, split⟩
        · exact .inl h
        · exact .inr ⟨skipped, rest, split, h⟩
    rw [Text.anyFurther]
    generalize Text.anyFurther row = further at ih
    cases ih with
    | last later => exact .cons (here _ later) (.last later)
    | cons later further => exact .cons (here _ later) (.cons later further)

theorem charRow (h : Tells P s row) (c : Char) :
    Tells (fun t => ∃ d rest, t = d :: rest ∧ matchesChar c d = true ∧ P rest) s
      (charRow c s row) := by
  induction h with
  | last => exact .last (by simp)
  | cons told rest ih =>
    refine .cons ?_ ih
    rw [Bool.and_eq_true, rest.headD]
    constructor
    · rintro ⟨here, later⟩
      exact ⟨_, _, rfl, here, later⟩
    · rintro ⟨d, rest, split, here, later⟩
      cases split
      exact ⟨here, later⟩

end Tells

/-- The row of a pattern tells what the pattern matches. -/
theorem tells_patternRow (p s : List Char) :
    Tells (fun t => Like (p.map foldChar) (t.map foldChar)) s (patternRow p s) := by
  induction p with
  | nil =>
    induction s with
    | nil => exact .last (by simp [like_nil_iff])
    | cons c s ih => exact .cons (by simp [like_nil_iff]) ih
  | cons c p ih =>
    rw [patternRow]
    split
    · rename_i run
      refine ih.anyFurther.congr fun t => ?_
      rw [List.map_cons, (foldChar_eq_iff (.inl rfl)).mpr run, like_run_iff]
      constructor
      · rintro ⟨skipped, rest, rfl, h⟩
        exact ⟨skipped.map foldChar, rest.map foldChar, List.map_append, h⟩
      · rintro ⟨skipped, rest, split, h⟩
        obtain ⟨front, back, rfl, rfl, rfl⟩ := List.map_eq_append_iff.mp split
        exact ⟨front, back, rfl, h⟩
    · rename_i noRun
      refine (ih.charRow c).congr fun t => ?_
      rw [List.map_cons, like_cons_iff (mt (foldChar_eq_iff (.inl rfl)).mp noRun)]
      constructor
      · rintro ⟨d, rest, rfl, here, h⟩
        exact ⟨foldChar d, rest.map foldChar, rfl, matchesChar_iff.mp here, h⟩
      · rintro ⟨e, rest, split, here, h⟩
        obtain ⟨d, back, rfl, rfl, rfl⟩ := List.map_eq_cons_iff.mp split
        exact ⟨d, back, rfl, matchesChar_iff.mpr here, h⟩

theorem matchesPattern_iff :
    matchesPattern p s = true ↔ Like (p.map foldChar) (s.map foldChar) :=
  (tells_patternRow p s).headD

/-- A search text is found where it stands between two runs, both texts as they are read. -/
theorem isFound_iff {search text : String} (whole : '\x00' ∉ search.toList) :
    isFound search text = true ↔ Like (within (asRead search)) (asRead text) := by
  have runs : foldChar '%' = '%' := by decide
  have inside : '\x00' ∉ patternOf search := by simpa [patternOf] using whole
  have pattern : (patternOf search).map foldChar = within (asRead search) := by
    simp [patternOf, within, asRead, upToNull_eq_self whole, runs]
  rw [isFound, matchesPattern_iff, upToNull_eq_self inside, pattern]
  exact Iff.rfl

end PagePress.Text
