import PagePress.Proofs.Json.RoundTrip
import PagePress.Proofs.Outcome

/-!
# What a text says

A text says a *tree*: a value in which every member of an object stands where the text has it,
however often its name is given. To settle a tree is to keep of the members of one name only the
last value, at the place of the first. The reader accepts exactly the texts that say a tree, and
what it gives is the tree settled.
-/

namespace PagePress.Json

/-! ## Trees -/

mutual

def settle : Json → Json
  | arr items => arr (settleItems items)
  | obj members => obj (Fields.ofPairs (settleMembers members))
  | j => j

def settleItems : List Json → List Json
  | [] => []
  | item :: items => settle item :: settleItems items

def settleMembers : List (LooseText × Json) → List (LooseText × Json)
  | [] => []
  | (name, value) :: members => (name, settle value) :: settleMembers members

end

theorem settleMembers_eq_map (members : List (LooseText × Json)) :
    settleMembers members = members.map fun member => (member.1, member.2.settle) := by
  induction members with
  | nil => rfl
  | cons member members ih => rw [settleMembers, ih, List.map_cons]

theorem get?_settleMembers (members : List (LooseText × Json)) (name : LooseText) :
    Fields.get? (settleMembers members) name = (Fields.get? members name).map settle := by
  induction members with
  | nil => rfl
  | cons member members ih =>
    rw [settleMembers, Fields.get?_cons, Fields.get?_cons, ih, apply_ite (Option.map settle)]
    rfl

/-- Every member is settled on its own. -/
theorem last?_settleMembers (members : List (LooseText × Json)) (name : LooseText) :
    Fields.last? (settleMembers members) name = (Fields.last? members name).map settle := by
  rw [Fields.last?, Fields.last?, ← get?_settleMembers, settleMembers_eq_map,
    settleMembers_eq_map, List.map_reverse]

theorem settle_eq_str_iff {tree : Json} {s : LooseText} : tree.settle = str s ↔ tree = str s := by
  cases tree <;> simp [settle]

/-- Only an object is settled to an object. -/
theorem settle_eq_obj {tree : Json} {fields : Fields} (same : tree.settle = obj fields) :
    ∃ members, tree = obj members ∧ Fields.ofPairs (settleMembers members) = fields := by
  cases tree with
  | obj members => exact ⟨members, rfl, Json.obj.inj same⟩
  | null | bool | int | real | str | arr => cases same

/-! ## The grammar -/

/-- A way to take something from the front of a text: the text, what is taken, and the rest. -/
abbrev Grammar (α : Type) := List Char → α → List Char → Prop

/-- One part or several with commas between them, and the character that ends them. -/
inductive SpellsParts {α : Type} (Part : Grammar α) (close : Char) : Grammar (List α) where
  | last {s t rest : List Char} {part : α} (here : Part s part t)
      (closed : skipSpaces t = close :: rest) : SpellsParts Part close s [part] rest
  | more {s t u rest : List Char} {part : α} {parts : List α} (here : Part s part t)
      (comma : skipSpaces t = ',' :: u) (later : SpellsParts Part close (skipSpaces u) parts rest) :
      SpellsParts Part close s (part :: parts) rest

theorem SpellsParts.first {α : Type} {Part : Grammar α} {close : Char} {s rest : List Char}
    {parts : List α} (spelled : SpellsParts Part close s parts rest) :
    ∃ part t, Part s part t := by
  cases spelled with
  | last here | more here => exact ⟨_, _, here⟩

/-- A member of an object: its name in quotes, a colon, and its value. -/
inductive SpellsMember (Item : Grammar Json) : Grammar (LooseText × Json) where
  | mk {inside t u rest : List Char} {name : List Symbol} {value : Json}
      (named : readString ('"' :: inside).length inside = .ok (name, t))
      (colon : skipSpaces t = ':' :: u) (here : Item (skipSpaces u) value rest) :
      SpellsMember Item ('"' :: inside) (⟨name⟩, value) rest

/-- A tree whose items and members, if it has any, are spelled as told. -/
inductive SpellsTree (Item : Grammar Json) : Grammar Json where
  | scalar {c : Char} {s rest : List Char} {j : Json} (plain : c ∉ ['"', '[', '{'])
      (read : readScalar (c :: s) = .ok (j, rest)) : SpellsTree Item (c :: s) j rest
  | string {inside rest : List Char} {symbols : List Symbol}
      (read : readString ('"' :: inside).length inside = .ok (symbols, rest)) :
      SpellsTree Item ('"' :: inside) (str ⟨symbols⟩) rest
  | noItems {inside rest : List Char} (closed : skipSpaces inside = ']' :: rest) :
      SpellsTree Item ('[' :: inside) (arr []) rest
  | items {inside rest : List Char} {items : List Json}
      (spelled : SpellsParts Item ']' (skipSpaces inside) items rest) :
      SpellsTree Item ('[' :: inside) (arr items) rest
  | noMembers {inside rest : List Char} (closed : skipSpaces inside = '}' :: rest) :
      SpellsTree Item ('{' :: inside) (obj []) rest
  | members {inside rest : List Char} {members : List (LooseText × Json)}
      (spelled : SpellsParts (SpellsMember Item) '}' (skipSpaces inside) members rest) :
      SpellsTree Item ('{' :: inside) (obj members) rest

/-- The text starts with the spelling of a tree that is nested no deeper than `depth`. -/
def Spells : Nat → Grammar Json
  | 0 => fun _ _ _ => False
  | depth + 1 => SpellsTree (Spells depth)

def Says (text : List Char) (tree : Json) : Prop :=
  ∃ rest, Spells maxDepth (skipSpaces text) tree rest ∧ skipSpaces rest = []

/-! ## How much the reader takes -/

variable {s t rest : List Char} {j : Json}

theorem length_skipSpaces_le (s : List Char) : (skipSpaces s).length ≤ s.length :=
  (List.dropWhile_suffix _).length_le

theorem length_skipSpaces_le_cons (c : Char) (s : List Char) :
    (skipSpaces s).length ≤ (c :: s).length :=
  Nat.le_succ_of_le (length_skipSpaces_le s)

/-- Only a quotation mark ends a string. -/
theorem readPiece_eq_close {start : Nat} (read : readPiece start s = .ok (.close rest)) :
    s = '"' :: rest := by
  unfold readPiece at read
  split at read
  · cases read
  · cases read
    rfl
  · split at read
    · cases read
    · split at read
      · obtain ⟨piece, -, same⟩ := Outcome.map_eq_ok_iff.mp read
        cases same
      · split at read <;> cases read
  · split at read <;> cases read

theorem length_rest_lt_of_readString {start : Nat} {symbols : List Symbol}
    (read : readString start s = .ok (symbols, rest)) : rest.length < s.length := by
  fun_induction readString start s generalizing symbols with
  | case1 s e piece => cases read
  | case2 s rest' piece =>
    cases read
    simp [readPiece_eq_close piece]
  | case3 s symbol rest' piece ih =>
    obtain ⟨⟨symbols', rest''⟩, inner, same⟩ := Outcome.map_eq_ok_iff.mp read
    cases same
    exact Nat.lt_trans (ih inner) (length_rest_lt_of_readPiece piece)

theorem length_rest_lt_of_readWhole {whole : List Char}
    (read : readWhole s = some (whole, rest)) : rest.length < s.length := by
  unfold readWhole at read
  split at read
  · cases read
    simp
  · split at read
    · cases read
      exact Nat.lt_succ_of_le (List.dropWhile_suffix _).length_le
    · cases read
  · cases read

theorem readFraction_suffix (s : List Char) : (readFraction s).2 <:+ s := by
  unfold readFraction
  split
  · split
    · exact (List.dropWhile_suffix _).trans ((List.suffix_cons _ _).trans (List.suffix_cons _ _))
    · exact List.suffix_rfl
  · exact List.suffix_rfl

theorem readExponent_suffix (s : List Char) : (readExponent s).2 <:+ s := by
  -- whatever stands for a sign, the digits behind it are taken or nothing is
  have digits : ∀ (negative : Bool) (ds : List Char), ds <:+ s →
      (if (ds.takeWhile Char.isDigit).isEmpty then (none, s)
        else (some (negative, ds.takeWhile Char.isDigit), ds.dropWhile Char.isDigit)).2 <:+ s := by
    intro negative ds within
    split
    · exact List.suffix_rfl
    · exact (List.dropWhile_suffix _).trans within
  unfold readExponent
  split
  · split
    · split
      rename_i negative ds sign
      refine digits negative ds ?_
      split at sign
      · cases sign
        exact (List.suffix_cons _ _).trans (List.suffix_cons _ _)
      · cases sign
        exact (List.suffix_cons _ _).trans (List.suffix_cons _ _)
      · cases sign
        exact List.suffix_cons _ _
    · exact List.suffix_rfl
  · exact List.suffix_rfl

theorem length_rest_lt_of_readNumber {negative : Bool} {unsigned : List Char}
    (read : readNumber s negative unsigned = .ok (j, rest)) : rest.length < unsigned.length := by
  unfold readNumber at read
  split at read
  · cases read
  · rename_i whole behind isWhole
    refine Nat.lt_of_le_of_lt (List.IsSuffix.length_le ?_) (length_rest_lt_of_readWhole isWhole)
    have fraction := readFraction_suffix behind
    have exponent := readExponent_suffix (readFraction behind).2
    split at read
    rename_i digits behind' isFraction
    rw [isFraction] at fraction exponent
    split at read
    · rename_i behind'' isExponent
      rw [isExponent] at exponent
      split at read
      · split at read
        · cases read
        · cases read
          exact exponent.trans fraction
      · cases read
        exact exponent.trans fraction
    · rename_i behind'' isExponent
      rw [isExponent] at exponent
      cases read
      exact exponent.trans fraction

theorem length_rest_lt_of_readScalar (read : readScalar s = .ok (j, rest)) :
    rest.length < s.length := by
  unfold readScalar at read
  split at read
  · rename_i word value found
    cases read
    have nonempty : ∀ entry ∈ words, 0 < entry.1.length := by decide
    have : 0 < word.length := nonempty _ (List.mem_of_find?_eq_some found)
    have front : word.toList <+: s := by simpa using List.find?_some found
    have := front.length_le
    simp only [List.length_drop, String.length_toList] at this ⊢
    omega
  · split at read
    · exact Nat.lt_succ_of_lt (length_rest_lt_of_readNumber read)
    · exact length_rest_lt_of_readNumber read

theorem settle_of_readNumber {negative : Bool} {unsigned : List Char}
    (read : readNumber s negative unsigned = .ok (j, rest)) : j.settle = j := by
  unfold readNumber at read
  split at read
  · cases read
  · dsimp only at read
    split at read
    · split at read
      · split at read
        · cases read
        · cases read
          rfl
      · cases read
        rfl
    · cases read
      rfl

/-- There is nothing to settle in what is neither a list nor an object. -/
theorem settle_of_readScalar (read : readScalar s = .ok (j, rest)) : j.settle = j := by
  unfold readScalar at read
  split at read
  · rename_i word value found
    cases read
    have settled : ∀ entry ∈ words, entry.2.settle = entry.2 := by
      simp [words, settle]
    exact settled _ (List.mem_of_find?_eq_some found)
  · split at read
    · exact settle_of_readNumber read
    · exact settle_of_readNumber read

/-! ## How much a spelling takes -/

def Grammar.Shrinks {α : Type} (Part : Grammar α) : Prop :=
  ∀ {s part rest}, Part s part rest → rest.length < s.length

variable {Item : Grammar Json} {depth : Nat}

theorem shrinks_spellsParts {α : Type} {Part : Grammar α} (shrinks : Part.Shrinks) (close : Char) :
    Grammar.Shrinks (SpellsParts Part close) := by
  intro s parts rest spelled
  induction spelled with
  | @last s t rest part here closed =>
    have part := shrinks here
    have space := length_skipSpaces_le t
    simp only [closed, List.length_cons] at space
    omega
  | @more s t u rest part parts here comma later ih =>
    have part := shrinks here
    have space := length_skipSpaces_le t
    have behind := length_skipSpaces_le u
    simp only [comma, List.length_cons] at space
    omega

theorem shrinks_spellsMember (shrinks : Item.Shrinks) : Grammar.Shrinks (SpellsMember Item) := by
  intro s member rest spelled
  cases spelled with
  | @mk inside t u rest name value named colon here =>
    have name := length_rest_lt_of_readString named
    have behind := length_skipSpaces_le t
    have value := shrinks here
    have space := length_skipSpaces_le u
    simp only [colon, List.length_cons] at behind ⊢
    omega

theorem shrinks_spells (depth : Nat) : (Spells depth).Shrinks := by
  induction depth with
  | zero => exact False.elim
  | succ depth ih =>
    intro s tree rest spelled
    cases spelled with
    | scalar plain read => exact length_rest_lt_of_readScalar read
    | string read => exact Nat.lt_succ_of_lt (length_rest_lt_of_readString read)
    | noItems closed | noMembers closed =>
      rename_i inside
      have space := length_skipSpaces_le inside
      simp only [closed, List.length_cons] at space ⊢
      omega
    | items spelled =>
      have parts := shrinks_spellsParts ih ']' spelled
      exact Nat.lt_succ_of_lt (Nat.lt_of_lt_of_le parts (length_skipSpaces_le _))
    | members spelled =>
      have parts := shrinks_spellsParts (shrinks_spellsMember ih) '}' spelled
      exact Nat.lt_succ_of_lt (Nat.lt_of_lt_of_le parts (length_skipSpaces_le _))

/-! ## The reader follows the grammar -/

/-- What is read is what is spelled, settled. -/
def Follows (readItem : List Char → Reading Json) (Item : Grammar Json) : Prop :=
  ∀ {s value rest}, readItem s = .ok (value, rest) ↔
    ∃ tree, Item s tree rest ∧ tree.settle = value

variable {readItem : List Char → Reading Json} {fuel : Nat}

theorem readItems_eq_ok_iff (follows : Follows readItem Item) (shrinks : Item.Shrinks)
    (enough : s.length ≤ fuel) {values : List Json} :
    readItems readItem fuel s = .ok (values, rest) ↔
      ∃ trees, SpellsParts Item ']' s trees rest ∧ settleItems trees = values := by
  induction fuel generalizing s values with
  | zero =>
    refine iff_of_false nofun ?_
    rintro ⟨trees, spelled, -⟩
    have := shrinks_spellsParts shrinks _ spelled
    omega
  | succ fuel ih =>
    rw [readItems]
    constructor
    · intro read
      obtain ⟨⟨value, t⟩, first, read⟩ := Outcome.bind_eq_ok_iff.mp read
      obtain ⟨tree, here, rfl⟩ := follows.mp first
      have shorter := shrinks here
      dsimp only at read
      split at read
      · cases read
        exact ⟨[tree], .last here ‹_›, rfl⟩
      · rename_i u comma
        obtain ⟨⟨values, rest'⟩, others, read⟩ := Outcome.bind_eq_ok_iff.mp read
        cases read
        have behind := length_skipSpaces_le t
        have space := length_skipSpaces_le u
        simp only [comma, List.length_cons] at behind
        obtain ⟨trees, later, rfl⟩ := (ih (by omega)).mp others
        exact ⟨tree :: trees, .more here comma later, rfl⟩
      · cases read
    · rintro ⟨trees, spelled, rfl⟩
      cases spelled with
      | last here closed =>
        rw [follows.mpr ⟨_, here, rfl⟩]
        simp only [bind, Except.bind, closed]
        rfl
      | @more _ t u _ tree trees here comma later =>
        have shorter := shrinks here
        have behind := length_skipSpaces_le t
        have space := length_skipSpaces_le u
        simp only [comma, List.length_cons] at behind
        have others := (ih (by omega)).mpr ⟨trees, later, rfl⟩
        rw [follows.mpr ⟨_, here, rfl⟩]
        simp only [bind, Except.bind, comma, others]
        rfl

theorem readFields_eq_ok_iff (follows : Follows readItem Item) (shrinks : Item.Shrinks)
    (enough : s.length ≤ fuel) {fields : List (LooseText × Json)} :
    readFields readItem fuel s = .ok (fields, rest) ↔
      ∃ members, SpellsParts (SpellsMember Item) '}' s members rest ∧
        settleMembers members = fields := by
  induction fuel generalizing s fields with
  | zero =>
    refine iff_of_false nofun ?_
    rintro ⟨members, spelled, -⟩
    have := shrinks_spellsParts (shrinks_spellsMember shrinks) _ spelled
    omega
  | succ fuel ih =>
    constructor
    · intro read
      unfold readFields at read
      split at read
      · rename_i inside
        obtain ⟨⟨name, t⟩, named, read⟩ := Outcome.bind_eq_ok_iff.mp read
        dsimp only at read
        split at read
        · rename_i u colon
          obtain ⟨⟨value, v⟩, inner, read⟩ := Outcome.bind_eq_ok_iff.mp read
          obtain ⟨tree, value, rfl⟩ := follows.mp inner
          have here : SpellsMember Item ('"' :: inside) (⟨name⟩, tree) v := .mk named colon value
          have shorter := shrinks_spellsMember shrinks here
          dsimp only at read
          split at read
          · cases read
            exact ⟨[(⟨name⟩, tree)], .last here ‹_›, rfl⟩
          · rename_i w comma
            obtain ⟨⟨fields, rest'⟩, others, read⟩ := Outcome.bind_eq_ok_iff.mp read
            cases read
            have behind := length_skipSpaces_le v
            have space := length_skipSpaces_le w
            simp only [comma, List.length_cons] at behind
            obtain ⟨members, later, rfl⟩ := (ih (by omega)).mp others
            exact ⟨(⟨name⟩, tree) :: members, .more here comma later, rfl⟩
          · cases read
        · cases read
      · cases read
    · rintro ⟨members, spelled, rfl⟩
      cases spelled with
      | last here closed =>
        cases here with
        | mk named colon value =>
          rw [readFields, named]
          simp only [bind, Except.bind, colon, follows.mpr ⟨_, value, rfl⟩, closed]
          rfl
      | @more _ v w _ member members here comma later =>
        have shorter := shrinks_spellsMember shrinks here
        have behind := length_skipSpaces_le v
        have space := length_skipSpaces_le w
        simp only [comma, List.length_cons] at behind
        have others := (ih (by omega)).mpr ⟨members, later, rfl⟩
        cases here with
        | mk named colon value =>
          rw [readFields, named]
          simp only [bind, Except.bind, colon, follows.mpr ⟨_, value, rfl⟩, comma, others]
          rfl

/-- No value starts with the end of a list. -/
theorem readValue_closing_ne_ok {value : Json} :
    readValue depth (']' :: s) ≠ .ok (value, rest) := by
  intro read
  cases depth with
  | zero => cases read
  | succ depth => cases read

section Value

variable (follows : Follows (readValue depth) (Spells depth))
include follows

/-- Whatever is read one level higher up is spelled there. -/
theorem exists_spells_of_readValue (read : readValue (depth + 1) s = .ok (j, rest)) :
    ∃ tree, Spells (depth + 1) s tree rest ∧ tree.settle = j := by
  have shrinks : (Spells depth).Shrinks := shrinks_spells depth
  unfold readValue at read
  split at read
  · obtain ⟨⟨symbols, t⟩, inner, same⟩ := Outcome.map_eq_ok_iff.mp read
    cases same
    exact ⟨_, .string inner, rfl⟩
  · split at read
    · cases read
      exact ⟨_, .noItems ‹_›, rfl⟩
    · obtain ⟨⟨values, t⟩, inner, same⟩ := Outcome.map_eq_ok_iff.mp read
      cases same
      obtain ⟨trees, spelled, rfl⟩ :=
        (readItems_eq_ok_iff follows shrinks (length_skipSpaces_le_cons _ _)).mp inner
      exact ⟨_, .items spelled, rfl⟩
  · split at read
    · cases read
      exact ⟨_, .noMembers ‹_›, rfl⟩
    · obtain ⟨⟨fields, t⟩, inner, same⟩ := Outcome.map_eq_ok_iff.mp read
      cases same
      obtain ⟨members, spelled, rfl⟩ :=
        (readFields_eq_ok_iff follows shrinks (length_skipSpaces_le_cons _ _)).mp inner
      exact ⟨_, .members spelled, rfl⟩
  · rename_i noString noList noObject
    cases s with
    | nil => cases read
    | cons c s =>
      have plain : c ∉ ['"', '[', '{'] := by
        simp only [List.mem_cons, List.not_mem_nil, or_false]
        rintro (rfl | rfl | rfl)
        · exact noString s rfl
        · exact noList s rfl
        · exact noObject s rfl
      exact ⟨j, .scalar plain read, settle_of_readScalar read⟩

/-- Whatever is spelled one level higher up is read there. -/
theorem readValue_of_spells {tree : Json} (spelled : Spells (depth + 1) s tree rest) :
    readValue (depth + 1) s = .ok (tree.settle, rest) := by
  have shrinks : (Spells depth).Shrinks := shrinks_spells depth
  cases spelled with
  | scalar plain read =>
    simp only [List.mem_cons, List.not_mem_nil, or_false, not_or] at plain
    rw [readValue_of_ne plain.1 plain.2.1 plain.2.2, read, settle_of_readScalar read]
  | string read =>
    rw [readValue, read]
    rfl
  | noItems closed | noMembers closed =>
    rw [readValue, closed]
    rfl
  | @items inside _ trees spelled =>
    have read := (readItems_eq_ok_iff follows shrinks (length_skipSpaces_le_cons '[' inside)).mpr
      ⟨trees, spelled, rfl⟩
    obtain ⟨first, t, here⟩ := spelled.first
    rw [readValue]
    split
    · rename_i closed
      rw [closed] at here
      exact absurd (follows.mpr ⟨first, here, rfl⟩) readValue_closing_ne_ok
    · rw [read]
      rfl
  | @members inside _ trees spelled =>
    have read := (readFields_eq_ok_iff follows shrinks (length_skipSpaces_le_cons '{' inside)).mpr
      ⟨trees, spelled, rfl⟩
    obtain ⟨first, t, here⟩ := spelled.first
    rw [readValue]
    split
    · rename_i closed
      rw [closed] at here
      cases here
    · rw [read]
      rfl

end Value

/-- A value is read exactly where a tree is spelled. -/
theorem follows_readValue (depth : Nat) : Follows (readValue depth) (Spells depth) := by
  induction depth with
  | zero =>
    intro s value rest
    exact iff_of_false nofun fun ⟨_, spelled, _⟩ => spelled
  | succ depth ih =>
    intro s value rest
    constructor
    · exact exists_spells_of_readValue ih
    · rintro ⟨tree, spelled, rfl⟩
      exact readValue_of_spells ih spelled

/-- What reading a text gives is the tree that the text says, settled. -/
theorem read_eq_ok_iff {text : List Char} {value : Json} :
    read text = .ok value ↔ ∃ tree, Says text tree ∧ tree.settle = value := by
  have follows : Follows (readValue maxDepth) (Spells maxDepth) := follows_readValue maxDepth
  unfold read
  split
  · -- a byte order mark is no white space, and nothing is spelled with one in front
    rename_i mark
    refine iff_of_false nofun ?_
    rintro ⟨tree, ⟨rest, spelled, -⟩, -⟩
    cases text with
    | nil => cases mark
    | cons c text =>
      cases mark
      cases follows.mpr ⟨tree, spelled, rfl⟩
  · constructor
    · intro taken
      obtain ⟨⟨value', rest⟩, first, taken⟩ := Outcome.bind_eq_ok_iff.mp taken
      obtain ⟨tree, spelled, rfl⟩ := follows.mp first
      dsimp only at taken
      split at taken
      · cases taken
        exact ⟨tree, ⟨rest, spelled, ‹_›⟩, rfl⟩
      · cases taken
    · rintro ⟨tree, ⟨rest, spelled, ended⟩, rfl⟩
      rw [follows.mpr ⟨tree, spelled, rfl⟩]
      simp only [bind, Except.bind, ended]
      rfl

/-- A text is accepted and holds an object exactly if it says one. -/
theorem read_eq_obj_iff {text : List Char} {fields : Fields} :
    read text = .ok (.obj fields) ↔
      ∃ members, Says text (.obj members) ∧ Fields.ofPairs (settleMembers members) = fields := by
  rw [read_eq_ok_iff]
  constructor
  · rintro ⟨tree, said, same⟩
    obtain ⟨members, rfl, settled⟩ := settle_eq_obj same
    exact ⟨members, said, settled⟩
  · rintro ⟨members, said, rfl⟩
    exact ⟨.obj members, said, rfl⟩

/-! ## Texts that say an object -/

/-- The text of the tree spells it, whatever comes after. -/
def IsSpelled (depth : Nat) (tree : Json) : Prop :=
  ∀ rest, skipSpaces (write tree ++ rest) = write tree ++ rest ∧
    Spells depth (write tree ++ rest) tree rest

theorem isSpelled_str {s : LooseText} (whole : s.isWhole = true) :
    IsSpelled (depth + 1) (str s) := by
  intro rest
  have text : write (str s) ++ rest = '"' :: (s.symbols.flatMap escapeSymbol ++ '"' :: rest) := by
    simp [write_str, writeString]
  rw [text]
  exact ⟨rfl, .string (readString_escape whole _ rest)⟩

theorem spellsMember_write {member : LooseText × Json} (whole : member.1.isWhole = true)
    (spelled : IsSpelled depth member.2) (rest : List Char) :
    SpellsMember (Spells depth)
      (writeString member.1 ++ (':' :: ' ' :: (write member.2 ++ rest))) member rest := by
  obtain ⟨name, value⟩ := member
  have text : writeString name ++ (':' :: ' ' :: (write value ++ rest)) =
      '"' :: (name.symbols.flatMap escapeSymbol ++ '"' :: ':' :: ' ' :: (write value ++ rest)) := by
    simp [writeString]
  obtain ⟨start, here⟩ := spelled rest
  rw [text]
  refine .mk (readString_escape whole _ _) rfl ?_
  rw [skipSpaces_space, start]
  exact here

theorem spellsParts_writeFields {member : LooseText × Json} {members : Fields}
    (each : ∀ m ∈ member :: members, m.1.isWhole = true ∧ IsSpelled depth m.2) (rest : List Char) :
    SpellsParts (SpellsMember (Spells depth)) '}'
      (writeString member.1 ++ (':' :: ' ' :: (write member.2 ++ (writeFields members ++ rest))))
      (member :: members) rest := by
  induction members generalizing member with
  | nil =>
    obtain ⟨whole, spelled⟩ := each member List.mem_cons_self
    exact .last (spellsMember_write whole spelled _) rfl
  | cons next members ih =>
    obtain ⟨⟨whole, spelled⟩, later⟩ := List.forall_mem_cons.mp each
    have text : writeFields (next :: members) ++ rest = ',' :: ' ' :: (writeString next.1 ++
        (':' :: ' ' :: (write next.2 ++ (writeFields members ++ rest)))) := by
      simp [writeFields]
    have start : ∀ t, skipSpaces (writeString next.1 ++ t) = writeString next.1 ++ t := fun _ => rfl
    rw [text]
    refine .more (spellsMember_write whole spelled _) rfl ?_
    rw [skipSpaces_space, start]
    exact ih later

/-- An object is spelled by its text with all its members, however often a name is among them. -/
theorem isSpelled_obj {members : Fields}
    (each : ∀ m ∈ members, m.1.isWhole = true ∧ IsSpelled depth m.2) :
    IsSpelled (depth + 1) (obj members) := by
  intro rest
  cases members with
  | nil => exact ⟨rfl, .noMembers rfl⟩
  | cons member members =>
    have text : write (obj (member :: members)) ++ rest = '{' :: (writeString member.1 ++
        (':' :: ' ' :: (write member.2 ++ (writeFields members ++ rest)))) := by
      simp [write_obj_cons]
    have start : ∀ t, skipSpaces (writeString member.1 ++ t) = writeString member.1 ++ t :=
      fun _ => rfl
    rw [text]
    refine ⟨rfl, .members ?_⟩
    rw [start]
    exact spellsParts_writeFields each rest

theorem says_write {tree : Json} (spelled : IsSpelled maxDepth tree) : Says (write tree) tree := by
  obtain ⟨start, here⟩ := spelled []
  rw [List.append_nil] at start here
  refine ⟨[], ?_, rfl⟩
  rw [start]
  exact here

end PagePress.Json
