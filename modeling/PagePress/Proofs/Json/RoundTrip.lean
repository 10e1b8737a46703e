import PagePress.Proofs.Decimal.Digits
import PagePress.Proofs.Json.Fields
import PagePress.Proofs.Json.Text

/-!
# Reading values back

A value that is written and read again is the same value, as long as it can be read at all: no
string in it has a broken pair, no integer has too many digits, it is not nested too deeply, and no
object has two fields of one name. Numbers other than integers are left aside.
-/

namespace PagePress.Json

variable {n depth : Nat} {c : Char} {s rest : List Char} {j : Json}

/-! ## What can be read back -/

/-- The value is nested no deeper than the given depth, and the parts of it are such that they can
be read back. -/
def isPlain : Nat → Json → Bool
  | _, null | _, bool _ => true
  | _, int n => (Decimal.digits n.natAbs).length ≤ Decimal.maxDigits
  | _, str s => s.isWhole
  | _, real _ | 0, arr _ | 0, obj _ => false
  | depth + 1, arr items => items.all fun item => isPlain depth item
  | depth + 1, obj fields =>
    fields.all (fun field => field.1.isWhole && isPlain depth field.2) &&
      Fields.IsDistinct fields

/-- The text behind a value: it ends, or it goes on in a way that cannot be taken for a part of the
value. -/
def IsEnd (rest : List Char) : Prop := ∀ c ∈ rest.head?, c = ',' ∨ c = ']' ∨ c = '}'

theorem IsEnd.nil : IsEnd [] := by simp [IsEnd]

theorem IsEnd.cons (h : c = ',' ∨ c = ']' ∨ c = '}') : IsEnd (c :: rest) := by simpa [IsEnd] using h

/-! ## Integers -/

theorem takeWhile_of_isEnd (h : IsEnd rest) :
    rest.takeWhile Char.isDigit = [] ∧ rest.dropWhile Char.isDigit = rest := by
  cases rest with
  | nil => exact ⟨rfl, rfl⟩
  | cons c rest =>
    obtain rfl | rfl | rfl := h c rfl <;> exact ⟨rfl, rfl⟩

theorem readFraction_of_isEnd (h : IsEnd rest) : readFraction rest = ([], rest) := by
  cases rest with
  | nil => rfl
  | cons c rest => obtain rfl | rfl | rfl := h c rfl <;> rfl

theorem readExponent_of_isEnd (h : IsEnd rest) : readExponent rest = (none, rest) := by
  cases rest with
  | nil => rfl
  | cons c rest => obtain rfl | rfl | rfl := h c rfl <;> rfl

theorem readWhole_digits (n : Nat) (h : IsEnd rest) :
    readWhole (Decimal.digits n ++ rest) = some (Decimal.digits n, rest) := by
  have isDigit : ∀ c ∈ Decimal.digits n, c.isDigit = true := fun c =>
    Decimal.isDigit_of_mem_digits
  obtain ⟨c, ds, text, leading⟩ := Decimal.digits_eq_cons n
  rw [text] at isDigit ⊢
  obtain ⟨first, later⟩ := List.forall_mem_cons.mp isDigit
  by_cases zero : c = '0'
  · obtain ⟨-, rfl⟩ := leading zero
    subst zero
    rfl
  · obtain ⟨front, back⟩ := takeWhile_of_isEnd h
    simp [readWhole, first, List.takeWhile_append_of_pos later,
      List.dropWhile_append_of_pos later, front, back]

theorem readNumber_digits (n : Nat) (short : (Decimal.digits n).length ≤ Decimal.maxDigits)
    (h : IsEnd rest) (s : List Char) (negative : Bool) :
    readNumber s negative (Decimal.digits n ++ rest) =
      .ok (int (if negative then -n else n), rest) := by
  simp only [readNumber, readWhole_digits n h, readFraction_of_isEnd h, readExponent_of_isEnd h,
    List.isEmpty_nil, if_true, Decimal.ofDigits_digits]
  rw [if_neg (by omega)]

theorem ne_of_isDigit (digit : c.isDigit = true) {other : Char}
    (noDigit : other.isDigit = false) : c ≠ other := by
  rintro rfl
  rw [digit] at noDigit
  cases noDigit

theorem find?_words_of_isDigit (digit : c.isDigit = true) :
    words.find? (fun (word, _) => word.toList.isPrefixOf (c :: s)) = none ∧
      words.find? (fun (word, _) => word.toList.isPrefixOf ('-' :: c :: s)) = none := by
  have ne : ∀ letter : Char, letter.isDigit = false → letter ≠ c := fun _ noDigit =>
    Ne.symm (ne_of_isDigit digit noDigit)
  simp [words, List.isPrefixOf, ne 'n' (by decide), ne 't' (by decide), ne 'f' (by decide),
    ne 'N' (by decide), ne 'I' (by decide), ne '-' (by decide)]

theorem readScalar_integer {n : Int} (short : (Decimal.digits n.natAbs).length ≤ Decimal.maxDigits)
    (h : IsEnd rest) : readScalar (Decimal.integer n ++ rest) = .ok (int n, rest) := by
  cases n with
  | ofNat n =>
    obtain ⟨c, ds, text, -⟩ := Decimal.digits_eq_cons n
    have digit : c.isDigit = true := Decimal.isDigit_of_mem_digits (n := n) (by simp [text])
    have number := readNumber_digits n short h (Decimal.digits n ++ rest) false
    rw [Decimal.integer]
    rw [text, List.cons_append] at number ⊢
    rw [readScalar, (find?_words_of_isDigit digit).1]
    · exact number
    · rintro unsigned same
      obtain ⟨rfl, -⟩ := List.cons.inj same
      cases digit
  | negSucc n =>
    obtain ⟨c, ds, text, -⟩ := Decimal.digits_eq_cons (n + 1)
    have digit : c.isDigit = true := Decimal.isDigit_of_mem_digits (n := n + 1) (by simp [text])
    have number := readNumber_digits (n + 1) short h ('-' :: (Decimal.digits (n + 1) ++ rest)) true
    rw [Decimal.integer, List.cons_append]
    rw [text, List.cons_append] at number ⊢
    rw [readScalar, (find?_words_of_isDigit digit).2]
    exact number

/-! ## Lists -/

theorem skipSpaces_of_ne (first : isSpace c = false) : skipSpaces (c :: s) = c :: s := by
  simp [skipSpaces, first]

theorem skipSpaces_space (s : List Char) : skipSpaces (' ' :: s) = skipSpaces s := rfl

theorem write_null : write null = "null".toList := rfl

theorem write_true : write (bool true) = "true".toList := rfl

theorem write_false : write (bool false) = "false".toList := rfl

theorem write_str (s : LooseText) : write (str s) = writeString s := rfl

theorem write_arr_nil : write (arr []) = ['[', ']'] := rfl

theorem write_arr_cons (item : Json) (items : List Json) :
    write (arr (item :: items)) = '[' :: write item ++ writeItems items := rfl

theorem write_obj_nil : write (obj []) = ['{', '}'] := rfl

theorem write_obj_cons (field : LooseText × Json) (fields : Fields) :
    write (obj (field :: fields)) =
      '{' :: writeString field.1 ++ ':' :: ' ' :: write field.2 ++ writeFields fields := rfl

/-- No value starts with white space, nor with the end of a list or of an object. -/
theorem write_eq_cons (plain : isPlain depth j = true) :
    ∃ c s, write j = c :: s ∧ isSpace c = false ∧ c ≠ ']' ∧ c ≠ '}' := by
  cases j with
  | null | str => exact ⟨_, _, rfl, by decide⟩
  | bool b => cases b <;> exact ⟨_, _, rfl, by decide⟩
  | real => cases depth <;> cases plain
  | int n =>
    cases n with
    | negSucc => exact ⟨_, _, rfl, by decide⟩
    | ofNat n =>
      obtain ⟨c, ds, text, -⟩ := Decimal.digits_eq_cons n
      have digit : c.isDigit = true := Decimal.isDigit_of_mem_digits (n := n) (by simp [text])
      have ne : ∀ other : Char, other.isDigit = false → c ≠ other := fun _ =>
        ne_of_isDigit digit
      refine ⟨c, ds, text, ?_, ne _ (by decide), ne _ (by decide)⟩
      simp [isSpace, ne ' ' (by decide), ne '\t' (by decide), ne '\n' (by decide),
        ne '\r' (by decide)]
  | arr items => cases items <;> exact ⟨_, _, rfl, by decide⟩
  | obj fields => cases fields <;> exact ⟨_, _, rfl, by decide⟩

theorem skipSpaces_write (plain : isPlain depth j = true) (s : List Char) :
    skipSpaces (write j ++ s) = write j ++ s := by
  obtain ⟨c, t, text, first, -⟩ := write_eq_cons plain
  rw [text, List.cons_append, skipSpaces_of_ne first]

/-- The reader reads back every value nested no deeper than `depth`. -/
def ReadsBack (readItem : List Char → Reading Json) (depth : Nat) : Prop :=
  ∀ j rest, isPlain depth j = true → IsEnd rest → readItem (write j ++ rest) = .ok (j, rest)

variable {readItem : List Char → Reading Json}

theorem isEnd_writeItems (items : List Json) (rest : List Char) :
    IsEnd (writeItems items ++ rest) := by
  cases items with
  | nil => exact .cons (by simp)
  | cons => exact .cons (by simp)

theorem readItems_write (reads : ReadsBack readItem depth) {item : Json} {items : List Json}
    (plain : ∀ j ∈ item :: items, isPlain depth j = true) {fuel : Nat}
    (enough : items.length < fuel) (rest : List Char) :
    readItems readItem fuel (write item ++ (writeItems items ++ rest)) =
      .ok (item :: items, rest) := by
  induction items generalizing item fuel with
  | nil =>
    obtain ⟨fuel, rfl⟩ := Nat.exists_eq_add_of_lt enough
    obtain ⟨here, -⟩ := List.forall_mem_cons.mp plain
    have read := reads item _ here (isEnd_writeItems [] rest)
    rw [readItems, read]
    rfl
  | cons next items ih =>
    obtain ⟨fuel, rfl⟩ := Nat.exists_eq_add_of_lt enough
    obtain ⟨here, later⟩ := List.forall_mem_cons.mp plain
    have read := reads item _ here (isEnd_writeItems (next :: items) rest)
    have more : readItems readItem ((next :: items).length + fuel)
        (write next ++ (writeItems items ++ rest)) = .ok (next :: items, rest) :=
      ih later (by simp; omega)
    have text : writeItems (next :: items) ++ rest =
        ',' :: ' ' :: (write next ++ (writeItems items ++ rest)) := by simp [writeItems]
    have skipped := skipSpaces_write (later next List.mem_cons_self) (writeItems items ++ rest)
    rw [readItems, read, text]
    simp only [bind, Except.bind, skipSpaces_of_ne (show isSpace ',' = false from rfl),
      skipSpaces_space, skipped, more]
    rfl

/-! ## Objects -/

theorem isEnd_writeFields (fields : Fields) (rest : List Char) :
    IsEnd (writeFields fields ++ rest) := by
  cases fields with
  | nil => exact .cons (by simp)
  | cons => exact .cons (by simp)

/-- A field is read, and then it is looked at what follows it. -/
theorem readFields_field (reads : ReadsBack readItem depth) {name : LooseText} {value : Json}
    (whole : name.isWhole = true) (plain : isPlain depth value = true) (fuel : Nat)
    {s : List Char} (h : IsEnd s) :
    readFields readItem (fuel + 1) (writeString name ++ (':' :: ' ' :: (write value ++ s))) =
      match skipSpaces s with
      | '}' :: rest => .ok ([(name, value)], rest)
      | ',' :: rest => do
        let (fields, rest) ← readFields readItem fuel (skipSpaces rest)
        return ((name, value) :: fields, rest)
      | rest => malformedAt rest := by
  have text : writeString name ++ (':' :: ' ' :: (write value ++ s)) =
      '"' :: (name.symbols.flatMap escapeSymbol ++ '"' :: ':' :: ' ' :: (write value ++ s)) := by
    simp [writeString]
  rw [text, readFields, readString_escape whole]
  simp only [bind, Except.bind, skipSpaces_of_ne (show isSpace ':' = false from rfl),
    skipSpaces_space, skipSpaces_write plain, reads value s plain h]
  rfl

theorem readFields_write (reads : ReadsBack readItem depth) {field : LooseText × Json}
    {fields : Fields} (plain : ∀ f ∈ field :: fields, f.1.isWhole = true ∧ isPlain depth f.2 = true)
    {fuel : Nat} (enough : fields.length < fuel) (rest : List Char) :
    readFields readItem fuel
        (writeString field.1 ++ (':' :: ' ' :: (write field.2 ++ (writeFields fields ++ rest)))) =
      .ok (field :: fields, rest) := by
  induction fields generalizing field fuel with
  | nil =>
    obtain ⟨fuel, rfl⟩ := Nat.exists_eq_add_of_lt enough
    obtain ⟨⟨whole, here⟩, -⟩ := List.forall_mem_cons.mp plain
    rw [readFields_field reads whole here _ (isEnd_writeFields [] rest)]
    rfl
  | cons next fields ih =>
    obtain ⟨fuel, rfl⟩ := Nat.exists_eq_add_of_lt enough
    obtain ⟨⟨whole, here⟩, later⟩ := List.forall_mem_cons.mp plain
    have more : readFields readItem ((next :: fields).length + fuel)
        (writeString next.1 ++ (':' :: ' ' :: (write next.2 ++ (writeFields fields ++ rest)))) =
          .ok (next :: fields, rest) :=
      ih later (by simp; omega)
    have text : writeFields (next :: fields) ++ rest =
        ',' :: ' ' :: (writeString next.1 ++
          (':' :: ' ' :: (write next.2 ++ (writeFields fields ++ rest)))) := by
      simp [writeFields]
    have start : ∀ t, skipSpaces (writeString next.1 ++ t) = writeString next.1 ++ t := fun _ => rfl
    rw [readFields_field reads whole here _ (isEnd_writeFields (next :: fields) rest), text,
      skipSpaces_of_ne (show isSpace ',' = false from rfl)]
    simp only [skipSpaces_space, start, more]
    rfl

/-! ## Values -/

theorem length_le_writeItems (items : List Json) : items.length < (writeItems items).length := by
  induction items with
  | nil => simp [writeItems]
  | cons item items ih =>
    simp only [writeItems, List.length_cons, List.length_append]
    omega

theorem length_le_writeFields (fields : Fields) : fields.length < (writeFields fields).length := by
  induction fields with
  | nil => simp [writeFields]
  | cons field fields ih =>
    simp only [writeFields, List.length_cons, List.length_append]
    omega

theorem readValue_word {word : List Char} (h : (word, j) ∈ [("null".toList, null),
    ("true".toList, bool true), ("false".toList, bool false)]) (rest : List Char) :
    readValue (depth + 1) (word ++ rest) = .ok (j, rest) := by
  simp only [List.mem_cons, Prod.mk.injEq, List.not_mem_nil, or_false] at h
  rcases h with ⟨rfl, rfl⟩ | ⟨rfl, rfl⟩ | ⟨rfl, rfl⟩
  · rfl
  · rfl
  · rfl

theorem readValue_quote (depth : Nat) (inside : List Char) :
    readValue (depth + 1) ('"' :: inside) =
      (readString ('"' :: inside).length inside).map fun (t, rest) => (str ⟨t⟩, rest) := rfl

theorem readValue_bracket (depth : Nat) (inside : List Char) :
    readValue (depth + 1) ('[' :: inside) =
      match skipSpaces inside with
      | ']' :: rest => .ok (arr [], rest)
      | body =>
        (readItems (readValue depth) ('[' :: inside).length body).map fun (items, rest) =>
          (arr items, rest) := rfl

theorem readValue_brace (depth : Nat) (inside : List Char) :
    readValue (depth + 1) ('{' :: inside) =
      match skipSpaces inside with
      | '}' :: rest => .ok (obj [], rest)
      | body =>
        (readFields (readValue depth) ('{' :: inside).length body).map fun (fields, rest) =>
          (obj (Fields.ofPairs fields), rest) := rfl

theorem readValue_string (s : LooseText) (whole : s.isWhole = true) (rest : List Char) :
    readValue (depth + 1) (writeString s ++ rest) = .ok (str s, rest) := by
  have text : writeString s ++ rest = '"' :: (s.symbols.flatMap escapeSymbol ++ '"' :: rest) := by
    simp [writeString]
  rw [text, readValue_quote, readString_escape whole]
  rfl

theorem readValue_of_ne (quote : c ≠ '"') (list : c ≠ '[') (object : c ≠ '{') :
    readValue (depth + 1) (c :: s) = readScalar (c :: s) := by
  unfold readValue
  split <;> simp_all

theorem readValue_integer {n : Int} (short : (Decimal.digits n.natAbs).length ≤ Decimal.maxDigits)
    (h : IsEnd rest) : readValue (depth + 1) (Decimal.integer n ++ rest) = .ok (int n, rest) := by
  have scalar := readScalar_integer short h
  cases n with
  | ofNat n =>
    obtain ⟨c, ds, text, -⟩ := Decimal.digits_eq_cons n
    have digit : c.isDigit = true := Decimal.isDigit_of_mem_digits (n := n) (by simp [text])
    rw [Decimal.integer, text, List.cons_append] at scalar ⊢
    rw [readValue_of_ne (ne_of_isDigit digit (by decide)) (ne_of_isDigit digit (by decide))
      (ne_of_isDigit digit (by decide)), scalar]
  | negSucc n => exact (readValue_of_ne (by decide) (by decide) (by decide)).trans scalar

/-- A list is read item by item. -/
theorem readValue_list (reads : ReadsBack (readValue (depth + 1)) depth) {items : List Json}
    (plain : ∀ item ∈ items, isPlain depth item = true) (rest : List Char) :
    readValue (depth + 2) (write (arr items) ++ rest) = .ok (arr items, rest) := by
  cases items with
  | nil => rfl
  | cons item items =>
    have text : write (arr (item :: items)) ++ rest =
        '[' :: (write item ++ (writeItems items ++ rest)) := by simp [write_arr_cons]
    have here := plain item List.mem_cons_self
    have enough : items.length < ('[' :: (write item ++ (writeItems items ++ rest))).length := by
      have := length_le_writeItems items
      simp only [List.length_cons, List.length_append]
      omega
    have read := readItems_write reads plain enough rest
    obtain ⟨c, t, start, -, noEnd, -⟩ := write_eq_cons here
    rw [text, readValue_bracket, skipSpaces_write here]
    split
    · rename_i same
      rw [start] at same
      exact absurd (List.cons.inj same).1 noEnd
    · rw [read]
      rfl

/-- An object is read field by field, and as no two fields have one name, all of them stay. -/
theorem readValue_object (reads : ReadsBack (readValue (depth + 1)) depth) {fields : Fields}
    (plain : ∀ field ∈ fields, field.1.isWhole = true ∧ isPlain depth field.2 = true)
    (distinct : fields.IsDistinct) (rest : List Char) :
    readValue (depth + 2) (write (obj fields) ++ rest) = .ok (obj fields, rest) := by
  cases fields with
  | nil => rfl
  | cons field fields =>
    have text : write (obj (field :: fields)) ++ rest = '{' :: (writeString field.1 ++
        (':' :: ' ' :: (write field.2 ++ (writeFields fields ++ rest)))) := by
      simp [write_obj_cons]
    have enough : fields.length < ('{' :: (writeString field.1 ++
        (':' :: ' ' :: (write field.2 ++ (writeFields fields ++ rest))))).length := by
      have := length_le_writeFields fields
      simp only [List.length_cons, List.length_append]
      omega
    have read := readFields_write reads plain enough rest
    have start : ∀ t, skipSpaces (writeString field.1 ++ t) = writeString field.1 ++ t :=
      fun _ => rfl
    rw [text, readValue_brace, start]
    split
    · rename_i same
      exact absurd (List.cons.inj same).1 (by decide)
    · rw [read]
      simp only [Except.map, Fields.ofPairs_of_isDistinct distinct]

/-- Every value that can be read back is read back. -/
theorem readValue_write (plain : isPlain depth j = true) (h : IsEnd rest) :
    readValue (depth + 1) (write j ++ rest) = .ok (j, rest) := by
  induction depth, j using isPlain.induct generalizing rest with
  | case1 => exact readValue_word (by simp [write_null]) rest
  | case2 depth b =>
    cases b <;> exact readValue_word (by simp [write_true, write_false]) rest
  | case3 depth n => exact readValue_integer (by simpa [isPlain] using plain) h
  | case4 depth s => exact readValue_string s (by simpa [isPlain] using plain) rest
  | case5 depth => simp [isPlain] at plain
  | case6 | case7 => cases plain
  | case8 depth items ih =>
    have reads : ReadsBack (readValue (depth + 1)) depth := fun item rest here h => ih item here h
    exact readValue_list reads (by simpa [isPlain] using plain) rest
  | case9 depth fields ih =>
    simp only [isPlain, Bool.and_eq_true, List.all_eq_true, decide_eq_true_eq] at plain
    have reads : ReadsBack (readValue (depth + 1)) depth := fun value rest here h =>
      ih (default, value) here h
    exact readValue_object reads plain.1 plain.2 rest

/-- What is nested less deeply can be read back as well. -/
theorem isPlain_succ (plain : isPlain depth j = true) : isPlain (depth + 1) j = true := by
  induction depth, j using isPlain.induct with
  | case6 | case7 => cases plain
  | case8 depth items ih =>
    rw [isPlain, List.all_eq_true] at plain ⊢
    exact fun item mem => ih item (plain item mem)
  | case9 depth fields ih =>
    simp only [isPlain, Bool.and_eq_true, List.all_eq_true] at plain ⊢
    exact ⟨fun field mem => ⟨(plain.1 field mem).1, ih field (plain.1 field mem).2⟩, plain.2⟩
  | case1 | case2 => rfl
  | case3 | case4 => simpa [isPlain] using plain
  | case5 => simp [isPlain] at plain

theorem isPlain_of_le {deeper : Nat} (le : depth ≤ deeper) (plain : isPlain depth j = true) :
    isPlain deeper j = true := by
  induction le with
  | refl => exact plain
  | step _ ih => exact isPlain_succ ih

/-! ## The text of a value -/

theorem isPrintable_of_isDigit (digit : c.isDigit = true) : IsPrintable c := by
  have bounds : 48 ≤ c.toNat ∧ c.toNat ≤ 57 := by
    simpa [Char.isDigit, UInt32.le_iff_toNat_le] using digit
  exact ⟨by omega, by omega⟩

theorem isPrintable_of_mem_integer {n : Int} (mem : c ∈ Decimal.integer n) : IsPrintable c := by
  cases n with
  | ofNat n => exact isPrintable_of_isDigit (Decimal.isDigit_of_mem_digits mem)
  | negSucc n =>
    rcases List.mem_cons.mp mem with rfl | mem
    · decide
    · exact isPrintable_of_isDigit (Decimal.isDigit_of_mem_digits mem)

def IsPrinted (j : Json) : Prop := ∀ c ∈ write j, IsPrintable c

theorem isPrintable_of_mem_writeItems {items : List Json} (printed : ∀ item ∈ items, item.IsPrinted)
    (mem : c ∈ writeItems items) : IsPrintable c := by
  induction items with
  | nil =>
    obtain rfl := List.mem_singleton.mp mem
    decide
  | cons item items ih =>
    obtain ⟨here, later⟩ := List.forall_mem_cons.mp printed
    simp only [writeItems, List.mem_cons, List.mem_append] at mem
    rcases mem with (rfl | rfl | mem) | mem
    · decide
    · decide
    · exact here c mem
    · exact ih later mem

theorem isPrintable_of_mem_writeFields {fields : Fields}
    (printed : ∀ field ∈ fields, field.2.IsPrinted) (mem : c ∈ writeFields fields) :
    IsPrintable c := by
  induction fields with
  | nil =>
    obtain rfl := List.mem_singleton.mp mem
    decide
  | cons field fields ih =>
    obtain ⟨here, later⟩ := List.forall_mem_cons.mp printed
    simp only [writeFields, List.mem_cons, List.mem_append] at mem
    rcases mem with ((rfl | rfl | name) | rfl | rfl | value) | mem
    · decide
    · decide
    · exact isPrintable_of_mem_writeString name
    · decide
    · decide
    · exact here c value
    · exact ih later mem

theorem IsPrinted.list {items : List Json} (printed : ∀ item ∈ items, item.IsPrinted) :
    (arr items).IsPrinted := by
  intro c mem
  cases items with
  | nil =>
    simp only [write_arr_nil, List.mem_cons, List.not_mem_nil, or_false] at mem
    rcases mem with rfl | rfl <;> decide
  | cons item items =>
    obtain ⟨here, later⟩ := List.forall_mem_cons.mp printed
    simp only [write_arr_cons, List.mem_cons, List.mem_append] at mem
    rcases mem with (rfl | mem) | mem
    · decide
    · exact here c mem
    · exact isPrintable_of_mem_writeItems later mem

theorem IsPrinted.object {fields : Fields} (printed : ∀ field ∈ fields, field.2.IsPrinted) :
    (obj fields).IsPrinted := by
  intro c mem
  cases fields with
  | nil =>
    simp only [write_obj_nil, List.mem_cons, List.not_mem_nil, or_false] at mem
    rcases mem with rfl | rfl <;> decide
  | cons field fields =>
    obtain ⟨here, later⟩ := List.forall_mem_cons.mp printed
    simp only [write_obj_cons, List.mem_cons, List.mem_append] at mem
    rcases mem with ((rfl | name) | rfl | rfl | value) | mem
    · decide
    · exact isPrintable_of_mem_writeString name
    · decide
    · decide
    · exact here c value
    · exact isPrintable_of_mem_writeFields later mem

/-- Whatever a value holds, it is written in printable ASCII, and so on one line. -/
theorem isPrinted (plain : isPlain depth j = true) : j.IsPrinted := by
  induction depth, j using isPlain.induct with
  | case1 =>
    have all : ∀ c ∈ "null".toList, IsPrintable c := by simp [IsPrintable]
    simpa [IsPrinted, write_null] using all
  | case2 depth b =>
    have all : ∀ word ∈ ["true".toList, "false".toList], ∀ c ∈ word, IsPrintable c := by
      simp [IsPrintable]
    cases b with
    | true => exact all (write (bool true)) (by simp [write_true])
    | false => exact all (write (bool false)) (by simp [write_false])
  | case3 depth n => exact fun c => isPrintable_of_mem_integer
  | case4 depth s => exact fun c => isPrintable_of_mem_writeString
  | case5 depth => simp [isPlain] at plain
  | case6 | case7 => cases plain
  | case8 depth items ih =>
    rw [isPlain, List.all_eq_true] at plain
    exact .list fun item mem => ih item (plain item mem)
  | case9 depth fields ih =>
    simp only [isPlain, Bool.and_eq_true, List.all_eq_true] at plain
    exact .object fun field mem => ih field (plain.1 field mem).2

/-- Reading the text of a value gives the value. -/
theorem read_write (plain : isPlain depth j = true) (shallow : depth < maxDepth) :
    read (write j) = .ok j := by
  obtain ⟨c, s, text, space, -⟩ := write_eq_cons plain
  have first : (write j).head? ≠ some '\uFEFF' := by
    intro mark
    exact absurd (isPrinted plain _ (List.mem_of_mem_head? mark)) (by decide)
  have back : readValue maxDepth (write j ++ []) = .ok (j, []) :=
    readValue_write (isPlain_of_le (Nat.le_of_lt_succ shallow) plain) .nil
  have front : skipSpaces (write j) = write j := by rw [text, skipSpaces_of_ne space]
  rw [List.append_nil] at back
  simp only [read, if_neg first, front, back]
  rfl

end PagePress.Json

namespace PagePress.Fields

variable {depth : Nat} {fields updates : Fields}

def IsPlain (depth : Nat) (fields : Fields) : Prop :=
  ∀ field ∈ fields, field.1.isWhole = true ∧ Json.isPlain depth field.2 = true

theorem isPlain_obj_iff :
    Json.isPlain (depth + 1) (.obj fields) = true ↔ fields.IsPlain depth ∧ fields.IsDistinct := by
  simp [Json.isPlain, IsPlain]

theorem IsPlain.append (plain : fields.IsPlain depth) (new : updates.IsPlain depth) :
    IsPlain depth (fields ++ updates) :=
  List.forall_mem_append.mpr ⟨plain, new⟩

theorem IsPlain.override (plain : fields.IsPlain depth) (new : updates.IsPlain depth) :
    (fields.override updates).IsPlain depth := by
  intro field mem
  rcases List.mem_append.mp mem with old | added
  · obtain ⟨f, hf, rfl⟩ := List.mem_map.mp old
    refine ⟨(plain f hf).1, ?_⟩
    cases found : updates.get? f.1 with
    | none => exact (plain f hf).2
    | some value => exact (new (f.1, value) (mem_of_get? found)).2
  · exact new field (List.mem_filter.mp added).1

end PagePress.Fields
