import Mathlib.Data.List.Basic
import Mathlib.Tactic.IntervalCases

/-!
# UTF-8

A character is spelled by a first byte and up to three further ones. The first byte tells how many
further bytes there are and holds the high bits of the character's number, each further byte holds
six bits more. A text is spelled character by character, each with as few bytes as its number needs.

So bytes can be read in one way only, from the left. Where this stops short of the end, one of a few
faults is found: these are all the ways in which bytes are no text.
-/

namespace PagePress.Utf8

/-! ## Spelling -/

/-- The low bits of a number, six in each further byte. -/
def furthers : Nat → Nat → List Nat
  | 0, _ => []
  | count + 1, n => (0x80 + n / 64 ^ count % 64) :: furthers count n

/-- A byte that starts nothing: its two highest bits are `10`. -/
def IsFurther (byte : Nat) : Prop := 0x80 ≤ byte ∧ byte < 0xC0

/-- The high bits of a first byte, which tell the count of the further bytes. -/
def mark : Nat → Nat
  | 0 => 0
  | 1 => 0xC0
  | 2 => 0xE0
  | _ => 0xF0

def markCount : Nat → Nat
  | 0 => 0x80
  | 1 => 0x20
  | 2 => 0x10
  | _ => 8

/-- The numbers below this one can be spelled with the given count of further bytes. -/
def room (count : Nat) : Nat := markCount count * 64 ^ count

/-- The bytes that spell a number, by the count of the further bytes. -/
def spelling (count n : Nat) : List Nat := (mark count + n / 64 ^ count) :: furthers count n

def furtherCount (n : Nat) : Nat :=
  if n < 0x80 then 0 else if n < 0x800 then 1 else if n < 0x10000 then 2 else 3

def encode (text : List Char) : List Nat :=
  text.flatMap fun c => spelling (furtherCount c.toNat) c.toNat

/-- What the bytes start with that do not start with the spelling of a character. -/
inductive IsFault : List Nat → Prop where
  /-- A byte that starts no spelling. -/
  | stray {byte : Nat} (rest : List Nat) (other : IsFurther byte ∨ 0xF8 ≤ byte) :
      IsFault (byte :: rest)
  /-- A spelling from which further bytes are missing. -/
  | truncated {count n kept : Nat} {rest : List Nat} (short : count ≤ 3) (fits : n < room count)
      (missing : kept < count) (stops : ∀ byte ∈ rest.head?, ¬IsFurther byte) :
      IsFault ((spelling count n).take (kept + 1) ++ rest)
  /-- A spelling with more bytes than the number needs. -/
  | overlong {count n : Nat} (rest : List Nat) (short : count ≤ 3) (fits : n < room count)
      (needless : furtherCount n < count) : IsFault (spelling count n ++ rest)
  /-- The spelling of half a pair by which UTF-16 writes a character. -/
  | surrogate {n : Nat} (rest : List Nat) (low : 0xD800 ≤ n) (high : n ≤ 0xDFFF) :
      IsFault (spelling 2 n ++ rest)
  /-- The spelling of a number above those of the characters. -/
  | beyond {n : Nat} (rest : List Nat) (above : 0x10FFFF < n) (fits : n < room 3) :
      IsFault (spelling 3 n ++ rest)

def IsMalformed (bytes : List Nat) : Prop :=
  ∃ text fault, bytes = encode text ++ fault ∧ IsFault fault

variable {byte count count' kept n n' v : Nat} {bytes rest rest' fault : List Nat}

/-! ## Numbers in high and low bits -/

theorem add_div_of_lt (high : Nat) (small : v < 64 ^ count) :
    (high * 64 ^ count + v) / 64 ^ count = high := by
  rw [Nat.add_comm, Nat.add_mul_div_right _ _ (Nat.pow_pos (by decide)), Nat.div_eq_of_lt small,
    Nat.zero_add]

theorem add_lt_mul_of_lt {high bound : Nat} (below : high < bound) (small : v < 64 ^ count) :
    high * 64 ^ count + v < bound * 64 ^ count := by
  have := Nat.mul_le_mul_right (64 ^ count) (Nat.succ_le_of_lt below)
  rw [Nat.succ_mul] at this
  omega

/-! ## Further bytes -/

theorem length_furthers (count n : Nat) : (furthers count n).length = count := by
  induction count with
  | zero => rfl
  | succ count ih => rw [furthers, List.length_cons, ih]

/-- Higher bits are not told by further bytes. -/
theorem furthers_add (count high n : Nat) :
    furthers count (high * 64 ^ count + n) = furthers count n := by
  induction count generalizing high with
  | zero => rfl
  | succ count ih =>
    have whole : high * 64 ^ (count + 1) + n = n + high * 64 * 64 ^ count := by
      rw [Nat.pow_succ', Nat.mul_assoc, Nat.add_comm]
    have digit : (n + high * 64 * 64 ^ count) / 64 ^ count % 64 = n / 64 ^ count % 64 := by
      rw [Nat.add_mul_div_right _ _ (Nat.pow_pos (by decide)), Nat.add_mul_mod_self_right]
    rw [furthers, furthers, whole, digit, Nat.add_comm n, ih]

theorem mod_eq_of_furthers_eq (same : furthers count n = furthers count n') :
    n % 64 ^ count = n' % 64 ^ count := by
  induction count with
  | zero => simp [Nat.mod_one]
  | succ count ih =>
    obtain ⟨digit, rest⟩ := List.cons.inj same
    rw [Nat.pow_succ, Nat.mod_mul, Nat.mod_mul, ih rest, Nat.add_left_cancel digit]

/-- Bytes start with as many further bytes as are asked for, or with less. -/
theorem furthers_cases (count : Nat) (bytes : List Nat) :
    ∃ v < 64 ^ count, ∃ rest, bytes = furthers count v ++ rest ∨
      ∃ kept < count, bytes = (furthers count v).take kept ++ rest ∧
        ∀ byte ∈ rest.head?, ¬IsFurther byte := by
  induction count generalizing bytes with
  | zero => exact ⟨0, by simp, bytes, .inl rfl⟩
  | succ count ih =>
    by_cases further : ∃ byte rest, bytes = byte :: rest ∧ IsFurther byte
    · obtain ⟨byte, bytes, rfl, low, high⟩ := further
      obtain ⟨v, small, rest, found⟩ := ih bytes
      have form : furthers (count + 1) ((byte - 0x80) * 64 ^ count + v) =
          byte :: furthers count v := by
        rw [furthers, add_div_of_lt _ small, furthers_add, Nat.mod_eq_of_lt (by omega),
          Nat.add_sub_cancel' low]
      refine ⟨(byte - 0x80) * 64 ^ count + v, ?_, rest, ?_⟩
      · rw [Nat.pow_succ']
        exact add_lt_mul_of_lt (by omega) small
      rw [form]
      rcases found with rfl | ⟨kept, missing, rfl, stops⟩
      · exact .inl rfl
      · exact .inr ⟨kept + 1, by omega, rfl, stops⟩
    · refine ⟨0, Nat.pow_pos (by decide), bytes, .inr ⟨0, by omega, rfl, ?_⟩⟩
      intro byte first isFurther
      obtain ⟨rest, rfl⟩ := List.head?_eq_some_iff.mp first
      exact further ⟨byte, rest, rfl, isFurther⟩

/-- Further bytes are not missed where they stand. -/
theorem furthers_ne_take (missing : kept < count) (stops : ∀ byte ∈ rest'.head?, ¬IsFurther byte) :
    furthers count n ++ rest ≠ (furthers count n').take kept ++ rest' := by
  intro same
  induction count generalizing kept with
  | zero => omega
  | succ count ih =>
    cases kept with
    | zero =>
      rw [List.take_zero, List.nil_append] at same
      subst same
      have := Nat.mod_lt (n / 64 ^ count) (show 0 < 64 by decide)
      exact stops _ rfl ⟨by omega, by omega⟩
    | succ kept => exact ih (by omega) (List.cons.inj same).2

/-! ## First bytes -/

/-- A byte that starts spellings, by the count of the further bytes. -/
def IsFirst (count byte : Nat) : Prop :=
  mark count ≤ byte ∧ byte < mark count + markCount count

theorem isFirst_of_lt_room (fits : n < room count) : IsFirst count (mark count + n / 64 ^ count) :=
  ⟨Nat.le_add_right _ _,
    Nat.add_lt_add_left (Nat.div_lt_of_lt_mul (by rwa [Nat.mul_comm])) _⟩

/-- A first byte tells the count of the further ones. -/
theorem IsFirst.unique (here : IsFirst count byte) (there : IsFirst count' byte)
    (short : count ≤ 3) (short' : count' ≤ 3) : count = count' := by
  simp only [IsFirst] at here there
  interval_cases count <;> interval_cases count' <;> simp only [mark, markCount] at * <;> omega

theorem not_isFirst_iff (byte : Nat) :
    (∀ count ≤ 3, ¬IsFirst count byte) ↔ IsFurther byte ∨ 0xF8 ≤ byte := by
  simp only [IsFirst, IsFurther]
  constructor
  · intro none
    have zero := none 0 (by decide)
    have one := none 1 (by decide)
    have two := none 2 (by decide)
    have three := none 3 (by decide)
    simp only [mark, markCount] at zero one two three
    omega
  · intro other count short
    interval_cases count <;> simp only [mark, markCount] <;> omega

/-! ## Spellings -/

/-- Bytes do not start with two spellings. -/
theorem spelling_append_inj (short : count ≤ 3) (fits : n < room count) (short' : count' ≤ 3)
    (fits' : n' < room count') (same : spelling count n ++ rest = spelling count' n' ++ rest') :
    count = count' ∧ n = n' ∧ rest = rest' := by
  obtain ⟨first, further⟩ := List.cons.inj same
  obtain rfl : count = count' :=
    (isFirst_of_lt_room fits).unique (first ▸ isFirst_of_lt_room fits') short short'
  obtain ⟨low, rfl⟩ := List.append_inj further (by rw [length_furthers, length_furthers])
  refine ⟨rfl, ?_, rfl⟩
  rw [← Nat.div_add_mod n (64 ^ count), Nat.add_left_cancel first, mod_eq_of_furthers_eq low,
    Nat.div_add_mod]

/-- Bytes that start with a spelling start with no shortened one. -/
theorem spelling_ne_take (short : count ≤ 3) (fits : n < room count) (short' : count' ≤ 3)
    (fits' : n' < room count') (missing : kept < count')
    (stops : ∀ byte ∈ rest'.head?, ¬IsFurther byte) :
    spelling count n ++ rest ≠ (spelling count' n').take (kept + 1) ++ rest' := by
  intro same
  obtain ⟨first, further⟩ := List.cons.inj same
  obtain rfl : count = count' :=
    (isFirst_of_lt_room fits).unique (first ▸ isFirst_of_lt_room fits') short short'
  exact furthers_ne_take missing stops further

theorem exists_spelling_or_isFault (byte : Nat) (bytes : List Nat) :
    (∃ count ≤ 3, ∃ n < room count, ∃ rest, byte :: bytes = spelling count n ++ rest) ∨
      IsFault (byte :: bytes) := by
  by_cases found : ∃ count ≤ 3, IsFirst count byte
  · obtain ⟨count, short, low, high⟩ := found
    obtain ⟨v, small, rest, found⟩ := furthers_cases count bytes
    have fits : (byte - mark count) * 64 ^ count + v < room count :=
      add_lt_mul_of_lt (by omega) small
    have form : spelling count ((byte - mark count) * 64 ^ count + v) =
        byte :: furthers count v := by
      rw [spelling, add_div_of_lt _ small, furthers_add, Nat.add_sub_cancel' low]
    rcases found with rfl | ⟨kept, missing, rfl, stops⟩
    · exact .inl ⟨count, short, _, fits, rest, by rw [form, List.cons_append]⟩
    · have fault := IsFault.truncated short fits missing stops
      rw [form] at fault
      exact .inr fault
  · have other := (not_isFirst_iff byte).mp fun count short first => found ⟨count, short, first⟩
    exact .inr (.stray bytes other)

/-! ## Characters -/

theorem toNat_valid (c : Char) : c.toNat < 0xD800 ∨ 0xDFFF < c.toNat ∧ c.toNat < 0x110000 :=
  c.valid

theorem furtherCount_le (n : Nat) : furtherCount n ≤ 3 := by
  unfold furtherCount
  split_ifs <;> decide

theorem lt_room_furtherCount (fits : n < room 3) : n < room (furtherCount n) := by
  unfold furtherCount
  split_ifs <;> simp only [room, markCount] at * <;> omega

theorem toNat_lt_room (c : Char) : c.toNat < room (furtherCount c.toNat) := by
  have := toNat_valid c
  refine lt_room_furtherCount ?_
  simp only [room, markCount]
  omega

theorem furtherCount_le_of_lt_room (short : count ≤ 3) (fits : n < room count) :
    furtherCount n ≤ count := by
  unfold furtherCount
  interval_cases count <;> simp only [room, markCount] at fits <;> split_ifs <;> omega

/-- A spelling is that of a character, or it is one of the faults. -/
theorem exists_char_or_isFault (short : count ≤ 3) (fits : n < room count) :
    (∃ c : Char, c.toNat = n ∧ furtherCount c.toNat = count) ∨
      ∀ rest, IsFault (spelling count n ++ rest) := by
  rcases Nat.lt_or_eq_of_le (furtherCount_le_of_lt_room short fits) with needless | rfl
  · exact .inr fun rest => .overlong rest short fits needless
  by_cases valid : n.isValidChar
  · exact .inl ⟨Char.ofNatAux n valid, rfl, rfl⟩
  rw [Nat.isValidChar] at valid
  by_cases above : 0x10FFFF < n
  · have three : furtherCount n = 3 := by
      unfold furtherCount
      split_ifs <;> omega
    rw [three] at fits ⊢
    exact .inr fun rest => .beyond rest above fits
  · have two : furtherCount n = 2 := by
      unfold furtherCount
      split_ifs <;> omega
    rw [two]
    exact .inr fun rest => .surrogate rest (by omega) (by omega)

/-! ## Texts -/

theorem encode_cons (c : Char) (text : List Char) :
    encode (c :: text) = spelling (furtherCount c.toNat) c.toNat ++ encode text := rfl

/-- Bytes spell a text, as far as no fault is found in them. -/
theorem exists_encode_or_isMalformed (bytes : List Nat) :
    (∃ text, bytes = encode text) ∨ IsMalformed bytes := by
  -- bytes are read spelling by spelling, and each leaves less of them
  induction h : bytes.length using Nat.strong_induction_on generalizing bytes with
  | _ length ih =>
    cases bytes with
    | nil => exact .inl ⟨[], rfl⟩
    | cons byte bytes =>
      rcases exists_spelling_or_isFault byte bytes with ⟨count, short, n, fits, rest, form⟩ | fault
      · rcases exists_char_or_isFault short fits with ⟨c, rfl, rfl⟩ | fault
        · have shorter : rest.length < length := by
            rw [← h, form, spelling, List.length_append, List.length_cons]
            omega
          rw [form]
          rcases ih rest.length shorter rest rfl with ⟨text, rfl⟩ | ⟨text, fault, rfl, isFault⟩
          · exact .inl ⟨c :: text, rfl⟩
          · exact .inr ⟨c :: text, fault, by rw [encode_cons, List.append_assoc], isFault⟩
        · exact .inr ⟨[], _, rfl, form ▸ fault rest⟩
      · exact .inr ⟨[], _, rfl, fault⟩

/-- No fault starts like a text. -/
theorem IsFault.ne_encode (isFault : IsFault fault) (text : List Char) : fault ≠ encode text := by
  intro same
  cases text with
  | nil => cases isFault <;> simp [encode, spelling] at same
  | cons c text =>
    have short := furtherCount_le c.toNat
    have fits := toNat_lt_room c
    have valid := toNat_valid c
    rw [encode_cons] at same
    cases isFault with
    | stray rest other =>
      have first := isFirst_of_lt_room fits
      rw [← (List.cons.inj same).1] at first
      exact (not_isFirst_iff _).mpr other _ short first
    | truncated short' fits' missing stops =>
      exact spelling_ne_take short fits short' fits' missing stops same.symm
    | overlong rest short' fits' needless =>
      obtain ⟨rfl, rfl, -⟩ := spelling_append_inj short' fits' short fits same
      omega
    | surrogate rest low high =>
      obtain ⟨-, rfl, -⟩ := spelling_append_inj (by decide)
        (by simp only [room, markCount]; omega) short fits same
      omega
    | beyond rest above fits' =>
      obtain ⟨-, rfl, -⟩ := spelling_append_inj (by decide) fits' short fits same
      omega

/-- Bytes are malformed exactly if they spell no text. -/
theorem isMalformed_iff : IsMalformed bytes ↔ ∀ text, bytes ≠ encode text := by
  constructor
  · rintro ⟨front, fault, rfl, isFault⟩ text same
    -- the text up to the fault is read alike on both sides, so the fault would start like a text
    induction front generalizing text with
    | nil => exact isFault.ne_encode text same
    | cons c front ih =>
      rw [encode_cons, List.append_assoc] at same
      cases text with
      | nil => simp [encode, spelling] at same
      | cons d text =>
        obtain ⟨-, -, rest⟩ := spelling_append_inj (furtherCount_le _) (toNat_lt_room _)
          (furtherCount_le _) (toNat_lt_room _) same
        exact ih text rest
  · intro none
    refine (exists_encode_or_isMalformed bytes).resolve_left ?_
    rintro ⟨text, same⟩
    exact none text same

/-! ## Arrays of bytes -/

def octets (bytes : ByteArray) : List Nat := bytes.data.toList.map UInt8.toNat

theorem octets_injective : Function.Injective octets := by
  intro a b same
  refine ByteArray.ext (Array.toList_inj.mp ?_)
  exact List.map_injective_iff.mpr (fun _ _ => UInt8.toNat_inj.mp) same

theorem map_toNat_utf8EncodeChar (c : Char) :
    (String.utf8EncodeChar c).map UInt8.toNat = spelling (furtherCount c.toNat) c.toNat := by
  have valid := toNat_valid c
  simp only [String.utf8EncodeChar, Char.toNat_val, furtherCount]
  split_ifs
  all_goals
    simp only [List.map_cons, List.map_nil, UInt8.toNat_ofNat', spelling, furthers, mark,
      List.cons.injEq, and_true]
    omega

theorem octets_toUTF8 (s : String) : octets s.toUTF8 = encode s.toList := by
  rw [String.toUTF8_eq_toByteArray, ← String.utf8Encode_toList, octets, List.utf8Encode,
    List.toList_data_toByteArray, List.map_flatMap]
  simp only [map_toNat_utf8EncodeChar, encode]

theorem fromUTF8?_eq_some_iff {bytes : ByteArray} {s : String} :
    String.fromUTF8? bytes = some s ↔ octets bytes = encode s.toList := by
  rw [← octets_toUTF8, octets_injective.eq_iff, String.toUTF8_eq_toByteArray, String.fromUTF8?]
  constructor
  · intro read
    split at read
    · cases read
      rfl
    · cases read
  · rintro rfl
    rw [dif_pos s.isValidUTF8]
    rfl

theorem fromUTF8?_eq_none_iff {bytes : ByteArray} :
    String.fromUTF8? bytes = none ↔ IsMalformed (octets bytes) := by
  rw [isMalformed_iff, Option.eq_none_iff_forall_ne_some]
  simp only [ne_eq, fromUTF8?_eq_some_iff]
  constructor
  · intro none text same
    exact none (String.ofList text) (by rwa [String.toList_ofList])
  · intro none s
    exact none s.toList

end PagePress.Utf8
