import PagePress.Json.Reader
import PagePress.Json.Writer

/-!
# Reading strings back

A string is written in printable ASCII, and it is read as the same characters, whatever they are: a
character outside of the first 16-bit plane is written as the two halves of a pair, which are put
together again.
-/

namespace PagePress.Json

variable {c : Char} {u high low d start : Nat} {rest : List Char}

def IsPrintable (c : Char) : Prop := 0x20 ≤ c.toNat ∧ c.toNat ≤ 0x7E

instance (c : Char) : Decidable (IsPrintable c) :=
  inferInstanceAs (Decidable (0x20 ≤ c.toNat ∧ c.toNat ≤ 0x7E))

/-! ## Hexadecimal units -/

theorem hexValue?_hexDigit (h : d < 16) : Text.hexValue? (Text.hexDigit d) = some d := by
  have all : ∀ d < 16, Text.hexValue? (Text.hexDigit d) = some d := by decide
  exact all d h

theorem unit?_hexDigits (h : u < 0x10000) (more : rest ≠ []) :
    unit? (Text.hexDigits 4 u ++ rest) = some (u, rest) := by
  have digit : ∀ n, Text.hexValue? (Text.hexDigit (n % 16)) = some (n % 16) := fun n =>
    hexValue?_hexDigit (Nat.mod_lt n (by omega))
  simp [Text.hexDigits, unit?, digit, more]
  omega

/-- One unit that is no half of a pair is read as its character. -/
theorem readUnits_single (h : u < 0x10000) (whole : (Symbol.isHigh u || Symbol.isLow u) = false)
    (more : rest ≠ []) :
    readUnits ('u' :: Text.hexDigits 4 u ++ rest) = .ok (.char (Char.ofNat u), rest) := by
  have first : Symbol.isHigh u = false := (Bool.or_eq_false_iff.mp whole).1
  have second : Symbol.isLow u = false := (Bool.or_eq_false_iff.mp whole).2
  simp [readUnits, unit?_hexDigits h more, first, second, Symbol.ofUnit]

/-- Two units are read as the character of their pair. -/
theorem readUnits_pair (isHigh : Symbol.isHigh high = true) (isLow : Symbol.isLow low = true)
    (more : rest ≠ []) :
    readUnits ('u' :: Text.hexDigits 4 high ++ (unitEscape low ++ rest)) =
      .ok (.ofPair high low, rest) := by
  have bounds : high < 0x10000 ∧ low < 0x10000 := by
    simp [Symbol.isHigh, Symbol.isLow] at isHigh isLow
    omega
  have length : 6 < (unitEscape low ++ rest).length := by
    have := List.length_pos_iff.mpr more
    simp [unitEscape, Text.hexDigits]
    omega
  have second : unitEscape low ++ rest = '\\' :: 'u' :: (Text.hexDigits 4 low ++ rest) := rfl
  simp only [readUnits, List.cons_append, List.drop_succ_cons, List.drop_zero]
  rw [unit?_hexDigits bounds.1 (by simp [unitEscape])]
  rw [second] at length ⊢
  simp only [isHigh, length, unit?_hexDigits bounds.2 more, isLow, Bool.true_and, decide_true,
    if_true]

theorem isPrintable_hexDigit (h : d < 16) : IsPrintable (Text.hexDigit d) := by
  have all : ∀ d < 16, IsPrintable (Text.hexDigit d) := by decide
  exact all d h

theorem isPrintable_of_mem_unitEscape (mem : c ∈ unitEscape u) : IsPrintable c := by
  have digit : ∀ n, IsPrintable (Text.hexDigit (n % 16)) := fun n =>
    isPrintable_hexDigit (Nat.mod_lt n (by omega))
  simp only [unitEscape, Text.hexDigits, List.mem_cons, List.not_mem_nil, or_false] at mem
  rcases mem with rfl | rfl | rfl | rfl | rfl | rfl
  · decide
  · decide
  all_goals exact digit _

/-! ## Characters -/

theorem readPiece_of_plain (quote : c ≠ '"') (backslash : c ≠ '\\') (h : 0x20 ≤ c.toNat) :
    readPiece start (c :: rest) = .ok (.symbol (.char c) rest) := by
  unfold readPiece
  split
  · simp_all
  · simp_all
  · simp_all
  · rename_i same
    obtain ⟨rfl, rfl⟩ := List.cons.inj same
    rw [if_neg (by omega)]

theorem readPiece_unit (s : List Char) :
    readPiece start ('\\' :: 'u' :: s) =
      (readUnits ('u' :: s)).map fun (symbol, rest) => .symbol symbol rest := by
  simp [readPiece]

/-- A character has no unit of its own among the halves of pairs. -/
theorem not_isHalf (c : Char) : (Symbol.isHigh c.toNat || Symbol.isLow c.toNat) = false := by
  have valid : c.toNat < 0xD800 ∨ 0xDFFF < c.toNat ∧ c.toNat < 0x110000 := c.valid
  simp [Symbol.isHigh, Symbol.isLow]
  omega

/-- A character outside of the first plane is that of the pair it is written as. -/
theorem ofPair_of_le (h : 0x10000 ≤ c.toNat) :
    Symbol.ofPair (0xD800 + (c.toNat - 0x10000) / 0x400) (0xDC00 + (c.toNat - 0x10000) % 0x400) =
      .char c := by
  have value : 0x10000 + (0xD800 + (c.toNat - 0x10000) / 0x400 - 0xD800) * 0x400 +
      (0xDC00 + (c.toNat - 0x10000) % 0x400 - 0xDC00) = c.toNat := by omega
  rw [Symbol.ofPair, value, Char.ofNat_toNat]

/-- The ways in which a character is written inside a string. -/
theorem escapeChar_cases (c : Char) :
    (∃ e, escapeChar c = ['\\', e] ∧ e ≠ 'u' ∧ shortEscape? e = some c ∧ IsPrintable e) ∨
    (escapeChar c = [c] ∧ c ≠ '"' ∧ c ≠ '\\' ∧ IsPrintable c) ∨
    (escapeChar c = unitEscape c.toNat ∧ c.toNat < 0x10000) ∨
    (escapeChar c = unitEscape (0xD800 + (c.toNat - 0x10000) / 0x400) ++
      unitEscape (0xDC00 + (c.toNat - 0x10000) % 0x400) ∧ 0x10000 ≤ c.toNat) := by
  by_cases short : c ∈ ['"', '\\', '\n', '\r', '\t', '\x0c', '\x08']
  · simp only [List.mem_cons, List.not_mem_nil, or_false] at short
    rcases short with rfl | rfl | rfl | rfl | rfl | rfl | rfl
    all_goals exact .inl ⟨_, rfl, by decide, rfl, by decide⟩
  · simp only [List.mem_cons, List.not_mem_nil, or_false, not_or] at short
    obtain ⟨quote, backslash, newline, carriage, tab, page, back⟩ := short
    have long : escapeChar c =
        if 0x20 ≤ c.toNat ∧ c.toNat ≤ 0x7E then [c]
        else if c.toNat < 0x10000 then unitEscape c.toNat
        else unitEscape (0xD800 + (c.toNat - 0x10000) / 0x400) ++
          unitEscape (0xDC00 + (c.toNat - 0x10000) % 0x400) := by
      rw [escapeChar, if_neg quote, if_neg backslash, if_neg newline, if_neg carriage,
        if_neg tab, if_neg page, if_neg back]
    rw [long]
    split
    · exact .inr (.inl ⟨rfl, quote, backslash, ‹_›⟩)
    split
    · exact .inr (.inr (.inl ⟨rfl, ‹_›⟩))
    · exact .inr (.inr (.inr ⟨rfl, by omega⟩))

/-- Every character is read back from its escape. -/
theorem readPiece_escapeChar (start : Nat) (c : Char) (more : rest ≠ []) :
    readPiece start (escapeChar c ++ rest) = .ok (.symbol (.char c) rest) := by
  rcases escapeChar_cases c with ⟨e, text, other, short, -⟩ | ⟨text, quote, backslash, plain⟩ |
    ⟨text, first⟩ | ⟨text, second⟩
  · rw [text]
    simp [readPiece, other, short]
  · rw [text]
    exact readPiece_of_plain quote backslash plain.1
  · rw [text, unitEscape, List.cons_append, List.cons_append, readPiece_unit, ← List.cons_append,
      readUnits_single first (not_isHalf c) more, Char.ofNat_toNat]
    rfl
  · have valid : c.toNat < 0xD800 ∨ 0xDFFF < c.toNat ∧ c.toNat < 0x110000 := c.valid
    have isHigh : Symbol.isHigh (0xD800 + (c.toNat - 0x10000) / 0x400) = true := by
      simp [Symbol.isHigh]
      omega
    have isLow : Symbol.isLow (0xDC00 + (c.toNat - 0x10000) % 0x400) = true := by
      simp [Symbol.isLow]
      omega
    rw [text, List.append_assoc, unitEscape, List.cons_append, List.cons_append, readPiece_unit,
      ← List.cons_append, readUnits_pair isHigh isLow more, ofPair_of_le second]
    rfl

/-- Whatever a string holds, it is written in printable ASCII. -/
theorem isPrintable_of_mem_escapeSymbol {symbol : Symbol} (mem : c ∈ escapeSymbol symbol) :
    IsPrintable c := by
  cases symbol with
  | half unit => exact isPrintable_of_mem_unitEscape mem
  | char c' =>
    rw [escapeSymbol] at mem
    rcases escapeChar_cases c' with ⟨e, text, -, -, printable⟩ | ⟨text, -, -, printable⟩ |
      ⟨text, -⟩ | ⟨text, -⟩
    · rw [text, List.mem_cons, List.mem_singleton] at mem
      rcases mem with rfl | rfl
      · decide
      · exact printable
    · rw [text, List.mem_singleton] at mem
      exact mem ▸ printable
    · exact isPrintable_of_mem_unitEscape (text ▸ mem)
    · rcases List.mem_append.mp (text ▸ mem) with high | low
      · exact isPrintable_of_mem_unitEscape high
      · exact isPrintable_of_mem_unitEscape low

/-! ## Strings -/

theorem readString_of_symbol {s : List Char} {symbol : Symbol}
    (piece : readPiece start s = .ok (.symbol symbol rest)) :
    readString start s =
      (readString start rest).map fun (text, rest) => (symbol :: text, rest) := by
  rw [readString]
  split
  · rename_i same
    rw [piece] at same
    cases same
  · rename_i same
    rw [piece] at same
    cases same
  · rename_i same
    rw [piece] at same
    cases same
    rfl

/-- A string without broken pairs is read back, up to its closing quote. -/
theorem readString_escape {symbols : List Symbol} (whole : symbols.all Symbol.isWhole = true)
    (start : Nat) (rest : List Char) :
    readString start (symbols.flatMap escapeSymbol ++ '"' :: rest) = .ok (symbols, rest) := by
  induction symbols with
  | nil =>
    rw [readString]
    rfl
  | cons symbol symbols ih =>
    obtain ⟨here, later⟩ := Bool.and_eq_true_iff.mp (List.all_cons ▸ whole)
    cases symbol with
    | half unit => cases here
    | char c =>
      have more : symbols.flatMap escapeSymbol ++ '"' :: rest ≠ [] := by simp
      have piece := readPiece_escapeChar start c more
      rw [List.flatMap_cons, List.append_assoc, escapeSymbol, readString_of_symbol piece, ih later]
      rfl

theorem isPrintable_of_mem_writeString {s : LooseText} (mem : c ∈ writeString s) :
    IsPrintable c := by
  simp only [writeString, List.mem_cons, List.mem_append, List.mem_flatMap, List.not_mem_nil,
    or_false] at mem
  rcases mem with (rfl | ⟨symbol, -, mem⟩) | rfl
  · decide
  · exact isPrintable_of_mem_escapeSymbol mem
  · decide

end PagePress.Json
