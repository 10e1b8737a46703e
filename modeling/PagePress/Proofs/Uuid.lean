import PagePress.Proofs.Json.Text
import PagePress.Uuid

/-!
# Reading identifiers back

An identifier of 128 bits is read from the text in which it is written. The numbers by which
identifiers are told apart are not bounded themselves: of a longer one the text keeps the low 128
bits.
-/

namespace PagePress

namespace Uuid

/-- What the text of an identifier tells of it: 128 bits. -/
def written (id : Uuid) : Uuid := ⟨id.value % Nat.pow 16 32⟩

theorem written_of_lt {id : Uuid} (h : id.value < Nat.pow 16 32) : id.written = id := by
  rw [written, Nat.mod_eq_of_lt h]

variable {a b c d e : List Char}

/-! ## Digits -/

theorem length_hexDigits (width n : Nat) : (Text.hexDigits width n).length = width := by
  induction width with
  | zero => rfl
  | succ width ih => rw [Text.hexDigits, List.length_cons, ih]

/-- Reading goes on from a number by shifting it. -/
theorem foldlM_hexDigits (width start n : Nat) :
    (Text.hexDigits width n).foldlM (fun n c => (Text.hexValue? c).map (16 * n + ·)) start =
      some (Nat.pow 16 width * start + n % Nat.pow 16 width) := by
  induction width generalizing start with
  | zero => simp [Text.hexDigits, Nat.mod_one]
  | succ width ih =>
    have digit : Text.hexValue? (Text.hexDigit (n / Nat.pow 16 width % 16)) =
        some (n / Nat.pow 16 width % 16) :=
      Json.hexValue?_hexDigit (Nat.mod_lt _ (by decide))
    have shifted : Nat.pow 16 (width + 1) = Nat.pow 16 width * 16 := rfl
    rw [Text.hexDigits, List.foldlM_cons, digit]
    simp only [Option.map_some, Option.bind_eq_bind, Option.bind_some, ih]
    rw [shifted, Nat.mod_mul, Nat.mul_add, Nat.mul_assoc, Nat.add_assoc,
      Nat.add_comm (n % Nat.pow 16 width)]

theorem ofDigits?_digits (id : Uuid) : ofDigits? id.digits = some id.written := by
  have length : id.digits.length = 32 := length_hexDigits 32 id.value
  rw [ofDigits?, if_pos length, number?, digits, foldlM_hexDigits, Nat.mul_zero,
    Nat.zero_add]
  rfl

/-! ## Groups -/

/-- The five groups of an identifier are put together. -/
theorem ofGroups?_groups (ha : a.length = 8) (hb : b.length = 4) (hc : c.length = 4)
    (hd : d.length = 4) (he : e.length = 12) :
    ofGroups? (a ++ '-' :: b ++ '-' :: c ++ '-' :: d ++ '-' :: e) =
      ofDigits? (a ++ b ++ c ++ d ++ e) := by
  have hyphens : [8, 13, 18, 23].all (fun i =>
      (a ++ '-' :: b ++ '-' :: c ++ '-' :: d ++ '-' :: e)[i]? == some '-') = true := by
    simp [List.getElem?_append, ha, hb, hc, hd]
  have length : (a ++ '-' :: b ++ '-' :: c ++ '-' :: d ++ '-' :: e).length = 36 := by
    simp [ha, hb, hc, hd, he]
  rw [ofGroups?, if_pos ⟨length, hyphens⟩]
  simp [List.drop_append, List.drop_eq_nil_of_le, ha, hb, hc, hd]

theorem take_append_drop_drop (n m : Nat) (l : List Char) :
    (l.drop n).take m ++ l.drop (n + m) = l.drop n := by
  rw [← List.drop_drop, List.take_append_drop]

theorem toList_text (id : Uuid) :
    ∃ a b c d e, a.length = 8 ∧ b.length = 4 ∧ c.length = 4 ∧ d.length = 4 ∧ e.length = 12 ∧
      a ++ b ++ c ++ d ++ e = id.digits ∧
      id.text.toList = a ++ '-' :: b ++ '-' :: c ++ '-' :: d ++ '-' :: e := by
  have length : id.digits.length = 32 := length_hexDigits 32 id.value
  refine ⟨_, _, _, _, _, ?_, ?_, ?_, ?_, ?_, ?_, String.toList_ofList⟩
  · simp [length]
  · simp [length]
  · simp [length]
  · simp [length]
  · simp [length]
  · simp only [List.append_assoc]
    rw [take_append_drop_drop 16 4, take_append_drop_drop 12 4, take_append_drop_drop 8 4,
      List.take_append_drop]

/-- An identifier is read from its text. -/
theorem ofText?_text (id : Uuid) : ofText? id.text.toList = some id.written := by
  obtain ⟨a, b, c, d, e, ha, hb, hc, hd, he, whole, text⟩ := toList_text id
  have length : id.text.toList.length = 36 := by
    simp [text, ha, hb, hc, hd, he]
  rw [ofText?, if_neg (by omega), if_pos length, text, ofGroups?_groups ha hb hc hd he, whole,
    ofDigits?_digits]

end Uuid

end PagePress
