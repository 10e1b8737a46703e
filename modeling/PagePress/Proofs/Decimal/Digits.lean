import PagePress.Decimal.Digits

/-!
# Reading digits back

The decimal digits of a number are read as the number, and they start with a zero only if it is
zero.
-/

namespace PagePress.Decimal

variable {d n : Nat} {c : Char}

theorem digitChar_toNat (h : d < 10) : (digitChar d).toNat - 48 = d := by
  have all : ∀ d < 10, (digitChar d).toNat - 48 = d := by decide
  exact all d h

theorem isDigit_digitChar (h : d < 10) : (digitChar d).isDigit = true := by
  have all : ∀ d < 10, (digitChar d).isDigit = true := by decide
  exact all d h

theorem digitChar_eq_zero (h : d < 10) (zero : digitChar d = '0') : d = 0 := by
  have all : ∀ d < 10, digitChar d = '0' → d = 0 := by decide
  exact all d h zero

theorem isDigit_of_mem_digits (mem : c ∈ digits n) : c.isDigit = true := by
  fun_induction digits n with
  | case1 n h =>
    rw [List.mem_singleton] at mem
    rw [mem]
    exact isDigit_digitChar h
  | case2 n h ih =>
    rcases List.mem_append.mp mem with front | last
    · exact ih front
    · rw [List.mem_singleton] at last
      rw [last]
      exact isDigit_digitChar (by omega)

theorem ofDigits_digits (n : Nat) : ofDigits (digits n) = n := by
  fun_induction digits n with
  | case1 n h =>
    have value : digitValue (digitChar n) = n := digitChar_toNat h
    simp [ofDigits, value]
  | case2 n h ih =>
    have last : digitValue (digitChar (n % 10)) = n % 10 := digitChar_toNat (by omega)
    rw [ofDigits] at ih ⊢
    rw [List.foldl_append, ih]
    simp only [List.foldl_cons, List.foldl_nil, last]
    omega

/-- No digit is a zero in front of others. -/
theorem digits_eq_cons (n : Nat) : ∃ c ds, digits n = c :: ds ∧ (c = '0' → n = 0 ∧ ds = []) := by
  fun_induction digits n with
  | case1 n h => exact ⟨_, [], rfl, fun zero => ⟨digitChar_eq_zero h zero, rfl⟩⟩
  | case2 n h ih =>
    obtain ⟨c, ds, front, leading⟩ := ih
    refine ⟨c, ds ++ [digitChar (n % 10)], by rw [front]; rfl, fun zero => ?_⟩
    have := (leading zero).1
    omega

end PagePress.Decimal
