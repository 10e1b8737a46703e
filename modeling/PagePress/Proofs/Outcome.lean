import PagePress.Failure

/-!
# Outcomes that succeed

When an outcome put together from others is a success.
-/

namespace PagePress.Outcome

variable {ε ε' α β : Type}

theorem map_eq_ok_iff {x : Except ε α} {f : α → β} {b : β} :
    x.map f = .ok b ↔ ∃ a, x = .ok a ∧ f a = b := by
  cases x <;> simp [Except.map]

theorem bind_eq_ok_iff {x : Except ε α} {f : α → Except ε β} {b : β} :
    x >>= f = .ok b ↔ ∃ a, x = .ok a ∧ f a = .ok b := by
  cases x <;> simp [bind, Except.bind]

theorem mapError_eq_ok_iff {x : Except ε α} {f : ε → ε'} {a : α} :
    x.mapError f = .ok a ↔ x = .ok a := by
  cases x with
  | ok b => exact ⟨fun h => congrArg _ (Except.ok.inj h), fun h => congrArg _ (Except.ok.inj h)⟩
  | error e => exact ⟨nofun, nofun⟩

theorem getDM_eq_ok_iff {x : Option α} {e : ε} {a : α} :
    x.getDM (.error e : Except ε α) = .ok a ↔ x = some a := by
  cases x <;> simp [Option.getDM, pure, Except.pure]

/-- An operation that is refused on a condition succeeds only where the condition does not hold. -/
theorem refused_if_eq_ok_iff {p : Prop} [Decidable p] {failure : ε} {next : Unit → Except ε α}
    {a : α} :
    (if p then (.error failure : Except ε Unit) >>= next else next ()) = .ok a ↔
      ¬p ∧ next () = .ok a := by
  by_cases h : p <;> simp [h, bind, Except.bind]

theorem isOk_map {x : Except ε α} {f : α → β} (made : x.isOk = true) :
    (x.map f).isOk = true := by
  cases x with
  | ok a => rfl
  | error e => cases made

/-- Results are put together if there is each of them. -/
theorem isOk_mapM {f : α → Except ε β} {xs : List α} (each : ∀ x ∈ xs, (f x).isOk = true) :
    (xs.mapM f).isOk = true := by
  induction xs with
  | nil => rfl
  | cons x xs ih =>
    obtain ⟨here, later⟩ := List.forall_mem_cons.mp each
    rw [List.mapM_cons]
    cases made : f x with
    | error e =>
      rw [made] at here
      cases here
    | ok b =>
      cases rest : xs.mapM f with
      | error e =>
        have done := ih later
        rw [rest] at done
        cases done
      | ok bs => rfl

end PagePress.Outcome
