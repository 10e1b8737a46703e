import PagePress.Proofs.Decimal.Digits
import PagePress.Proofs.Session.Action

/-!
# Identifiers of a session

Every step of a session has identifiers of its own, so that what it creates is never taken for
something that an earlier step has created.
-/

namespace PagePress

namespace Session

/-! ## Numbers read in another base -/

theorem decimalAsHex_of_lt {n : Nat} (h : n < 10) : decimalAsHex n = n := by
  rw [decimalAsHex, Decimal.digits, if_pos h]
  simpa using Decimal.digitChar_toNat h

theorem decimalAsHex_of_le {n : Nat} (h : 10 ≤ n) :
    decimalAsHex n = 16 * decimalAsHex (n / 10) + n % 10 := by
  rw [decimalAsHex, Decimal.digits, if_neg (by omega), List.foldl_append]
  simp [Decimal.digitChar_toNat (Nat.mod_lt n (by omega)), decimalAsHex]

theorem le_decimalAsHex (n : Nat) : n ≤ decimalAsHex n := by
  induction n using Nat.strongRecOn with
  | ind n ih =>
    rcases Nat.lt_or_ge n 10 with h | h
    · exact Nat.le_of_eq (decimalAsHex_of_lt h).symm
    · rw [decimalAsHex_of_le h]
      have := ih (n / 10) (by omega)
      omega

/-- A number with one digit is less than one with several, also when they are read in base 16. -/
theorem decimalAsHex_lt {m n : Nat} (hm : m < 10) (hn : 10 ≤ n) :
    decimalAsHex m < decimalAsHex n := by
  have least := le_decimalAsHex (n / 10)
  rw [decimalAsHex_of_lt hm, decimalAsHex_of_le hn]
  omega

theorem decimalAsHex_injective : Function.Injective decimalAsHex := by
  intro m
  induction m using Nat.strongRecOn with
  | ind m ih =>
    intro n same
    rcases Nat.lt_or_ge m 10 with hm | hm <;> rcases Nat.lt_or_ge n 10 with hn | hn
    · rwa [decimalAsHex_of_lt hm, decimalAsHex_of_lt hn] at same
    · exact absurd same (Nat.ne_of_lt (decimalAsHex_lt hm hn))
    · exact absurd same (Nat.ne_of_gt (decimalAsHex_lt hn hm))
    · rw [decimalAsHex_of_le hm, decimalAsHex_of_le hn] at same
      have := Nat.mod_lt m (show 0 < 10 by omega)
      have := Nat.mod_lt n (show 0 < 10 by omega)
      have rest : m / 10 = n / 10 := ih (m / 10) (by omega) (by omega)
      omega

/-- Read in base 16, a number has as many digits as in base 10. -/
theorem decimalAsHex_lt_pow {width n : Nat} (h : n < Nat.pow 10 width) :
    decimalAsHex n < Nat.pow 16 width := by
  induction width generalizing n with
  | zero =>
    have zero : n = 0 := Nat.lt_one_iff.mp h
    rw [zero, decimalAsHex_of_lt (by decide)]
    decide
  | succ width ih =>
    have bound : n < Nat.pow 10 width * 10 := h
    have goal : Nat.pow 16 (width + 1) = Nat.pow 16 width * 16 := rfl
    rw [goal]
    rcases Nat.lt_or_ge n 10 with small | large
    · have positive : 0 < Nat.pow 16 width := Nat.pow_pos (by decide)
      rw [decimalAsHex_of_lt small]
      omega
    · have rest : decimalAsHex (n / 10) < Nat.pow 16 width := ih (by omega)
      rw [decimalAsHex_of_le large]
      omega

/-- The identifiers of all but very long sessions have 128 bits. -/
theorem identifier_lt {kind step : Nat} (known : kind ≤ 12) (h : step < Nat.pow 10 31) :
    (identifier kind step).value < Nat.pow 16 32 := by
  have low : decimalAsHex step < Nat.pow 16 31 := decimalAsHex_lt_pow h
  have middle : 0x40008000000000000000 < Nat.pow 16 31 := by decide
  have high : kind * Nat.pow 16 31 ≤ 12 * Nat.pow 16 31 := Nat.mul_le_mul_right _ known
  have bound : Nat.pow 16 32 = Nat.pow 16 31 * 16 := rfl
  rw [bound]
  change kind * Nat.pow 16 31 + 0x40008000000000000000 + decimalAsHex step < _
  omega

theorem identifier_injective (kind : Nat) : Function.Injective (identifier kind) := by
  intro m n same
  exact decimalAsHex_injective (Nat.add_left_cancel (Uuid.mk.inj same))

end Session

/-! ## Identifiers in the store -/

/-- All identifiers in a store after a turn are those of the store before or those of the turn. -/
structure OnlyTurnIds (turn : Turn) (store store' : Store) : Prop where
  customers : store'.customers.map (·.id) ⊆ turn.customerId :: store.customers.map (·.id)
  templates : store'.templates.map (·.id) ⊆ turn.templateId :: store.templates.map (·.id)
  pages : store'.pages.map (·.id) ⊆ turn.pageId :: store.pages.map (·.id)

namespace OnlyTurnIds

variable {turn : Turn} {store mid store' : Store}

theorem refl (turn : Turn) (store : Store) : OnlyTurnIds turn store store :=
  ⟨List.subset_cons_self _ _, List.subset_cons_self _ _, List.subset_cons_self _ _⟩

theorem trans (first : OnlyTurnIds turn store mid) (second : OnlyTurnIds turn mid store') :
    OnlyTurnIds turn store store' where
  customers := List.Subset.trans second.customers
    (List.cons_subset.mpr ⟨List.mem_cons_self, first.customers⟩)
  templates := List.Subset.trans second.templates
    (List.cons_subset.mpr ⟨List.mem_cons_self, first.templates⟩)
  pages := List.Subset.trans second.pages
    (List.cons_subset.mpr ⟨List.mem_cons_self, first.pages⟩)

end OnlyTurnIds

theorem Effect.onlyTurnIds {turn : Turn} {store store' : Store} {op : Operation}
    (effect : Effect turn store op store') (consistent : store.Consistent) :
    OnlyTurnIds turn store store' := by
  have same := OnlyTurnIds.refl turn store
  cases effect with
  | nothing => exact same
  | customerAdded written =>
    obtain ⟨-, -, hcustomer, -, rfl⟩ := Store.insertCustomer_eq_some_iff.mp written
    refine { same with customers := ?_ }
    rw [hcustomer]
    simp
  | templateAdded =>
    exact { same with templates := by simp [Publishing.createTemplate, Store.insertTemplate] }
  | templateChanged =>
    refine { same with templates := ?_ }
    rw [Store.replaceTemplate, Table.map_replace fun _ _ same => same.symm]
    exact same.templates
  | templateErased =>
    refine { same with templates := ?_ }
    exact List.Subset.trans (List.map_subset _ (List.filter_subset_self _)) same.templates
  | pageAdded _ written | rawPageAdded written =>
    obtain ⟨hrow, -, rows, -, -, rfl⟩ :=
      (Store.insertPage_eq_some_iff consistent.places).mp written
    refine { same with pages := ?_ }
    rw [(PageDraft.row?_eq_some_iff.mp hrow).2.2]
    simp
  | pageChanged _ _ written =>
    obtain ⟨-, -, rfl⟩ := Store.updatePage_eq_some_iff.mp written
    refine { same with pages := ?_ }
    rw [Store.replacePage, Table.map_replace fun _ _ same => same.symm]
    exact same.pages
  | pageErased =>
    refine { same with pages := ?_ }
    exact List.Subset.trans (List.map_subset _ (List.filter_subset_self _)) same.pages
  | contentAdded _ written | elementAdded _ written | rawElementAdded written =>
    obtain ⟨-, -, rfl⟩ := Store.insertElement_eq_some_iff.mp written
    exact { same with }
  | contentSet _ written =>
    obtain ⟨-, -, -, rfl⟩ := Store.setContent_eq_some_iff.mp written
    exact { same with }
  | elementErased => exact { same with }

theorem Effects.onlyTurnIds {turn : Turn} {store store' : Store} {ops : List Operation}
    (effects : Effects turn store ops store') (consistent : store.Consistent) :
    OnlyTurnIds turn store store' := by
  induction effects with
  | done => exact .refl _ _
  | next fresh effect _ ih =>
    exact (effect.onlyTurnIds consistent).trans (ih (effect.consistent fresh consistent))

namespace Session

/-- The store is consistent, and every identifier in it is that of an earlier step. -/
structure IsOrderly (session : Session) : Prop where
  consistent : session.service.store.Consistent
  customers : ∀ customer ∈ session.service.store.customers, ∃ step < session.count,
    customer.id = identifier 12 step
  templates : ∀ template ∈ session.service.store.templates, ∃ step < session.count,
    template.id = identifier 10 step
  pages : ∀ page ∈ session.service.store.pages, ∃ step < session.count,
    page.id = identifier 11 step

/-- What is numbered by earlier steps is so after one more step, which adds at most its own
number. -/
theorem numbered_succ {α : Type} {id : α → Uuid} {rows rows' : List α} {kind count : Nat}
    (h : ∀ row ∈ rows, ∃ step < count, id row = identifier kind step)
    (grown : rows'.map id ⊆ identifier kind count :: rows.map id) :
    ∀ row ∈ rows', ∃ step < count + 1, id row = identifier kind step := by
  intro row mem
  rcases List.mem_cons.mp (grown (List.mem_map_of_mem mem)) with new | old
  · exact ⟨count, Nat.lt_succ_self count, new⟩
  · obtain ⟨first, hfirst, same⟩ := List.mem_map.mp old
    obtain ⟨step, before, hid⟩ := h first hfirst
    exact ⟨step, Nat.lt_succ_of_lt before, same.symm.trans hid⟩

theorem isOrderly_start (ttl : Micros) : (start ttl).IsOrderly where
  consistent := .empty
  customers := by simp [start]
  templates := by simp [start]
  pages := by simp [start]

namespace IsOrderly

variable {session : Session} (h : session.IsOrderly)
include h

/-- The next step comes with new identifiers. -/
theorem isFresh_nextTurn (pause : Micros) :
    (session.nextTurn pause).IsFresh session.service.store where
  customer customer mem same := by
    obtain ⟨step, before, hid⟩ := h.customers customer mem
    exact Nat.ne_of_lt before (identifier_injective 12 (hid.symm.trans same))
  template template mem same := by
    obtain ⟨step, before, hid⟩ := h.templates template mem
    exact Nat.ne_of_lt before (identifier_injective 10 (hid.symm.trans same))
  page page mem same := by
    obtain ⟨step, before, hid⟩ := h.pages page mem
    exact Nat.ne_of_lt before (identifier_injective 11 (hid.symm.trans same))

/-- Every action, whatever it stores, leaves the session orderly. -/
theorem step (pause : Micros) (action : Action) : (session.step pause action).2.IsOrderly := by
  obtain ⟨ops, effects, -⟩ := effects_of_act (h.isFresh_nextTurn pause) action
  have ids := effects.onlyTurnIds h.consistent
  exact {
    consistent := effects.consistent h.consistent
    customers := numbered_succ h.customers ids.customers
    templates := numbered_succ h.templates ids.templates
    pages := numbered_succ h.pages ids.pages }

/-- A page with the number of an earlier step does not come into being any more. -/
theorem page?_step_of_missing {number : Nat} (earlier : number < session.count)
    (missing : session.service.store.page? (identifier 11 number) = none) (pause : Micros)
    (action : Action) :
    (session.step pause action).2.service.store.page? (identifier 11 number) = none := by
  obtain ⟨ops, effects, -⟩ := effects_of_act (h.isFresh_nextTurn pause) action
  have ids := (effects.onlyTurnIds h.consistent).pages
  refine Store.page?_eq_none_iff.mpr fun page mem same => ?_
  rcases List.mem_cons.mp (ids (List.mem_map_of_mem mem)) with new | old
  · exact Nat.ne_of_lt earlier (identifier_injective 11 (same.symm.trans new))
  · obtain ⟨row, hrow, hid⟩ := List.mem_map.mp old
    exact Store.page?_eq_none_iff.mp missing row hrow (hid.trans same)

theorem run (steps : List (Micros × Action)) : (session.run steps).2.IsOrderly := by
  induction steps generalizing session with
  | nil => exact h
  | cons first rest ih => exact ih (h.step first.1 first.2)

end IsOrderly

end Session

end PagePress
