import PagePress.Proofs.Publishing.Integrity

/-!
# Sequences of effects

Several operations may be carried out in one turn. What every one of them keeps up, their sequence
keeps up.
-/

namespace PagePress

/-- What operations carried out one after the other in one turn do to the store, where each creates
things with new identifiers only. -/
inductive Effects (turn : Turn) : Store → List Operation → Store → Prop where
  | done {store : Store} : Effects turn store [] store
  | next {store mid store' : Store} {op : Operation} {ops : List Operation}
      (fresh : turn.IsFreshFor store op) (effect : Effect turn store op mid)
      (rest : Effects turn mid ops store') : Effects turn store (op :: ops) store'

structure Turn.IsFresh (turn : Turn) (store : Store) : Prop where
  customer : ∀ customer ∈ store.customers, customer.id ≠ turn.customerId
  template : ∀ template ∈ store.templates, template.id ≠ turn.templateId
  page : ∀ page ∈ store.pages, page.id ≠ turn.pageId

theorem Turn.IsFresh.for {turn : Turn} {store : Store} (h : turn.IsFresh store) (op : Operation) :
    turn.IsFreshFor store op := by
  cases op with
  | createCustomer => exact h.customer
  | createTemplate => exact h.template
  | createPage | insertPage => exact h.page
  | _ => trivial

namespace Effects

variable {turn : Turn} {store store' : Store} {ops : List Operation}

theorem consistent (effects : Effects turn store ops store') (h : store.Consistent) :
    store'.Consistent := by
  induction effects with
  | done => exact h
  | next fresh effect _ ih => exact ih (effect.consistent fresh h)

theorem linked (effects : Effects turn store ops store') (valid : ∀ op ∈ ops, op.IsValid)
    (consistent : store.Consistent) (h : store.Linked) : store'.Linked := by
  induction effects with
  | done => exact h
  | next fresh effect _ ih =>
    obtain ⟨first, rest⟩ := List.forall_mem_cons.mp valid
    exact ih rest (effect.consistent fresh consistent) (effect.linked first consistent h)

theorem wellFormed (effects : Effects turn store ops store') (valid : ∀ op ∈ ops, op.IsValid)
    (consistent : store.Consistent) (h : store.WellFormed) : store'.WellFormed := by
  induction effects with
  | done => exact h
  | next fresh effect _ ih =>
    obtain ⟨first, rest⟩ := List.forall_mem_cons.mp valid
    exact ih rest (effect.consistent fresh consistent) (effect.wellFormed first consistent h)

theorem append {mid : Store} {ops' : List Operation} (first : Effects turn store ops mid)
    (second : Effects turn mid ops' store') : Effects turn store (ops ++ ops') store' := by
  induction first with
  | done => exact second
  | next fresh effect _ ih => exact .next fresh effect (ih second)

end Effects

end PagePress
