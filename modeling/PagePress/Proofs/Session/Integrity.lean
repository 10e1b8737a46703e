import PagePress.Proofs.Session.Identifier

/-!
# Integrity of whole sessions

In every state that a session reaches, whatever was stored in it, no two pages share a slug, no two
customers an email, and no two elements a place. As long as all data is checked, also every
reference leads to a row, and every slug, name and markup keeps its rule.
-/

namespace PagePress.Session

variable {session : Session}

/-- A checked action keeps the references and the rules of an orderly session. -/
theorem IsOrderly.linked_wellFormed_step (h : session.IsOrderly)
    (whole : session.service.store.Linked ∧ session.service.store.WellFormed) (pause : Micros)
    {action : Action} (checked : action.isChecked = true) :
    (session.step pause action).2.service.store.Linked ∧
      (session.step pause action).2.service.store.WellFormed := by
  obtain ⟨linked, wellFormed⟩ := whole
  obtain ⟨ops, effects, valid⟩ := effects_of_act (h.isFresh_nextTurn pause) action
  exact ⟨effects.linked (valid checked) h.consistent linked,
    effects.wellFormed (valid checked) h.consistent wellFormed⟩

theorem IsOrderly.linked_wellFormed_run (h : session.IsOrderly)
    (whole : session.service.store.Linked ∧ session.service.store.WellFormed)
    {steps : List (Micros × Action)} (checked : ∀ step ∈ steps, step.2.isChecked = true) :
    (session.run steps).2.service.store.Linked ∧
      (session.run steps).2.service.store.WellFormed := by
  induction steps generalizing session with
  | nil => exact whole
  | cons first rest ih =>
    obtain ⟨now, later⟩ := List.forall_mem_cons.mp checked
    exact ih (h.step first.1 first.2) (h.linked_wellFormed_step whole first.1 now) later

/-- What holds of the store after any steps, and what holds of it if they are all checked. -/
theorem store_integrity (ttl : Micros) (steps : List (Micros × Action)) :
    ((start ttl).run steps).2.service.store.Consistent ∧
      ((∀ step ∈ steps, step.2.isChecked = true) →
        ((start ttl).run steps).2.service.store.Linked ∧
          ((start ttl).run steps).2.service.store.WellFormed) :=
  ⟨((isOrderly_start ttl).run steps).consistent,
    (isOrderly_start ttl).linked_wellFormed_run ⟨.empty, .empty⟩⟩

/-- The steps by which a first page comes to the public. Its template cannot go any more. -/
def firstPage : List (Micros × Action) :=
  [(0, .perform (.createCustomer (some "Ann") (some "ann@example.com"))),
   (0, .submit .newTemplate
     (.obj [("name", .str "Plain"), ("html_content", .str "<p>\x7b\x7btitle\x7d\x7d</p>")])),
   (0, .submit .newPage
     (.obj [("template_id", .str (identifier 10 1).text),
       ("customer_id", .str (identifier 12 0).text), ("name", .str "First"),
       ("slug", .str "first")])),
   (0, .perform (.publish (identifier 11 2))),
   (0, .perform (.deleteTemplate (identifier 10 1)))]

theorem store_integrity_firstPage :
    ((start 60).run firstPage).2.service.store.pages.map (·.slug) = ["first"] ∧
      ((start 60).run firstPage).2.service.store.Linked ∧
        ((start 60).run firstPage).2.service.store.WellFormed :=
  ⟨by decide +kernel, (store_integrity 60 firstPage).2 (by decide)⟩

end PagePress.Session
