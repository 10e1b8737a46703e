import PagePress.Proofs.Publishing.Creation
import PagePress.Proofs.Session.Integrity

/-!
# Creating pages in sessions

In every state that a session reaches, what comes of a request for a new page is settled by three
questions to the store, asked in turn: for the template, for the customer, and for the slug. If
nothing stands against it, the page is stored with the elements that its template's preview shows in
the same state.
-/

namespace PagePress

namespace Session

/-- As long as all data is checked, the next step comes with an identifier that no page has and no
element refers to. -/
theorem isNew_nextTurn (ttl : Micros) {steps : List (Micros × Action)}
    (checked : ∀ step ∈ steps, step.2.isChecked = true) (pause : Micros) :
    ((start ttl).run steps).2.service.store.IsNew
      (((start ttl).run steps).2.nextTurn pause).pageId := by
  obtain ⟨linked, -⟩ := (isOrderly_start ttl).linked_wellFormed_run ⟨.empty, .empty⟩ checked
  exact linked.isNew (((isOrderly_start ttl).run steps).isFresh_nextTurn pause).page

/-- A page for the same customer and from the same template as the first. -/
def secondPage : NewPage where
  templateId := identifier 10 1
  customerId := identifier 12 0
  name := "Second"
  slug := "second"
  customCss := none

end Session

end PagePress
