import PagePress.Command.Run
import PagePress.Proofs.Publishing.Sequence

/-!
# What commands do

A command carries out operations, several of them in the case of the demonstration. All of them set
things up: they create customers, templates and pages, and publish pages.
-/

namespace PagePress

/-- What commands do: they create things, and publish pages. -/
inductive Operation.IsSetup : Operation → Prop where
  | createCustomer (name email : Option String) : IsSetup (.createCustomer name email)
  | createTemplate {data : NewTemplate} (valid : data.IsValid) : IsSetup (.createTemplate data)
  | createPage {data : NewPage} (valid : data.IsValid) : IsSetup (.createPage data)
  | publish (id : Uuid) : IsSetup (.publish id)

theorem Operation.IsSetup.isValid {op : Operation} (setup : op.IsSetup) : op.IsValid := by
  cases setup with
  | createCustomer | publish => rfl
  | createTemplate valid | createPage valid => exact valid

/-- Operations that set things up, carried out one after the other in one turn, lead from one store
to the other. -/
def Setup (turn : Turn) (store store' : Store) : Prop :=
  ∃ ops, Effects turn store ops store' ∧ ∀ op ∈ ops, op.IsSetup

namespace Setup

variable {turn : Turn} {store mid store' : Store}

theorem refl (turn : Turn) (store : Store) : Setup turn store store :=
  ⟨[], .done, by simp⟩

theorem of_effect {op : Operation} (setup : op.IsSetup) (fresh : turn.IsFreshFor store op)
    (effect : Effect turn store op store') : Setup turn store store' :=
  ⟨[op], .next fresh effect .done, by simpa using setup⟩

theorem trans (first : Setup turn store mid) (second : Setup turn mid store') :
    Setup turn store store' := by
  obtain ⟨ops, effects, setup⟩ := first
  obtain ⟨ops', effects', setup'⟩ := second
  exact ⟨ops ++ ops', effects.append effects', List.forall_mem_append.mpr ⟨setup, setup'⟩⟩

end Setup

theorem Demo.template_isValid : Demo.template.IsValid where
  name := show IsName "Demo landing" from ⟨by decide, by decide⟩
  html := by simp [Demo.template]

namespace Command

variable {turn : Turn} {store store' : Store}

theorem setup_of_addCustomer (fresh : turn.IsFresh store) (name email : String) :
    Setup turn store (addCustomer store turn name email).2 := by
  unfold addCustomer
  split
  · exact .refl turn store
  · split
    · rename_i written
      exact .of_effect (.createCustomer _ _) (fresh.for _) (.customerAdded written)
    · exact .refl turn store

/-- The customer of the demonstration is found or added, and nothing else changes. -/
theorem setup_of_demoCustomer (fresh : turn.IsFresh store) {email : String} {customer : Customer}
    (h : demoCustomer store turn email = some (customer, store')) :
    Setup turn store store' ∧ store'.templates = store.templates ∧
      store'.pages = store.pages := by
  unfold demoCustomer at h
  split at h
  · cases h
    exact ⟨.refl turn store, rfl, rfl⟩
  · have setup : Setup turn store store' :=
      .of_effect (.createCustomer _ _) (fresh.for _) (.customerAdded h)
    obtain ⟨-, -, -, -, rfl⟩ := Store.insertCustomer_eq_some_iff.mp h
    exact ⟨setup, rfl, rfl⟩

/-- Making the demonstration's page and publishing it are operations that need no more than a new
identifier for the page. -/
theorem setup_of_demoPage (fresh : ∀ page ∈ store.pages, page.id ≠ turn.pageId)
    {templateId customerId : Uuid} {slug : String} {page : Page}
    (h : demoPage store turn templateId customerId slug = .ok (page, store')) :
    Setup turn store store' := by
  obtain ⟨data, hdata, hrest⟩ := Outcome.bind_eq_ok_iff.mp h
  obtain ⟨⟨made, mid⟩, hcreate, hpublish⟩ := Outcome.bind_eq_ok_iff.mp hrest
  obtain ⟨draft, drafted, written⟩ := Publishing.of_createPage hcreate
  obtain ⟨old, found, changed⟩ := Publishing.of_updatePage hpublish
  have valid : data.IsValid := Request.of_newPage (Outcome.mapError_eq_ok_iff.mp hdata)
  have created : Setup turn store mid :=
    .of_effect (.createPage valid) fresh (.pageAdded drafted written)
  have published : Setup turn mid store' :=
    .of_effect (.publish made.id) trivial (.pageChanged rfl found changed)
  exact created.trans published

theorem setup_of_seed (fresh : turn.IsFresh store) (slug email : String) :
    Setup turn store (seed store turn slug email).2 := by
  unfold seed
  split
  · exact .refl turn store
  · rename_i customer mid found
    obtain ⟨first, sameTemplates, samePages⟩ := setup_of_demoCustomer fresh found
    have second : Setup turn mid
        (Publishing.createTemplate mid turn.now turn.templateId Demo.template).2 :=
      .of_effect (.createTemplate Demo.template_isValid)
        (fun template mem => fresh.template template (sameTemplates ▸ mem)) .templateAdded
    have freshPage : ∀ page ∈ (Publishing.createTemplate mid turn.now turn.templateId
        Demo.template).2.pages, page.id ≠ turn.pageId := by
      intro page mem
      exact fresh.page page (samePages ▸ (show page ∈ mid.pages from mem))
    generalize Publishing.createTemplate mid turn.now turn.templateId Demo.template = created
      at second freshPage
    obtain ⟨template, mid'⟩ := created
    dsimp only at second freshPage ⊢
    split
    · rename_i page store' made
      exact first.trans (second.trans (setup_of_demoPage freshPage made))
    · exact first.trans second
    · exact first.trans second

/-- A command changes the store by setting things up. -/
theorem setup_of_runLine (fresh : turn.IsFresh store) (words : List String) :
    Setup turn store (runLine store turn words).2 := by
  unfold runLine
  split
  · rename_i command _
    cases command with
    | createCustomer name email => exact setup_of_addCustomer fresh name email
    | seedDemo slug email => exact setup_of_seed fresh slug email
    | render slug => exact .refl turn store
  · exact .refl turn store

end Command

end PagePress
