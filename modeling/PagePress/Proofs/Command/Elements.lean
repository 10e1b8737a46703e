import PagePress.Proofs.Command.Run
import PagePress.Proofs.Publishing.Refinement

/-!
# Commands and elements

A command leaves the elements of a page alone. A page that it creates has an element for each
variable of its template when the command is done.
-/

namespace PagePress

variable {turn : Turn} {store store' : Store} {pageId : Uuid}

namespace Operation.IsSetup

variable {op : Operation}

theorem elementMap?_eq (setup : op.IsSetup) (effect : Effect turn store op store')
    (fresh : turn.IsFreshFor store op) (consistent : store.Consistent) {page : Page}
    (found : store.page? pageId = some page) :
    store'.elementMap? pageId = some (store.elementMap pageId) := by
  rw [effect.elementMap?_eq_next setup.isValid fresh consistent found]
  cases setup <;> rfl

/-- What sets things up leaves a page with its template, and the template as it is. -/
theorem exists_template (setup : op.IsSetup) (effect : Effect turn store op store')
    (fresh : turn.IsFreshFor store op) (consistent : store.Consistent) {page : Page}
    {template : Template} (found : store.page? pageId = some page)
    (origin : store.template? page.templateId = some template) :
    ∃ page', store'.page? pageId = some page' ∧
      store'.template? page'.templateId = some template := by
  cases setup with
  | createCustomer =>
    cases effect with
    | nothing reading => cases reading
    | pageChanged given => cases given
    | customerAdded written =>
      obtain ⟨-, -, -, -, rfl⟩ := Store.insertCustomer_eq_some_iff.mp written
      exact ⟨page, found, origin⟩
  | createTemplate =>
    cases effect with
    | nothing reading => cases reading
    | pageChanged given => cases given
    | templateAdded => exact ⟨page, found, Store.template?_insertTemplate origin⟩
  | createPage =>
    cases effect with
    | nothing reading => cases reading
    | pageChanged given => cases given
    | pageAdded _ written =>
      have other : pageId ≠ turn.pageId := by
        obtain ⟨mem, own⟩ := Store.page?_eq_some found
        exact fun same => fresh page mem (own.trans same)
      obtain ⟨samePage, -⟩ := Store.of_insertPage_of_ne consistent fresh written other
      obtain ⟨-, -, _, -, -, rfl⟩ := (Store.insertPage_eq_some_iff consistent.places).mp written
      exact ⟨page, samePage.trans found, origin⟩
  | publish id =>
    cases effect with
    | nothing reading => cases reading
    | @pageChanged _ _ _ old page' _ given found' written =>
      obtain ⟨hrow, -, rfl⟩ := Store.updatePage_eq_some_iff.mp written
      obtain ⟨-, -, -, hpage⟩ := PageValues.row?_eq_some_iff.mp hrow
      refine ⟨if page.id = page'.id then page' else page,
        by rw [Store.page?_replacePage, found]; rfl, ?_⟩
      by_cases same : page.id = page'.id
      · -- the page that is published is the one that was found
        have old_eq : old = page := by
          refine consistent.pageIds.eq_of_mem (Store.page?_eq_some found').1
            (Store.page?_eq_some found).1 ?_
          rw [same, hpage]
        rw [if_pos same, hpage, old_eq]
        exact origin
      · rw [if_neg same]
        exact origin

theorem isInitial (setup : op.IsSetup) (effect : Effect turn store op store')
    (fresh : turn.IsFreshFor store op) (consistent : store.Consistent)
    (initial : store.IsInitial pageId) : store'.IsInitial pageId := by
  obtain ⟨page, template, found, origin, map⟩ := initial
  obtain ⟨page', found', origin'⟩ := setup.exists_template effect fresh consistent found origin
  have kept := setup.elementMap?_eq effect fresh consistent found
  exact ⟨page', template, found', origin', (Store.elementMap?_eq_some_iff.mp kept).2.trans map⟩

end Operation.IsSetup

/-- What a command does to the elements of a page. -/
structure SetsUp (pageId : Uuid) (store store' : Store) : Prop where
  kept : ∀ page, store.page? pageId = some page →
    store'.elementMap? pageId = some (store.elementMap pageId)
  made : store.page? pageId = none → store'.page? pageId = none ∨ store'.IsInitial pageId
  initial : store.IsInitial pageId → store'.IsInitial pageId

theorem Setup.setsUp (setup : Setup turn store store') (consistent : store.Consistent)
    (linked : store.Linked) (pageId : Uuid) : SetsUp pageId store store' := by
  obtain ⟨ops, effects, setups⟩ := setup
  induction effects with
  | done => exact ⟨fun _ found => Store.elementMap?_of_found found, .inl, id⟩
  | next fresh effect _ ih =>
    obtain ⟨first, rest⟩ := List.forall_mem_cons.mp setups
    have later := ih (effect.consistent fresh consistent)
      (effect.linked first.isValid consistent linked) rest
    refine ⟨fun page found => ?_, fun missing => ?_, fun initial => ?_⟩
    · have kept := first.elementMap?_eq effect fresh consistent found
      obtain ⟨⟨page', found'⟩, map⟩ := Store.elementMap?_eq_some_iff.mp kept
      rw [later.kept page' found', map]
    · rcases effect.missing_or_isInitial first.isValid fresh consistent linked missing with
        missing | initial
      · exact later.made missing
      · exact .inr (later.initial initial)
    · exact later.initial (first.isInitial effect fresh consistent initial)

end PagePress
