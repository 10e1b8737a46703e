import PagePress.Proofs.Publishing.Rendering
import PagePress.Proofs.Session.Integrity
import PagePress.Proofs.Store.Elements

/-!
# Privacy of drafts

Two stores look alike to the public if they agree on templates and on published pages with their
elements. Visitors cannot tell such stores apart, whatever drafts they hold: not by what they are
shown, and not by what is kept in the cache.
-/

namespace PagePress

namespace Store

/-- Stores that differ in nothing but customers and unpublished pages. -/
structure PublicEq (a b : Store) : Prop where
  templates : ∀ template, template ∈ a.templates ↔ template ∈ b.templates
  pages : ∀ page, page.isPublished = true → (page ∈ a.pages ↔ page ∈ b.pages)
  elements : ∀ page ∈ a.pages, page.isPublished = true → ∀ e, e.pageId = page.id →
    (e ∈ a.elements ↔ e ∈ b.elements)

theorem publicEq_iff {a b : Store} :
    a.PublicEq b ↔
      (∀ template ∈ a.templates, template ∈ b.templates) ∧
      (∀ template ∈ b.templates, template ∈ a.templates) ∧
      (∀ page ∈ a.pages, page.isPublished = true → page ∈ b.pages) ∧
      (∀ page ∈ b.pages, page.isPublished = true → page ∈ a.pages) ∧
      (∀ page ∈ a.pages, page.isPublished = true →
        (∀ e ∈ a.elements, e.pageId = page.id → e ∈ b.elements) ∧
        ∀ e ∈ b.elements, e.pageId = page.id → e ∈ a.elements) := by
  constructor
  · intro h
    refine ⟨fun t => (h.templates t).mp, fun t => (h.templates t).mpr,
      fun p mem shown => (h.pages p shown).mp mem, fun p mem shown => (h.pages p shown).mpr mem, ?_⟩
    intro page mem shown
    exact ⟨fun e he own => (h.elements page mem shown e own).mp he,
      fun e he own => (h.elements page mem shown e own).mpr he⟩
  · rintro ⟨t, t', p, p', es⟩
    refine ⟨fun template => ⟨t template, t' template⟩,
      fun page shown => ⟨(p page · shown), (p' page · shown)⟩, ?_⟩
    intro page mem shown e own
    exact ⟨((es page mem shown).1 e · own), ((es page mem shown).2 e · own)⟩

instance (a b : Store) : Decidable (a.PublicEq b) := decidable_of_iff _ publicEq_iff.symm

namespace PublicEq

variable {a b : Store} {slug : String} {page : Page}

theorem shows_iff (h : a.PublicEq b) : a.Shows slug page ↔ b.Shows slug page := by
  constructor
  · rintro ⟨stored, hslug, published⟩
    exact ⟨(h.pages page published).mp stored, hslug, published⟩
  · rintro ⟨stored, hslug, published⟩
    exact ⟨(h.pages page published).mpr stored, hslug, published⟩

section Consistent

variable (ha : a.Consistent) (hb : b.Consistent) (h : a.PublicEq b)
include ha hb h

theorem template?_eq (id : Uuid) : a.template? id = b.template? id := by
  ext template
  rw [ha.template?_eq_some_iff, hb.template?_eq_some_iff, h.templates]

theorem published?_eq (slug : String) :
    (a.pageWithSlug? slug).filter (·.isPublished) =
      (b.pageWithSlug? slug).filter (·.isPublished) := by
  ext page
  rw [ha.published?_eq_some_iff, hb.published?_eq_some_iff, h.shows_iff]

theorem document_eq (shown : a.Shows slug page) :
    Publishing.document a page = Publishing.document b page := by
  have elements : a.elementsOf page.id = b.elementsOf page.id :=
    elementsOf_congr ha hb (h.elements page shown.stored shown.isPublished)
  simp only [Publishing.document, source?, template?_eq ha hb h, elements]

/-- Rendering comes out the same in both stores. -/
theorem render_eq (cache : RenderCache) (now : Micros) (slug : String) :
    Publishing.render a cache now slug = Publishing.render b cache now slug := by
  unfold Publishing.render
  rw [← published?_eq ha hb h]
  split
  · rfl
  · split
    · rfl
    · rename_i page found
      rw [document_eq ha hb h (ha.published?_eq_some_iff.mp found)]

end Consistent

end PublicEq

end Store

/-- Whether the action is one that visitors can take: looking at a page. -/
def Action.isVisit : Action → Bool
  | .perform (.render _) => true
  | .request sent =>
    match Destination.find sent.method sent.address.path with
    | .endpoint (.showPage _) => true
    | _ => false
  | .command words =>
    match Command.ofArguments? words with
    | some (.render _) => true
    | _ => false
  | _ => false

/-- Services that look alike to the public: they can be told apart only by what is unpublished, and
their caches are the same. -/
structure Service.PublicEq (a b : Service) : Prop where
  left : a.store.Consistent
  right : b.store.Consistent
  store : a.store.PublicEq b.store
  cache : a.cache = b.cache

namespace Session

variable {a b : Service} {turn turn' : Turn}

/-- What visitors ask for only looks at what is stored. -/
theorem isReading_of_isVisit {action : Action} (visit : action.isVisit = true) {op : Operation}
    (asked : action.operation? = some op) : op.isReading = true := by
  cases action with
  | perform op' =>
    cases asked
    cases op with
    | render => rfl
    | _ => cases visit
  | request sent =>
    simp only [Action.isVisit] at visit
    split at visit
    · rename_i slug found
      simp only [Action.operation?, HttpRequest.operation?, found] at asked
      cases fault : sent.sendFault? with
      | some fault' => simp [fault] at asked
      | none =>
        rw [fault] at asked
        change (if sent.broken.any (Endpoint.showPage slug).uses then none
          else some (Operation.render slug)) = some op at asked
        split at asked <;> cases asked
        rfl
    · cases visit
  | command => cases asked
  | submit | showContents | describe => cases visit

/-- A visit leaves the store alone. -/
theorem act_visit_store (service : Service) (turn : Turn) {action : Action}
    (visit : action.isVisit = true) : (act service turn action).2.store = service.store := by
  rcases act_cases service turn action with ⟨words, rfl⟩ | ⟨-, left⟩ | ⟨op, asked, left⟩
  · simp only [Action.isVisit] at visit
    split at visit
    · rename_i slug read
      simp [act, Command.runLine, read, Command.run]
    · cases visit
  · rw [left]
  · rw [left]
    rcases service.effect_of_after turn op with same | effect
    · exact same
    · exact effect.eq_of_isReading (isReading_of_isVisit visit asked)

section PublicEq

variable (h : a.PublicEq b) (now : turn.now = turn'.now)
include h now

theorem perform_render_of_publicEq (slug : String) :
    (conclude a (a.perform turn (.render slug))).1 =
        (conclude b (b.perform turn' (.render slug))).1 ∧
      (conclude a (a.perform turn (.render slug))).2.cache =
        (conclude b (b.perform turn' (.render slug))).2.cache := by
  simp only [Service.perform, now, h.cache, h.store.render_eq h.left h.right]
  cases Publishing.render b.store b.cache turn'.now slug with
  | ok shown => exact ⟨rfl, rfl⟩
  | error failure => exact ⟨rfl, h.cache⟩

theorem carryOut_render_of_publicEq (id : String) (endpoint : Endpoint) (slug : String) :
    (a.carryOut turn id endpoint { operation := .render slug }).1 =
        (b.carryOut turn' id endpoint { operation := .render slug }).1 ∧
      (a.carryOut turn id endpoint { operation := .render slug }).2.cache =
        (b.carryOut turn' id endpoint { operation := .render slug }).2.cache := by
  simp only [Service.carryOut, Service.execute_of_storable, Service.perform, now, h.cache,
    h.store.render_eq h.left h.right]
  cases Publishing.render b.store b.cache turn'.now slug with
  | ok shown => exact ⟨rfl, rfl⟩
  | error failure => cases failure <;> exact ⟨rfl, h.cache⟩

theorem serve_showPage_of_publicEq (sent : HttpRequest) (slug : String) :
    (a.serve turn sent (.showPage slug)).1 = (b.serve turn' sent (.showPage slug)).1 ∧
      (a.serve turn sent (.showPage slug)).2.cache =
        (b.serve turn' sent (.showPage slug)).2.cache := by
  have serve_eq : ∀ (service : Service) turn, service.serve turn sent (.showPage slug) =
      if sent.broken.any (Endpoint.showPage slug).uses then
        (.ofBreakdown sent.id (.showPage slug), service)
      else service.carryOut turn sent.id (.showPage slug) { operation := .render slug } :=
    fun _ _ => rfl
  rw [serve_eq, serve_eq]
  split
  · exact ⟨rfl, h.cache⟩
  · exact carryOut_render_of_publicEq h now _ _ slug

theorem handle_showPage_of_publicEq {sent : HttpRequest} {slug : String}
    (found : Destination.find sent.method sent.address.path = .endpoint (.showPage slug)) :
    (a.handle turn sent).1 = (b.handle turn' sent).1 ∧
      (a.handle turn sent).2.cache = (b.handle turn' sent).2.cache := by
  obtain ⟨answers, caches⟩ := serve_showPage_of_publicEq h now sent slug
  simp only [Service.handle, Service.dispatch, found, answers]
  exact ⟨trivial, caches⟩

theorem print_of_publicEq (slug : String) :
    Command.print a.store turn slug = Command.print b.store turn' slug := by
  simp only [Command.print, now, h.store.render_eq h.left h.right]

/-- A visit to services that look alike gives the same answer, and leaves the same cache. -/
theorem act_visit_of_publicEq {action : Action} (visit : action.isVisit = true) :
    (act a turn action).1 = (act b turn' action).1 ∧
      (act a turn action).2.cache = (act b turn' action).2.cache := by
  cases action with
  | perform op =>
    cases op with
    | render slug => exact perform_render_of_publicEq h now slug
    | _ => cases visit
  | request sent =>
    simp only [Action.isVisit] at visit
    split at visit
    · rename_i slug found
      obtain ⟨answers, caches⟩ := handle_showPage_of_publicEq h now found
      simp only [act]
      split
      · exact ⟨rfl, h.cache⟩
      · exact ⟨congrArg Answer.response answers, caches⟩
    · cases visit
  | command words =>
    simp only [Action.isVisit] at visit
    split at visit
    · rename_i slug read
      refine ⟨?_, h.cache⟩
      simp only [act, Command.runLine, read, Command.run, print_of_publicEq h now]
    · cases visit
  | _ => cases visit

end PublicEq

/-- Sessions that look alike to the public still do so after a visit, to which they give the same
answer. -/
theorem step_visit_of_publicEq {a b : Session} (h : a.service.PublicEq b.service)
    (now : a.now = b.now) (pause : Micros) {action : Action} (visit : action.isVisit = true) :
    (a.step pause action).1 = (b.step pause action).1 ∧
      (a.step pause action).2.service.PublicEq (b.step pause action).2.service ∧
      (a.step pause action).2.now = (b.step pause action).2.now := by
  have nows : (a.nextTurn pause).now = (b.nextTurn pause).now := by simp only [nextTurn, now]
  obtain ⟨answers, caches⟩ := act_visit_of_publicEq h nows visit
  refine ⟨answers, ?_, nows⟩
  have left : (a.step pause action).2.service.store = a.service.store :=
    act_visit_store _ _ visit
  have right : (b.step pause action).2.service.store = b.service.store :=
    act_visit_store _ _ visit
  exact ⟨left ▸ h.left, right ▸ h.right, left ▸ right ▸ h.store, caches⟩

/-- Visitors are answered alike, one visit after the other, and leave the same cache behind. -/
theorem run_visits_of_publicEq {a b : Session} (h : a.service.PublicEq b.service)
    (now : a.now = b.now) {steps : List (Micros × Action)}
    (visits : ∀ step ∈ steps, step.2.isVisit = true) :
    (a.run steps).1 = (b.run steps).1 ∧
      (a.run steps).2.service.cache = (b.run steps).2.service.cache := by
  induction steps generalizing a b with
  | nil => exact ⟨rfl, h.cache⟩
  | cons first rest ih =>
    obtain ⟨visit, later⟩ := List.forall_mem_cons.mp visits
    obtain ⟨answer, alike, nows⟩ := step_visit_of_publicEq h now first.1 visit
    obtain ⟨answers, caches⟩ := ih alike nows later
    exact ⟨List.cons_eq_cons.mpr ⟨answer, answers⟩, caches⟩

/-- Next to the first page there is a draft. -/
def draftedPage : List (Micros × Action) :=
  firstPage ++
    [(0, .submit .newPage
      (.obj [("template_id", .str (identifier 10 1).text),
        ("customer_id", .str (identifier 12 0).text), ("name", .str "Second"),
        ("slug", .str "second")])),
     (0, .perform (.setContent (identifier 11 5) "title" "Not yet"))]

/-- A service that has stored what the steps store, and has rendered nothing yet. -/
def serviceAfter (steps : List (Micros × Action)) : Service :=
  { store := ((start 60).run steps).2.service.store, cache := { ttl := 60 * second } }

/-- A visitor looks for the draft and at the page. -/
def twoVisits : List (Micros × Action) :=
  [(0, .perform (.render "second")), (0, .perform (.render "first"))]

theorem run_visits_draftedPage :
    (∃ page ∈ (serviceAfter draftedPage).store.pages, page.slug = "second") ∧
      (Session.run { service := serviceAfter firstPage } twoVisits).1 =
        (Session.run { service := serviceAfter draftedPage } twoVisits).1 := by
  have alike : (serviceAfter firstPage).PublicEq (serviceAfter draftedPage) :=
    ⟨((isOrderly_start 60).run firstPage).consistent,
      ((isOrderly_start 60).run draftedPage).consistent, by decide +kernel, rfl⟩
  have visits : ∀ step ∈ twoVisits, step.2.isVisit = true := by decide
  refine ⟨by decide +kernel, ?_⟩
  exact (run_visits_of_publicEq (a := { service := serviceAfter firstPage })
    (b := { service := serviceAfter draftedPage }) alike rfl visits).1

end Session

end PagePress
