import PagePress.Proofs.Session.Freshness

/-!
# Rendering what was stored

As long as all data is checked, every page has its template, and its document can be made, whatever
markup, contents, style sheets and theme were stored: a theme that cannot be read falls back on the
light one. So a visitor always gets a document, or the answer for a missing page.
-/

namespace PagePress

/-- A page with a reference to a template that exists has a document. -/
theorem Store.Linked.exists_source {store : Store} (linked : store.Linked)
    (consistent : store.Consistent) {page : Page} (stored : page ∈ store.pages) :
    ∃ source, store.source? page = some source ∧
      Publishing.document store page = .ok source.document := by
  obtain ⟨template, mem, same⟩ :=
    List.mem_map.mp (linked.templates (List.mem_map_of_mem stored))
  have found : store.template? page.templateId = some template :=
    consistent.template?_eq_some_iff.mpr ⟨mem, same⟩
  have source : ∃ source, store.source? page = some source := by simp [Store.source?, found]
  obtain ⟨source, has⟩ := source
  exact ⟨source, has, by simp [Publishing.document, has]⟩

/-- A step that renders in an orderly session whose references are whole succeeds. -/
theorem Event.answer_of_linked {event : Event} {slug : String}
    (orderly : event.found.IsOrderly) (linked : event.store.Linked)
    (asked : event.action = .perform (.render slug)) :
    (∃ made fromCache, event.answer = .value (Rendering.document made fromCache).toJson) ∨
      event.answer = .value Rendering.notFound.toJson ∧
        ∀ page, ¬event.store.Shows slug page := by
  obtain ⟨outcome, rendered, answered⟩ := exists_rendered_answer orderly asked
  cases rendered with
  | hit | made => exact .inl ⟨_, _, answered⟩
  | missing hidden => exact .inr ⟨answered, hidden⟩
  | failed shown failed =>
    obtain ⟨source, -, made⟩ := linked.exists_source orderly.consistent shown.stored
    rw [made] at failed
    cases failed

namespace Session

/-- Whatever was stored by checked steps, every page has a document, and rendering answers with a
document or that no page is published. -/
theorem render_succeeds (ttl : Micros) {steps : List (Micros × Action)}
    (checked : ∀ step ∈ steps, step.2.isChecked = true) :
    let reached := ((start ttl).run steps).2
    (∀ page ∈ reached.service.store.pages, ∃ source,
      reached.service.store.source? page = some source ∧
        Publishing.document reached.service.store page = .ok source.document) ∧
    ∀ pause slug,
      (∃ made fromCache, (reached.step pause (.perform (.render slug))).1 =
        .value (Rendering.document made fromCache).toJson) ∨
      (reached.step pause (.perform (.render slug))).1 = .value Rendering.notFound.toJson ∧
        ∀ page, ¬reached.service.store.Shows slug page := by
  intro reached
  have orderly : reached.IsOrderly := (isOrderly_start ttl).run steps
  obtain ⟨linked, -⟩ := (isOrderly_start ttl).linked_wellFormed_run ⟨.empty, .empty⟩ checked
  refine ⟨fun page stored => linked.exists_source orderly.consistent stored, fun pause slug => ?_⟩
  let event : Event := { found := reached, pause, action := .perform (.render slug) }
  exact event.answer_of_linked orderly linked rfl

/-- The first page gets a theme that is no JSON, and its template a head and marked up content. -/
def brokenTheme : List (Micros × Action) :=
  firstPage ++
    [(0, .submit (.templateChanges (identifier 10 1))
       (.obj [("html_content", .str "<head></head><body>\x7b\x7b</body>"),
         ("css_content", .str "</style>")])),
     (0, .submit (.pageChanges (identifier 11 2)) (.obj [("theme", .str "\x7b\"palette\": [")]))]

theorem render_succeeds_brokenTheme :
    (∀ step ∈ brokenTheme, step.2.isChecked = true) ∧
    (∃ page, ((start 60).run brokenTheme).2.service.store.Shows "first" page ∧
      page.theme = some "\x7b\"palette\": [") ∧
    ∃ made fromCache,
      (((start 60).run brokenTheme).2.step 0 (.perform (.render "first"))).1 =
        .value (Rendering.document made fromCache).toJson := by
  have checked : ∀ step ∈ brokenTheme, step.2.isChecked = true := by decide
  have found : ∃ page ∈ ((start 60).run brokenTheme).2.service.store.pages,
      page.slug = "first" ∧ page.isPublished = true ∧
        page.theme = some "\x7b\"palette\": [" := by
    decide +kernel
  obtain ⟨page, stored, slug, isPublished, theme⟩ := found
  have shown : ((start 60).run brokenTheme).2.service.store.Shows "first" page :=
    ⟨stored, slug, isPublished⟩
  refine ⟨checked, ⟨page, shown, theme⟩, ?_⟩
  rcases (render_succeeds 60 checked).2 0 "first" with document | ⟨-, hidden⟩
  · exact document
  · exact absurd shown (hidden page)

end Session

end PagePress
