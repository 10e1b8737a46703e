import PagePress.Proofs.Session.Rendering
import PagePress.Proofs.Store.Elements

/-!
# What a document depends on

A document is made from the name, the style sheet and the theme of a page, the markup and the style
sheet of its template, and the contents under the keys of its elements. Where these are the same, so
is the document, by whatever steps they came to be as they are, and whatever else is stored.
-/

namespace PagePress

/-- Two pages, each in a store, agree in what their documents are made from. -/
structure Store.SameMakings (a b : Store) (page other : Page) : Prop where
  name : page.name = other.name
  customCss : page.customCss = other.customCss
  theme : page.theme = other.theme
  template : (a.template? page.templateId).map (fun t => (t.html, t.css)) =
    (b.template? other.templateId).map fun t => (t.html, t.css)
  contents : ∀ key, (a.element? page.id key).map (·.content) =
    (b.element? other.id key).map (·.content)

theorem Store.SameMakings.source?_eq {a b : Store} {page other : Page}
    (h : a.SameMakings b page other) (ha : a.Consistent) (hb : b.Consistent) :
    a.source? page = b.source? other := by
  have contents : (a.elementsOf page.id).map (fun e => (e.key, e.content)) =
      (b.elementsOf other.id).map fun e => (e.key, e.content) :=
    contentsOf_congr ha hb h.contents
  have template := h.template
  unfold source?
  cases found : a.template? page.templateId with
  | none =>
    rw [found, Option.map_none] at template
    rw [Option.map_eq_none_iff.mp template.symm]
    rfl
  | some made =>
    rw [found, Option.map_some] at template
    obtain ⟨made', found', parts⟩ := Option.map_eq_some_iff.mp template.symm
    obtain ⟨html, css⟩ := Prod.mk.inj parts
    rw [found', Option.map_some, Option.map_some, h.name, h.customCss, h.theme, contents, html, css]

/-- A page is shown under the slug, and the next step finds no document for the slug in the cache
that is still live. -/
structure Session.ShowsAnew (session : Session) (pause : Micros) (slug : String) (page : Page) :
    Prop where
  shown : session.service.store.Shows slug page
  expired : ∀ e ∈ session.service.cache.entries, e.slug = slug →
    e.expires ≤ (session.nextTurn pause).now

namespace Session

variable {session : Session} {pause pause' : Micros} {slug : String} {page page' : Page}

/-- A step that renders the slug then makes the document of the page. -/
theorem ShowsAnew.exists_source (h : session.ShowsAnew pause slug page)
    (orderly : session.IsOrderly) (linked : session.service.store.Linked) :
    ∃ source, session.service.store.source? page = some source ∧
      (session.step pause (.perform (.render slug))).1 =
        .value (Rendering.document source.document false).toJson := by
  obtain ⟨source, has, document⟩ := linked.exists_source orderly.consistent h.shown.stored
  refine ⟨source, has, ?_⟩
  let event : Event := { found := session, pause, action := .perform (.render slug) }
  obtain ⟨outcome, rendered, answered⟩ := event.exists_rendered_answer orderly rfl
  change event.answer = _
  cases rendered with
  | hit kept own live => exact absurd live (Int.not_lt.mpr (h.expired _ kept own))
  | missing hidden => exact absurd h.shown (hidden page)
  | failed shown failed =>
    rw [shown.unique orderly.consistent h.shown, document] at failed
    cases failed
  | made shown made =>
    rw [shown.unique orderly.consistent h.shown, document] at made
    rw [answered, ← Except.ok.inj made]
    rfl

/-- After any two sessions of checked steps, a slug is rendered to the same document if the pages
shown under it agree in what documents are made from, and no cache has a document for it. -/
theorem render_forgets_history {ttl ttl' : Micros} {steps steps' : List (Micros × Action)}
    (checked : ∀ step ∈ steps, step.2.isChecked = true)
    (checked' : ∀ step ∈ steps', step.2.isChecked = true)
    (shows : ((start ttl).run steps).2.ShowsAnew pause slug page)
    (shows' : ((start ttl').run steps').2.ShowsAnew pause' slug page')
    (same : ((start ttl).run steps).2.service.store.SameMakings
      ((start ttl').run steps').2.service.store page page') :
    ∃ made : Document,
      (((start ttl).run steps).2.step pause (.perform (.render slug))).1 =
          .value (Rendering.document made false).toJson ∧
        (((start ttl').run steps').2.step pause' (.perform (.render slug))).1 =
          .value (Rendering.document made false).toJson := by
  have orderly : ((start ttl).run steps).2.IsOrderly := (isOrderly_start ttl).run steps
  have orderly' : ((start ttl').run steps').2.IsOrderly := (isOrderly_start ttl').run steps'
  obtain ⟨linked, -⟩ := (isOrderly_start ttl).linked_wellFormed_run ⟨.empty, .empty⟩ checked
  obtain ⟨linked', -⟩ := (isOrderly_start ttl').linked_wellFormed_run ⟨.empty, .empty⟩ checked'
  obtain ⟨source, has, answer⟩ := shows.exists_source orderly linked
  obtain ⟨source', has', answer'⟩ := shows'.exists_source orderly' linked'
  have sources : some source = some source' :=
    calc some source = ((start ttl).run steps).2.service.store.source? page := has.symm
      _ = ((start ttl').run steps').2.service.store.source? page' :=
        same.source?_eq orderly.consistent orderly'.consistent
      _ = some source' := has'
  obtain rfl := Option.some.inj sources
  exact ⟨source.document, answer, answer'⟩

/-- The first page gets a second element, and has been visited. -/
def grownPage : List (Micros × Action) :=
  firstPage ++
    [(0, .perform (.setContent (identifier 11 2) "title" "Hello")),
     (0, .perform (.render "first")),
     (0, .perform (.setContent (identifier 11 2) "note" "New"))]

/-- A page like it, of another customer and another template, whose title has been made a second
time. -/
def rebuiltPage : List (Micros × Action) :=
  [(0, .perform (.createCustomer (some "Bob") (some "bob@example.com"))),
   (0, .perform (.createCustomer (some "Ann") (some "ann@example.com"))),
   (0, .submit .newTemplate
     (.obj [("name", .str "Other"), ("html_content", .str "<p>\x7b\x7btitle\x7d\x7d</p>")])),
   (0, .submit .newPage
     (.obj [("template_id", .str (identifier 10 2).text),
       ("customer_id", .str (identifier 12 1).text), ("name", .str "First"),
       ("slug", .str "first")])),
   (0, .perform (.setContent (identifier 11 3) "note" "New")),
   (0, .perform (.deleteElement (identifier 11 3) "title")),
   (0, .submit (.newElement (identifier 11 3))
     (.obj [("element_key", .str "title"), ("type", .str "IMAGE"), ("content", .str "Hello")])),
   (0, .perform (.publish (identifier 11 3)))]

theorem render_forgets_history_rebuiltPage :
    (∀ step ∈ grownPage, step.2.isChecked = true) ∧
    (∀ step ∈ rebuiltPage, step.2.isChecked = true) ∧
    ∃ page page',
      ((start (60 * second)).run grownPage).2.ShowsAnew (60 * second) "first" page ∧
      ((start 0).run rebuiltPage).2.ShowsAnew 0 "first" page' ∧
      ((start (60 * second)).run grownPage).2.service.store.SameMakings
        ((start 0).run rebuiltPage).2.service.store page page' ∧
      ∃ made : Document,
        (((start (60 * second)).run grownPage).2.step (60 * second)
          (.perform (.render "first"))).1 = .value (Rendering.document made false).toJson ∧
        (((start 0).run rebuiltPage).2.step 0 (.perform (.render "first"))).1 =
          .value (Rendering.document made false).toJson := by
  have checked : ∀ step ∈ grownPage, step.2.isChecked = true := by decide
  have checked' : ∀ step ∈ rebuiltPage, step.2.isChecked = true := by decide
  have found : ∃ page ∈ ((start (60 * second)).run grownPage).2.service.store.pages,
      page.slug = "first" ∧ page.isPublished = true ∧ page.id = identifier 11 2 ∧
        page.templateId = identifier 10 1 ∧ page.name = "First" ∧ page.customCss = none ∧
          page.theme = none := by
    decide +kernel
  have found' : ∃ page ∈ ((start 0).run rebuiltPage).2.service.store.pages,
      page.slug = "first" ∧ page.isPublished = true ∧ page.id = identifier 11 3 ∧
        page.templateId = identifier 10 2 ∧ page.name = "First" ∧ page.customCss = none ∧
          page.theme = none := by
    decide +kernel
  obtain ⟨page, stored, slug, isPublished, id, templateId, name, customCss, theme⟩ := found
  obtain ⟨page', stored', slug', isPublished', id', templateId', name', customCss', theme'⟩ :=
    found'
  have shows : ((start (60 * second)).run grownPage).2.ShowsAnew (60 * second) "first" page :=
    ⟨⟨stored, slug, isPublished⟩, by decide +kernel⟩
  have shows' : ((start 0).run rebuiltPage).2.ShowsAnew 0 "first" page' :=
    ⟨⟨stored', slug', isPublished'⟩, by decide +kernel⟩
  have contents : ((start (60 * second)).run grownPage).2.service.store.elements.map
      (fun e => (e.pageId, e.key, e.content)) =
        [(identifier 11 2, "title", "Hello"), (identifier 11 2, "note", "New")] := by
    decide +kernel
  have contents' : ((start 0).run rebuiltPage).2.service.store.elements.map
      (fun e => (e.pageId, e.key, e.content)) =
        [(identifier 11 3, "note", "New"), (identifier 11 3, "title", "Hello")] := by
    decide +kernel
  have same : ((start (60 * second)).run grownPage).2.service.store.SameMakings
      ((start 0).run rebuiltPage).2.service.store page page' :=
    { name := name.trans name'.symm
      customCss := customCss.trans customCss'.symm
      theme := theme.trans theme'.symm
      template := by
        rw [templateId, templateId']
        decide +kernel
      contents := by
        intro key
        rw [id, id', Store.map_content_element?, Store.map_content_element?, contents, contents']
        by_cases title : "title" = key
        · subst title
          simp
        · by_cases note : "note" = key
          · subst note
            simp
          · simp [title, note] }
  exact ⟨checked, checked', page, page', shows, shows', same,
    render_forgets_history checked checked' shows shows' same⟩

end Session

end PagePress
