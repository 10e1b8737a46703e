import PagePress.Proofs.Publishing.Date
import PagePress.Proofs.Session.History
import PagePress.Proofs.Session.Integrity
import PagePress.Proofs.Store.Listing
import PagePress.View.Page

/-!
# Listings in sessions

As the clock goes forward, no two pages and no two templates of a session are of one age, whatever
has been changed in them. So in every state that a session reaches, a listing holds exactly what it
is asked for, in the order of creation.
-/

namespace PagePress

/-! ## The number of elements -/

theorem Store.length_elementsOf (store : Store) (pageId : Uuid) :
    (store.elementsOf pageId).length = store.elements.countP (·.pageId = pageId) := by
  rw [elementsOf, List.length_mergeSort, List.countP_eq_length_filter]

/-- What is shown of a page in a list tells the number of its elements. -/
theorem PageItem.elementCount_of_ofPage {store : Store} {page : Page} {item : PageItem}
    (shown : ofPage store page = .ok item) :
    item.elementCount = store.elements.countP (·.pageId = page.id) := by
  obtain ⟨_, customer, made, -, rfl⟩ := Checked.and_eq_ok_iff.mp shown
  obtain ⟨template, -, rfl⟩ := Outcome.map_eq_ok_iff.mp made
  exact store.length_elementsOf page.id

/-! ## Dates -/

def Event.Creates (event : Event) (dates : Store → List (Uuid × Micros)) (id : Uuid) : Prop :=
  id ∉ (dates event.store).map (·.1) ∧ id ∈ (dates event.left.service.store).map (·.1)

/-- The dates are those of the steps that created the things, in the order of these steps. -/
structure IsChronicle (past : List Event) (now : Micros) (dates : Store → List (Uuid × Micros))
    (store : Store) : Prop where
  ordered : (dates store).Pairwise fun first next => first.2 < next.2
  passed : ∀ date ∈ dates store, date.2 ≤ now
  created : ∀ date ∈ dates store, ∃ event ∈ past, event.time = date.2 ∧ event.Creates dates date.1

namespace IsChronicle

variable {past : List Event} {dates : Store → List (Uuid × Micros)}

theorem step (event : Event) (h : IsChronicle past event.found.now dates event.store)
    (forward : 0 ≤ event.pause) {id : Uuid} (new : id ∉ (dates event.store).map (·.1))
    (grown : (dates event.left.service.store).Sublist (dates event.store ++ [(id, event.time)])) :
    IsChronicle (past ++ [event]) event.left.now dates event.left.service.store := by
  have later : event.found.now < event.time :=
    Int.lt_of_lt_of_le (Int.lt_add_of_pos_right _ (by decide)) (Int.le_add_of_nonneg_right forward)
  refine ⟨?_, fun date mem => ?_, fun date mem => ?_⟩
  · refine List.Pairwise.sublist grown (List.pairwise_append.mpr
      ⟨h.ordered, List.pairwise_singleton _ _, fun date mem last isLast => ?_⟩)
    obtain rfl := List.mem_singleton.mp isLast
    exact Int.lt_of_le_of_lt (h.passed date mem) later
  · rcases List.mem_append.mp (grown.subset mem) with old | isLast
    · exact Int.le_trans (h.passed date old) (Int.le_of_lt later)
    · obtain rfl := List.mem_singleton.mp isLast
      exact Int.le_refl _
  · rcases List.mem_append.mp (grown.subset mem) with old | isLast
    · obtain ⟨creation, known, date⟩ := h.created date old
      exact ⟨creation, List.mem_append_left _ known, date⟩
    · obtain rfl := List.mem_singleton.mp isLast
      exact ⟨event, by simp, rfl, new, List.mem_map_of_mem mem⟩

theorem nodup_ages {now : Micros} {store : Store} (h : IsChronicle past now dates store) :
    ((dates store).map (·.2)).Nodup :=
  List.pairwise_map.mpr (h.ordered.imp Int.ne_of_lt)

end IsChronicle

namespace Session

/-- As long as the clock does not go back, what is stored is dated by its creation. -/
theorem isChronicle_run (ttl : Micros) {steps : List (Micros × Action)}
    (forward : ∀ step ∈ steps, 0 ≤ step.1) :
    let session := ((start ttl).run steps).2
    let past := (start ttl).history steps
    IsChronicle past session.now Store.pageDates session.service.store ∧
      IsChronicle past session.now Store.templateDates session.service.store := by
  have all := history_induction
    (motive := fun past session => session.IsOrderly ∧
      IsChronicle past session.now Store.pageDates session.service.store ∧
      IsChronicle past session.now Store.templateDates session.service.store)
    ⟨isOrderly_start ttl,
      ⟨.nil, by simp [start, Store.pageDates], by simp [start, Store.pageDates]⟩,
      .nil, by simp [start, Store.templateDates], by simp [start, Store.templateDates]⟩
    fun past found next mem ⟨orderly, pages, templates⟩ => by
      have fresh := orderly.isFresh_nextTurn next.1
      obtain ⟨ops, effects, -⟩ := effects_of_act fresh next.2
      obtain ⟨pagesGrown, templatesGrown⟩ := effects.dates_sublist orderly.consistent
      refine ⟨orderly.step next.1 next.2, ?_, ?_⟩
      · refine pages.step ⟨found, next.1, next.2⟩ (forward next mem) ?_ pagesGrown
        simpa [Store.pageDates] using fresh.page
      · refine templates.step ⟨found, next.1, next.2⟩ (forward next mem) ?_ templatesGrown
        simpa [Store.templateDates] using fresh.template
  exact all.2

/-- In every state that a session reaches while the clock goes forward, a listing of pages holds
exactly those of the customer in whose name or slug the search text is found, each once and behind
those created after it, and each counts its elements; a listing of templates does the same by name
and description. A text without wildcards is found where it is a piece of a text. -/
theorem listings_are_exact (ttl : Micros) {steps : List (Micros × Action)}
    (forward : ∀ step ∈ steps, 0 ≤ step.1) (turn : Turn) (customerId : Option Uuid)
    {search : Option String} (searchable : Store.IsSearchable search) :
    let service := ((start ttl).run steps).2.service
    let store := service.store
    let past := (start ttl).history steps
    (∃ pages, service.perform turn (.listPages customerId search) = .ok (.pages pages, service) ∧
      Store.Lists (·.createdAt) store.pages (fun page =>
        (∀ id ∈ customerId, page.customerId = id) ∧
          Store.IsFoundIn search [page.name, page.slug]) pages ∧
      ∀ page ∈ pages,
        (store.elementsOf page.id).length = store.elements.countP (·.pageId = page.id) ∧
        ∀ item, PageItem.ofPage store page = .ok item →
          item.elementCount = store.elements.countP (·.pageId = page.id)) ∧
    (∃ templates, service.perform turn (.listTemplates search) =
        .ok (.templates templates, service) ∧
      Store.Lists (·.createdAt) store.templates (fun template =>
        Store.IsFoundIn search (template.name :: template.description.toList)) templates) ∧
    (∀ page ∈ store.pages, ∃ event ∈ past,
      event.time = page.createdAt ∧ event.Creates Store.pageDates page.id) ∧
    (∀ template ∈ store.templates, ∃ event ∈ past,
      event.time = template.createdAt ∧ event.Creates Store.templateDates template.id) ∧
    (∀ s ∈ search, (∀ c ∈ s.toList, c ≠ '%' ∧ c ≠ '_') → ∀ text,
      Text.Like (Text.within (Text.asRead s)) (Text.asRead text) ↔
        Text.asRead s <:+: Text.asRead text) ∧
    ∀ text : String, (∀ c ∈ text.toList, c ≠ '\x00' ∧ c ≠ '\uFFFE' ∧ c ≠ '\uFFFF') →
      Text.asRead text = text.toList.map Char.toLower := by
  intro service store past
  obtain ⟨pageDates, templateDates⟩ := isChronicle_run ttl forward
  have pageAges : (store.pages.map (·.createdAt)).Nodup := by
    simpa [Store.pageDates, Function.comp_def] using pageDates.nodup_ages
  have templateAges : (store.templates.map (·.createdAt)).Nodup := by
    simpa [Store.templateDates, Function.comp_def] using templateDates.nodup_ages
  obtain ⟨pages, pagesTold, pagesListed⟩ :=
    Store.exists_listPages pageAges searchable customerId
  obtain ⟨templates, templatesTold, templatesListed⟩ :=
    Store.exists_listTemplates templateAges searchable
  refine ⟨⟨pages, ?_, pagesListed, fun page _ => ?_⟩, ⟨templates, ?_, templatesListed⟩, ?_, ?_, ?_,
    fun _ => Text.asRead_eq_map_toLower⟩
  · exact congrArg (service.answer Result.pages) pagesTold
  · exact ⟨store.length_elementsOf page.id, fun _ => PageItem.elementCount_of_ofPage⟩
  · exact congrArg (service.answer Result.templates) templatesTold
  · intro page mem
    exact pageDates.created (page.id, page.createdAt) (List.mem_map_of_mem mem)
  · intro template mem
    exact templateDates.created (template.id, template.createdAt) (List.mem_map_of_mem mem)
  · intro s _ plain text
    exact Text.like_within_iff (Text.asRead_plain plain)

/-- A second page for the same customer, after which the first is changed. -/
def twoPages : List (Micros × Action) :=
  firstPage ++
    [(0, .submit .newPage
       (.obj [("template_id", .str (identifier 10 1).text),
         ("customer_id", .str (identifier 12 0).text), ("name", .str "Second"),
         ("slug", .str "second")])),
     (0, .submit (.pageChanges (identifier 11 2)) (.obj [("name", .str "Opening")]))]

theorem listings_are_exact_twoPages :
    let service := ((start 60).run twoPages).2.service
    let turn := ((start 60).run twoPages).2.nextTurn 0
    (∀ step ∈ twoPages, 0 ≤ step.1) ∧ Store.IsSearchable (some "S") ∧
    service.store.pages.map (fun page => (page.name, page.slug)) =
      [("Opening", "first"), ("Second", "second")] ∧
    ∃ pages, service.perform turn (.listPages none (some "S")) = .ok (.pages pages, service) ∧
      Store.Lists (·.createdAt) service.store.pages (fun page =>
        (∀ id ∈ none, page.customerId = id) ∧
          Store.IsFoundIn (some "S") [page.name, page.slug]) pages := by
  intro service turn
  have forward : ∀ step ∈ twoPages, 0 ≤ step.1 := by decide
  have searchable : Store.IsSearchable (some "S") := ⟨by decide, by decide⟩
  obtain ⟨⟨pages, answered, listed, -⟩, -⟩ :=
    listings_are_exact 60 forward turn none searchable
  exact ⟨forward, searchable, by decide +kernel, pages, answered, listed⟩

/-- Templates in whose names the storage does not read what is written there. -/
def oddNames : List (Micros × Action) :=
  [(0, .submit .newTemplate (.obj [("name", .str "a\x00b"), ("html_content", .str "x")])),
   (0, .submit .newTemplate (.obj [("name", .str "\uFFFE"), ("html_content", .str "x")]))]

/-- What stands behind a null character is not found, and one damaged character passes for the
other. -/
theorem oddNames_are_misread :
    let service := ((start 60).run oddNames).2.service
    service.store.templates.map (·.name) = ["a\x00b", "\uFFFE"] ∧
    "b".toList <:+: "a\x00b".toList ∧ ¬"\uFFFF".toList <:+: "\uFFFE".toList ∧
    (service.store.listTemplates (some "b")).map (·.map (·.name)) = .ok [] ∧
    (service.store.listTemplates (some "\uFFFF")).map (·.map (·.name)) = .ok ["\uFFFE"] := by
  decide +kernel

end Session

end PagePress
