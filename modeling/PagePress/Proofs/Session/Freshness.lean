import PagePress.Proofs.Publishing.Rendering
import PagePress.Proofs.Session.History
import PagePress.Proofs.Session.Integrity
import PagePress.Proofs.Text.Loose

/-!
# Freshness

What a visitor sees is what the store says, or it was so when the document was made. Every entry of
the cache goes back to the last step that made a document for its slug, and is dropped when that
step lies as far back as an entry lives.
-/

namespace PagePress

def Answer.isHit : Answer → Bool
  | value v =>
    match v.field? "cache_hit" with
    | some (.bool b) => b
    | _ => false
  | _ => false

def Answer.ofRendering : Outcome Rendering → Answer
  | .ok rendering => .value rendering.toJson
  | .error reason => .failure reason

namespace Answer

/-- A document is told apart from the answer for a missing page. -/
theorem document_ne_notFound (made : Document) (fromCache : Bool) :
    ofRendering (.ok (.document made fromCache)) ≠ ofRendering (.ok .notFound) := by
  intro same
  simp only [ofRendering, Rendering.toJson, value.injEq, Json.obj.injEq, List.cons.injEq,
    Prod.mk.injEq, Json.str.injEq] at same
  exact absurd (LooseText.ofString_injective same.1.2) (by decide)

theorem html_eq_of_document_eq {made made' : Document} {fromCache fromCache' : Bool}
    (same : ofRendering (.ok (.document made fromCache)) =
      ofRendering (.ok (.document made' fromCache'))) : made.html = made'.html := by
  simp only [ofRendering, Rendering.toJson, value.injEq, Json.obj.injEq, List.cons.injEq,
    Prod.mk.injEq, Json.str.injEq] at same
  exact LooseText.ofString_injective same.2.2.1.2

end Answer

namespace Event

def rendering (event : Event) (slug : String) : Outcome Rendering :=
  (Publishing.render event.store event.found.service.cache event.time slug).map (·.1)

/-- The step makes a document for the slug, rather than taking it from the cache. -/
structure Makes (event : Event) (slug : String) (made : Document) : Prop where
  asked : event.action.operation? = some (.render slug)
  anew : event.rendering slug = .ok (.document made false)

/-- A visitor gets the new document: it is the answer to the step, or the step is a request for the
page. -/
def Serves (event : Event) (slug : String) (made : Document) : Prop :=
  (event.action = .perform (.render slug) ∧
    event.answer = .ofRendering (.ok (.document made false))) ∨
  ∃ sent, event.action = .request sent ∧
    Destination.find sent.method sent.address.path = .endpoint (.showPage slug)

variable {event : Event} {slug : String}

theorem answer_of_render (asked : event.action = .perform (.render slug)) :
    event.answer = .ofRendering (event.rendering slug) := by
  simp only [answer, Session.step, asked, Session.act, Service.perform, rendering, time, turn]
  cases Publishing.render event.store event.found.service.cache
    (event.found.nextTurn event.pause).now slug <;> rfl

theorem exists_rendered_answer (orderly : event.found.IsOrderly)
    (asked : event.action = .perform (.render slug)) :
    ∃ outcome, Publishing.Rendered event.store event.found.service.cache event.time slug outcome ∧
      event.answer = .ofRendering (outcome.map (·.1)) :=
  ⟨_, Publishing.rendered orderly.consistent _ _ _, answer_of_render asked⟩

/-- A step that renders goes in one of the ways of rendering. -/
theorem exists_rendered (orderly : event.found.IsOrderly)
    (asked : event.action.operation? = some (.render slug)) :
    ∃ outcome, Publishing.Rendered event.store event.found.service.cache event.time slug outcome ∧
      event.rendering slug = outcome.map (·.1) ∧
      event.left.service.cache =
        match outcome with
        | .ok (_, cache) => cache
        | .error _ => event.found.service.cache := by
  refine ⟨_, Publishing.rendered orderly.consistent _ _ _, rfl, ?_⟩
  rw [left_service, Session.act_snd asked]
  exact Service.after_render_cache slug

theorem left_cache_of_ne_render (other : ∀ slug, event.action.operation? ≠ some (.render slug)) :
    event.left.service.cache = event.found.service.cache := by
  rw [left_service]
  rcases Session.act_cases event.found.service event.turn event.action with
    ⟨words, same⟩ | ⟨-, left⟩ | ⟨op, asked, left⟩
  · rw [same, Session.command_cache]
  · rw [left]
  · rw [left]
    exact Service.after_cache fun slug same => other slug (same ▸ asked)

/-- A step that shows something else than a new document for a slug makes no document at all. -/
theorem not_makes_of_rendering (asked : event.action.operation? = some (.render slug))
    (old : ∀ made, event.rendering slug ≠ .ok (.document made false)) (other : String)
    (made : Document) : ¬event.Makes other made := by
  rintro ⟨asked', anew⟩
  obtain rfl : slug = other := by simpa using asked.symm.trans asked'
  exact old made anew

/-- An entry of the cache has been there before the step, which does not make a document for its
slug, or comes from the step. -/
theorem of_mem_left_cache (event : Event) (orderly : event.found.IsOrderly) {e : CacheEntry}
    (mem : e ∈ event.left.service.cache.entries) :
    (e ∈ event.found.service.cache.entries ∧ ∀ made, ¬event.Makes e.slug made) ∨
      event.Makes e.slug e.document ∧
        e.expires = event.time + event.found.service.cache.ttl := by
  by_cases asked : ∃ slug, event.action.operation? = some (.render slug)
  · obtain ⟨slug, asked⟩ := asked
    obtain ⟨outcome, rendered, sees, left⟩ := exists_rendered orderly asked
    rw [left] at mem
    cases rendered with
    | hit | missing =>
      refine .inl ⟨RenderCache.mem_of_mem_touch mem, ?_⟩
      exact not_makes_of_rendering asked (by simp [sees, Except.map]) e.slug
    | failed => exact .inl ⟨mem, not_makes_of_rendering asked (by simp [sees, Except.map]) e.slug⟩
    | made =>
      rcases RenderCache.of_mem_insert mem with rfl | ⟨old, other⟩
      · exact .inr ⟨⟨asked, sees⟩, rfl⟩
      · refine .inl ⟨RenderCache.mem_of_mem_touch old, fun made makes => other ?_⟩
        simpa using makes.asked.symm.trans asked
  · have other : ∀ slug, event.action.operation? ≠ some (.render slug) := fun slug same =>
      asked ⟨slug, same⟩
    rw [left_cache_of_ne_render other] at mem
    exact .inl ⟨mem, fun made makes => other e.slug makes.asked⟩

theorem left_cache_ttl (event : Event) (orderly : event.found.IsOrderly) :
    event.left.service.cache.ttl = event.found.service.cache.ttl := by
  by_cases asked : ∃ slug, event.action.operation? = some (.render slug)
  · obtain ⟨slug, asked⟩ := asked
    obtain ⟨outcome, rendered, -, left⟩ := exists_rendered orderly asked
    rw [left]
    cases rendered with
    | hit | missing | failed => rfl
    | made => exact RenderCache.insert_ttl
  · rw [left_cache_of_ne_render fun slug same => asked ⟨slug, same⟩]

theorem Makes.serves {made : Document} (h : event.Makes slug made) : event.Serves slug made := by
  rcases Action.of_operation?_eq_render h.asked with asked | request
  · exact .inl ⟨asked, by rw [answer_of_render asked, h.anew]⟩
  · exact .inr request

/-- A document that a step makes is that of the page shown at that moment. -/
theorem Makes.exists_page (orderly : event.found.IsOrderly) {made : Document}
    (h : event.Makes slug made) :
    ∃ page, event.store.Shows slug page ∧ Publishing.document event.store page = .ok made := by
  obtain ⟨outcome, rendered, sees, -⟩ := exists_rendered orderly h.asked
  have same := sees.symm.trans h.anew
  cases rendered with
  | hit | missing | failed => cases same
  | made shown made_eq =>
    cases same
    exact ⟨_, shown, made_eq⟩

end Event

/-! ## Where entries come from -/

/-- The entry was made by a step of the past, and no later step has made a document for its slug. -/
def CacheEntry.HasOrigin (e : CacheEntry) (ttl : Micros) (past : List Event) : Prop :=
  ∃ before origin after, past = before ++ origin :: after ∧ origin.Makes e.slug e.document ∧
    (∀ later ∈ after, ∀ made, ¬later.Makes e.slug made) ∧ e.expires = origin.time + ttl

/-- An entry stands for the same step until its slug is rendered anew. -/
theorem CacheEntry.HasOrigin.append {e : CacheEntry} {ttl : Micros} {past : List Event}
    (h : e.HasOrigin ttl past) {event : Event} (quiet : ∀ made, ¬event.Makes e.slug made) :
    e.HasOrigin ttl (past ++ [event]) := by
  obtain ⟨before, origin, after, rfl, makes, later, expires⟩ := h
  refine ⟨before, origin, after ++ [event], by simp, makes, ?_, expires⟩
  exact List.forall_mem_append.mpr ⟨later, by simpa using quiet⟩

namespace Session

/-- All entries of the cache go back to steps of the past. -/
structure IsTraced (ttl : Micros) (past : List Event) (session : Session) : Prop where
  orderly : session.IsOrderly
  ttl_eq : session.service.cache.ttl = ttl
  entries : ∀ e ∈ session.service.cache.entries, e.HasOrigin ttl past

theorem IsTraced.step {ttl : Micros} {past : List Event} {session : Session}
    (h : session.IsTraced ttl past) (pause : Micros) (action : Action) :
    (session.step pause action).2.IsTraced ttl (past ++ [⟨session, pause, action⟩]) where
  orderly := h.orderly.step pause action
  ttl_eq := (Event.left_cache_ttl ⟨session, pause, action⟩ h.orderly).trans h.ttl_eq
  entries e mem := by
    rcases Event.of_mem_left_cache ⟨session, pause, action⟩ h.orderly mem with
      ⟨old, quiet⟩ | ⟨makes, expires⟩
    · exact (h.entries e old).append quiet
    · exact ⟨past, _, [], rfl, makes, by simp, h.ttl_eq ▸ expires⟩

theorem isTraced_run (ttl : Micros) (steps : List (Micros × Action)) :
    ((start ttl).run steps).2.IsTraced ttl ((start ttl).history steps) :=
  history_induction (motive := fun past session => session.IsTraced ttl past)
    ⟨isOrderly_start ttl, rfl, by simp [start]⟩
    fun _ _ next _ h => h.step next.1 next.2

variable {ttl : Micros} {steps : List (Micros × Action)} {past future : List Event} {event : Event}

theorem isTraced_found (split : (start ttl).history steps = past ++ event :: future) :
    event.found.IsTraced ttl past := by
  obtain ⟨before, after, -, rfl, found⟩ := exists_of_history_eq_append split
  rw [found]
  exact isTraced_run ttl before

theorem isOrderly_of_mem_past (split : (start ttl).history steps = past ++ event :: future)
    {earlier : Event} (mem : earlier ∈ past) : earlier.found.IsOrderly := by
  obtain ⟨before, after, rfl⟩ := List.append_of_mem mem
  rw [List.append_assoc, List.cons_append] at split
  exact (isTraced_found split).orderly

theorem pairwise_past (forward : ∀ step ∈ steps, 0 ≤ step.1)
    (split : (start ttl).history steps = past ++ event :: future) :
    past.Pairwise fun a b => a.time < b.time := by
  have ordered := (@time_lt_of_history (start ttl) steps forward).2
  rw [split] at ordered
  exact (List.pairwise_append.mp ordered).1

end Session

/-! ## What a visitor can rely on -/

/-- How the answer to a step that renders a slug is bound to the store, now and in the past. -/
structure Event.IsFresh (event : Event) (slug : String) (ttl : Micros) (past : List Event) :
    Prop where
  /-- What does not come from the cache is what the store says. -/
  anew : event.answer.isHit = false →
    (∀ page, event.store.Shows slug page → event.answer =
      .ofRendering ((Publishing.document event.store page).map (Rendering.document · false))) ∧
    ((∀ page, ¬event.store.Shows slug page) → event.answer = .ofRendering (.ok .notFound))
  /-- What comes from the cache is the last document made for the slug, which is younger than an
  entry can get. -/
  kept : event.answer.isHit = true → ∃ before origin after made, past = before ++ origin :: after ∧
    origin.Makes slug made ∧ (∀ later ∈ after, ∀ other, ¬later.Makes slug other) ∧
    event.time < origin.time + ttl ∧
    event.answer = .ofRendering (.ok (.document made true)) ∧ origin.Serves slug made
  /-- A page that is shown is not taken for missing. -/
  found : (∃ page, event.store.Shows slug page) → event.answer ≠ .ofRendering (.ok .notFound)
  /-- What is shown as long after a step as an entry lives was current after that step. -/
  current : ∀ before edit between made fromCache, past = before ++ edit :: between →
    edit.time + ttl ≤ event.time →
    event.answer = .ofRendering (.ok (.document made fromCache)) →
    ∃ later ∈ between ++ [event], ∃ page, later.store.Shows slug page ∧
      ∃ shown, Publishing.document later.store page = .ok shown ∧ shown.html = made.html

namespace Event

variable {event : Event} {slug : String} {ttl : Micros} {past : List Event}

theorem isFresh_anew (traced : event.found.IsTraced ttl past)
    (asked : event.action = .perform (.render slug)) (miss : event.answer.isHit = false) :
    (∀ page, event.store.Shows slug page → event.answer =
      .ofRendering ((Publishing.document event.store page).map (Rendering.document · false))) ∧
    ((∀ page, ¬event.store.Shows slug page) → event.answer = .ofRendering (.ok .notFound)) := by
  have consistent := traced.orderly.consistent
  obtain ⟨outcome, rendered, answered⟩ := exists_rendered_answer traced.orderly asked
  rw [answered] at miss ⊢
  cases rendered with
  | hit => cases miss
  | missing hidden => exact ⟨fun page shown => absurd shown (hidden page), fun _ => rfl⟩
  | failed shown failed =>
    refine ⟨fun page shown' => ?_, fun hidden => absurd shown (hidden _)⟩
    rw [shown'.unique consistent shown, failed]
    rfl
  | made shown made_eq =>
    refine ⟨fun page shown' => ?_, fun hidden => absurd shown (hidden _)⟩
    rw [shown'.unique consistent shown, made_eq]
    rfl

theorem isFresh_kept (traced : event.found.IsTraced ttl past)
    (asked : event.action = .perform (.render slug)) (hit : event.answer.isHit = true) :
    ∃ before origin after made, past = before ++ origin :: after ∧
      origin.Makes slug made ∧ (∀ later ∈ after, ∀ other, ¬later.Makes slug other) ∧
      event.time < origin.time + ttl ∧
      event.answer = .ofRendering (.ok (.document made true)) ∧ origin.Serves slug made := by
  obtain ⟨outcome, rendered, answered⟩ := exists_rendered_answer traced.orderly asked
  rw [answered] at hit ⊢
  cases rendered with
  | missing | failed | made => cases hit
  | hit kept own live =>
    obtain ⟨before, origin, after, split, makes, later, expires⟩ := traced.entries _ kept
    rw [own] at makes later
    exact ⟨before, origin, after, _, split, makes, later, expires ▸ live, rfl, makes.serves⟩

theorem isFresh_found (orderly : event.found.IsOrderly)
    (asked : event.action = .perform (.render slug)) (shown : ∃ page, event.store.Shows slug page) :
    event.answer ≠ .ofRendering (.ok .notFound) := by
  obtain ⟨outcome, rendered, answered⟩ := exists_rendered_answer orderly asked
  obtain ⟨page, shown⟩ := shown
  rw [answered]
  cases rendered with
  | hit | made => exact Answer.document_ne_notFound _ _
  | missing hidden => exact absurd shown (hidden page)
  | failed => exact fun same => Answer.noConfusion same

/-- A step that renders shows the document of a page: of the store it found, or of the store that an
earlier step found, which is younger than an entry can get. -/
theorem exists_source (traced : event.found.IsTraced ttl past)
    (orderly : ∀ earlier ∈ past, earlier.found.IsOrderly)
    (asked : event.action = .perform (.render slug)) {made : Document} {fromCache : Bool}
    (answered : event.answer = .ofRendering (.ok (.document made fromCache))) :
    ∃ source, (source = event ∨ source ∈ past ∧ event.time < source.time + ttl) ∧
      ∃ page, source.store.Shows slug page ∧
        ∃ current, Publishing.document source.store page = .ok current ∧
          current.html = made.html := by
  obtain ⟨outcome, rendered, answered'⟩ := exists_rendered_answer traced.orderly asked
  have same := answered'.symm.trans answered
  cases rendered with
  | missing => exact absurd same.symm (Answer.document_ne_notFound _ _)
  | failed => exact Answer.noConfusion same
  | made shown made_eq =>
    exact ⟨event, .inl rfl, _, shown, _, made_eq, Answer.html_eq_of_document_eq same⟩
  | hit kept own live =>
    obtain ⟨before, origin, after, split, makes, -, expires⟩ := traced.entries _ kept
    rw [own] at makes
    have mem : origin ∈ past := by simp [split]
    obtain ⟨page, shown, made_eq⟩ := makes.exists_page (orderly origin mem)
    exact ⟨origin, .inr ⟨mem, expires ▸ live⟩, page, shown, _, made_eq,
      Answer.html_eq_of_document_eq same⟩

end Event

/-- Whatever was done in a session, what a step that renders shows is fresh. -/
theorem Session.render_isFresh {ttl : Micros} {steps : List (Micros × Action)}
    (forward : ∀ step ∈ steps, 0 ≤ step.1) {past future : List Event} {event : Event}
    (split : (start ttl).history steps = past ++ event :: future) {slug : String}
    (asked : event.action = .perform (.render slug)) : event.IsFresh slug ttl past := by
  have traced := isTraced_found split
  refine ⟨Event.isFresh_anew traced asked, Event.isFresh_kept traced asked,
    Event.isFresh_found traced.orderly asked, ?_⟩
  intro before edit between made fromCache before_edit late answered
  obtain ⟨source, place, shown⟩ :=
    Event.exists_source traced (fun _ mem => isOrderly_of_mem_past split mem) asked answered
  refine ⟨source, ?_, shown⟩
  rcases place with rfl | ⟨mem, young⟩
  · simp
  · have ordered := pairwise_past forward split
    rw [before_edit] at ordered mem
    have later : edit.time < source.time :=
      Int.lt_of_add_lt_add_right (Int.lt_of_le_of_lt late young)
    exact List.mem_append_left _ (mem_of_time_lt ordered mem later)

namespace Session

/-- The first page comes to the public and is requested by a visitor. -/
def visitedPage : List (Micros × Action) :=
  firstPage ++
    [(0, .request
      { id := "1", origin := "http://testserver", method := "GET", target := "/p/first" })]

theorem render_isFresh_visitedPage :
    ∃ past event, (start (60 * second)).history
        (visitedPage ++ [(0, .perform (.render "first"))]) = past ++ [event] ∧
      event.action = .perform (.render "first") ∧
      event.IsFresh "first" (60 * second) past := by
  have forward : ∀ step ∈ visitedPage ++ [(0, .perform (.render "first"))], 0 ≤ step.1 := by decide
  exact ⟨_, _, history_append _ visitedPage _, rfl,
    render_isFresh forward (history_append _ visitedPage _) rfl⟩

/-- A step that renders can be answered from the cache although no step has rendered before: the
server shares the cache. -/
theorem hit_after_visit :
    ∃ past event, (start (60 * second)).history
        (visitedPage ++ [(0, .perform (.render "first"))]) = past ++ [event] ∧
      event.action = .perform (.render "first") ∧ event.answer.isHit = true ∧
      ∀ earlier ∈ past, ∀ slug, earlier.action ≠ .perform (.render slug) := by
  refine ⟨_, _, history_append _ visitedPage _, rfl, by decide +kernel, ?_⟩
  have actions : ((start (60 * second)).history visitedPage).map (·.action) =
      visitedPage.map (·.2) := rfl
  intro earlier mem slug same
  have known : Action.perform (.render slug) ∈ visitedPage.map (·.2) := by
    rw [← actions, ← same]
    exact List.mem_map_of_mem mem
  simp [visitedPage, firstPage] at known

end Session

end PagePress
