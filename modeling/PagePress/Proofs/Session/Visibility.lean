import PagePress.Proofs.Session.Freshness

/-!
# How long visitors may keep a document

A response that shows a document allows whoever gets it to keep it for as long as an entry of the
render cache lives. As the document may have been in that cache for almost as long already, what was
changed can be seen in its old form for twice that span.
-/

namespace PagePress

/-- A visitor gets the page of a slug, and the response is as given. -/
structure Event.Sends (event : Event) (slug : String) (response : HttpResponse) : Prop where
  asked : ∃ sent, event.action = .request sent ∧ sent.method = "GET" ∧
    Destination.find sent.method sent.address.path = .endpoint (.showPage slug)
  answered : event.answer = .response response

/-- Rendering does not change how long entries live. -/
theorem Publishing.ttl_of_render {store : Store} (consistent : store.Consistent)
    {cache cache' : RenderCache} {now : Micros} {slug : String} {rendering : Rendering}
    (rendered : render store cache now slug = .ok (rendering, cache')) :
    cache'.ttl = cache.ttl := by
  have way := Publishing.rendered consistent cache now slug
  rw [rendered] at way
  cases way with
  | hit | missing => rfl
  | made => exact RenderCache.insert_ttl

namespace Service

variable {service : Service} {turn : Turn} {sent : HttpRequest} {slug : String}

/-- A response to a visitor has a document only if it was rendered. -/
theorem exists_of_serve_showPage (ok : (service.serve turn sent (.showPage slug)).1.status = 200) :
    sent.broken.any (Endpoint.showPage slug).uses = false ∧ ∃ made fromCache cache,
      Publishing.render service.store service.cache turn.now slug =
        .ok (.document made fromCache, cache) ∧
      (service.serve turn sent (.showPage slug)).1 =
        .ofRendering cache.ttl (.document made fromCache) ∧
      made.isSendable = true := by
  have serve_eq : service.serve turn sent (.showPage slug) =
      if sent.broken.any (Endpoint.showPage slug).uses then
        (.ofBreakdown sent.id (.showPage slug), service)
      else service.carryOut turn sent.id (.showPage slug) { operation := .render slug } := rfl
  rw [serve_eq] at ok ⊢
  cases broken : sent.broken.any (Endpoint.showPage slug).uses with
  | true =>
    rw [broken, if_pos rfl] at ok
    cases ok
  | false =>
    rw [broken] at ok
    simp only [Bool.false_eq_true, if_false, carryOut, execute_of_storable, perform] at ok ⊢
    refine ⟨trivial, ?_⟩
    cases rendered : Publishing.render service.store service.cache turn.now slug with
    | error failure =>
      rw [rendered] at ok
      cases failure with
      | refused refusal =>
        have status : refusal.kind.status = 200 := ok
        cases known : refusal.kind <;> rw [known] at status <;> cases status
      | _ => cases ok
    | ok shown =>
      obtain ⟨rendering, cache⟩ := shown
      rw [rendered] at ok
      cases rendering with
      | notFound => cases ok
      | document made fromCache =>
        refine ⟨made, fromCache, cache, rfl, rfl, ?_⟩
        by_contra unsendable
        have status :
            (HttpResponse.ofRendering cache.ttl (.document made fromCache)).status = 200 := ok
        rw [HttpResponse.ofRendering, if_neg unsendable] at status
        cases status

end Service

namespace Event

variable {event : Event} {slug : String} {ttl : Micros} {past : List Event}
  {response : HttpResponse}

/-- What a visitor gets with a response that says all is well. -/
structure ShowsDocument (event : Event) (slug : String) (response : HttpResponse) (made : Document)
    (fromCache : Bool) : Prop where
  asked : event.action.operation? = some (.render slug)
  seen : event.rendering slug = .ok (.document made fromCache)
  content : response.content = .html made.html
  keep : response.header? "cache-control" =
    some s!"public, max-age={event.found.service.cache.ttl / second}"
  origin : response.header? "x-cache" = some (if fromCache then "HIT" else "MISS")

theorem Sends.exists_document (orderly : event.found.IsOrderly)
    (sends : event.Sends slug response) (ok : response.status = 200) :
    ∃ made fromCache, event.ShowsDocument slug response made fromCache := by
  obtain ⟨⟨sent, action, method, found⟩, answered⟩ := sends
  have answer : event.answer = (Session.act event.found.service event.turn (.request sent)).1 := by
    rw [← action]
    rfl
  rw [answer, Session.act] at answered
  cases fault : sent.sendFault? with
  | some fault' =>
    rw [fault] at answered
    cases answered
  | none =>
    rw [fault] at answered
    simp only [Service.handle, Service.dispatch, found] at answered
    obtain rfl := Answer.response.inj answered
    obtain ⟨whole, made, fromCache, cache, rendered, served, sendable⟩ :=
      Service.exists_of_serve_showPage ok
    have asked : event.action.operation? = some (.render slug) := by
      rw [action]
      simp only [Action.operation?, HttpRequest.operation?, found, fault]
      change (if sent.broken.any (Endpoint.showPage slug).uses then none
        else some (Operation.render slug)) = _
      rw [whole]
      rfl
    have ttl := Publishing.ttl_of_render orderly.consistent rendered
    have get : sent.method ≠ "HEAD" := by rw [method]; decide
    refine ⟨made, fromCache, asked, ?_, ?_, ?_, ?_⟩
    · rw [rendering]
      exact congrArg (Except.map Prod.fst) rendered
    · simp [served, get, HttpResponse.ofRendering, sendable, HttpResponse.html]
    · rw [← ttl]
      simp [served, HttpResponse.header?, HttpResponse.ofRendering, sendable, HttpResponse.html,
        List.lookup_cons]
    · simp [served, HttpResponse.header?, HttpResponse.ofRendering, sendable, HttpResponse.html,
        List.lookup_cons]

/-- Where the document of a response comes from: it was made for it, or an earlier step has made it,
which is younger than an entry of the cache can get. -/
theorem ShowsDocument.exists_origin (traced : event.found.IsTraced ttl past) {made : Document}
    {fromCache : Bool} (shows : event.ShowsDocument slug response made fromCache) :
    ∃ origin, origin.Makes slug made ∧
      ((fromCache = false ∧ origin = event) ∨
        (fromCache = true ∧ origin ∈ past ∧ event.time < origin.time + ttl)) := by
  obtain ⟨outcome, rendered, sees, -⟩ := exists_rendered traced.orderly shows.asked
  have same := sees.symm.trans shows.seen
  cases rendered with
  | missing | failed => cases same
  | made =>
    cases same
    exact ⟨event, ⟨shows.asked, shows.seen⟩, .inl ⟨rfl, rfl⟩⟩
  | hit kept own live =>
    cases same
    obtain ⟨before, origin, after, split, makes, -, expires⟩ := traced.entries _ kept
    rw [own] at makes
    exact ⟨origin, makes, .inr ⟨rfl, by simp [split], expires ▸ live⟩⟩

end Event

/-- The time for which whoever gets a document may keep it, told in whole seconds. -/
def keepTime (ttl : Micros) : Micros := ttl / second * second

theorem keepTime_le (ttl : Micros) : keepTime ttl ≤ ttl :=
  Int.ediv_mul_le ttl (by decide)

namespace Session

/-- Whatever was done in a session, a visitor who gets a document may keep it for the whole seconds
in the life of an entry. If it was made for the visitor, it is never kept longer than that; if it
was taken from the cache, it may be shown until twice that time has passed since it was made, and
then it is of after every change that lies as far back. -/
theorem visit_isBounded {ttl : Micros} {steps : List (Micros × Action)}
    (forward : ∀ step ∈ steps, 0 ≤ step.1) {past future : List Event} {event : Event}
    (split : (start ttl).history steps = past ++ event :: future) {slug : String}
    {response : HttpResponse} (sends : event.Sends slug response) (ok : response.status = 200) :
    response.header? "cache-control" = some s!"public, max-age={ttl / second}" ∧
    ∃ origin made, response.content = .html made.html ∧
      (∃ page, origin.store.Shows slug page ∧
        Publishing.document origin.store page = .ok made) ∧
      ((response.header? "x-cache" = some "MISS" ∧ origin = event ∧
          event.time + keepTime ttl ≤ origin.time + ttl) ∨
        (response.header? "x-cache" = some "HIT" ∧ origin ∈ past ∧ origin.Makes slug made ∧
          event.time < origin.time + ttl ∧
          event.time + keepTime ttl < origin.time + 2 * ttl)) ∧
      ∀ before edit between, past = before ++ edit :: between →
        ∀ moment < event.time + keepTime ttl, edit.time + 2 * ttl ≤ moment →
          origin ∈ between ++ [event] := by
  have traced := isTraced_found split
  obtain ⟨made, fromCache, shows⟩ := sends.exists_document traced.orderly ok
  obtain ⟨origin, makes, place⟩ := shows.exists_origin traced
  have keeps : ∀ t, event.time < t + ttl → event.time + keepTime ttl < t + 2 * ttl := by
    intro t young
    calc event.time + keepTime ttl ≤ event.time + ttl := Int.add_le_add_left (keepTime_le ttl) _
      _ < t + ttl + ttl := Int.add_lt_add_right young _
      _ = t + 2 * ttl := by rw [Int.add_assoc, Int.two_mul]
  refine ⟨traced.ttl_eq ▸ shows.keep, origin, made, shows.content, ?_, ?_, ?_⟩
  · rcases place with ⟨-, rfl⟩ | ⟨-, mem, -⟩
    · exact makes.exists_page traced.orderly
    · exact makes.exists_page (isOrderly_of_mem_past split mem)
  · rcases place with ⟨rfl, rfl⟩ | ⟨rfl, mem, young⟩
    · exact .inl ⟨shows.origin, rfl, Int.add_le_add_left (keepTime_le ttl) _⟩
    · exact .inr ⟨shows.origin, mem, makes, young, keeps _ young⟩
  · intro before edit between cut moment early late
    rcases place with ⟨-, rfl⟩ | ⟨-, mem, young⟩
    · simp
    · have ordered := pairwise_past forward split
      rw [cut] at ordered mem
      have later : edit.time < origin.time :=
        Int.lt_of_add_lt_add_right (Int.lt_of_le_of_lt late (Int.lt_trans early (keeps _ young)))
      exact List.mem_append_left _ (mem_of_time_lt ordered mem later)

/-- A second visitor asks for the page that the first has brought into the cache. -/
def revisit : Micros × Action :=
  (0, .request { id := "2", origin := "http://testserver", method := "GET", target := "/p/first" })

theorem exists_revisit : ∃ past event response,
    (start (60 * second)).history (visitedPage ++ [revisit]) = past ++ [event] ∧
      event.Sends "first" response ∧ response.status = 200 ∧
      response.header? "cache-control" = some "public, max-age=60" ∧
      response.header? "x-cache" = some "HIT" := by
  let event : Event := ⟨((start (60 * second)).run visitedPage).2, revisit.1, revisit.2⟩
  have answer : (match event.answer with
      | .response r => r.status == 200 &&
        r.header? "cache-control" == some "public, max-age=60" && r.header? "x-cache" == some "HIT"
      | _ => false) = true := by decide +kernel
  split at answer
  · rename_i response answered
    simp only [Bool.and_eq_true, beq_iff_eq] at answer
    exact ⟨_, event, response, history_append _ visitedPage [revisit],
      ⟨⟨_, rfl, rfl, by decide +kernel⟩, answered⟩, answer.1.1, answer.1.2, answer.2⟩
  · cases answer

theorem visit_isBounded_revisit : ∃ past event response,
    (start (60 * second)).history (visitedPage ++ [revisit]) = past ++ [event] ∧
      event.Sends "first" response ∧ response.status = 200 ∧
      ∃ (origin : Event) (made : Document), response.content = .html made.html ∧
        ∃ page, origin.store.Shows "first" page ∧
          Publishing.document origin.store page = .ok made := by
  obtain ⟨past, event, response, split, sends, ok, -⟩ := exists_revisit
  have forward : ∀ step ∈ visitedPage ++ [revisit], 0 ≤ step.1 := by decide
  obtain ⟨-, origin, made, content, shown, -⟩ := visit_isBounded forward split sends ok
  exact ⟨past, event, response, split, sends, ok, origin, made, content, shown⟩

/-- The second visitor may keep the document for as long as the first, though it is older by then:
whichever step of the past has made it, the time for which it may be shown is over later than an
entry of the cache from that step. -/
theorem revisit_outlasts : ∃ past event response,
    (start (60 * second)).history (visitedPage ++ [revisit]) = past ++ [event] ∧
      event.Sends "first" response ∧ response.status = 200 ∧
      response.header? "cache-control" = some "public, max-age=60" ∧
      (∃ origin ∈ past, ∃ made, origin.Makes "first" made ∧
        response.content = .html made.html) ∧
      ∀ origin ∈ past, ¬event.time + 60 * second ≤ origin.time + 60 * second := by
  obtain ⟨past, event, response, split, sends, ok, keep, hit⟩ := exists_revisit
  have forward : ∀ step ∈ visitedPage ++ [revisit], 0 ≤ step.1 := by decide
  have traced : event.found.IsTraced (60 * second) past := isTraced_found split
  obtain ⟨made, fromCache, shows⟩ := sends.exists_document traced.orderly ok
  obtain ⟨origin, makes, ⟨rfl, -⟩ | ⟨-, mem, -⟩⟩ := shows.exists_origin traced
  · -- a document that was made for the response is told from one that was kept
    have miss := hit.symm.trans shows.origin
    simp at miss
  · refine ⟨past, event, response, split, sends, ok, keep,
      ⟨origin, mem, made, makes, shows.content⟩, fun earlier before => ?_⟩
    have ordered := (@time_lt_of_history (start (60 * second)) _ forward).2
    rw [split] at ordered
    have passed : earlier.time < event.time :=
      (List.pairwise_append.mp ordered).2.2 earlier before event List.mem_cons_self
    exact Int.not_le.mpr (Int.add_lt_add_right passed _)

end Session

end PagePress
