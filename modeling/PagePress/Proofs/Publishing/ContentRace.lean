import PagePress.Proofs.Publishing.Elements
import PagePress.Proofs.Publishing.Race
import PagePress.Proofs.Store.Lookup

/-!
# Racing contents

A request for a content finds a content at its place or none, and what it writes later follows from
that. A request that has found none creates the element, so that of several such requests only the
first succeeds and the others are refused. A request that has found its own content writes none, so
that a content written in between stays. All others write the content they ask for, and the last of
these contents is there in the end.
-/

namespace PagePress

/-! ## Commits -/

def Phase.succeeded {δ α : Type} : Phase δ α → Bool
  | finished _ (.ok _) => true
  | _ => false

section Phases

variable {δ α : Type}

@[simp] theorem Phase.succeeded_waiting : (waiting : Phase δ α).succeeded = false := rfl

@[simp] theorem Phase.succeeded_planned (plan : δ) :
    (planned plan : Phase δ α).succeeded = false := rfl

@[simp] theorem Phase.succeeded_failed (plan : δ) (failure : Failure) :
    (finished plan (.error failure) : Phase δ α).succeeded = false := rfl

@[simp] theorem Phase.succeeded_stored (plan : δ) (made : α) :
    (finished plan (.ok made)).succeeded = true := rfl

end Phases

namespace Race

variable {ι δ α : Type} [DecidableEq ι] {requests : ι → TwoPhase δ α} {race : Race ι δ α}

/-- The turns at which requests write what they have planned, in their order. -/
def commits (requests : ι → TwoPhase δ α) (race : Race ι δ α) :
    List (Micros × ι) → List (Micros × ι)
  | [] => []
  | turn :: rest =>
    let next := race.turn requests turn.1 turn.2
    let later := next.commits requests rest
    if !(race.phase turn.2).succeeded && (next.phase turn.2).succeeded then turn :: later
    else later

/-- The store that a request finds at its first turn. -/
def storeFound (requests : ι → TwoPhase δ α) (race : Race ι δ α) (turns : List (Micros × ι))
    (i : ι) : Store := (race.run requests (turns.takeWhile (·.2 ≠ i))).store

theorem commits_append_singleton (turns : List (Micros × ι)) (turn : Micros × ι) :
    race.commits requests (turns ++ [turn]) = race.commits requests turns ++
      if !((race.run requests turns).phase turn.2).succeeded &&
        ((race.run requests (turns ++ [turn])).phase turn.2).succeeded then [turn] else [] := by
  induction turns generalizing race with
  | nil => rfl
  | cons first turns ih =>
    rw [List.cons_append, commits, ih, commits]
    split
    · rfl
    · rfl

/-- Only a request that has had no turn is waiting for its first phase. -/
theorem notMem_of_waiting {turns : List (Micros × ι)} {i : ι}
    (waiting : (race.run requests turns).phase i = .waiting) : i ∉ turns.map (·.2) := by
  intro mem
  have left : ((race.run requests turns).phase i).turnsLeft ≤ _ := turnsLeft_run turns i
  have bound : (race.phase i).turnsLeft ≤ 2 := by
    cases race.phase i <;> simp [Phase.turnsLeft]
  have once := List.count_pos_iff.mpr mem
  rw [waiting] at left
  change 2 ≤ _ at left
  omega

/-- A request that is waiting has yet to find the store that is there. -/
theorem storeFound_of_waiting {before after : List (Micros × ι)} {now : Micros} {i : ι}
    (waiting : (race.run requests before).phase i = .waiting) :
    race.storeFound requests (before ++ (now, i) :: after) i =
      (race.run requests before).store := by
  have others : ∀ turn ∈ before, decide (turn.2 ≠ i) = true := by
    intro turn mem
    refine decide_eq_true fun same => notMem_of_waiting waiting ?_
    exact List.mem_map.mpr ⟨turn, mem, same⟩
  rw [storeFound, List.takeWhile_append_of_pos others]
  simp

end Race

/-! ## Contents by place -/

namespace Store

variable {store : Store} {place : Uuid × String}

def contentAt (store : Store) (place : Uuid × String) : Option String :=
  (store.element? place.1 place.2).map (·.content)

theorem contentAt_eq_none_iff :
    store.contentAt place = none ↔ ∀ e ∈ store.elements, e.place ≠ place := by
  rw [contentAt, Option.map_eq_none_iff, element?_eq_none_iff]

theorem exists_element?_of_contentAt (held : store.contentAt place ≠ none) :
    ∃ e, store.element? place.1 place.2 = some e := by
  refine Option.ne_none_iff_exists'.mp fun free => held ?_
  rw [contentAt, free]
  rfl

end Store

namespace ContentRequest

/-- Where the request puts its content. -/
def place (request : ContentRequest) : Uuid × String := (request.pageId, request.key)

/-- What the request writes, if it has found this content at its place. -/
def write (request : ContentRequest) : Option String → ElementWrite
  | none => .insert request.pageId { key := some request.key, content := some request.content }
  | some content =>
    if content = request.content then .touch request.pageId request.key
    else .setContent request.pageId request.key request.content

/-- What comes of a write: the element is at the place of the request, with its content unless that
is the content it had found, and all other contents stay. -/
structure Writes (request : ContentRequest) (found : Option String) (store : Store) (e : Element)
    (store' : Store) : Prop where
  rest : store' = { store with elements := store'.elements }
  consistent : store'.Consistent
  own : e.place = request.place
  content : found ≠ some request.content → e.content = request.content
  held : store'.contentAt request.place ≠ none
  contents : ∀ place, store'.contentAt place =
    if request.place = place ∧ found ≠ some request.content then some request.content
    else store.contentAt place

variable {request : ContentRequest} {store : Store} {found : Option String}

/-- With nothing in between, the two phases set the content at once. -/
theorem setContent_of_twice (request : ContentRequest) (store : Store) (before now : Micros) :
    let ended := Race.run (fun _ : Unit => request.phases) { store } [(before, ()), (now, ())]
    ∃ outcome, (ended.phase ()).outcome? = some outcome ∧
      Publishing.setContent store now request.pageId request.key request.content =
        outcome.map fun made => (made, ended.store) :=
  Race.run_twice (fun _ => request.phases) rfl before now

theorem plan_eq {page : Page} (known : store.page? request.pageId = some page) :
    request.phases.plan store = .ok (request.write (store.contentAt request.place)) := by
  change Publishing.planContent store request.pageId request.key request.content = _
  rw [Publishing.planContent_of_found known, Store.contentAt, place]
  cases store.element? request.pageId request.key with
  | none => rfl
  | some old => rfl

/-- An element is created where there is none. -/
theorem write_none_of_free (consistent : store.Consistent)
    (free : store.contentAt request.place = none) (now : Micros) :
    ∃ e store', request.phases.write store now (request.write none) = .ok (e, store') ∧
      Writes request none store e store' := by
  let e : Element := ⟨request.pageId, request.key, .text, request.content, none, now, now⟩
  have written : store.insertElement now request.pageId
      { key := some request.key, content := some request.content } =
        some (e, { store with elements := store.elements ++ [e] }) :=
    Store.insertElement_eq_some_iff.mpr ⟨rfl, Store.contentAt_eq_none_iff.mp free, rfl⟩
  have contents (place : Uuid × String) :
      { store with elements := store.elements ++ [e] }.contentAt place =
        if request.place = place then some request.content else store.contentAt place := by
    have absent : store.element? e.pageId e.key = none := Option.map_eq_none_iff.mp free
    rw [Store.contentAt, Store.element?_append_singleton absent]
    exact apply_ite (Option.map (·.content)) (request.place = place) (some e) _
  refine ⟨e, { store with elements := store.elements ++ [e] }, ?_, rfl,
    consistent.insertElement written, rfl, fun _ => rfl, ?_, ?_⟩
  · exact congrArg (·.getDM (refuse .elementExists)) written
  · simp [contents]
  · simpa using contents

/-- No second element is created at a place. -/
theorem write_none_of_held (held : store.contentAt request.place ≠ none) (now : Micros) :
    request.phases.write store now (request.write none) = refuse .elementExists := by
  have unwritten : store.insertElement now request.pageId
      { key := some request.key, content := some request.content } = none := by
    refine Option.eq_none_iff_forall_ne_some.mpr fun made written => held ?_
    obtain ⟨hrow, free, -⟩ := Store.insertElement_eq_some_iff.mp written
    rw [← Option.some.inj hrow] at free
    exact Store.contentAt_eq_none_iff.mpr free
  exact congrArg (·.getDM (refuse .elementExists)) unwritten

/-- An element that is there is changed, if one was there before. -/
theorem write_some_of_held (consistent : store.Consistent) (content : String)
    (held : store.contentAt request.place ≠ none) (now : Micros) :
    ∃ e store', request.phases.write store now (request.write (some content)) = .ok (e, store') ∧
      Writes request (some content) store e store' := by
  obtain ⟨old, hold⟩ : ∃ old, store.element? request.pageId request.key = some old :=
    Store.exists_element?_of_contentAt held
  let kept := if content = request.content then old.content else request.content
  let e : Element := { old with content := kept, updatedAt := now }
  let rows := store.elements.map fun row => if row.place = request.place then e else row
  have written : store.setContent now request.pageId request.key kept =
      some (e, { store with elements := rows }) :=
    Store.setContent_eq_some_iff.mpr ⟨old, hold, rfl, rfl⟩
  have saved : request.phases.write store now (request.write (some content)) =
      .ok (e, { store with elements := rows }) := by
    have kinds : request.phases.write store now (request.write (some content)) =
        (store.setContent now request.pageId request.key kept).getDM (.error .absent) := by
      change Publishing.saveElement store now (request.write (some content)) = _
      by_cases same : content = request.content
      · rw [write, if_pos same, Publishing.saveElement, Store.touchElement_of_held hold]
        simp [kept, same]
      · rw [write, if_neg same, Publishing.saveElement]
        simp [kept, same]
    rw [kinds, written]
    rfl
  have own : old.place = request.place := (consistent.element?_eq_some_iff.mp hold).2
  have contents (place : Uuid × String) : { store with elements := rows }.contentAt place =
      if request.place = place ∧ some content ≠ some request.content then some request.content
      else store.contentAt place := by
    have replaced : { store with elements := rows }.element? place.1 place.2 =
        (store.element? place.1 place.2).map fun row =>
          if row.place = request.place then e else row :=
      Store.element?_replace (show e.place = request.place from own) _ _
    rw [Store.contentAt, replaced, Option.map_map]
    by_cases here : request.place = place
    · subst here
      have there : store.element? request.place.1 request.place.2 = some old := hold
      rw [Store.contentAt, there]
      by_cases same : content = request.content <;> simp [own, e, kept, same]
    · rw [if_neg fun both => here both.1, Store.contentAt]
      cases there : store.element? place.1 place.2 with
      | none => rfl
      | some row =>
        have elsewhere : row.place ≠ request.place := by
          rw [(consistent.element?_eq_some_iff.mp there).2]
          exact Ne.symm here
        simp [elsewhere]
  refine ⟨e, { store with elements := rows }, saved, rfl, consistent.setContent written, own,
    fun other => ?_, ?_, contents⟩
  · have other : content ≠ request.content := by simpa using other
    simp [e, kept, other]
  · rw [contents]
    split
    · simp
    · exact held

/-- What a planned write comes to: it is refused if it was to create an element and there is one by
now. -/
theorem write_cases (consistent : store.Consistent)
    (still : found ≠ none → store.contentAt request.place ≠ none) (now : Micros) :
    (found = none ∧ store.contentAt request.place ≠ none ∧
        request.phases.write store now (request.write found) = refuse .elementExists) ∨
      ∃ e store', (found = none ↔ store.contentAt request.place = none) ∧
        request.phases.write store now (request.write found) = .ok (e, store') ∧
        Writes request found store e store' := by
  cases found with
  | some content =>
    obtain ⟨e, store', saved, writes⟩ :=
      write_some_of_held consistent content (still (by simp)) now
    exact .inr ⟨e, store', by simp [still (by simp)], saved, writes⟩
  | none =>
    by_cases free : store.contentAt request.place = none
    · obtain ⟨e, store', saved, writes⟩ := write_none_of_free consistent free now
      exact .inr ⟨e, store', by simp [free], saved, writes⟩
    · exact .inl ⟨rfl, free, write_none_of_held free now⟩

/-! ## How a race stands -/

/-- How a request can stand, given the content it has found and whether it has written. -/
inductive Stands (request : ContentRequest) (found : Option String) (current : Store)
    (written : Prop) : Phase ElementWrite Element → Prop where
  | waiting (pending : ¬written) : Stands request found current written .waiting
  | planned (pending : ¬written) (still : found ≠ none → current.contentAt request.place ≠ none) :
      Stands request found current written (.planned (request.write found))
  | lost {write : ElementWrite} (pending : ¬written) (new : found = none)
      (held : current.contentAt request.place ≠ none) :
      Stands request found current written (.finished write (refuse .elementExists))
  | won {write : ElementWrite} {e : Element} (done : written) (own : e.place = request.place)
      (content : found ≠ some request.content → e.content = request.content)
      (held : current.contentAt request.place ≠ none) :
      Stands request found current written (.finished write (.ok e))

/-- What is said of a request stays true while others write. -/
theorem Stands.mono {current : Store} {written : Prop} {phase : Phase ElementWrite Element}
    (h : Stands request found current written phase) (later : Store) (written' : Prop)
    (kept : current.contentAt request.place ≠ none → later.contentAt request.place ≠ none)
    (same : written' ↔ written) : Stands request found later written' phase := by
  obtain rfl : written' = written := propext same
  cases h with
  | waiting pending => exact .waiting pending
  | planned pending still => exact .planned pending fun present => kept (still present)
  | lost pending new held => exact .lost pending new (kept held)
  | won done own content held => exact .won done own content (kept held)

/-- A request that has ended has written, or it has found nothing where there is something by
now. -/
theorem Stands.outcome {current : Store} {written : Prop} {phase : Phase ElementWrite Element}
    (h : Stands request found current written phase) {outcome : Outcome Element}
    (ended : phase.outcome? = some outcome) :
    current.contentAt request.place ≠ none ∧
      ((written ∧ ∃ e, outcome = .ok e ∧ e.place = request.place ∧
          (found ≠ some request.content → e.content = request.content)) ∨
        (¬written ∧ found = none ∧ outcome = refuse .elementExists)) := by
  cases h with
  | waiting | planned => cases ended
  | lost pending new held => exact ⟨held, .inr ⟨pending, new, (Option.some.inj ended).symm⟩⟩
  | won done own content held =>
    exact ⟨held, .inl ⟨done, _, (Option.some.inj ended).symm, own, content⟩⟩

section Race

variable {ι : Type}

/-- The last content that was written at a place, where a request that has found its own content
writes none. -/
def lastContent (requests : ι → ContentRequest) (found : ι → Option String)
    (commits : List (Micros × ι)) (place : Uuid × String) : Option String :=
  ((commits.filter fun commit => (requests commit.2).place = place ∧
    found commit.2 ≠ some (requests commit.2).content).getLast?).map
      fun commit => (requests commit.2).content

def creations (requests : ι → ContentRequest) (found : ι → Option String)
    (commits : List (Micros × ι)) (place : Uuid × String) : Nat :=
  commits.countP fun commit => (requests commit.2).place = place ∧ found commit.2 = none

/-- What holds of a race of requests for contents at any time, given what each of them finds and
which have written. -/
structure Underway (requests : ι → ContentRequest) (found : ι → Option String) (first : Store)
    (commits : List (Micros × ι)) (race : Race ι ElementWrite Element) : Prop where
  rest : race.store = { first with elements := race.store.elements }
  consistent : race.store.Consistent
  once : (commits.map (·.2)).Nodup
  stands : ∀ i, Stands (requests i) (found i) race.store (i ∈ commits.map (·.2)) (race.phase i)
  contents : ∀ place, race.store.contentAt place =
    (lastContent requests found commits place).or (first.contentAt place)
  creations : ∀ place, creations requests found commits place =
    if first.contentAt place = none ∧ race.store.contentAt place ≠ none then 1 else 0

variable {requests : ι → ContentRequest} {finds : ι → Option String} {first : Store}
  {commits : List (Micros × ι)} {race next : Race ι ElementWrite Element} {now : Micros} {i : ι}
  {place : Uuid × String}

theorem lastContent_append_singleton :
    lastContent requests finds (commits ++ [(now, i)]) place =
      if (requests i).place = place ∧ finds i ≠ some (requests i).content
      then some (requests i).content else lastContent requests finds commits place := by
  unfold lastContent
  rw [List.filter_append]
  by_cases writes : (requests i).place = place ∧ finds i ≠ some (requests i).content
  · simp [writes]
  · simp only [List.filter_cons, List.filter_nil, decide_eq_true_eq, if_neg writes,
      List.append_nil]

theorem creations_append_singleton :
    creations requests finds (commits ++ [(now, i)]) place =
      creations requests finds commits place +
        if (requests i).place = place ∧ finds i = none then 1 else 0 := by
  simp [creations, List.countP_append, List.countP_singleton]

namespace Underway

theorem start (consistent : first.Consistent) :
    Underway requests finds first [] { store := first } where
  rest := rfl
  consistent := consistent
  once := List.nodup_nil
  stands i := .waiting (by simp)
  contents place := by simp [lastContent]
  creations place := by simp [ContentRequest.creations]

/-- What was there at first is still there. -/
theorem held_of_first (h : Underway requests finds first commits race)
    (held : first.contentAt place ≠ none) : race.store.contentAt place ≠ none := by
  rw [h.contents]
  cases lastContent requests finds commits place with
  | none => exact held
  | some content => exact Option.some_ne_none content

variable [DecidableEq ι]

/-- A request comes to a new phase, and all else stays. -/
theorem moved (h : Underway requests finds first commits race) {phase : Phase ElementWrite Element}
    (stands : Stands (requests i) (finds i) race.store (i ∈ commits.map (·.2)) phase) :
    Underway requests finds first commits (race.moved i phase) where
  rest := h.rest
  consistent := h.consistent
  once := h.once
  stands j := by
    by_cases same : j = i
    · subst same
      simpa using stands
    · simpa [same] using h.stands j
  contents := h.contents
  creations := h.creations

/-- A request that has not written yet writes. -/
theorem written (h : Underway requests finds first commits race)
    (pending : i ∉ commits.map (·.2)) {e : Element} {store : Store} {write : ElementWrite}
    (free : finds i = none ↔ race.store.contentAt (requests i).place = none)
    (writes : Writes (requests i) (finds i) race.store e store) :
    Underway requests finds first (commits ++ [(now, i)])
      ({ race with store }.moved i (.finished write (.ok e))) where
  rest := by
    change store = { first with elements := store.elements }
    rw [writes.rest, h.rest]
  consistent := writes.consistent
  once := by
    rw [List.map_append]
    exact h.once.append (List.nodup_singleton i) (by simpa using pending)
  stands j := by
    by_cases same : j = i
    · subst same
      simpa using .won (by simp) writes.own writes.content writes.held
    · have kept : race.store.contentAt (requests j).place ≠ none →
          store.contentAt (requests j).place ≠ none := by
        intro held
        rw [writes.contents]
        split
        · simp
        · exact held
      have stands := (h.stands j).mono store (j ∈ (commits ++ [(now, i)]).map (·.2)) kept
        (by simp [same])
      simpa [same] using stands
  contents place := by
    change store.contentAt place = _
    rw [writes.contents, lastContent_append_singleton, h.contents]
    split <;> rfl
  creations place := by
    change _ = if first.contentAt place = none ∧ store.contentAt place ≠ none then 1 else 0
    rw [creations_append_singleton, h.creations]
    by_cases here : (requests i).place = place
    · subst here
      by_cases new : finds i = none
      · have nothing : race.store.contentAt (requests i).place = none := free.mp new
        -- what is free now was free at first
        have first : first.contentAt (requests i).place = none :=
          not_not.mp fun held => h.held_of_first held nothing
        simp [new, nothing, first, writes.held]
      · have held : race.store.contentAt (requests i).place ≠ none :=
          fun none => new (free.mpr none)
        simp [new, held, writes.held]
    · simp [here, writes.contents]

/-- What a turn does: its request writes, or the store stays. -/
theorem step (h : Underway requests finds first commits race)
    (known : ∃ page, first.page? (requests i).pageId = some page)
    (finding : race.phase i = .waiting → finds i = race.store.contentAt (requests i).place)
    (step : Race.Step (requests i).phases race now i next) :
    Underway requests finds first
      (commits ++ if !(race.phase i).succeeded && (next.phase i).succeeded then [(now, i)] else [])
      next := by
  have here := h.stands i
  obtain ⟨page, known⟩ := known
  have known : race.store.page? (requests i).pageId = some page := by
    rw [h.rest]
    exact known
  cases step with
  | idle => simpa using h
  | refused waiting checked =>
    rw [plan_eq known] at checked
    cases checked
  | planned waiting checked =>
    rw [plan_eq known, ← finding waiting] at checked
    obtain rfl := Except.ok.inj checked
    rw [waiting] at here
    cases here with
    | waiting pending =>
      have still : finds i ≠ none → race.store.contentAt (requests i).place ≠ none := by
        rw [finding waiting]
        exact id
      simpa [waiting] using h.moved (.planned pending still)
  | failed ready written =>
    rw [ready] at here
    cases here with
    | planned pending still =>
      obtain ⟨new, held, lost⟩ | ⟨e, store, -, saved, -⟩ :=
        write_cases h.consistent still now
      · obtain rfl := Except.error.inj (written.symm.trans lost)
        simpa [ready, refuse] using h.moved (.lost pending new held)
      · cases written.symm.trans saved
  | stored ready written =>
    rw [ready] at here
    cases here with
    | planned pending still =>
      obtain ⟨-, -, lost⟩ | ⟨e, store, free, saved, writes⟩ :=
        write_cases h.consistent still now
      · cases written.symm.trans lost
      · obtain ⟨rfl, rfl⟩ := Prod.mk.inj (Except.ok.inj (written.symm.trans saved))
        simpa [ready] using h.written pending free writes

/-- Whatever turns are taken, what they do follows from what each request has found. -/
theorem run (consistent : first.Consistent)
    (known : ∀ i, ∃ page, first.page? (requests i).pageId = some page) {turns : List (Micros × ι)}
    (finding : ∀ i, finds i = (Race.storeFound (fun i => (requests i).phases) { store := first }
      turns i).contentAt (requests i).place)
    {before after : List (Micros × ι)} (split : turns = before ++ after) :
    Underway requests finds first
      (Race.commits (fun i => (requests i).phases) { store := first } before)
      (Race.run (fun i => (requests i).phases) { store := first } before) := by
  induction before using List.reverseRecOn generalizing after with
  | nil => exact start consistent
  | append_singleton before last ih =>
    obtain ⟨now, i⟩ := last
    have split : turns = before ++ (now, i) :: after := by simpa using split
    rw [Race.commits_append_singleton]
    refine (ih split).step (known i) (fun waiting => ?_)
      (Race.step_run (fun i => (requests i).phases) _ before now i)
    rw [finding i, split, Race.storeFound_of_waiting waiting]

end Underway

/-- However the turns of requests for contents are mixed, each request that gets its two turns
succeeds, unless it has found no element and another such request has created it. Each place is held
once in the end, by the content that was written there last, and nothing else has changed; but a
request that has found its own content has written none. -/
theorem racing_contents {ι : Type} [DecidableEq ι] (requests : ι → ContentRequest) {store : Store}
    (consistent : store.Consistent)
    (known : ∀ i, ∃ page ∈ store.pages, page.id = (requests i).pageId)
    (turns : List (Micros × ι)) (complete : ∀ i, 2 ≤ (turns.map (·.2)).count i) :
    let phases i := (requests i).phases
    let first : Race ι ElementWrite Element := { store }
    let race := Race.run phases first turns
    let commits := Race.commits phases first turns
    let found i := (Race.storeFound phases first turns i).contentAt (requests i).place
    (∀ i ∈ commits.map (·.2), ∃ e, (race.phase i).outcome? = some (.ok e) ∧
      e.place = (requests i).place ∧
      (found i ≠ some (requests i).content → e.content = (requests i).content)) ∧
    (∀ i ∉ commits.map (·.2),
      found i = none ∧ (race.phase i).outcome? = some (refuse .elementExists)) ∧
    (commits.map (·.2)).Nodup ∧
    (∀ i, found i = none → creations requests found commits (requests i).place = 1) ∧
    (∀ i, (race.store.elements.map Element.place).count (requests i).place = 1) ∧
    (∀ place, race.store.contentAt place =
      (lastContent requests found commits place).or (store.contentAt place)) ∧
    race.store = { store with elements := race.store.elements } := by
  intro phases first race commits found
  have known : ∀ i, ∃ page, store.page? (requests i).pageId = some page := by
    intro i
    obtain ⟨page, mem, id⟩ := known i
    exact ⟨page, consistent.page?_eq_some_iff.mpr ⟨mem, id⟩⟩
  have underway {before after : List (Micros × ι)} (split : turns = before ++ after) :
      Underway requests found store (Race.commits phases first before)
        (Race.run phases first before) :=
    Underway.run consistent known (fun _ => rfl) split
  have h : Underway requests found store commits race := underway (List.append_nil turns).symm
  have ends (i : ι) : ∃ outcome, (race.phase i).outcome? = some outcome :=
    Race.exists_outcome_run (complete i)
  have held (i : ι) : race.store.contentAt (requests i).place ≠ none := by
    obtain ⟨outcome, ended⟩ := ends i
    exact ((h.stands i).outcome ended).1
  refine ⟨fun i mem => ?_, fun i notMem => ?_, h.once, fun i new => ?_, fun i => ?_, h.contents,
    h.rest⟩
  · obtain ⟨outcome, ended⟩ := ends i
    obtain ⟨-, ⟨-, e, rfl, made⟩ | ⟨pending, -⟩⟩ := (h.stands i).outcome ended
    · exact ⟨e, ended, made⟩
    · exact absurd mem pending
  · obtain ⟨outcome, ended⟩ := ends i
    obtain ⟨-, ⟨done, -⟩ | ⟨-, new, rfl⟩⟩ := (h.stands i).outcome ended
    · exact absurd done notMem
    · exact ⟨new, ended⟩
  · -- what the request did not find was not there at first either
    have before := underway (@List.takeWhile_append_dropWhile _ (·.2 ≠ i) turns).symm
    have free : store.contentAt (requests i).place = none :=
      not_not.mp fun present => before.held_of_first present new
    rw [h.creations, if_pos ⟨free, held i⟩]
  · obtain ⟨e, hold⟩ := Store.exists_element?_of_contentAt (held i)
    obtain ⟨mem, own⟩ := h.consistent.element?_eq_some_iff.mp hold
    have own : e.place = (requests i).place := own
    rw [← own]
    exact List.count_eq_one_of_mem h.consistent.places (List.mem_map_of_mem mem)

def board : Store where
  customers := [⟨⟨1⟩, "Ann", "ann@example.com", 0⟩]
  templates := [⟨⟨2⟩, "Plain", none, none, "<p>\x7b\x7btitle\x7d\x7d</p>", "", true, 0, 0⟩]
  pages := [⟨⟨3⟩, ⟨2⟩, ⟨1⟩, "First", "first", none, none, true, 0, 0⟩]
  elements := [⟨⟨3⟩, "title", .text, "Hello", some "Title", 0, 0⟩]

/-- Two requests for a new element, and two for the one that is there. -/
def writers : Fin 4 → ContentRequest
  | 0 => ⟨⟨3⟩, "note", "One"⟩
  | 1 => ⟨⟨3⟩, "note", "Two"⟩
  | 2 => ⟨⟨3⟩, "title", "Goodbye"⟩
  | 3 => ⟨⟨3⟩, "title", "Hello"⟩

/-- All requests read before the first of them writes. -/
def writerTurns : List (Micros × Fin 4) :=
  [(1, 0), (2, 1), (3, 2), (4, 3), (5, 0), (6, 1), (7, 2), (8, 3)]

theorem racing_contents_writers :
    board.Consistent ∧ (∀ i, ∃ page ∈ board.pages, page.id = (writers i).pageId) ∧
    (∀ i, 2 ≤ (writerTurns.map (·.2)).count i) ∧
    let race := Race.run (fun i => (writers i).phases) { store := board } writerTurns
    (∀ i, (race.store.elements.map Element.place).count (writers i).place = 1) ∧
    race.store = { board with elements := race.store.elements } := by
  have consistent : board.Consistent := by constructor <;> simp [board, Table.Unique]
  have known : ∀ i, ∃ page ∈ board.pages, page.id = (writers i).pageId := by decide
  have complete : ∀ i, 2 ≤ (writerTurns.map (·.2)).count i := by decide
  have ends := racing_contents writers consistent known writerTurns complete
  exact ⟨consistent, known, complete, ends.2.2.2.2.1, ends.2.2.2.2.2.2⟩

/-- A request for a new element can be refused, and the request that wrote last can lose its
content. -/
theorem writers_lose :
    let race := Race.run (fun i => (writers i).phases) { store := board } writerTurns
    (race.phase 1).outcome? = some (refuse .elementExists) ∧
      (Race.commits (fun i => (writers i).phases) { store := board } writerTurns).map (·.2) =
        [0, 2, 3] ∧
      (writers 3).content = "Hello" ∧
      race.store.contentAt (writers 3).place = some "Goodbye" := by
  decide +kernel

end Race

end ContentRequest

end PagePress
