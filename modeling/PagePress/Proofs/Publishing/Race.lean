import PagePress.Proofs.Publishing.Creation
import PagePress.Publishing.Race

/-!
# Racing requests

However the phases of requests for new pages are mixed, each request ends with its page stored or
with a refusal, and nothing is stored but the pages of those that succeed. A request that has passed
its checks may still lose its slug, but then to another page: in the end exactly one page has it.
-/

namespace PagePress

/-! ## Turns -/

def Phase.turnsLeft {δ α : Type} : Phase δ α → Nat
  | waiting => 2
  | planned _ => 1
  | refused _ | finished _ _ => 0

theorem Phase.exists_outcome {δ α : Type} {phase : Phase δ α} (ended : phase.turnsLeft = 0) :
    ∃ outcome, phase.outcome? = some outcome := by
  cases phase with
  | waiting | planned => cases ended
  | refused failure => exact ⟨_, rfl⟩
  | finished plan outcome => exact ⟨_, rfl⟩

namespace Race

variable {ι δ α : Type} [DecidableEq ι] {requests : ι → TwoPhase δ α} {race : Race ι δ α}
  {now : Micros} {i j : ι} {phase : Phase δ α}

@[simp] theorem moved_store : (race.moved i phase).store = race.store := rfl

@[simp] theorem moved_phase_self : (race.moved i phase).phase i = phase := by simp [moved]

@[simp] theorem moved_phase_of_ne (other : j ≠ i) :
    (race.moved i phase).phase j = race.phase j := by simp [moved, other]

/-- What a turn of a request can do. -/
inductive Step (request : TwoPhase δ α) (race : Race ι δ α) (now : Micros) (i : ι) :
    Race ι δ α → Prop where
  | idle (ended : (race.phase i).turnsLeft = 0) : Step request race now i race
  | refused {failure : Failure} (waiting : race.phase i = .waiting)
      (checked : request.plan race.store = .error failure) :
      Step request race now i (race.moved i (.refused failure))
  | planned {plan : δ} (waiting : race.phase i = .waiting)
      (checked : request.plan race.store = .ok plan) :
      Step request race now i (race.moved i (.planned plan))
  | failed {plan : δ} {failure : Failure} (ready : race.phase i = .planned plan)
      (written : request.write race.store now plan = .error failure) :
      Step request race now i (race.moved i (.finished plan (.error failure)))
  | stored {plan : δ} {made : α} {store : Store} (ready : race.phase i = .planned plan)
      (written : request.write race.store now plan = .ok (made, store)) :
      Step request race now i ({ race with store }.moved i (.finished plan (.ok made)))

theorem step_turn : Step (requests i) race now i (race.turn requests now i) := by
  unfold turn
  split
  · rename_i waiting
    split
    · exact .refused waiting ‹_›
    · exact .planned waiting ‹_›
  · rename_i ready
    split
    · exact .failed ready ‹_›
    · exact .stored ready ‹_›
  · exact .idle (by simp [*, Phase.turnsLeft])
  · exact .idle (by simp [*, Phase.turnsLeft])

/-- A turn brings its request nearer to the end, and no other. -/
theorem Step.turnsLeft {request : TwoPhase δ α} {next : Race ι δ α}
    (step : Step request race now i next) (j : ι) :
    (next.phase j).turnsLeft ≤ (race.phase j).turnsLeft - if j = i then 1 else 0 := by
  by_cases same : j = i
  · subst same
    cases step with
    | idle ended => simp [ended]
    | refused waiting | planned waiting => simp [waiting, Phase.turnsLeft]
    | failed ready | stored ready => simp [ready, Phase.turnsLeft]
  · cases step with
    | idle => simp [same]
    | refused | planned | failed | stored => simp [same]

theorem step_run (requests : ι → TwoPhase δ α) (race : Race ι δ α) (turns : List (Micros × ι))
    (now : Micros) (i : ι) :
    Step (requests i) (race.run requests turns) now i
      (race.run requests (turns ++ [(now, i)])) := by
  have last : race.run requests (turns ++ [(now, i)]) =
      (race.run requests turns).turn requests now i := by simp [run]
  rw [last]
  exact step_turn

theorem turnsLeft_run (turns : List (Micros × ι)) (j : ι) :
    ((race.run requests turns).phase j).turnsLeft ≤
      (race.phase j).turnsLeft - (turns.map (·.2)).count j := by
  induction turns using List.reverseRecOn with
  | nil => exact Nat.le_refl _
  | append_singleton turns last ih =>
    obtain ⟨now, i⟩ := last
    have nearer := (step_run requests race turns now i).turnsLeft j
    rw [List.map_append, List.count_append]
    by_cases same : j = i
    · subst same
      simp at nearer ⊢
      omega
    · simp [same, Ne.symm same] at nearer ⊢
      omega

/-- Two turns are enough for a request to end. -/
theorem exists_outcome_run {turns : List (Micros × ι)}
    (twice : 2 ≤ (turns.map (·.2)).count j) :
    ∃ outcome, ((race.run requests turns).phase j).outcome? = some outcome := by
  refine Phase.exists_outcome ?_
  have bound : (race.phase j).turnsLeft ≤ 2 := by
    cases race.phase j <;> simp [Phase.turnsLeft]
  have left : ((race.run requests turns).phase j).turnsLeft ≤ _ := turnsLeft_run turns j
  omega

/-- With nothing in between, the two phases carry out the request at once. -/
theorem run_twice (requests : ι → TwoPhase δ α) (waiting : race.phase i = .waiting)
    (before now : Micros) :
    let ended := race.run requests [(before, i), (now, i)]
    ∃ outcome, (ended.phase i).outcome? = some outcome ∧
      ((requests i).plan race.store >>= (requests i).write race.store now) =
        outcome.map fun made => (made, ended.store) := by
  intro ended
  cases planned : (requests i).plan race.store with
  | error failure =>
    have phase : ended.phase i = .refused failure := by
      simp [ended, run, turn, waiting, planned]
    exact ⟨_, by rw [phase]; rfl, rfl⟩
  | ok plan =>
    cases written : (requests i).write race.store now plan with
    | error failure =>
      have phase : ended.phase i = .finished plan (.error failure) := by
        simp [ended, run, turn, waiting, planned, written]
      exact ⟨.error failure, by rw [phase]; rfl, written⟩
    | ok made =>
      have phase : ended.phase i = .finished plan (.ok made.1) := by
        simp [ended, run, turn, waiting, planned, written]
      have store : ended.store = made.2 := by
        simp [ended, run, turn, waiting, planned, written]
      exact ⟨_, by rw [phase]; rfl, by rw [store]; exact written⟩

end Race

/-! ## Requests for new pages -/

namespace PageRequest

def refusals : List RefusalKind := [.templateNotFound, .customerNotFound, .slugTaken]

def page (request : PageRequest) (now : Micros) : Page := request.data.row now request.id

def rows (request : PageRequest) (store : Store) (now : Micros) : List Element :=
  (store.template? request.data.templateId).elim [] fun template =>
    Store.variableRows now request.id template.html

/-- A request whose phases follow each other creates its page. -/
theorem createPage_of_twice (request : PageRequest) (store : Store) (before now : Micros) :
    let ended := Race.run (fun _ : Unit => request.phases) { store } [(before, ()), (now, ())]
    ∃ outcome, (ended.phase ()).outcome? = some outcome ∧
      Publishing.createPage store now request.id request.data =
        outcome.map fun made => (made, ended.store) :=
  Race.run_twice (fun _ => request.phases) rfl before now

end PageRequest

namespace Publishing

variable {store : Store} {data : NewPage}

/-- A request that does not pass its checks is refused for one of three reasons. -/
theorem exists_of_draftPage_eq_error {failure : Failure}
    (checked : draftPage store data = .error failure) :
    ∃ kind ∈ PageRequest.refusals, failure = .refused { kind } := by
  rw [draftPage_eq] at checked
  split at checked
  · exact ⟨_, by decide, (Except.error.inj checked).symm⟩
  · split at checked
    · exact ⟨_, by decide, (Except.error.inj checked).symm⟩
    · split at checked
      · exact ⟨_, by decide, (Except.error.inj checked).symm⟩
      · cases checked

end Publishing

namespace Race

variable {ι : Type}

/-- The store with the pages that were stored at some turns. -/
def committed (requests : ι → PageRequest) (store : Store) (commits : List (Micros × ι)) : Store :=
  { store with
    pages := store.pages ++ commits.map fun commit => (requests commit.2).page commit.1
    elements := store.elements ++ commits.flatMap fun commit =>
      (requests commit.2).rows store commit.1 }

/-- How a request for a new page can stand, given the store at first, the store now, and when its
page was stored. -/
inductive Stands (request : PageRequest) (first current : Store) (stored : Micros → Prop) :
    Phase PageDraft Page → Prop where
  | waiting (pending : ∀ now, ¬stored now) : Stands request first current stored .waiting
  | refused {kind : RefusalKind} (known : kind ∈ PageRequest.refusals)
      (pending : ∀ now, ¬stored now) :
      Stands request first current stored (.refused (.refused { kind }))
  | planned {template : Template}
      (found : first.template? request.data.templateId = some template)
      (pending : ∀ now, ¬stored now) :
      Stands request first current stored (.planned (request.data.draft template.html))
  | lost {draft : PageDraft} {old : Page} (mem : old ∈ current.pages)
      (same : old.slug = request.data.slug) (pending : ∀ now, ¬stored now) :
      Stands request first current stored (.finished draft (refuse .slugTaken))
  | won {draft : PageDraft} {now : Micros} (done : stored now) :
      Stands request first current stored (.finished draft (.ok (request.page now)))

/-- What holds of a race of requests for new pages at any time: the store at first has got the pages
of the requests that have won, each once. -/
structure IsUnderway (requests : ι → PageRequest) (first : Store) (commits : List (Micros × ι))
    (race : Race ι PageDraft Page) : Prop where
  store : race.store = committed requests first commits
  consistent : race.store.Consistent
  once : (commits.map (·.2)).Nodup
  stands : ∀ i, Stands (requests i) first race.store (fun now => (now, i) ∈ commits) (race.phase i)

variable {requests : ι → PageRequest} {first current : Store} {commits : List (Micros × ι)}
  {race next : Race ι PageDraft Page} {now : Micros} {i : ι}

/-- What is said of a request stays true while others store their pages. -/
theorem Stands.mono {request : PageRequest} {stored : Micros → Prop}
    {phase : Phase PageDraft Page} (h : Stands request first current stored phase)
    (later : Store) (stored' : Micros → Prop) (grown : current.pages ⊆ later.pages)
    (same : ∀ now, stored' now ↔ stored now) :
    Stands request first later stored' phase := by
  obtain rfl : stored' = stored := funext fun now => propext (same now)
  cases h with
  | waiting pending => exact .waiting pending
  | refused known pending => exact .refused known pending
  | planned found pending => exact .planned found pending
  | lost mem same pending => exact .lost (grown mem) same pending
  | won done => exact .won done

/-- A request that has ended has stored its page or has been refused. -/
theorem Stands.outcome {request : PageRequest} {stored : Micros → Prop}
    {phase : Phase PageDraft Page} (h : Stands request first current stored phase)
    {outcome : Outcome Page} (ended : phase.outcome? = some outcome) :
    (∃ now, stored now ∧ outcome = .ok (request.page now)) ∨
      (∀ now, ¬stored now) ∧ ∃ kind ∈ PageRequest.refusals, outcome = refuse kind := by
  cases h with
  | waiting | planned => cases ended
  | refused known pending => exact .inr ⟨pending, _, known, (Option.some.inj ended).symm⟩
  | lost _ _ pending =>
    exact .inr ⟨pending, .slugTaken, by decide, (Option.some.inj ended).symm⟩
  | won done => exact .inl ⟨_, done, (Option.some.inj ended).symm⟩

/-- A request that has passed its checks and has ended has got its slug or has lost it. -/
theorem Stands.lost_or_won {request : PageRequest} {stored : Micros → Prop}
    {phase : Phase PageDraft Page} (h : Stands request first current stored phase)
    {outcome : Outcome Page} (ended : phase.outcome? = some outcome)
    (passed : phase.passed = true) :
    (∃ old ∈ current.pages, old.slug = request.data.slug) ∨ ∃ now, stored now := by
  cases h with
  | waiting | planned => cases ended
  | refused => cases passed
  | lost mem same => exact .inl ⟨_, mem, same⟩
  | won done => exact .inr ⟨_, done⟩

theorem pageId_of_mem_rows {request : PageRequest} {e : Element}
    (mem : e ∈ request.rows first now) : e.pageId = request.id := by
  unfold PageRequest.rows at mem
  cases found : first.template? request.data.templateId with
  | none => simp [found] at mem
  | some template =>
    rw [found] at mem
    exact Store.pageId_of_mem_variableRows mem

/-- The identifier of a page that is not stored yet is still new. -/
theorem isNew_committed (distinct : Function.Injective fun i => (requests i).id)
    (new : first.IsNew (requests i).id) (pending : ∀ now, (now, i) ∉ commits) :
    (committed requests first commits).IsNew (requests i).id := by
  have other : ∀ commit ∈ commits, (requests commit.2).id ≠ (requests i).id := by
    intro commit mem same
    obtain rfl : commit.2 = i := distinct same
    exact pending commit.1 mem
  constructor
  · intro page mem
    rcases List.mem_append.mp mem with old | made
    · exact new.pages page old
    · obtain ⟨commit, hcommit, rfl⟩ := List.mem_map.mp made
      exact other commit hcommit
  · intro e mem
    rcases List.mem_append.mp mem with old | made
    · exact new.elements e old
    · obtain ⟨commit, hcommit, hrow⟩ := List.mem_flatMap.mp made
      rw [pageId_of_mem_rows hrow]
      exact other commit hcommit

theorem committed_append_singleton {template : Template}
    (found : first.template? (requests i).data.templateId = some template) :
    committed requests first (commits ++ [(now, i)]) =
      (committed requests first commits).addPage ((requests i).page now)
        (Store.variableRows now (requests i).id template.html) := by
  have rows : (requests i).rows first now =
      Store.variableRows now (requests i).id template.html := by
    rw [PageRequest.rows, found]
    rfl
  simp [committed, Store.addPage, rows]

namespace IsUnderway

theorem start (consistent : first.Consistent) :
    IsUnderway requests first [] { store := first } where
  store := by simp [committed]
  consistent := consistent
  once := List.nodup_nil
  stands i := .waiting (by simp)

/-- Storing a draft gives the page asked for, unless the slug belongs to another page by now. -/
theorem write_eq (h : IsUnderway requests first commits race)
    (distinct : Function.Injective fun i => (requests i).id)
    (new : first.IsNew (requests i).id) (pending : ∀ now, (now, i) ∉ commits) {html : String} :
    (requests i).phases.write race.store now ((requests i).data.draft html) =
      if race.store.isSlugTaken (requests i).data.slug none then refuse .slugTaken
      else .ok ((requests i).page now, race.store.addPage ((requests i).page now)
        (Store.variableRows now (requests i).id html)) := by
  refine Publishing.insertPage_draft h.consistent ?_
  rw [h.store]
  exact isNew_committed distinct new pending

/-- A request has come to a page if it is one of those whose page is stored. -/
theorem eq_ok_iff (h : IsUnderway requests first commits race) {outcome : Outcome Page}
    (ended : (race.phase i).outcome? = some outcome) {page : Page} :
    outcome = .ok page ↔ ∃ now, (now, i) ∈ commits ∧ page = (requests i).page now := by
  rcases (h.stands i).outcome ended with ⟨now, done, rfl⟩ | ⟨pending, kind, -, rfl⟩
  · constructor
    · rintro ⟨⟩
      exact ⟨now, done, rfl⟩
    · rintro ⟨other, done', rfl⟩
      have same : (now, i) = (other, i) := Table.Unique.eq_of_mem h.once done done' rfl
      rw [(Prod.mk.inj same).1]
  · constructor
    · rintro ⟨⟩
    · rintro ⟨now, done, -⟩
      exact absurd done (pending now)

/-- The slug of a request that has passed its checks and has ended belongs to one page. -/
theorem count_slug (h : IsUnderway requests first commits race) {outcome : Outcome Page}
    (ended : (race.phase i).outcome? = some outcome) (passed : (race.phase i).passed = true) :
    (race.store.pages.map (·.slug)).count (requests i).data.slug = 1 := by
  obtain ⟨page, mem, same⟩ : ∃ page ∈ race.store.pages, page.slug = (requests i).data.slug := by
    rcases (h.stands i).lost_or_won ended passed with found | ⟨now, done⟩
    · exact found
    · have mem : (requests i).page now ∈ (committed requests first commits).pages :=
        List.mem_append_right _ (List.mem_map.mpr ⟨(now, i), done, rfl⟩)
      exact ⟨(requests i).page now, h.store.symm ▸ mem, rfl⟩
  rw [← same]
  exact List.count_eq_one_of_mem h.consistent.slugs (List.mem_map_of_mem mem)

variable [DecidableEq ι]

/-- A request comes to a new phase, and all else stays. -/
theorem moved (h : IsUnderway requests first commits race) {phase : Phase PageDraft Page}
    (stands : Stands (requests i) first race.store (fun now => (now, i) ∈ commits) phase) :
    IsUnderway requests first commits (race.moved i phase) where
  store := h.store
  consistent := h.consistent
  once := h.once
  stands j := by
    by_cases same : j = i
    · subst same
      simpa using stands
    · simpa [same] using h.stands j

/-- What a turn does: it stores the page of its request or no page. -/
theorem step (h : IsUnderway requests first commits race)
    (distinct : Function.Injective fun i => (requests i).id) (new : first.IsNew (requests i).id)
    (step : Step (requests i).phases race now i next) :
    ∃ commits', (commits' = commits ∨ commits' = commits ++ [(now, i)]) ∧
      IsUnderway requests first commits' next := by
  have here := h.stands i
  cases step with
  | idle => exact ⟨commits, .inl rfl, h⟩
  | refused waiting checked =>
    rw [waiting] at here
    cases here with
    | waiting pending =>
      obtain ⟨kind, known, rfl⟩ := Publishing.exists_of_draftPage_eq_error checked
      exact ⟨commits, .inl rfl, h.moved (.refused known pending)⟩
  | planned waiting checked =>
    rw [waiting] at here
    cases here with
    | waiting pending =>
      obtain ⟨template, found, -, -, rfl⟩ := Publishing.draftPage_eq_ok_iff.mp checked
      rw [h.store] at found
      exact ⟨commits, .inl rfl, h.moved (.planned found pending)⟩
  | failed ready written =>
    rw [ready] at here
    cases here with
    | planned found pending =>
      rw [h.write_eq distinct new pending] at written
      split at written
      · rename_i taken
        obtain ⟨old, mem, same⟩ := Store.isSlugTaken_none_iff.mp taken
        obtain rfl := Except.error.inj written
        exact ⟨commits, .inl rfl, h.moved (.lost mem same pending)⟩
      · cases written
  | stored ready written =>
    rw [ready] at here
    cases here with
    | @planned template found pending =>
      rw [h.write_eq distinct new pending] at written
      split at written
      · cases written
      · rename_i untaken
        obtain ⟨rfl, rfl⟩ := Prod.mk.inj (Except.ok.inj written)
        have free : ∀ old ∈ race.store.pages, old.slug ≠ ((requests i).page now).slug :=
          fun old mem same => untaken (Store.isSlugTaken_none_iff.mpr ⟨old, mem, same⟩)
        have still : race.store.IsNew ((requests i).page now).id := by
          rw [h.store]
          exact isNew_committed distinct new pending
        have apart : i ∉ commits.map (·.2) := by simpa using pending
        refine ⟨commits ++ [(now, i)], .inr rfl, ?_, h.consistent.addPage still free, ?_,
          fun j => ?_⟩
        · rw [committed_append_singleton found, ← h.store]
          rfl
        · rw [List.map_append]
          exact h.once.append (List.nodup_singleton i) (by simpa using apart)
        · by_cases same : j = i
          · subst same
            simpa using .won (by simp)
          · let later := race.store.addPage ((requests i).page now)
              (Store.variableRows now (requests i).id template.html)
            have stands := (h.stands j).mono later (fun time => (time, j) ∈ commits ++ [(now, i)])
              (List.subset_append_left _ _) (by simp [same])
            simpa [same, later] using stands

/-- Whatever turns are taken, the pages stored are those of some of them. -/
theorem run (consistent : first.Consistent)
    (distinct : Function.Injective fun i => (requests i).id)
    (new : ∀ i, first.IsNew (requests i).id) (turns : List (Micros × ι)) :
    ∃ commits, commits.Sublist turns ∧ IsUnderway requests first commits
      (Race.run (fun i => (requests i).phases) { store := first } turns) := by
  induction turns using List.reverseRecOn with
  | nil => exact ⟨[], .slnil, start consistent⟩
  | append_singleton turns last ih =>
    obtain ⟨now, i⟩ := last
    obtain ⟨commits, sublist, h⟩ := ih
    obtain ⟨commits', rfl | rfl, h'⟩ :=
      h.step distinct (new i) (step_run (fun i => (requests i).phases) _ turns now i)
    · exact ⟨commits', sublist.trans (List.sublist_append_left _ _), h'⟩
    · exact ⟨_, sublist.append (List.Sublist.refl _), h'⟩

end IsUnderway

/-- However the turns of requests for new pages are mixed, each request that gets its two turns ends
with its page or with one of three refusals; the store has got the pages of those that succeeded, as
they asked for them, and nothing else; and a slug for which a request has passed its checks belongs
to exactly one page. -/
theorem racing_pages {ι : Type} [DecidableEq ι] (requests : ι → PageRequest) {store : Store}
    (consistent : store.Consistent) (distinct : Function.Injective fun i => (requests i).id)
    (new : ∀ i, store.IsNew (requests i).id) (turns : List (Micros × ι))
    (complete : ∀ i, 2 ≤ (turns.map (·.2)).count i) :
    let race := Race.run (fun i => (requests i).phases) { store } turns
    (∀ i, (∃ page, (race.phase i).outcome? = some (.ok page)) ∨
      ∃ kind ∈ PageRequest.refusals, (race.phase i).outcome? = some (refuse kind)) ∧
    (∃ commits : List (Micros × ι), commits.Sublist turns ∧ (commits.map (·.2)).Nodup ∧
      race.store = committed requests store commits ∧
      ∀ i page, (race.phase i).outcome? = some (.ok page) ↔
        ∃ now, (now, i) ∈ commits ∧ page = (requests i).page now) ∧
    ∀ i, (race.phase i).passed = true →
      (race.store.pages.map (·.slug)).count (requests i).data.slug = 1 := by
  intro race
  have ends : ∀ i, ∃ outcome, (race.phase i).outcome? = some outcome := fun i =>
    exists_outcome_run (complete i)
  obtain ⟨commits, sublist, h⟩ := IsUnderway.run consistent distinct new turns
  refine ⟨fun i => ?_, ⟨commits, sublist, h.once, h.store, fun i page => ?_⟩,
    fun i passed => ?_⟩
  · obtain ⟨outcome, ended⟩ := ends i
    rcases (h.stands i).outcome ended with ⟨now, -, rfl⟩ | ⟨-, kind, known, rfl⟩
    · exact .inl ⟨_, ended⟩
    · exact .inr ⟨kind, known, ended⟩
  · obtain ⟨outcome, ended⟩ := ends i
    rw [ended, Option.some_inj]
    exact h.eq_ok_iff ended
  · obtain ⟨outcome, ended⟩ := ends i
    exact h.count_slug ended passed

/-- A store in which two rivals ask for a page under the same slug. -/
def arena : Store where
  customers := [⟨⟨1⟩, "Ann", "ann@example.com", 0⟩]
  templates := [⟨⟨2⟩, "Plain", none, none, "<p>\x7b\x7btitle\x7d\x7d</p>", "", true, 0, 0⟩]

def rivals (first : Bool) : PageRequest where
  id := if first then ⟨3⟩ else ⟨4⟩
  data := ⟨⟨2⟩, ⟨1⟩, "Rival", "rival", none⟩

/-- Both rivals pass their checks before the first of them stores its page. -/
def rivalTurns : List (Micros × Bool) := [(1, true), (2, false), (3, false), (4, true)]

theorem racing_pages_rivals :
    arena.Consistent ∧ (∀ i, arena.IsNew (rivals i).id) ∧
      let race := Race.run (fun i => (rivals i).phases) { store := arena } rivalTurns
      (race.store.pages.map (·.slug)).count "rival" = 1 ∧
      ∃ commits : List (Micros × Bool), commits.Sublist rivalTurns ∧ (commits.map (·.2)).Nodup ∧
        race.store = committed rivals arena commits ∧
        ∀ i page, (race.phase i).outcome? = some (.ok page) ↔
          ∃ now, (now, i) ∈ commits ∧ page = (rivals i).page now := by
  have consistent : arena.Consistent := by constructor <;> simp [arena, Table.Unique]
  have new : ∀ i, arena.IsNew (rivals i).id := by
    intro i
    constructor <;> simp [arena]
  have distinct : Function.Injective fun i => (rivals i).id := by
    rintro (_ | _) (_ | _) same <;> first | rfl | cases same
  have ends := racing_pages rivals consistent distinct new rivalTurns (by decide)
  exact ⟨consistent, new, ends.2.2 true (by decide +kernel), ends.2.1⟩

end Race

end PagePress
