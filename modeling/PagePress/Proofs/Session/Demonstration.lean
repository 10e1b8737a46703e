import PagePress.Proofs.Command.Demonstration
import PagePress.Proofs.Session.History
import PagePress.Proofs.Session.Integrity

/-!
# Demonstrations in whole sessions

Whatever was stored before, setting up a demonstration adds its template, and a customer if nobody
has the email, also when it fails: it has written them when it comes to the page, and what is
written stays. Only the page and its elements come all together or not at all.
-/

namespace PagePress

namespace Session

/-- A step of a session that sets up a demonstration. -/
theorem step_seeding (session : Session) (pause : Micros) {words : List String}
    {slug email : String} (asked : Command.ofArguments? words = some (.seedDemo slug email)) :
    (session.step pause (.command words)).1 =
        .report (Command.seed session.service.store (session.nextTurn pause) slug email).1 ∧
      (session.step pause (.command words)).2.service.store =
        (Command.seed session.service.store (session.nextTurn pause) slug email).2 := by
  have ran : Command.runLine session.service.store (session.nextTurn pause) words =
      Command.seed session.service.store (session.nextTurn pause) slug email := by
    simp only [Command.runLine, asked, Command.run]
  rw [← ran]
  exact ⟨rfl, rfl⟩

theorem IsOrderly.written_owner {session : Session} (h : session.IsOrderly)
    (short : session.count < Nat.pow 10 31) (pause : Micros) (email : String) :
    (Demo.owner session.service.store (session.nextTurn pause) email).id.written =
      (Demo.owner session.service.store (session.nextTurn pause) email).id := by
  rcases Demo.owner_cases session.service.store (session.nextTurn pause) email with
    ⟨-, mem, -⟩ | ⟨-, same, -, -⟩
  · obtain ⟨step, before, hid⟩ := h.customers _ mem
    rw [hid]
    exact Uuid.written_of_lt (identifier_lt (by decide) (before.trans short))
  · rw [same]
    exact Uuid.written_of_lt (identifier_lt (by decide) short)

/-- What the command for a demonstration leaves, in every state that a session reaches. When the
page is refused, the template and the new customer stay; when it is made, it is public, has the slug
asked for, and comes with its elements. In all but very long sessions the command succeeds whenever
the slug is one and is free, and no element was stored in advance where one of the page goes. -/
theorem seeding_leaves (ttl : Micros) (steps : List (Micros × Action)) (pause : Micros)
    {words : List String} {slug email : String}
    (asked : Command.ofArguments? words = some (.seedDemo slug email)) :
    let event : Event := ⟨((start ttl).run steps).2, pause, .command words⟩
    ∃ report, event.answer = .report report ∧
      Demo.Leaves event.store event.turn slug email report.exitCode event.left.service.store ∧
      (steps.length < Nat.pow 10 31 →
        (report.exitCode = 0 ↔ Demo.IsPossible event.store event.turn slug) ∧
        (report.exitCode = 0 → event.left.service.store =
          (Demo.prepare event.store event.turn email).addPage
            (Demo.newPage event.turn event.turn.templateId
              (Demo.owner event.store event.turn email).id slug)
            (Store.variableRows event.turn.now event.turn.pageId Demo.template.html))) := by
  intro event
  have orderly : event.found.IsOrderly := (isOrderly_start ttl).run steps
  have fresh : event.turn.IsFresh event.store := orderly.isFresh_nextTurn pause
  obtain ⟨answered, left⟩ := step_seeding event.found pause asked
  refine ⟨_, answered, ?_, fun short => ?_⟩
  · rw [Event.left, left]
    exact Command.leaves_seed orderly.consistent fresh slug email
  · have short' : event.found.count < Nat.pow 10 31 := by
      rw [run_count]
      exact (Nat.zero_add _).trans_lt short
    have template : event.turn.templateId.written = event.turn.templateId :=
      Uuid.written_of_lt (identifier_lt (by decide) short')
    rw [Event.left, left]
    exact Command.seed_of_written orderly.consistent fresh template
      (orderly.written_owner short' pause email)

/-- The first demonstration, with the slug and the email that it has when none are given. -/
theorem seeding_leaves_demo :
    let event : Event := ⟨((start 60).run []).2, 0, .command ["seed-demo"]⟩
    ∃ report, event.answer = .report report ∧ report.exitCode = 0 ∧
      ∃ customer template,
        event.left.service.store.pages = [Demo.newPage event.turn template customer "demo"] := by
  intro event
  have asked : Command.ofArguments? ["seed-demo"] =
      some (.seedDemo "demo" "demo@pageforge.dev") := by decide +kernel
  have empty : event.store = {} := rfl
  have possible : Demo.IsPossible event.store event.turn "demo" := by
    have new : Store.IsNew {} event.turn.pageId := ⟨by simp, by simp⟩
    have isName : IsName "demo" := ⟨by decide, by decide⟩
    rw [empty]
    exact ⟨⟨isName, by simp⟩, by simp, new.unique_append .empty⟩
  obtain ⟨report, answered, leaves, written⟩ := seeding_leaves 60 [] 0 asked
  have code : report.exitCode = 0 := (written (by decide)).1.mpr possible
  obtain ⟨-, template, -, customer, -, left⟩ := leaves.ofSuccess code
  refine ⟨report, answered, code, customer.id, template.id, ?_⟩
  rw [left, Store.addPage, Demo.prepare, empty]
  rfl

/-- A demonstration under the slug of the first page is refused, and yet there is one more template
after it. -/
theorem demonstration_leaves_trace :
    ∃ report, (((start 60).run firstPage).2.step 0
        (.command ["seed-demo", "--slug", "first"])).1 = .report report ∧ report.exitCode ≠ 0 ∧
      (((start 60).run firstPage).2.step 0
          (.command ["seed-demo", "--slug", "first"])).2.service.store.templates ≠
        ((start 60).run firstPage).2.service.store.templates := by
  have asked : Command.ofArguments? ["seed-demo", "--slug", "first"] =
      some (.seedDemo "first" "demo@pageforge.dev") := by decide +kernel
  have taken : ∃ page ∈ ((start 60).run firstPage).2.service.store.pages, page.slug = "first" := by
    decide +kernel
  generalize hfound : ((start 60).run firstPage).2 = found at taken ⊢
  have orderly : found.IsOrderly := hfound ▸ (isOrderly_start 60).run firstPage
  obtain ⟨answered, left⟩ := step_seeding found 0 asked
  have leaves := Command.leaves_seed orderly.consistent (orderly.isFresh_nextTurn 0) "first"
    "demo@pageforge.dev"
  have failed : (Command.seed found.service.store (found.nextTurn 0) "first"
      "demo@pageforge.dev").1.exitCode ≠ 0 := by
    intro succeeded
    obtain ⟨page, mem, own⟩ := taken
    exact (leaves.ofSuccess succeeded).1 page mem own
  refine ⟨_, answered, failed, ?_⟩
  rw [left, leaves.ofFailure failed]
  simp [Demo.prepare]

end Session

end PagePress
