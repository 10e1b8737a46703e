import PagePress.Session.Basic

/-!
# Histories

The history of a session is the list of its steps, each with the session that it found. What holds
in every state of a session is shown by induction on its history.
-/

namespace PagePress

/-- A step that has been taken. -/
structure Event where
  /-- The session before the step. -/
  found : Session
  pause : Micros
  action : Action

namespace Event

def turn (event : Event) : Turn := event.found.nextTurn event.pause

def time (event : Event) : Micros := event.turn.now

def answer (event : Event) : Answer := (event.found.step event.pause event.action).1

/-- The session after the step. -/
def left (event : Event) : Session := (event.found.step event.pause event.action).2

/-- The store before the step. -/
abbrev store (event : Event) : Store := event.found.service.store

theorem left_service (event : Event) :
    event.left.service = (Session.act event.found.service event.turn event.action).2 := rfl

end Event

namespace Session

def history (session : Session) : List (Micros × Action) → List Event
  | [] => []
  | (pause, action) :: rest =>
    { found := session, pause, action } :: history (session.step pause action).2 rest

/-- What a session answers is what its steps answer. -/
theorem run_fst (session : Session) (steps : List (Micros × Action)) :
    (session.run steps).1 = (session.history steps).map (·.answer) := by
  induction steps generalizing session with
  | nil => rfl
  | cons first rest ih => exact congrArg _ (ih _)

/-- The last step of a session leaves what its run leaves. -/
theorem run_append_singleton_snd (session : Session) (steps : List (Micros × Action))
    (pause : Micros) (action : Action) :
    (session.run (steps ++ [(pause, action)])).2 =
      Event.left ⟨(session.run steps).2, pause, action⟩ := by
  induction steps generalizing session with
  | nil => rfl
  | cons first steps ih => exact ih _

theorem run_count (session : Session) (steps : List (Micros × Action)) :
    (session.run steps).2.count = session.count + steps.length := by
  induction steps generalizing session with
  | nil => rfl
  | cons first steps ih => exact (ih _).trans (Nat.add_right_comm _ _ _)

theorem history_append (session : Session) (steps rest : List (Micros × Action)) :
    session.history (steps ++ rest) =
      session.history steps ++ (session.run steps).2.history rest := by
  induction steps generalizing session with
  | nil => rfl
  | cons first steps ih => exact congrArg _ (ih _)

/-- An event in a history was found by the steps before it. -/
theorem exists_of_history_eq_append {session : Session} {steps : List (Micros × Action)}
    {past future : List Event} {event : Event}
    (split : session.history steps = past ++ event :: future) :
    ∃ before after, steps = before ++ (event.pause, event.action) :: after ∧
      past = session.history before ∧ event.found = (session.run before).2 := by
  induction steps generalizing session past with
  | nil => simp [history] at split
  | cons first rest ih =>
    cases past with
    | nil =>
      obtain ⟨rfl, -⟩ := List.cons.inj split
      exact ⟨[], rest, rfl, rfl, rfl⟩
    | cons earliest past =>
      obtain ⟨rfl, hrest⟩ := List.cons.inj split
      obtain ⟨before, after, rfl, rfl, found⟩ := ih hrest
      exact ⟨first :: before, after, rfl, rfl, found⟩

/-- What holds at first and is kept up by every step holds after any steps, together with their
history. -/
theorem history_induction {motive : List Event → Session → Prop} {session : Session}
    {steps : List (Micros × Action)} (first : motive [] session)
    (step : ∀ past found, ∀ next ∈ steps, motive past found →
      motive (past ++ [⟨found, next.1, next.2⟩]) (found.step next.1 next.2).2) :
    motive (session.history steps) (session.run steps).2 := by
  suffices general : ∀ past found, motive past found →
      motive (past ++ found.history steps) (found.run steps).2 from general [] session first
  clear first
  induction steps with
  | nil =>
    intro past found h
    simpa [history, run] using h
  | cons next rest ih =>
    intro past found h
    have rest := ih (fun past found next mem => step past found next (List.mem_cons_of_mem _ mem))
      _ _ (step past found next List.mem_cons_self h)
    simpa [history, run] using rest

/-! ## Time -/

/-- When the clock does not go back, every step comes after the one before it. -/
theorem time_lt_of_history {session : Session} {steps : List (Micros × Action)}
    (forward : ∀ step ∈ steps, 0 ≤ step.1) :
    (∀ event ∈ session.history steps, session.now < event.time) ∧
      (session.history steps).Pairwise fun earlier later => earlier.time < later.time := by
  induction steps generalizing session with
  | nil => exact ⟨by simp [history], .nil⟩
  | cons first rest ih =>
    obtain ⟨now, later⟩ := List.forall_mem_cons.mp forward
    obtain ⟨after, ordered⟩ := @ih (session.step first.1 first.2).2 later
    have passes : session.now < session.now + second + first.1 :=
      Int.lt_of_lt_of_le (Int.lt_add_of_pos_right _ (by decide)) (Int.le_add_of_nonneg_right now)
    refine ⟨List.forall_mem_cons.mpr ⟨passes, fun event mem => ?_⟩, .cons after ordered⟩
    exact Int.lt_trans passes (after event mem)

/-- What came later than an event stands behind it. -/
theorem mem_of_time_lt {before between : List Event} {event other : Event}
    (ordered : (before ++ event :: between).Pairwise fun a b => a.time < b.time)
    (mem : other ∈ before ++ event :: between) (later : event.time < other.time) :
    other ∈ between := by
  obtain ⟨-, -, across⟩ := List.pairwise_append.mp ordered
  rcases List.mem_append.mp mem with earlier | mem
  · exact absurd (across other earlier event List.mem_cons_self) (Int.lt_asymm later)
  · rcases List.mem_cons.mp mem with rfl | mem
    · exact absurd later (Int.lt_irrefl _)
    · exact mem

end Session

end PagePress
