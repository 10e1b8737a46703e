import Mathlib.Data.List.Induction
import PagePress.Proofs.Log.Structured

/-!
# Contexts that overlap

Leaving a context puts back what was in force when it was entered, whatever has been entered or left
since. Where contexts are left in the reverse order of entering, these are the contexts that are
still open, and a record tells what they say. Where they are not, a context that is still open is
lost, and one that has been left comes back.
-/

namespace PagePress

namespace ContextEvent

def entered? : ContextEvent → Option Nat
  | enter id _ => some id
  | leave _ => none

/-- The contexts that are open after the events, each with its number, in the order of entering. -/
def opened (events : List ContextEvent) : List (Nat × Fields) :=
  events.foldl (fun opened event =>
    match event with
    | enter id fields => opened ++ [(id, fields)]
    | leave id => opened.filter (·.1 ≠ id)) []

/-- Every context has distinct fields, and is entered once and left afterwards, if it is left. -/
inductive AreSound : List ContextEvent → Prop where
  | nil : AreSound []
  | enter {events : List ContextEvent} {id : Nat} {fields : Fields} (sound : AreSound events)
      (distinct : fields.IsDistinct) (new : id ∉ events.filterMap entered?) :
      AreSound (events ++ [enter id fields])
  | leave {events : List ContextEvent} {id : Nat} (sound : AreSound events)
      (isOpen : id ∈ (opened events).map (·.1)) : AreSound (events ++ [leave id])

/-- A context is left only when all that were entered after it have been left. -/
inductive AreNested : List ContextEvent → Prop where
  | nil : AreNested []
  | enter {events : List ContextEvent} (id : Nat) (fields : Fields) (nested : AreNested events) :
      AreNested (events ++ [enter id fields])
  | leave {events : List ContextEvent} {id : Nat} (nested : AreNested events)
      (last : (opened events).getLast?.map (·.1) = some id) : AreNested (events ++ [leave id])

variable {events : List ContextEvent} {event : ContextEvent} {id : Nat} {fields : Fields}

@[simp] theorem opened_append_enter (events : List ContextEvent) (id : Nat) (fields : Fields) :
    opened (events ++ [enter id fields]) = opened events ++ [(id, fields)] := by
  simp [opened]

@[simp] theorem opened_append_leave (events : List ContextEvent) (id : Nat) :
    opened (events ++ [leave id]) = (opened events).filter (·.1 ≠ id) := by
  simp [opened]

theorem AreNested.of_append_singleton (nested : AreNested (events ++ [event])) :
    AreNested events := by
  generalize whole : events ++ [event] = all at nested
  cases nested with
  | nil => simp at whole
  | enter id fields nested =>
    obtain ⟨rfl, -⟩ := List.append_inj' whole rfl
    exact nested
  | leave nested last =>
    obtain ⟨rfl, -⟩ := List.append_inj' whole rfl
    exact nested

theorem AreNested.earlier {before : List ContextEvent} (nested : AreNested events)
    (start : before <+: events) : AreNested before := by
  obtain ⟨after, rfl⟩ := start
  induction after using List.reverseRecOn with
  | nil => rwa [List.append_nil] at nested
  | append_singleton after event ih =>
    rw [← List.append_assoc] at nested
    exact ih nested.of_append_singleton

theorem AreNested.getLast?_opened (nested : AreNested (events ++ [.leave id])) :
    (opened events).getLast?.map (·.1) = some id := by
  generalize whole : events ++ [.leave id] = all at nested
  cases nested with
  | nil => simp at whole
  | enter => simp at whole
  | leave nested last =>
    obtain ⟨rfl, same⟩ := List.append_inj' whole rfl
    cases same
    exact last

theorem AreSound.of_append_singleton (sound : AreSound (events ++ [event])) : AreSound events := by
  generalize whole : events ++ [event] = all at sound
  cases sound with
  | nil => simp at whole
  | enter sound distinct new =>
    obtain ⟨rfl, -⟩ := List.append_inj' whole rfl
    exact sound
  | leave sound isOpen =>
    obtain ⟨rfl, -⟩ := List.append_inj' whole rfl
    exact sound

theorem AreSound.earlier {before : List ContextEvent} (sound : AreSound events)
    (start : before <+: events) : AreSound before := by
  obtain ⟨after, rfl⟩ := start
  induction after using List.reverseRecOn with
  | nil => rwa [List.append_nil] at sound
  | append_singleton after event ih =>
    rw [← List.append_assoc] at sound
    exact ih sound.of_append_singleton

namespace AreSound

/-- What is open has been entered. -/
theorem mem_entered (sound : AreSound events) (isOpen : id ∈ (opened events).map (·.1)) :
    id ∈ events.filterMap entered? := by
  induction sound with
  | nil => cases isOpen
  | @enter events other fields sound distinct new ih =>
    rw [opened_append_enter, List.map_append, List.mem_append] at isOpen
    rw [List.filterMap_append, List.mem_append]
    rcases isOpen with earlier | same
    · exact .inl (ih earlier)
    · exact .inr (by simpa [entered?] using same)
  | @leave events other sound isOpen' ih =>
    rw [opened_append_leave] at isOpen
    rw [List.filterMap_append, List.mem_append]
    exact .inl (ih ((List.filter_sublist.map _).subset isOpen))

theorem nodup_opened (sound : AreSound events) : ((opened events).map (·.1)).Nodup := by
  induction sound with
  | nil => exact List.nodup_nil
  | enter sound distinct new ih =>
    rw [opened_append_enter, List.map_append, List.nodup_append]
    refine ⟨ih, List.nodup_singleton _, ?_⟩
    intro earlier mem other only same
    rw [List.map_singleton, List.mem_singleton] at only
    rw [same, only] at mem
    exact new (sound.mem_entered mem)
  | leave sound isOpen ih =>
    rw [opened_append_leave]
    exact ih.sublist (List.filter_sublist.map _)

theorem isDistinct (sound : AreSound events) : ∀ context ∈ opened events, context.2.IsDistinct := by
  induction sound with
  | nil => simp [opened]
  | enter sound distinct new ih =>
    rw [opened_append_enter]
    exact List.forall_mem_append.mpr ⟨ih, by simpa using distinct⟩
  | leave sound isOpen ih =>
    rw [opened_append_leave]
    exact fun context mem => ih context (List.mem_filter.mp mem).1

end AreSound

end ContextEvent

namespace ContextState

open ContextEvent (opened entered?)

variable {events before between : List ContextEvent} {id : Nat} {fields : Fields}

@[simp] theorem run_append_singleton (state : ContextState) (events : List ContextEvent)
    (event : ContextEvent) : state.run (events ++ [event]) = (state.run events).step event := by
  simp [run]

/-- What was in force when a context was entered is remembered as long as it is not entered
again. -/
theorem lookup_remembered (sound : ContextEvent.AreSound events) (before after : List ContextEvent)
    (split : events = before ++ .enter id fields :: after) :
    (run {} events).remembered.lookup id = some (run {} before).inForce := by
  induction sound generalizing after with
  | nil => simp at split
  | @enter earlier other fields' sound distinct new ih =>
    rw [run_append_singleton, step, List.lookup_cons]
    rcases List.eq_nil_or_concat after with rfl | ⟨after, last, rfl⟩
    · obtain ⟨rfl, same⟩ := List.append_inj' split rfl
      cases same
      simp
    · rw [List.concat_eq_append, ← List.cons_append, ← List.append_assoc] at split
      obtain ⟨rfl, -⟩ := List.append_inj' split rfl
      have apart : id ≠ other := by
        rintro rfl
        exact new (by simp [entered?])
      rw [beq_false_of_ne apart]
      exact ih after rfl
  | @leave earlier other sound isOpen ih =>
    rw [run_append_singleton, step]
    rcases List.eq_nil_or_concat after with rfl | ⟨after, last, rfl⟩
    · obtain ⟨-, same⟩ := List.append_inj' split rfl
      cases same
    · rw [List.concat_eq_append, ← List.cons_append, ← List.append_assoc] at split
      obtain ⟨rfl, -⟩ := List.append_inj' split rfl
      exact ih after rfl

/-- Leaving a context puts back what was in force when it was entered. -/
theorem inForce_leave (sound : ContextEvent.AreSound (before ++ .enter id fields :: between)) :
    (run {} (before ++ .enter id fields :: (between ++ [.leave id]))).inForce =
      (run {} before).inForce := by
  have split : before ++ .enter id fields :: (between ++ [.leave id]) =
      (before ++ .enter id fields :: between) ++ [.leave id] := by simp
  rw [split, run_append_singleton, step, lookup_remembered sound before between rfl]
  rfl

/-! ## Nested contexts -/

/-- The contexts in force are those that are open, and what is remembered of an open context are
those that were open when it was entered. -/
structure FollowsOpened (events : List ContextEvent) : Prop where
  inForce : (run {} events).inForce = (opened events).map (·.2)
  remembered : ∀ front id fields back, opened events = front ++ (id, fields) :: back →
    (run {} events).remembered.lookup id = some (front.map (·.2))

namespace FollowsOpened

theorem enter (h : FollowsOpened events) (new : id ∉ (opened events).map (·.1))
    (fields : Fields) : FollowsOpened (events ++ [.enter id fields]) where
  inForce := by simp [step, h.inForce]
  remembered := by
    intro front other fields' back split
    rw [ContextEvent.opened_append_enter] at split
    rw [run_append_singleton, step, List.lookup_cons]
    rcases List.eq_nil_or_concat back with rfl | ⟨back, last, rfl⟩
    · obtain ⟨rfl, same⟩ := List.append_inj' split rfl
      cases same
      rw [beq_self_eq_true]
      exact congrArg some h.inForce
    · rw [List.concat_eq_append, ← List.cons_append, ← List.append_assoc] at split
      obtain ⟨earlier, -⟩ := List.append_inj' split rfl
      have apart : other ≠ id := by
        rintro rfl
        exact new (by simp [earlier])
      rw [beq_false_of_ne apart]
      exact h.remembered front other fields' back earlier

/-- After leaving, what is open is what was open, without the context that is left; in force are
only those that were entered before it. -/
theorem leave (h : FollowsOpened events) (once : ((opened events).map (·.1)).Nodup)
    {front back : List (Nat × Fields)} (split : opened events = front ++ (id, fields) :: back) :
    (run {} (events ++ [.leave id])).inForce = front.map (·.2) ∧
      opened (events ++ [.leave id]) = front ++ back := by
  constructor
  · rw [run_append_singleton, step, h.remembered front id fields back split]
    rfl
  · rw [split, List.map_append, List.map_cons, List.nodup_middle, List.nodup_cons,
      ← List.map_append] at once
    have others : ∀ context ∈ front ++ back, context.1 ≠ id := by
      intro context mem same
      have inside : context.1 ∈ (front ++ back).map (·.1) := List.mem_map_of_mem mem
      exact once.1 (same ▸ inside)
    rw [ContextEvent.opened_append_leave, split, List.filter_append, List.filter_cons_of_neg
      (by simp), ← List.filter_append]
    exact List.filter_eq_self.mpr fun context mem => by simpa using others context mem

end FollowsOpened

theorem exists_of_mem_opened (isOpen : id ∈ (opened events).map (·.1)) :
    ∃ front fields back, opened events = front ++ (id, fields) :: back := by
  obtain ⟨⟨_, fields⟩, mem, rfl⟩ := List.mem_map.mp isOpen
  obtain ⟨front, back, split⟩ := List.append_of_mem mem
  exact ⟨front, fields, back, split⟩

/-- Where contexts are nested, those in force are those that are open. -/
theorem followsOpened_of_areNested (sound : ContextEvent.AreSound events)
    (nested : ContextEvent.AreNested events) : FollowsOpened events := by
  induction sound with
  | nil => exact ⟨rfl, by simp [opened]⟩
  | enter sound distinct new ih =>
    exact (ih nested.of_append_singleton).enter (fun isOpen => new (sound.mem_entered isOpen)) _
  | @leave events id sound isOpen ih =>
    have h := ih nested.of_append_singleton
    obtain ⟨⟨id, fields⟩, last, rfl⟩ := Option.map_eq_some_iff.mp nested.getLast?_opened
    obtain ⟨front, split⟩ := List.getLast?_eq_some_iff.mp last
    obtain ⟨inForce, opened_eq⟩ := h.leave sound.nodup_opened split
    rw [List.append_nil] at opened_eq
    refine ⟨by rw [inForce, opened_eq], fun front' other fields' back' split' => ?_⟩
    rw [opened_eq] at split'
    rw [run_append_singleton, step]
    refine h.remembered front' other fields' (back' ++ [(id, fields)]) ?_
    rw [split, split']
    simp

/-- If those in force are always those that are open, contexts are nested. -/
theorem areNested_of_inForce_eq (sound : ContextEvent.AreSound events)
    (follows : ∀ before, before <+: events →
      (run {} before).inForce = (opened before).map (·.2)) : ContextEvent.AreNested events := by
  induction sound with
  | nil => exact .nil
  | enter sound distinct new ih =>
    exact .enter _ _ (ih fun before start => follows before (start.trans (List.prefix_append _ _)))
  | @leave events id sound isOpen ih =>
    have nested := ih fun before start => follows before (start.trans (List.prefix_append _ _))
    obtain ⟨front, fields, back, split⟩ := exists_of_mem_opened isOpen
    obtain ⟨inForce, opened_eq⟩ :=
      (followsOpened_of_areNested sound nested).leave sound.nodup_opened split
    have lengths := congrArg List.length (follows _ List.prefix_rfl)
    rw [inForce, opened_eq, List.length_map, List.length_map, List.length_append] at lengths
    have last : back = [] := List.eq_nil_of_length_eq_zero (by omega)
    refine .leave nested ?_
    rw [split, last, List.getLast?_concat]
    rfl

/-- For all contexts that are entered once and then left: the contexts in force are always those
that are open exactly if contexts are left in the reverse order of entering. A record then has every
attribute from the innermost open context that sets it, and when all are left, no context is in
force. In any other order, leaving a context puts back what was in force when it was entered. -/
theorem inForce_eq_opened_iff_areNested (sound : ContextEvent.AreSound events) :
    (ContextEvent.AreNested events ↔ ∀ before, before <+: events →
      (run {} before).inForce = (opened before).map (·.2)) ∧
    (ContextEvent.AreNested events → Contexts.fault? ((opened events).map (·.2)) = none →
      ∀ source failure, ∃ record,
        LogRecord.make (run {} events).inForce source none failure = .ok record ∧
        ∀ name, record.attributes.get? name =
          (Contexts.innermost ((opened events).map (·.2)) name).or
            ((LogRecord.plainAttributes source).get? name)) ∧
    (ContextEvent.AreNested events → opened events = [] → (run {} events).inForce = []) ∧
    ∀ before id fields between, events = before ++ .enter id fields :: (between ++ [.leave id]) →
      (run {} events).inForce = (run {} before).inForce := by
  refine ⟨⟨fun nested before start => ?_, areNested_of_inForce_eq sound⟩, ?_, ?_, ?_⟩
  · exact (followsOpened_of_areNested (sound.earlier start) (nested.earlier start)).inForce
  · intro nested stampable source failure
    have once : ∀ fields ∈ (opened events).map (·.2), fields.IsDistinct := by
      intro fields mem
      obtain ⟨context, isOpen, rfl⟩ := List.mem_map.mp mem
      exact sound.isDistinct context isOpen
    rw [(followsOpened_of_areNested sound nested).inForce]
    refine ⟨_, by rw [LogRecord.make, stampable], fun name => ?_⟩
    exact Contexts.get?_foldl_merge once _ name
  · intro nested closed
    rw [(followsOpened_of_areNested sound nested).inForce, closed]
    rfl
  · rintro before id fields between rfl
    have start : before ++ .enter id fields :: between <+:
        before ++ .enter id fields :: (between ++ [.leave id]) := ⟨[.leave id], by simp⟩
    exact inForce_leave (sound.earlier start)

end ContextState

/-- A request that logs something of its own in a context inside its own, and then another. -/
def requestsInTurn : List ContextEvent :=
  [.enter 0 [("request_id", .str "r1"), ("path", .str "/p/home")],
    .enter 1 [("request_id", .str "r1"), ("status_code", .int 200)], .leave 1, .leave 0,
    .enter 2 [("request_id", .str "r2")]]

open ContextEvent in
theorem inForce_requestsInTurn :
    AreSound requestsInTurn ∧ AreNested requestsInTurn ∧
      (opened requestsInTurn).map (·.1) = [2] ∧
      (∀ before, before <+: requestsInTurn →
        (ContextState.run {} before).inForce = (opened before).map (·.2)) ∧
      ∀ source, ∃ record,
        LogRecord.make (ContextState.run {} requestsInTurn).inForce source none none = .ok record ∧
        record.attributes.get? "request_id" = some (.str "r2") ∧
        record.attributes.get? "path" = none := by
  have sound : AreSound requestsInTurn :=
    ((((AreSound.nil.enter (by decide) (by decide)).enter (by decide) (by decide)).leave
      (by decide)).leave (by decide)).enter (by decide) (by decide)
  have nested : AreNested requestsInTurn :=
    ((((AreNested.nil.enter _ _).enter _ _).leave (by decide)).leave (by decide)).enter _ _
  obtain ⟨same, told, -, -⟩ := ContextState.inForce_eq_opened_iff_areNested sound
  refine ⟨sound, nested, by decide, same.mp nested, fun source => ?_⟩
  obtain ⟨record, made, attributes⟩ := told nested (by decide) source none
  refine ⟨record, made, ?_, ?_⟩ <;> rw [attributes] <;> rfl

/-- Two requests that overlap: the one that came first is done first. -/
def overlappingRequests : List ContextEvent :=
  [.enter 0 [("request_id", .str "r1")], .enter 1 [("path", .str "/p/home")], .leave 0, .leave 1]

open ContextEvent in
/-- While the second request goes on, its records say nothing of it, and when both are done, records
still tell of the first. -/
theorem overlappingRequests_leak :
    AreSound overlappingRequests ∧ opened overlappingRequests = [] ∧
      (opened (overlappingRequests.take 3)).map (·.1) = [1] ∧
      (∀ source, ∃ record, LogRecord.make
          (ContextState.run {} (overlappingRequests.take 3)).inForce source none none = .ok record ∧
        record.attributes.get? "path" = none) ∧
      (ContextState.run {} overlappingRequests).inForce ≠ [] ∧
      ∀ source, ∃ record, LogRecord.make
          (ContextState.run {} overlappingRequests).inForce source none none = .ok record ∧
        record.attributes.get? "request_id" = some (.str "r1") := by
  have sound : AreSound overlappingRequests :=
    (((AreSound.nil.enter (by decide) (by decide)).enter (by decide) (by decide)).leave
      (by decide)).leave (by decide)
  exact ⟨sound, by decide, by decide, fun source => ⟨_, rfl, rfl⟩, by decide,
    fun source => ⟨_, rfl, rfl⟩⟩

end PagePress
