import Mathlib.Data.Finset.Card
import Mathlib.Data.List.DropRight
import PagePress.Cache.Memory

/-!
# The history of a cache

A cache is read and written over time. The record of what was done tells what may be expected of it:
what was written last for a slug, and which slugs were used since a slug was used.
-/

namespace PagePress

/-- What is done with a cache. -/
inductive CacheStep where
  | read (slug : String)
  | write (slug : String) (document : Document)
deriving DecidableEq

/-- A step that has been taken, and what it answered. -/
structure CacheEvent where
  time : Micros
  step : CacheStep
  answer : Option Document
deriving DecidableEq

namespace CacheEvent

/-- The slug that a step uses: the one that it writes to, or the one whose document it gets. -/
def used? (event : CacheEvent) : Option String :=
  match event.step with
  | .read slug => event.answer.map fun _ => slug
  | .write slug _ => some slug

def written? (event : CacheEvent) (slug : String) : Option (Micros × Document) :=
  match event.step with
  | .read _ => none
  | .write target document => if target = slug then some (event.time, document) else none

end CacheEvent

def lastWrite? (past : List CacheEvent) (slug : String) : Option (Micros × Document) :=
  past.reverse.findSome? (·.written? slug)

/-- The slugs that were used after the last use of the given one, in order. -/
def usedSince (past : List CacheEvent) (slug : String) : List String :=
  (past.filterMap CacheEvent.used?).rtakeWhile (· ≠ slug)

section History

variable {past : List CacheEvent} {event : CacheEvent} {slug other : String}

theorem lastWrite?_append (past : List CacheEvent) (event : CacheEvent) (slug : String) :
    lastWrite? (past ++ [event]) slug = (event.written? slug).or (lastWrite? past slug) := by
  rw [lastWrite?, lastWrite?, List.reverse_append]
  cases h : event.written? slug <;> simp [h]

theorem usedSince_append (past : List CacheEvent) (event : CacheEvent) (slug : String) :
    usedSince (past ++ [event]) slug =
      match event.used? with
      | none => usedSince past slug
      | some used => if used = slug then [] else usedSince past slug ++ [used] := by
  rw [usedSince, usedSince, List.filterMap_append]
  cases h : event.used? with
  | none => simp [h]
  | some used => by_cases same : used = slug <;> simp [h, same]

/-- As long as a slug is not used itself, no slug used since is forgotten. -/
theorem usedSince_subset_append (other : event.used? ≠ some slug) :
    usedSince past slug ⊆ usedSince (past ++ [event]) slug := by
  rw [usedSince_append]
  cases h : event.used? with
  | none => exact List.Subset.refl _
  | some used =>
    have apart : used ≠ slug := fun same => other (same ▸ h)
    simp [apart]

end History

namespace RenderCache

def step (cache : RenderCache) (now : Micros) :
    CacheStep → Except CacheFault (Option Document × RenderCache)
  | .read slug => .ok (cache.get now slug)
  | .write slug document => (cache.insert? now slug document).map fun cache => (none, cache)

def run (cache : RenderCache) :
    List (Micros × CacheStep) → Except CacheFault (List CacheEvent × RenderCache)
  | [] => .ok ([], cache)
  | (time, step) :: rest =>
    match cache.step time step with
    | .error fault => .error fault
    | .ok (answer, cache) =>
      (cache.run rest).map fun (events, cache) => ({ time, step, answer } :: events, cache)

/-- What a step that is taken at a later time keeps up, steps keep up that are taken one after the
other. -/
theorem run_induction {motive : List CacheEvent → Micros → RenderCache → Prop}
    (step : ∀ past now cache time step, motive past now cache → now ≤ time →
      ∃ answer cache', cache.step time step = .ok (answer, cache') ∧
        motive (past ++ [⟨time, step, answer⟩]) time cache')
    {past : List CacheEvent} {now : Micros} {cache : RenderCache} (first : motive past now cache)
    {steps : List (Micros × CacheStep)} (forward : (now :: steps.map (·.1)).Pairwise (· ≤ ·)) :
    ∃ events now' cache', cache.run steps = .ok (events, cache') ∧
      events.map (fun event => (event.time, event.step)) = steps ∧
      motive (past ++ events) now' cache' ∧ now' ∈ now :: steps.map (·.1) := by
  induction steps generalizing past now cache with
  | nil => exact ⟨[], now, cache, rfl, rfl, by simpa using first, by simp⟩
  | cons next rest ih =>
    obtain ⟨time, next⟩ := next
    obtain ⟨later, forward⟩ := List.pairwise_cons.mp forward
    obtain ⟨answer, cache₁, taken, here⟩ :=
      step past now cache time next first (later time (by simp))
    obtain ⟨events, now', cache₂, ran, same, there, mem⟩ := ih here forward
    refine ⟨⟨time, next, answer⟩ :: events, now', cache₂, ?_, ?_, ?_, ?_⟩
    · rw [run, taken]
      simp only [ran]
      rfl
    · simp [same]
    · simpa using there
    · exact List.mem_cons_of_mem now mem

end RenderCache

end PagePress
