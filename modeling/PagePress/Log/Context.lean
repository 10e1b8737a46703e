import PagePress.Json.Basic

/-!
# Log contexts

A context stamps its fields on the log records made while it is in force. Entering a context puts it
on top of those in force, which are remembered; leaving it puts back those that were in force when
it was entered.
-/

namespace PagePress

/-- The contexts in force, from the outermost to the innermost. -/
abbrev Contexts := List Fields

/-- Contexts that are entered and left over time. -/
structure ContextState where
  inForce : Contexts := []
  /-- What was in force when a context was entered. -/
  remembered : List (Nat × Contexts) := []

/-- A context is entered or left. -/
inductive ContextEvent where
  | enter (id : Nat) (fields : Fields)
  | leave (id : Nat)

namespace ContextState

def step (state : ContextState) : ContextEvent → ContextState
  | .enter id fields =>
    { inForce := state.inForce ++ [fields]
      remembered := (id, state.inForce) :: state.remembered }
  | .leave id =>
    { state with inForce := (state.remembered.lookup id).getD state.inForce }

def run (state : ContextState) (events : List ContextEvent) : ContextState :=
  events.foldl step state

end ContextState

/-- Contexts entered one inside the other, from the outermost on. -/
def ContextEvent.entering (contexts : Contexts) : List ContextEvent :=
  contexts.zipIdx.map fun (fields, id) => enter id fields

/-- The same contexts left, from the innermost on. -/
def ContextEvent.leaving (contexts : Contexts) : List ContextEvent :=
  (contexts.zipIdx.map fun (_, id) => leave id).reverse

end PagePress
