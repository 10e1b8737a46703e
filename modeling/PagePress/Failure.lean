import PagePress.Refusal
import PagePress.Request.Violation

/-!
# Failures

Everything that can keep the service from doing what it was asked to. A refusal is foreseen and
named; the other failures are reported by their cause alone.
-/

namespace PagePress

inductive Failure where
  | refused (refusal : Refusal)
  /-- The data given, or the data to be shown, is not valid. -/
  | invalid (violations : List Violation)
  /-- The storage would break one of its constraints. -/
  | constraint
  /-- Something that has to be there is not. -/
  | absent
  /-- No kind of element has this name. -/
  | unknownKind (name : String)
  /-- A search text is longer than the storage takes. -/
  | oversizedSearch
  /-- A text has a broken pair and can be neither stored nor sent. -/
  | brokenText
  /-- A part of the service is broken. -/
  | broken
deriving DecidableEq, Repr

abbrev Outcome (α : Type) := Except Failure α

def refuse {α : Type} (kind : RefusalKind) (detail : Option String := none) : Outcome α :=
  .error (.refused { kind, detail })

def Checked.outcome {α : Type} (x : Checked α) : Outcome α := x.mapError .invalid

end PagePress
