import PagePress.Publishing.Elements

/-!
# Races

Some requests have two phases: what is to be done is planned on the store that is found first, and
it is written to the store that is found then. Each phase takes place at once, but between the two
phases of a request those of others can take place. A write that fails leaves the store as it was.
-/

namespace PagePress

/-- A request with two phases. -/
structure TwoPhase (δ α : Type) where
  plan : Store → Outcome δ
  write : Store → Micros → δ → Outcome (α × Store)

/-- How far a request has come. -/
inductive Phase (δ α : Type) where
  | waiting
  /-- It ended in its first phase. -/
  | refused (failure : Failure)
  | planned (plan : δ)
  /-- It ended in its second phase. -/
  | finished (plan : δ) (outcome : Outcome α)

def Phase.outcome? {δ α : Type} : Phase δ α → Option (Outcome α)
  | waiting | planned _ => none
  | refused failure => some (.error failure)
  | finished _ outcome => some outcome

def Phase.passed {δ α : Type} : Phase δ α → Bool
  | waiting | refused _ => false
  | planned _ | finished _ _ => true

/-- A store with the requests to it that are on their way. -/
structure Race (ι δ α : Type) where
  store : Store
  phase : ι → Phase δ α := fun _ => .waiting

namespace Race

variable {ι δ α : Type} [DecidableEq ι]

def moved (race : Race ι δ α) (i : ι) (phase : Phase δ α) : Race ι δ α :=
  { race with phase := fun j => if j = i then phase else race.phase j }

def turn (requests : ι → TwoPhase δ α) (race : Race ι δ α) (now : Micros) (i : ι) : Race ι δ α :=
  match race.phase i with
  | .waiting =>
    match (requests i).plan race.store with
    | .error failure => race.moved i (.refused failure)
    | .ok plan => race.moved i (.planned plan)
  | .planned plan =>
    match (requests i).write race.store now plan with
    | .error failure => race.moved i (.finished plan (.error failure))
    | .ok (made, store) => { race with store }.moved i (.finished plan (.ok made))
  | .refused _ | .finished _ _ => race

def run (requests : ι → TwoPhase δ α) (race : Race ι δ α) (turns : List (Micros × ι)) :
    Race ι δ α :=
  turns.foldl (fun race turn => race.turn requests turn.1 turn.2) race

end Race

/-- A request for a new page, with the identifier that the page is to get. -/
structure PageRequest where
  id : Uuid
  data : NewPage
deriving DecidableEq, Repr

/-- The request is checked and a draft is made, and then the draft is stored. -/
def PageRequest.phases (request : PageRequest) : TwoPhase PageDraft Page where
  plan store := Publishing.draftPage store request.data
  write store now draft := Publishing.insertPage store now request.id draft

/-- A request that gives an element of a page a content. -/
structure ContentRequest where
  pageId : Uuid
  key : String
  content : String
deriving DecidableEq, Repr

/-- What is to be written is decided on what the page holds, and then it is written. -/
def ContentRequest.phases (request : ContentRequest) : TwoPhase ElementWrite Element where
  plan store := Publishing.planContent store request.pageId request.key request.content
  write := Publishing.saveElement

end PagePress
