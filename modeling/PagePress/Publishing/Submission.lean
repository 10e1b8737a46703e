import PagePress.Publishing.Operation
import PagePress.Request.Catalog

/-!
# Submissions

Data from outside is checked before it becomes part of an operation. A text that nothing is said
about may pass the check with half of a pair in it; the storage does not take such a text, and this
comes out when everything else has been found to be in order.
-/

namespace PagePress

/-- What data from outside calls for. -/
structure Call where
  operation : Operation
  /-- Whether the storage takes all texts that come with the operation. -/
  isStorable : Bool := true

/-- Carries out what is called for. Nothing is written if the storage does not take it. -/
def Service.execute (service : Service) (turn : Turn) (call : Call) :
    Outcome (Result × Service) := do
  let done ← service.perform turn call.operation
  if call.isStorable then return done else .error .brokenText

/-- Whether no text that is given for a field of the form has a broken pair. -/
def Form.isStorable (form : Form) (data : Json) : Bool :=
  form.fieldNames.all fun name =>
    ((data.field? name).bind Json.looseStr?).all LooseText.isWhole

/-- What data is submitted for. -/
inductive Submission where
  | newTemplate
  | templateChanges (id : Uuid)
  | newPage
  | pageChanges (id : Uuid)
  | newElement (pageId : Uuid)
deriving DecidableEq, Repr

namespace Submission

def form : Submission → Form
  | newTemplate => .newTemplate
  | templateChanges _ => .templateChanges
  | newPage => .newPage
  | pageChanges _ => .pageChanges
  | newElement _ => .newElement

def read : Submission → Json → Checked Operation
  | newTemplate, j => (Form.newTemplate.read Request.newTemplate j).map .createTemplate
  | templateChanges id, j =>
    (Form.templateChanges.read Request.templateChanges j).map (.updateTemplate id)
  | newPage, j => (Form.newPage.read Request.newPage j).map .createPage
  | pageChanges id, j => (Form.pageChanges.read Request.pageChanges j).map (.updatePage id)
  | newElement pageId, j =>
    (Form.newElement.read Request.newElement j).map (.createElement pageId)

def call (submission : Submission) (data : Json) : Checked Call :=
  (submission.read data).map fun operation =>
    { operation, isStorable := submission.form.isStorable data }

end Submission

/-- Checks the data submitted and carries out what it calls for. -/
def Service.submit (service : Service) (turn : Turn) (submission : Submission) (data : Json) :
    Outcome (Result × Service) :=
  (submission.call data).outcome >>= service.execute turn

end PagePress
