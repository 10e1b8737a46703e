import PagePress.Command.Basic
import PagePress.Command.Demo
import PagePress.Publishing.Operation
import PagePress.Text.Terminal

/-!
# Carrying out commands

Every write of a command is final: what a command has written before it fails stays.
-/

namespace PagePress

/-- What a command leaves behind for who called it. -/
structure Report where
  exitCode : Nat := 0
  output : String := ""
  errors : String := ""
  /-- The failure that the command did not expect. -/
  failure : Option Failure := none
deriving DecidableEq, Repr

namespace Report

def printed (line : String) : Report := { output := Text.printedLine line }

def complaint (line : String) : Report := { exitCode := 1, errors := Text.printedLine line }

def aborted (failure : Failure) : Report := { exitCode := 1, failure := some failure }

def misuse : Report := { exitCode := 2 }

end Report

namespace Command

/-- Creates a customer, unless the email address has one already. -/
def addCustomer (store : Store) (turn : Turn) (name email : String) : Report × Store :=
  if (store.customerWithEmail? email).isSome then
    (.complaint s!"Customer with email {email} already exists", store)
  else
    match store.insertCustomer turn.now turn.customerId (some name) (some email) with
    | some (customer, store) => (.printed customer.id.text, store)
    | none => (.aborted .constraint, store)

/-- The customer with the email address, who is created if need be. -/
def demoCustomer (store : Store) (turn : Turn) (email : String) : Option (Customer × Store) :=
  match store.customerWithEmail? email with
  | some customer => some (customer, store)
  | none => store.insertCustomer turn.now turn.customerId (some Demo.customerName) (some email)

def demoPage (store : Store) (turn : Turn) (templateId customerId : Uuid) (slug : String) :
    Outcome (Page × Store) := do
  let data ← (Request.newPage (Demo.pageFields templateId customerId slug)).outcome
  let (page, store) ← Publishing.createPage store turn.now turn.pageId data
  Publishing.publish store turn.now page.id

def seed (store : Store) (turn : Turn) (slug email : String) : Report × Store :=
  match demoCustomer store turn email with
  | none => (.aborted .constraint, store)
  | some (customer, store) =>
    let (template, store) :=
      Publishing.createTemplate store turn.now turn.templateId Demo.template
    match demoPage store turn template.id customer.id slug with
    | .ok (page, store) =>
      (.printed s!"Published /p/{page.slug} with {(store.elementsOf page.id).length} elements",
        store)
    | .error (.refused refusal) =>
      (.complaint s!"{refusal.kind.code}: {refusal.message}", store)
    | .error failure => (.aborted failure, store)

/-- Prints what the public sees under a slug, always rendered anew. -/
def print (store : Store) (turn : Turn) (slug : String) : Report :=
  match Publishing.render store { ttl := 60 * second } turn.now slug with
  | .ok (.document document _, _) =>
    if document.isSendable then .printed document.html else .aborted .brokenText
  | .ok (.notFound, _) => { Report.printed Markup.notFoundDocument with exitCode := 1 }
  | .error failure => .aborted failure

def run (store : Store) (turn : Turn) : Command → Report × Store
  | .createCustomer name email => addCustomer store turn name email
  | .seedDemo slug email => seed store turn slug email
  | .render slug => (print store turn slug, store)

def runLine (store : Store) (turn : Turn) (words : List String) : Report × Store :=
  match ofArguments? words with
  | some command => command.run store turn
  | none => (.misuse, store)

end Command

end PagePress
