import PagePress.Text.Quoted

/-!
# Refusals

Why the service refuses to do what it was asked to: something named does not exist, or it would
clash with something that does.
-/

namespace PagePress

inductive RefusalKind where
  | templateNotFound
  | customerNotFound
  | pageNotFound
  | elementNotFound
  | slugTaken
  | elementExists
  | templateInUse
deriving DecidableEq, Repr

namespace RefusalKind

def all : List RefusalKind :=
  [templateNotFound, customerNotFound, pageNotFound, elementNotFound, slugTaken, elementExists,
   templateInUse]

def code : RefusalKind → String
  | templateNotFound => "TEMPLATE_NOT_FOUND"
  | customerNotFound => "CUSTOMER_NOT_FOUND"
  | pageNotFound => "PAGE_NOT_FOUND"
  | elementNotFound => "ELEMENT_NOT_FOUND"
  | slugTaken => "SLUG_ALREADY_EXISTS"
  | elementExists => "ELEMENT_ALREADY_EXISTS"
  | templateInUse => "TEMPLATE_HAS_DEPENDENTS"

def ofCode? (s : String) : Option RefusalKind := all.find? (·.code == s)

def unknownCode (s : String) : String :=
  String.ofList (Text.quoted s.toList) ++ " is not a valid ErrorKind"

/-- The HTTP status of an answer that refuses: what is missing is not found, all else is a
conflict. -/
def status : RefusalKind → Nat
  | templateNotFound | customerNotFound | pageNotFound | elementNotFound => 404
  | slugTaken | elementExists | templateInUse => 409

def defaultMessage : RefusalKind → String
  | templateNotFound => "Template not found"
  | customerNotFound => "Customer not found"
  | pageNotFound => "Page not found"
  | elementNotFound => "Page element not found"
  | slugTaken => "A page with this slug already exists"
  | elementExists => "An element with this key already exists on the page"
  | templateInUse => "Template is still used by one or more pages"

end RefusalKind

/-- A refusal, possibly with a message of its own. -/
structure Refusal where
  kind : RefusalKind
  detail : Option String := none
deriving DecidableEq, Repr

/-- The message of a refusal; an empty detail counts as none. -/
def Refusal.message (r : Refusal) : String :=
  match r.detail with
  | none => r.kind.defaultMessage
  | some detail => if detail.isEmpty then r.kind.defaultMessage else detail

end PagePress
