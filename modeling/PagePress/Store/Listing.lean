import PagePress.Failure
import PagePress.Store.Basic
import PagePress.Text.Pattern

/-!
# Listings

Pages and templates are listed from the newest to the oldest, all of them or those in which a search
text is found. Rows of one age stay in the order in which they were added.
-/

namespace PagePress.Store

def newestFirst {α : Type} (createdAt : α → Micros) (rows : List α) : List α :=
  rows.mergeSort fun a b => decide (createdAt b ≤ createdAt a)

/-- The size in bytes of the longest pattern the storage searches for. -/
def maxPatternSize : Nat := 50000

def patternSize (search : String) : Nat := search.utf8ByteSize + 2

/-- The rows with a text in which the search text is found; no search text or an empty one leaves
out none. -/
def searched {α : Type} (search : Option String) (texts : α → List String) (rows : List α) :
    Outcome (List α) :=
  match search with
  | none => .ok rows
  | some search =>
    if search.isEmpty then .ok rows
    else if maxPatternSize < patternSize search && !rows.isEmpty then .error .oversizedSearch
    else .ok (rows.filter fun row => (texts row).any (Text.isFound search))

def listPages (store : Store) (customerId : Option Uuid) (search : Option String) :
    Outcome (List Page) :=
  (searched search (fun page => [page.name, page.slug])
    (store.pages.filter fun page => customerId.all (page.customerId = ·))).map
    (newestFirst (·.createdAt))

def listTemplates (store : Store) (search : Option String) : Outcome (List Template) :=
  (searched search (fun template => template.name :: template.description.toList)
    store.templates).map (newestFirst (·.createdAt))

end PagePress.Store
