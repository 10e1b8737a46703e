import PagePress.Store.Rows

/-!
# The store

Customers, templates, pages and elements, each in the order in which they were added, and the ways
of finding them.
-/

namespace PagePress

structure Store where
  customers : List Customer := []
  templates : List Template := []
  pages : List Page := []
  elements : List Element := []
deriving DecidableEq, Repr

namespace Store

def customer? (store : Store) (id : Uuid) : Option Customer := store.customers.find? (·.id = id)

def customerWithEmail? (store : Store) (email : String) : Option Customer :=
  store.customers.find? (·.email = email)

def template? (store : Store) (id : Uuid) : Option Template := store.templates.find? (·.id = id)

def page? (store : Store) (id : Uuid) : Option Page := store.pages.find? (·.id = id)

def pageWithSlug? (store : Store) (slug : String) : Option Page :=
  store.pages.find? (·.slug = slug)

/-- Whether a page has the slug, not counting the page `except`. -/
def isSlugTaken (store : Store) (slug : String) (except : Option Uuid) : Bool :=
  store.pages.any fun page => page.slug = slug && some page.id != except

def countPages (store : Store) (templateId : Uuid) : Nat :=
  store.pages.countP (·.templateId = templateId)

def element? (store : Store) (pageId : Uuid) (key : String) : Option Element :=
  store.elements.find? fun e => e.pageId = pageId && e.key = key

def elementsOf (store : Store) (pageId : Uuid) : List Element :=
  (store.elements.filter (·.pageId = pageId)).mergeSort fun a b => decide (a.key ≤ b.key)

end Store

end PagePress
