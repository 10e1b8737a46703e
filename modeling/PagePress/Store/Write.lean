import PagePress.Store.Basic

/-!
# Writing to the store

The storage has constraints of its own: emails and slugs are unique, so are the keys of a page's
elements, and names, emails, slugs and keys are not null. A write that breaks one of them does not
take place, which is said by `none`. References between rows are not among the constraints.
-/

namespace PagePress

/-- An element to be stored; without a content it gets an empty one. -/
structure ElementDraft where
  key : Option String
  kind : ElementKind := .text
  content : Option String
  label : Option String := none
deriving DecidableEq, Repr

/-- A page to be stored, with all its elements. -/
structure PageDraft where
  templateId : Uuid
  customerId : Uuid
  name : Option String
  slug : Option String
  customCss : Option String := none
  elements : List ElementDraft
deriving DecidableEq, Repr

/-- New values of a page; a value that is `none` stays, and `some none` stands for null. -/
structure PageValues where
  name : Option (Option String) := none
  slug : Option (Option String) := none
  customCss : Option (Option String) := none
  theme : Option (Option String) := none
  isPublished : Option (Option Bool) := none
deriving DecidableEq, Repr

/-- A write of one element. -/
inductive ElementWrite where
  | insert (pageId : Uuid) (draft : ElementDraft)
  | setContent (pageId : Uuid) (key content : String)
  /-- Dates the element, and writes no content. -/
  | touch (pageId : Uuid) (key : String)
deriving DecidableEq, Repr

namespace Store

def insertCustomer (store : Store) (now : Micros) (id : Uuid) (name email : Option String) :
    Option (Customer × Store) := do
  let customer := { id, name := ← name, email := ← email, createdAt := now }
  guard !(store.customers.any (·.email = customer.email))
  return (customer, { store with customers := store.customers ++ [customer] })

def insertTemplate (store : Store) (template : Template) : Store :=
  { store with templates := store.templates ++ [template] }

def replaceTemplate (store : Store) (template : Template) : Store :=
  { store with
    templates := store.templates.map fun old => if old.id = template.id then template else old }

def eraseTemplate (store : Store) (id : Uuid) : Store :=
  { store with templates := store.templates.filter (·.id ≠ id) }

def insertElement (store : Store) (now : Micros) (pageId : Uuid) (draft : ElementDraft) :
    Option (Element × Store) := do
  let element :=
    { pageId, key := ← draft.key, kind := draft.kind, content := draft.content.getD "",
      label := draft.label, createdAt := now, updatedAt := now }
  guard (store.element? pageId element.key).isNone
  return (element, { store with elements := store.elements ++ [element] })

/-- Adds elements, all of them or none. -/
def insertElements (store : Store) (now : Micros) (pageId : Uuid) (drafts : List ElementDraft) :
    Option Store :=
  drafts.foldlM (fun store draft => (store.insertElement now pageId draft).map (·.2)) store

/-- Adds a page with its elements, or nothing. -/
def insertPage (store : Store) (now : Micros) (id : Uuid) (draft : PageDraft) :
    Option (Page × Store) := do
  let page :=
    { id, templateId := draft.templateId, customerId := draft.customerId, name := ← draft.name,
      slug := ← draft.slug, customCss := draft.customCss, theme := none, isPublished := false,
      createdAt := now, updatedAt := now }
  guard !(store.isSlugTaken page.slug none)
  let store ← store.insertElements now id draft.elements
  return (page, { store with pages := store.pages ++ [page] })

def replacePage (store : Store) (page : Page) : Store :=
  { store with pages := store.pages.map fun old => if old.id = page.id then page else old }

def updatePage (store : Store) (now : Micros) (page : Page) (values : PageValues) :
    Option (Page × Store) := do
  let page :=
    { page with
      name := ← values.name.getD (some page.name)
      slug := ← values.slug.getD (some page.slug)
      customCss := values.customCss.getD page.customCss
      theme := values.theme.getD page.theme
      isPublished := ← values.isPublished.getD (some page.isPublished)
      updatedAt := now }
  guard !(store.isSlugTaken page.slug (some page.id))
  return (page, store.replacePage page)

def erasePage (store : Store) (id : Uuid) : Store :=
  { store with
    pages := store.pages.filter (·.id ≠ id)
    elements := store.elements.filter (·.pageId ≠ id) }

def setContent (store : Store) (now : Micros) (pageId : Uuid) (key content : String) :
    Option (Element × Store) := do
  let element := { ← store.element? pageId key with content, updatedAt := now }
  return (element,
    { store with
      elements := store.elements.map fun old =>
        if old.pageId = pageId ∧ old.key = key then element else old })

/-- The element as it is, with a new date. -/
def touchElement (store : Store) (now : Micros) (pageId : Uuid) (key : String) :
    Option (Element × Store) := do
  let element ← store.element? pageId key
  store.setContent now pageId key element.content

def eraseElement (store : Store) (pageId : Uuid) (key : String) : Store :=
  { store with elements := store.elements.filter fun e => !(e.pageId = pageId && e.key = key) }

end Store

end PagePress
