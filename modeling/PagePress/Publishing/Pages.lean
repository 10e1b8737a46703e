import PagePress.Publishing.Templates

/-!
# Managing pages

Creating a page has two phases, which may be apart in time: the request is checked against the
store and a draft is made, then the draft is stored. As another page may have come between the two,
storing looks once more at whether the slug is free.
-/

namespace PagePress

def ElementDraft.ofVariable (name : List Char) : ElementDraft :=
  let key := String.ofList name
  let made := ElementDefaults.ofVariable key
  { key := some key, kind := made.kind, content := some made.content, label := some made.label }

/-- The elements that a page takes from the markup when it is made. -/
def draftElements (html : String) : List ElementDraft :=
  (Markup.variableNames html.toList).map ElementDraft.ofVariable

def PageChanges.values (changes : PageChanges) : PageValues :=
  { name := changes.name.map some
    slug := changes.slug.map some
    customCss := changes.customCss
    theme := changes.theme
    isPublished := changes.isPublished.map some }

namespace Publishing

def getPage (store : Store) (id : Uuid) : Outcome Page :=
  (store.page? id).getDM (refuse .pageNotFound)

def getPageBySlug (store : Store) (slug : String) : Outcome Page :=
  (store.pageWithSlug? slug).getDM (refuse .pageNotFound)

/-- Why a page could not be stored: its slug belongs to another page, or else it breaks some other
constraint. -/
def pageConflict (store : Store) (slug : Option String) (except : Option Uuid) : Failure :=
  if slug.any (store.isSlugTaken · except) then .refused { kind := .slugTaken } else .constraint

/-- Checks the request for a new page and makes its draft. -/
def draftPage (store : Store) (data : NewPage) : Outcome PageDraft := do
  let template ← getTemplate store data.templateId
  if (store.customer? data.customerId).isNone then refuse .customerNotFound
  if store.isSlugTaken data.slug none then refuse .slugTaken
  return {
    templateId := template.id
    customerId := data.customerId
    name := some data.name
    slug := some data.slug
    customCss := data.customCss
    elements := draftElements template.html }

def insertPage (store : Store) (now : Micros) (id : Uuid) (draft : PageDraft) :
    Outcome (Page × Store) :=
  (store.insertPage now id draft).getDM (.error (pageConflict store draft.slug none))

def createPage (store : Store) (now : Micros) (id : Uuid) (data : NewPage) :
    Outcome (Page × Store) :=
  draftPage store data >>= insertPage store now id

def setPageValues (store : Store) (now : Micros) (page : Page) (values : PageValues) :
    Outcome (Page × Store) :=
  (store.updatePage now page values).getDM
    (.error (pageConflict store (values.slug.getD (some page.slug)) (some page.id)))

def updatePage (store : Store) (now : Micros) (id : Uuid) (changes : PageChanges) :
    Outcome (Page × Store) := do
  let page ← getPage store id
  if changes.slug.any (store.isSlugTaken · (some page.id)) then refuse .slugTaken
  setPageValues store now page changes.values

def publish (store : Store) (now : Micros) (id : Uuid) : Outcome (Page × Store) :=
  updatePage store now id { isPublished := some true }

def unpublish (store : Store) (now : Micros) (id : Uuid) : Outcome (Page × Store) :=
  updatePage store now id { isPublished := some false }

def deletePage (store : Store) (id : Uuid) : Outcome Store := do
  let page ← getPage store id
  return store.erasePage page.id

end Publishing

end PagePress
