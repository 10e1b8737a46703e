import PagePress.Publishing.Pages

/-!
# Managing the elements of a page

Setting the content of an element has two phases: what is to be written is decided on what the page
holds, then it is written.
-/

namespace PagePress.Publishing

def getElements (store : Store) (pageId : Uuid) : Outcome (List Element) := do
  let page ← getPage store pageId
  return store.elementsOf page.id

def saveElement (store : Store) (now : Micros) : ElementWrite → Outcome (Element × Store)
  | .insert pageId draft => (store.insertElement now pageId draft).getDM (refuse .elementExists)
  | .setContent pageId key content =>
    (store.setContent now pageId key content).getDM (.error .absent)
  | .touch pageId key => (store.touchElement now pageId key).getDM (.error .absent)

/-- The write that gives an element a content: a key that is not there yet becomes a text element
without a label, and a content that is there already is not written again. -/
def planContent (store : Store) (pageId : Uuid) (key content : String) : Outcome ElementWrite := do
  let page ← getPage store pageId
  match store.element? page.id key with
  | some element =>
    if element.content = content then return .touch page.id key
    else return .setContent page.id key content
  | none => return .insert page.id { key := some key, content := some content }

def setContent (store : Store) (now : Micros) (pageId : Uuid) (key content : String) :
    Outcome (Element × Store) :=
  planContent store pageId key content >>= saveElement store now

/-- The element to be stored for a request: what it leaves out is taken from the key, and an empty
label counts as left out. -/
def draftElement (data : NewElement) : ElementDraft :=
  let made := ElementDefaults.ofVariable data.key
  let kind := data.kind.getD made.kind
  let label := (data.label.filter (!·.isEmpty)).getD made.label
  { key := some data.key
    kind
    content := some (data.content.getD (kind.defaultContent label))
    label := some label }

def createElement (store : Store) (now : Micros) (pageId : Uuid) (data : NewElement) :
    Outcome (Element × Store) := do
  let page ← getPage store pageId
  if (store.element? page.id data.key).isSome then refuse .elementExists
  saveElement store now (.insert page.id (draftElement data))

def deleteElement (store : Store) (pageId : Uuid) (key : String) : Outcome Store := do
  let page ← getPage store pageId
  if (store.element? page.id key).isNone then refuse .elementNotFound
  return store.eraseElement page.id key

end PagePress.Publishing
