import PagePress.Publishing.Elements
import PagePress.Publishing.Rendering
import PagePress.Store.Listing

/-!
# Operations

Everything the service can be asked to do, as data. An operation that fails leaves the service as it
was; one that succeeds gives a result.
-/

namespace PagePress

/-- What an operation finds around it: the time, and the identifiers of what it creates. -/
structure Turn where
  now : Micros
  customerId : Uuid
  templateId : Uuid
  pageId : Uuid
deriving DecidableEq, Repr

/-- The state of the service. -/
structure Service where
  store : Store := {}
  cache : RenderCache
deriving Repr

inductive Operation where
  | createCustomer (name email : Option String)
  | customerWithEmail (email : String)
  | customerExists (id : Uuid)
  | createTemplate (data : NewTemplate)
  | updateTemplate (id : Uuid) (changes : TemplateChanges)
  | getTemplate (id : Uuid)
  | deleteTemplate (id : Uuid)
  | previewTemplate (id : Uuid)
  | countPages (templateId : Uuid)
  | listTemplates (search : Option String)
  | createPage (data : NewPage)
  | updatePage (id : Uuid) (changes : PageChanges)
  | getPage (id : Uuid)
  | getPageBySlug (slug : String)
  | publish (id : Uuid)
  | unpublish (id : Uuid)
  | deletePage (id : Uuid)
  | listPages (customerId : Option Uuid) (search : Option String)
  | isSlugTaken (slug : String) (except : Option Uuid)
  | getElements (pageId : Uuid)
  | setContent (pageId : Uuid) (key content : String)
  | createElement (pageId : Uuid) (data : NewElement)
  | deleteElement (pageId : Uuid) (key : String)
  | render (slug : String)
  /-- Stores a page as it is given, without a check of the request. -/
  | insertPage (draft : PageDraft)
  /-- Stores values of a page as they are given. -/
  | setPageValues (id : Uuid) (values : PageValues)
  /-- Stores an element as it is given, its kind told by name. -/
  | insertElement (pageId : Uuid) (kindName : String) (draft : ElementDraft)
deriving DecidableEq, Repr

namespace Operation

/-- Whether the operation stores what it is given as it is, without a look at what is stored. -/
def isRaw : Operation → Bool
  | insertPage _ | setPageValues _ _ | insertElement _ _ _ => true
  | _ => false

/-- Whether the operation relies on a check of its data. -/
def needsCheck : Operation → Bool
  | createTemplate _ | updateTemplate _ _ | createPage _ | updatePage _ _ | createElement _ _ =>
    true
  | _ => false

end Operation

/-- What an operation gives. -/
inductive Result where
  | done
  | identifier (id : Option Uuid)
  | truth (b : Bool)
  | count (n : Nat)
  | customer (customer : Customer)
  | template (template : Template)
  | templates (templates : List Template)
  | previews (previews : List ElementPreview)
  | page (page : Page)
  | pages (pages : List Page)
  | element (element : Element)
  | elements (elements : List Element)
  | rendering (rendering : Rendering)
deriving DecidableEq, Repr

namespace Service

def answer {α : Type} (service : Service) (result : α → Result) (x : Outcome α) :
    Outcome (Result × Service) :=
  x.map fun a => (result a, service)

def commit {α : Type} (service : Service) (result : α → Result) (x : Outcome (α × Store)) :
    Outcome (Result × Service) :=
  x.map fun (a, store) => (result a, { service with store })

def remove (service : Service) (x : Outcome Store) : Outcome (Result × Service) :=
  x.map fun store => (.done, { service with store })

def insertElement (store : Store) (now : Micros) (pageId : Uuid) (kindName : String)
    (draft : ElementDraft) : Outcome (Element × Store) := do
  let kind ← (ElementKind.ofName? kindName).getDM (.error (.unknownKind kindName))
  Publishing.saveElement store now (.insert pageId { draft with kind })

def perform (service : Service) (turn : Turn) : Operation → Outcome (Result × Service)
  | .createCustomer name email =>
    service.commit .customer <|
      (service.store.insertCustomer turn.now turn.customerId name email).getDM (.error .constraint)
  | .customerWithEmail email =>
    service.answer .identifier (.ok ((service.store.customerWithEmail? email).map (·.id)))
  | .customerExists id => service.answer .truth (.ok (service.store.customer? id).isSome)
  | .createTemplate data =>
    service.commit .template
      (.ok (Publishing.createTemplate service.store turn.now turn.templateId data))
  | .updateTemplate id changes =>
    service.commit .template (Publishing.updateTemplate service.store turn.now id changes)
  | .getTemplate id => service.answer .template (Publishing.getTemplate service.store id)
  | .deleteTemplate id => service.remove (Publishing.deleteTemplate service.store id)
  | .previewTemplate id => service.answer .previews (Publishing.previewTemplate service.store id)
  | .countPages templateId => service.answer .count (.ok (service.store.countPages templateId))
  | .listTemplates search => service.answer .templates (service.store.listTemplates search)
  | .createPage data =>
    service.commit .page (Publishing.createPage service.store turn.now turn.pageId data)
  | .updatePage id changes =>
    service.commit .page (Publishing.updatePage service.store turn.now id changes)
  | .getPage id => service.answer .page (Publishing.getPage service.store id)
  | .getPageBySlug slug => service.answer .page (Publishing.getPageBySlug service.store slug)
  | .publish id => service.commit .page (Publishing.publish service.store turn.now id)
  | .unpublish id => service.commit .page (Publishing.unpublish service.store turn.now id)
  | .deletePage id => service.remove (Publishing.deletePage service.store id)
  | .listPages customerId search =>
    service.answer .pages (service.store.listPages customerId search)
  | .isSlugTaken slug except =>
    service.answer .truth (.ok (service.store.isSlugTaken slug except))
  | .getElements pageId => service.answer .elements (Publishing.getElements service.store pageId)
  | .setContent pageId key content =>
    service.commit .element (Publishing.setContent service.store turn.now pageId key content)
  | .createElement pageId data =>
    service.commit .element (Publishing.createElement service.store turn.now pageId data)
  | .deleteElement pageId key =>
    service.remove (Publishing.deleteElement service.store pageId key)
  | .render slug =>
    (Publishing.render service.store service.cache turn.now slug).map fun (rendering, cache) =>
      (.rendering rendering, { service with cache })
  | .insertPage draft =>
    service.commit .page (Publishing.insertPage service.store turn.now turn.pageId draft)
  | .setPageValues id values =>
    service.commit .page <| do
      let page ← (service.store.page? id).getDM (.error .absent)
      Publishing.setPageValues service.store turn.now page values
  | .insertElement pageId kindName draft =>
    service.commit .element (insertElement service.store turn.now pageId kindName draft)

end Service

end PagePress
