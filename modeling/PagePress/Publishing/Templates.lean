import PagePress.Element.Defaults
import PagePress.Failure
import PagePress.Markup.Placeholder
import PagePress.Request.Schema
import PagePress.Store.Write

/-!
# Managing templates

A template can be changed at any time without an effect on the elements of the pages made from it,
but not deleted as long as there are such pages.
-/

namespace PagePress

/-- An element that a page made from a template starts out with. -/
structure ElementPreview where
  key : String
  kind : ElementKind
  content : String
  label : String
deriving DecidableEq, Repr

def ElementPreview.ofVariable (name : List Char) : ElementPreview :=
  let key := String.ofList name
  let made := ElementDefaults.ofVariable key
  { key, kind := made.kind, content := made.content, label := made.label }

/-- The elements that a page made from the markup starts out with. -/
def previewElements (html : String) : List ElementPreview :=
  (Markup.variableNames html.toList).map ElementPreview.ofVariable

def TemplateChanges.apply (changes : TemplateChanges) (template : Template) (now : Micros) :
    Template :=
  { template with
    name := changes.name.getD template.name
    description := changes.description.getD template.description
    thumbnail := changes.thumbnail.getD template.thumbnail
    html := changes.html.getD template.html
    css := changes.css.getD template.css
    isActive := changes.isActive.getD template.isActive
    updatedAt := now }

namespace Publishing

def getTemplate (store : Store) (id : Uuid) : Outcome Template :=
  (store.template? id).getDM (refuse .templateNotFound)

def createTemplate (store : Store) (now : Micros) (id : Uuid) (data : NewTemplate) :
    Template × Store :=
  let template :=
    { id, name := data.name, description := data.description, thumbnail := data.thumbnail,
      html := data.html, css := data.css, isActive := data.isActive, createdAt := now,
      updatedAt := now }
  (template, store.insertTemplate template)

def updateTemplate (store : Store) (now : Micros) (id : Uuid) (changes : TemplateChanges) :
    Outcome (Template × Store) := do
  let template := changes.apply (← getTemplate store id) now
  return (template, store.replaceTemplate template)

def templateInUse (count : Nat) : String :=
  s!"Template is used by {count} page(s) and cannot be deleted"

def deleteTemplate (store : Store) (id : Uuid) : Outcome Store := do
  let template ← getTemplate store id
  let count := store.countPages template.id
  if 0 < count then refuse .templateInUse (templateInUse count)
  return store.eraseTemplate template.id

def previewTemplate (store : Store) (id : Uuid) : Outcome (List ElementPreview) :=
  (getTemplate store id).map fun template => previewElements template.html

end Publishing

end PagePress
