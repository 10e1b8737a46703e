import PagePress.Cache.Memory
import PagePress.Failure
import PagePress.Markup.Document
import PagePress.Store.Basic

/-!
# Rendering pages

The public sees the document of a published page, made now or taken from the render cache. A draft
and a missing page get the same answer, which is never put into the cache.
-/

namespace PagePress

/-- What the public gets to see under a slug. -/
inductive Rendering where
  | document (document : Document) (fromCache : Bool)
  | notFound
deriving DecidableEq, Repr

namespace Rendering

def html : Rendering → String
  | document made _ => made.html
  | notFound => Markup.notFoundDocument

end Rendering

/-- What the document of a page is made from, unless its template is missing. -/
def Store.source? (store : Store) (page : Page) : Option Markup.Source :=
  (store.template? page.templateId).map fun template =>
    { name := page.name
      html := template.html
      css := template.css
      customCss := page.customCss
      theme := page.theme
      contents := (store.elementsOf page.id).map fun e => (e.key, e.content) }

namespace Publishing

def document (store : Store) (page : Page) : Outcome Document :=
  match store.source? page with
  | some source => .ok source.document
  | none => .error .absent

def render (store : Store) (cache : RenderCache) (now : Micros) (slug : String) :
    Outcome (Rendering × RenderCache) :=
  match cache.get now slug with
  | (some document, cache) => .ok (.document document true, cache)
  | (none, cache) =>
    match (store.pageWithSlug? slug).filter (·.isPublished) with
    | none => .ok (.notFound, cache)
    | some page =>
      (document store page).map fun made => (.document made false, cache.insert now slug made)

end Publishing

end PagePress
