import PagePress.Json.Literal
import PagePress.Store.Basic
import PagePress.View.Template

/-!
# The contents of the store

Everything that is stored, row by row, in the order of the identifiers.
-/

namespace PagePress

def sortedById {α : Type} (id : α → Uuid) (rows : List α) : List α :=
  rows.mergeSort fun a b => decide ((id a).value ≤ (id b).value)

/-- Whether an element comes before another one: by page, then by key. -/
def Element.precedes (a b : Element) : Bool :=
  if a.pageId = b.pageId then a.key ≤ b.key else a.pageId.value ≤ b.pageId.value

namespace Store

def contents (store : Store) : Json :=
  let moment (t : Micros) : Json := .str (momentText t)
  .obj [
    ("customers", .arr <| (sortedById (·.id) store.customers).map fun c =>
      .arr [.str c.id.text, .str c.name, .str c.email, moment c.createdAt]),
    ("templates", .arr <| (sortedById (·.id) store.templates).map fun t =>
      .arr [.str t.id.text, .str t.name, moment t.createdAt, moment t.updatedAt]),
    ("pages", .arr <| (sortedById (·.id) store.pages).map fun p =>
      .arr [.str p.id.text, .str p.slug, .bool p.isPublished,
        .int (store.elementsOf p.id).length, moment p.createdAt, moment p.updatedAt]),
    ("elements", .arr <| (store.elements.mergeSort Element.precedes).map fun e =>
      .arr [.str e.pageId.text, .str e.key, .str e.kind.name, .str e.content, .ofOption e.label,
        moment e.createdAt, moment e.updatedAt])]

def descriptions (store : Store) : List String :=
  ((sortedById (·.id) store.customers).map fun c =>
      s!"<Customer(id={c.id.text}, email={c.email})>")
    ++ ((sortedById (·.id) store.templates).map fun t =>
      s!"<Template(id={t.id.text}, name={t.name})>")
    ++ (sortedById (·.id) store.pages).map fun p =>
      let published := String.ofList (Json.bool p.isPublished).literal
      s!"<Page(id={p.id.text}, slug={p.slug}, published={published})>"

end Store

end PagePress
