import PagePress.Json.Basic
import PagePress.Publishing.Templates

/-!
# How templates and elements are shown
-/

namespace PagePress

def Template.toJson (t : Template) : Json :=
  .obj [("id", .str t.id.text), ("name", .str t.name), ("description", .ofOption t.description),
    ("thumbnail", .ofOption t.thumbnail), ("html_content", .str t.html),
    ("css_content", .str t.css), ("is_active", .bool t.isActive),
    ("created_at", .str (momentText t.createdAt)), ("updated_at", .str (momentText t.updatedAt))]

def Template.summaryJson (t : Template) : Json :=
  .obj [("id", .str t.id.text), ("name", .str t.name), ("thumbnail", .ofOption t.thumbnail)]

def Element.toJson (e : Element) : Json :=
  .obj [("page_id", .str e.pageId.text), ("element_key", .str e.key), ("type", .str e.kind.name),
    ("content", .str e.content), ("label", .ofOption e.label)]

def ElementPreview.toJson (p : ElementPreview) : Json :=
  .obj [("element_key", .str p.key), ("type", .str p.kind.name), ("content", .str p.content),
    ("label", .str p.label)]

end PagePress
