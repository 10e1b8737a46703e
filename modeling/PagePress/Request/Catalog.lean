import PagePress.Request.Schema

/-!
# The catalogue of requests

Every form of data that the service takes has a name. Checking data against a form tells how it was
understood: the values of all fields, and the names of those that were given.
-/

namespace PagePress

inductive Form where
  | newPage
  | pageChanges
  | newElement
  | elementContent
  | newTemplate
  | templateChanges
  | customerSummary
deriving DecidableEq, Repr

namespace Form

def all : List Form :=
  [newPage, pageChanges, newElement, elementContent, newTemplate, templateChanges, customerSummary]

def name : Form → String
  | newPage => "PageCreate"
  | pageChanges => "PageUpdate"
  | newElement => "PageElementCreate"
  | elementContent => "PageElementUpdate"
  | newTemplate => "TemplateCreate"
  | templateChanges => "TemplateUpdate"
  | customerSummary => "CustomerSummary"

def fieldNames : Form → List String
  | newPage => ["template_id", "customer_id", "name", "slug", "custom_css"]
  | pageChanges => ["name", "slug", "custom_css", "theme", "is_published"]
  | newElement => ["element_key", "type", "content", "label"]
  | elementContent => ["content"]
  | newTemplate =>
    ["name", "description", "thumbnail", "html_content", "css_content", "is_active"]
  | templateChanges =>
    ["name", "description", "thumbnail", "html_content", "css_content", "is_active"]
  | customerSummary => ["id", "name", "email"]

def ofName? (s : String) : Option Form := all.find? (·.name == s)

/-- What is wrong with data of the form that is no object. A summary may be made of anything that
has fields. -/
def notObject : Form → ViolationKind
  | customerSummary => .noFields
  | form => .notObject form.name

def read {α : Type} (form : Form) (fields : Fields → Checked α) : Json → Checked α
  | .obj given => fields given
  | _ => .fail form.notObject

end Form

def NewPage.toFields (d : NewPage) : Fields :=
  [("template_id", .str d.templateId.text), ("customer_id", .str d.customerId.text),
   ("name", .str d.name), ("slug", .str d.slug), ("custom_css", .ofOption d.customCss)]

def PageChanges.toFields (d : PageChanges) : Fields :=
  [("name", .ofOption d.name), ("slug", .ofOption d.slug),
   ("custom_css", .ofOption d.customCss.join), ("theme", .ofOption d.theme.join),
   ("is_published", d.isPublished.elim .null .bool)]

def NewElement.toFields (d : NewElement) : Fields :=
  [("element_key", .str d.key), ("type", .ofOption (d.kind.map (·.name))),
   ("content", .ofOption d.content), ("label", .ofOption d.label)]

def NewTemplate.toFields (d : NewTemplate) : Fields :=
  [("name", .str d.name), ("description", .ofOption d.description),
   ("thumbnail", .ofOption d.thumbnail), ("html_content", .str d.html),
   ("css_content", .str d.css), ("is_active", .bool d.isActive)]

def TemplateChanges.toFields (d : TemplateChanges) : Fields :=
  [("name", .ofOption d.name), ("description", .ofOption d.description.join),
   ("thumbnail", .ofOption d.thumbnail.join), ("html_content", .ofOption d.html),
   ("css_content", .ofOption d.css), ("is_active", d.isActive.elim .null .bool)]

def CustomerSummary.toFields (c : CustomerSummary) : Fields :=
  [("id", .str c.id.text), ("name", .str c.name), ("email", .str c.email)]

/-- How data was understood. -/
structure Understanding where
  /-- The values of all fields of the form. -/
  value : Fields
  /-- The fields of the form that were given, by name. -/
  given : List String

namespace Form

def values : Form → Json → Checked Fields
  | newPage, j => (newPage.read Request.newPage j).map NewPage.toFields
  | pageChanges, j => (pageChanges.read Request.pageChanges j).map PageChanges.toFields
  | newElement, j => (newElement.read Request.newElement j).map NewElement.toFields
  | elementContent, j =>
    (elementContent.read Request.elementContent j).map fun s => [("content", .str s)]
  | newTemplate, j => (newTemplate.read Request.newTemplate j).map NewTemplate.toFields
  | templateChanges, j =>
    (templateChanges.read Request.templateChanges j).map TemplateChanges.toFields
  | customerSummary, j =>
    (customerSummary.read Request.customerSummary j).map CustomerSummary.toFields

/-- The value of a field as it is shown: a text with a broken pair is shown as it was given. -/
def shownValue (j : Json) (name : LooseText) (value : Json) : Json :=
  match (j.field? name).bind Json.looseStr? with
  | some s => if s.isWhole then value else .str s
  | none => value

def check (form : Form) (j : Json) : Checked Understanding :=
  (form.values j).map fun value =>
    { value := value.map fun (name, value) => (name, shownValue j name value)
      given := (form.fieldNames.filter fun name : String => (j.field? name).isSome).mergeSort
        fun a b => decide (a ≤ b) }

end Form

end PagePress
