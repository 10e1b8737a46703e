import PagePress.View.Template

/-!
# How pages are shown

A page is shown with its template and its customer. The customer's email address is checked when it
is shown, not when it is stored, so that reading a page can fail.
-/

namespace PagePress

namespace CustomerSummary

def ofCustomer (customer : Customer) : Checked CustomerSummary :=
  match Email.normal? customer.email with
  | some email => .ok { id := customer.id, name := customer.name, email }
  | none => Checked.under (.field "email") (.fail .notAddress)

def ofPage (store : Store) (page : Page) : Checked CustomerSummary :=
  Checked.under (.field "customer") <|
    match store.customer? page.customerId with
    | some customer => ofCustomer customer
    | none => .fail .noFields

def toJson (c : CustomerSummary) : Json :=
  .obj [("id", .str c.id.text), ("name", .str c.name), ("email", .str c.email)]

end CustomerSummary

def Template.ofPage (store : Store) (page : Page) : Checked Template :=
  Checked.under (.field "template") <|
    match store.template? page.templateId with
    | some template => .ok template
    | none => .fail .noFields

structure PageView where
  page : Page
  template : Template
  customer : CustomerSummary
  elements : List Element
deriving DecidableEq, Repr

namespace PageView

def ofPage (store : Store) (page : Page) : Checked PageView :=
  Checked.and
    ((Template.ofPage store page).map fun template customer =>
      { page, template, customer, elements := store.elementsOf page.id })
    (CustomerSummary.ofPage store page)

def toJson (view : PageView) : Json :=
  let page := view.page
  .obj [("id", .str page.id.text), ("template_id", .str page.templateId.text),
    ("customer_id", .str page.customerId.text), ("name", .str page.name), ("slug", .str page.slug),
    ("custom_css", .ofOption page.customCss), ("theme", .ofOption page.theme),
    ("is_published", .bool page.isPublished), ("created_at", .str (momentText page.createdAt)),
    ("updated_at", .str (momentText page.updatedAt)), ("template", view.template.toJson),
    ("customer", view.customer.toJson), ("elements", .arr (view.elements.map Element.toJson))]

end PageView

structure PageItem where
  page : Page
  template : Template
  customer : CustomerSummary
  elementCount : Nat
deriving DecidableEq, Repr

namespace PageItem

def ofPage (store : Store) (page : Page) : Checked PageItem :=
  Checked.and
    ((Template.ofPage store page).map fun template customer =>
      { page, template, customer, elementCount := (store.elementsOf page.id).length })
    (CustomerSummary.ofPage store page)

def toJson (item : PageItem) : Json :=
  let page := item.page
  .obj [("id", .str page.id.text), ("name", .str page.name), ("slug", .str page.slug),
    ("is_published", .bool page.isPublished), ("created_at", .str (momentText page.createdAt)),
    ("updated_at", .str (momentText page.updatedAt)), ("template", item.template.summaryJson),
    ("customer", item.customer.toJson), ("element_count", .int item.elementCount)]

end PageItem

end PagePress
