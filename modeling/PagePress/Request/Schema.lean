import PagePress.Request.Value

/-!
# Requests

The data of the service's requests. Creating takes all fields of the new thing; changing takes any
of them, and a field that is left out stays as it is, which differs from one that is set to null.
-/

namespace PagePress

structure NewPage where
  templateId : Uuid
  customerId : Uuid
  name : String
  slug : String
  customCss : Option String
deriving DecidableEq, Repr

structure PageChanges where
  name : Option String := none
  slug : Option String := none
  customCss : Option (Option String) := none
  theme : Option (Option String) := none
  isPublished : Option Bool := none
deriving DecidableEq, Repr

/-- An element to be created; what is left out is inferred from the key. -/
structure NewElement where
  key : String
  kind : Option ElementKind
  content : Option String
  label : Option String
deriving DecidableEq, Repr

structure NewTemplate where
  name : String
  description : Option String := none
  thumbnail : Option String := none
  html : String
  css : String := ""
  isActive : Bool := true
deriving DecidableEq, Repr

structure TemplateChanges where
  name : Option String := none
  description : Option (Option String) := none
  thumbnail : Option (Option String) := none
  html : Option String := none
  css : Option String := none
  isActive : Option Bool := none
deriving DecidableEq, Repr

/-- What a page shows of its customer. -/
structure CustomerSummary where
  id : Uuid
  name : String
  email : String
deriving DecidableEq, Repr

namespace Request

def newPage (fields : Fields) : Checked NewPage :=
  (((((Checked.and (.ok NewPage.mk) (required fields "template_id" identifier)).and
    (required fields "customer_id" identifier)).and
    (required fields "name" name)).and
    (required fields "slug" slug)).and
    (withDefault fields "custom_css" none (nullable text)))

def pageChanges (fields : Fields) : Checked PageChanges :=
  (((((Checked.and (.ok PageChanges.mk) (optional fields "name" (notNull name))).and
    (optional fields "slug" (notNull slug))).and
    (optional fields "custom_css" (nullable text))).and
    (optional fields "theme" (nullable text))).and
    (optional fields "is_published" (notNull truth)))

def newElement (fields : Fields) : Checked NewElement :=
  ((((Checked.and (.ok NewElement.mk) (required fields "element_key" elementKey)).and
    (withDefault fields "type" none (nullable elementKind))).and
    (withDefault fields "content" none (nullable text))).and
    (withDefault fields "label" none (nullable (shortText 255))))

def elementContent (fields : Fields) : Checked String := required fields "content" text

def newTemplate (fields : Fields) : Checked NewTemplate :=
  ((((((Checked.and (.ok NewTemplate.mk) (required fields "name" name)).and
    (withDefault fields "description" none (nullable text))).and
    (withDefault fields "thumbnail" none (nullable (shortText 2048)))).and
    (required fields "html_content" someText)).and
    (withDefault fields "css_content" "" text)).and
    (withDefault fields "is_active" true truth))

def templateChanges (fields : Fields) : Checked TemplateChanges :=
  ((((((Checked.and (.ok TemplateChanges.mk) (optional fields "name" (notNull name))).and
    (optional fields "description" (nullable text))).and
    (optional fields "thumbnail" (nullable (shortText 2048)))).and
    (optional fields "html_content" (notNull someText))).and
    (optional fields "css_content" (notNull text))).and
    (optional fields "is_active" (notNull truth)))

def customerSummary (fields : Fields) : Checked CustomerSummary :=
  (((Checked.and (.ok CustomerSummary.mk) (required fields "id" identifier)).and
    (required fields "name" text)).and
    (required fields "email" email))

end Request

end PagePress
