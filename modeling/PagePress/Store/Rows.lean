import PagePress.Clock
import PagePress.Element.Kind
import PagePress.Uuid

/-!
# What is stored

A customer owns pages. A page is made from a template, and its elements hold the contents of the
template's variables.
-/

namespace PagePress

/-- The owner of pages. -/
structure Customer where
  id : Uuid
  name : String
  email : String
  createdAt : Micros
deriving DecidableEq, Repr

/-- Markup with placeholders, from which pages are made. -/
structure Template where
  id : Uuid
  name : String
  description : Option String
  thumbnail : Option String
  html : String
  css : String
  isActive : Bool
  createdAt : Micros
  updatedAt : Micros
deriving DecidableEq, Repr

/-- A page, which the public sees under its slug once it is published. -/
structure Page where
  id : Uuid
  templateId : Uuid
  customerId : Uuid
  name : String
  slug : String
  customCss : Option String
  theme : Option String
  isPublished : Bool
  createdAt : Micros
  updatedAt : Micros
deriving DecidableEq, Repr

/-- The content of one variable of a page. -/
structure Element where
  pageId : Uuid
  key : String
  kind : ElementKind
  content : String
  label : Option String
  createdAt : Micros
  updatedAt : Micros
deriving DecidableEq, Repr

end PagePress
