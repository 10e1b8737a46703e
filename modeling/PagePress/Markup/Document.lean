import PagePress.Document
import PagePress.Markup.BodyTag
import PagePress.Markup.Substitution
import PagePress.Text.Entity
import PagePress.Text.Field
import PagePress.Theme

/-!
# Documents

A rendered page is a complete document. A template that is a document of its own, told by its
`</head>`, receives the style sheets at the end of its head and the body class; any other template
is the body of a standard document. Broken pairs in the theme show as damaged text.
-/

namespace PagePress.Markup

def styleBlocks (sheets : List (List Char)) : List Char :=
  sheets.flatMap fun css => "<style>".toList ++ css ++ "</style>".toList

def headEnd : List Char := "</head>".toList

def documentStart : String := "<!DOCTYPE html>\n<html>\n<head>\n<meta charset=\"UTF-8\">\n"

def documentEnd : String := "</body>\n</html>\n"

def viewportTag : String :=
  "<meta name=\"viewport\" content=\"width=device-width, initial-scale=1.0\">\n"

def shellForm : String :=
  documentStart ++ viewportTag ++ "<title>\x7btitle\x7d</title>\n\x7bstyles\x7d\n</head>\n"
    ++ "<body class=\"\x7bbody_class\x7d\">\x7bbody\x7d" ++ documentEnd

def shell (title styles bodyClass body : List Char) : List Char :=
  Text.fillFields
    [("title", title), ("styles", styles), ("body_class", bodyClass), ("body", body)]
    shellForm.toList

def messageStyle : String :=
  "font-family: sans-serif; display: flex; justify-content: center; align-items: center; "
    ++ "height: 100vh; margin: 0;"

def messageForm : String :=
  documentStart ++ "<title>\x7btitle\x7d</title>\n</head>\n<body style=\"" ++ messageStyle
    ++ "\">\n<div style=\"text-align: center;\">\n<h1>\x7bheading\x7d</h1>\n<p>\x7bmessage\x7d</p>\n"
    ++ "</div>\n" ++ documentEnd

def messageDocument (title heading message : String) : String :=
  String.ofList (Text.fillFields
    [("title", title.toList), ("heading", heading.toList), ("message", message.toList)]
    messageForm.toList)

/-- What a visitor sees where no page is published. A draft looks the same as a missing page. -/
def notFoundDocument : String :=
  messageDocument "Page not found" "404" "This page is not available"

def errorDocument : String :=
  messageDocument "Error" "Error" "Something went wrong while loading this page"

/-- All that the document of a page is made from. -/
structure Source where
  name : String
  html : String
  css : String
  customCss : Option String
  theme : Option String
  /-- The contents of the page's elements by key, in the order in which they are put in. -/
  contents : List (String × String)
deriving DecidableEq, Repr

namespace Source

def body (page : Source) : List Char :=
  substituteAll page.html.toList (page.contents.map fun (k, v) => (k.toList, v.toList))

def styles (page : Source) : List Char :=
  styleBlocks
    [page.css.toList, (page.customCss.getD "").toList, (Theme.ofText page.theme).css.toList]

def bodyClass (page : Source) : List Char := (Theme.ofText page.theme).bodyClass.toList

def render (page : Source) : List Char :=
  if Text.occursIn headEnd page.body then
    setBodyClass page.bodyClass (Text.replaceFirst headEnd (page.styles ++ headEnd) page.body)
  else
    shell (Text.escapeMarkup page.name.toList) page.styles page.bodyClass page.body

/-- The document of the page, which cannot be sent if its theme has a broken pair in its style. -/
def document (page : Source) : Document :=
  { html := String.ofList page.render, isSendable := (Theme.ofText page.theme).css.isWhole }

end Source

end PagePress.Markup
