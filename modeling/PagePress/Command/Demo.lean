import PagePress.Json.Basic
import PagePress.Request.Schema

/-!
# The demonstration page
-/

namespace PagePress.Demo

def customerName : String := "Demo Customer"

def template : NewTemplate where
  name := "Demo landing"
  html :=
    "<section class=\"hero\" style=\"background: \x7b\x7bheroBackground\x7d\x7d\">\n"
      ++ "  <img src=\"\x7b\x7blogoImage\x7d\x7d\" alt=\"logo\">\n"
      ++ "  <h1>\x7b\x7bheroTitle\x7d\x7d</h1>\n"
      ++ "  <p data-element=\"heroSubtitle\">Subtitle</p>\n"
      ++ "  <a href=\"\x7b\x7bctaLink\x7d\x7d\">\x7b\x7bctaText\x7d\x7d</a>\n"
      ++ "</section>"
  css :=
    ":root \x7b --primary: #3B82F6; \x7d\n"
      ++ "body.dark \x7b background: #111827; color: #f9fafb; \x7d\n"
      ++ ".hero \x7b padding: 4rem 2rem; text-align: center; \x7d\n"
      ++ ".hero a \x7b color: var(--primary); \x7d"

def pageFields (templateId customerId : Uuid) (slug : String) : Fields :=
  [("template_id", .str templateId.text), ("customer_id", .str customerId.text),
   ("name", .str "Demo page"), ("slug", .str slug)]

end PagePress.Demo
