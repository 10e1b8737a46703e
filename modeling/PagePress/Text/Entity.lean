/-!
# Character entities

A text is put into markup with its five special characters written as entities, so that it can
neither open nor close a tag or an attribute value.
-/

namespace PagePress.Text

def entityOf : Char → List Char
  | '&' => "&amp;".toList
  | '<' => "&lt;".toList
  | '>' => "&gt;".toList
  | '"' => "&quot;".toList
  | '\'' => "&#x27;".toList
  | c => [c]

def escapeMarkup (s : List Char) : List Char := s.flatMap entityOf

end PagePress.Text
