import PagePress.Json.Literal
import PagePress.Json.Reader

/-!
# Themes

The theme of a page is a mode and a palette of style variables. It is stored as a JSON text; a text
that is no object gives the light theme, and a mode or a palette of the wrong type falls back on
its own.
-/

namespace PagePress

/-- The mode of a page and its style variables in order. -/
structure Theme where
  mode : LooseText := "light"
  palette : Fields := []

namespace Theme

def ofFields (fields : Fields) : Theme where
  mode := ((fields.get? "mode").bind Json.looseStr?).getD "light"
  palette := ((fields.get? "palette").bind Json.fields?).getD []

def ofText (raw : Option String) : Theme :=
  match raw with
  | none => {}
  | some raw =>
    match Json.read raw.toList with
    | .ok (.obj fields) => ofFields fields
    | _ => {}

def bodyClass (theme : Theme) : String := if theme.mode = "dark" then "dark" else ""

def declaration (name : LooseText) (value : Json) : LooseText :=
  name ++ ": " ++ value.display ++ ";"

/-- The style sheet that declares the palette, empty for an empty palette. -/
def css (theme : Theme) : LooseText :=
  if theme.palette.isEmpty then ""
  else ":root \x7b " ++ .join " " (theme.palette.map fun (n, v) => declaration n v) ++ " \x7d"

end Theme

end PagePress
