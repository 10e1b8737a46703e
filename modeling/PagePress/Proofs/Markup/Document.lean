import PagePress.Markup.Document
import PagePress.Proofs.Markup.BodyTag

/-!
# A template that is a document of its own

The style sheets go to the end of the template's head, before the body tag is looked for. The tag
that receives the class is thus the template's own only if no body tag opens in a style sheet. A
style sheet in which one opens is changed instead, and the body tag of the template is left alone.
-/

namespace PagePress.Markup

variable {pre rest bodyClass css : List Char}

/-! ## Style sheets -/

/-- One style sheet in its tag. -/
theorem styleBlocks_cons (css : List Char) (sheets : List (List Char)) :
    styleBlocks (css :: sheets) =
      "<style>".toList ++ css ++ "</style>".toList ++ styleBlocks sheets := by
  rw [styleBlocks, List.flatMap_cons]
  rfl

theorem opensBody_styleTag (css : List Char) :
    opensBody ("<style>".toList ++ css) = opensBody css := by
  simp [opensBody, startsBody, afterName?, matchesLetter]

theorem setBodyClass_styleTag_of_not_opens (closed : opensBody css = false) (t : List Char) :
    setBodyClass bodyClass ("<style>".toList ++ css ++ "</style>".toList ++ t) =
      "<style>".toList ++ css ++ "</style>".toList ++ setBodyClass bodyClass t := by
  have sheet : opensBody ("<style>".toList ++ css) = false := by rw [opensBody_styleTag, closed]
  have ends : ∀ t, "</style>".toList ++ t = '<' :: '/' :: ("style>".toList ++ t) := fun _ => rfl
  rw [List.append_assoc _ "</style>".toList, List.append_assoc _ "</style>".toList, ends, ends,
    setBodyClass_append_of_not_opens sheet, setBodyClass_closingTag (by decide)]

theorem setBodyClass_styleTag_of_opens (opening : opensBody css = true) (t : List Char) :
    setBodyClass bodyClass ("<style>".toList ++ css ++ "</style>".toList ++ t) =
      setBodyClass bodyClass ("<style>".toList ++ css ++ "</style>".toList) ++ t := by
  have sheet : opensBody ("<style>".toList ++ css) = true := by rw [opensBody_styleTag, opening]
  exact setBodyClass_append_of_opens (t := "/style>".toList) sheet (by decide) t

/-- The class is set in the first style sheet in which a body tag opens, and in what follows the
style sheets only if there is none. -/
theorem setBodyClass_styleBlocks_append (sheets : List (List Char)) (t : List Char) :
    setBodyClass bodyClass (styleBlocks sheets ++ t) =
      if sheets.any opensBody then setBodyClass bodyClass (styleBlocks sheets) ++ t
      else styleBlocks sheets ++ setBodyClass bodyClass t := by
  induction sheets with
  | nil => rfl
  | cons css sheets ih =>
    rw [List.any_cons, styleBlocks_cons, List.append_assoc _ (styleBlocks sheets)]
    by_cases here : opensBody css = true
    · rw [setBodyClass_styleTag_of_opens here, setBodyClass_styleTag_of_opens here, here,
        Bool.true_or, if_pos rfl, List.append_assoc (setBodyClass _ _)]
    · have closed : opensBody css = false := by simpa using here
      rw [setBodyClass_styleTag_of_not_opens closed, setBodyClass_styleTag_of_not_opens closed, ih,
        closed, Bool.false_or]
      split <;> simp only [List.append_assoc]

/-! ## The end of the head -/

theorem setBodyClass_headEnd (t : List Char) :
    setBodyClass bodyClass (headEnd ++ t) = headEnd ++ setBodyClass bodyClass t :=
  setBodyClass_closingTag (s := "head>".toList) (by decide) t

namespace Source

/-- The style sheets of a page, in the order in which they stand in its document. -/
def sheets (page : Source) : List (List Char) :=
  [page.css.toList, (page.customCss.getD "").toList, (Theme.ofText page.theme).css.toList]

variable {page : Source}

theorem styles_eq : page.styles = styleBlocks page.sheets := rfl

/-- If a body tag opens in a style sheet, the class is set there; if not, it is set in what follows
the head, and the style sheets are as they were given. -/
theorem render_of_cut (cut : Text.cut? headEnd page.body = some (pre, rest))
    (closed : opensBody pre = false) :
    page.render =
      if page.sheets.any opensBody then
        pre ++ setBodyClass page.bodyClass page.styles ++ headEnd ++ rest
      else pre ++ page.styles ++ headEnd ++ setBodyClass page.bodyClass rest := by
  have injected : Text.replaceFirst headEnd (page.styles ++ headEnd) page.body =
      pre ++ (page.styles ++ (headEnd ++ rest)) := by
    simp [Text.replaceFirst, cut]
  have opening : ∃ t, page.styles ++ (headEnd ++ rest) = '<' :: t := ⟨_, rfl⟩
  obtain ⟨t, start⟩ := opening
  rw [render, if_pos (Text.occursIn_of_cut? cut), injected, start,
    setBodyClass_append_of_not_opens closed, ← start, styles_eq, setBodyClass_styleBlocks_append,
    setBodyClass_headEnd]
  split <;> simp only [List.append_assoc]

/-- A page whose style sheet names the body tag in a comment. -/
def commented : Source where
  name := "Page"
  html := "<html><head></head><body></body></html>"
  css := "/* <body> */"
  customCss := none
  theme := none
  contents := []

theorem render_of_cut_commented :
    Text.cut? headEnd commented.body =
        some ("<html><head>".toList, "<body></body></html>".toList) ∧
      opensBody "<html><head>".toList = false ∧
      commented.render =
        if commented.sheets.any opensBody then
          "<html><head>".toList ++ setBodyClass commented.bodyClass commented.styles ++ headEnd ++
            "<body></body></html>".toList
        else
          "<html><head>".toList ++ commented.styles ++ headEnd ++
            setBodyClass commented.bodyClass "<body></body></html>".toList := by
  have cut : Text.cut? headEnd commented.body =
      some ("<html><head>".toList, "<body></body></html>".toList) := by decide +kernel
  have closed : opensBody "<html><head>".toList = false := by decide +kernel
  exact ⟨cut, closed, render_of_cut cut closed⟩

/-- The comment gets the class, and the body tag of the template gets none. -/
theorem render_commented_ne :
    Text.cut? headEnd commented.body =
        some ("<html><head>".toList, "<body></body></html>".toList) ∧
      ¬"<body".toList <:+: "<html><head>".toList ∧
      commented.render ≠
        "<html><head>".toList ++ commented.styles ++ headEnd ++
          setBodyClass commented.bodyClass "<body></body></html>".toList := by
  decide +kernel

end Source

end PagePress.Markup
