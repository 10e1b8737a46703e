import PagePress.Proofs.Json.Grammar
import PagePress.Proofs.Text.Loose
import PagePress.Theme

/-!
# What the text of a theme means

The mode and the palette of a theme are taken from the text each on its own: what is wrong with one
of them, and whatever else the text holds, leaves the other as it is. A theme that is written as an
object is the theme that is read.
-/

namespace PagePress.Theme

open Json (Says)

variable {raw : Option String} {text : String} {fields : Fields}
  {members : List (LooseText × Json)} {theme : Theme}

/-! ## The style sheet -/

/-- The declarations of style variables, each with a space in front of it. -/
def declarations : Fields → LooseText
  | [] => ""
  | (name, value) :: rest => " " ++ name ++ ": " ++ value.display ++ ";" ++ declarations rest

theorem join_declaration (entry : LooseText × Json) (rest : Fields) :
    " " ++ LooseText.join " " ((entry :: rest).map fun (n, v) => declaration n v) =
      declarations (entry :: rest) := by
  induction rest generalizing entry with
  | nil =>
    simp only [List.map_cons, List.map_nil, LooseText.join_singleton, declaration, declarations,
      LooseText.append_assoc, LooseText.append_empty]
  | cons next rest ih =>
    rw [declarations, ← ih]
    simp only [List.map_cons, LooseText.join_cons_cons, declaration, LooseText.append_assoc]

theorem css_of_nil (empty : theme.palette = []) : theme.css = "" := by
  simp [css, empty]

/-- A palette is declared whole and in order. -/
theorem css_of_ne_nil (filled : theme.palette ≠ []) :
    theme.css = ":root \x7b" ++ declarations theme.palette ++ " \x7d" := by
  obtain ⟨entry, rest, palette⟩ := List.exists_cons_of_ne_nil filled
  have front : LooseText.ofString ":root \x7b " = ":root \x7b" ++ LooseText.ofString " " := rfl
  rw [css, palette, if_neg (by simp), front, LooseText.append_assoc (_ : LooseText) " ",
    join_declaration]

/-! ## Mode and palette -/

theorem bodyClass_eq_dark_iff : theme.bodyClass = "dark" ↔ theme.mode = "dark" := by
  unfold bodyClass
  split
  · exact iff_of_true rfl ‹_›
  · exact iff_of_false (by decide) ‹_›

theorem bodyClass_of_ne (light : theme.bodyClass ≠ "dark") : theme.bodyClass = "" :=
  if_neg (mt bodyClass_eq_dark_iff.mpr light)

/-- Nothing but the word itself makes a theme dark. -/
theorem mode_ofFields_eq_dark_iff :
    (ofFields fields).mode = "dark" ↔ fields.get? "mode" = some (.str "dark") := by
  have light : LooseText.ofString "light" ≠ LooseText.ofString "dark" := by decide
  unfold ofFields
  cases given : fields.get? "mode" with
  | none => exact iff_of_false light nofun
  | some value =>
    cases value with
    | str mode => simp [Json.looseStr?]
    | null | bool | int | real | arr | obj => exact iff_of_false light nofun

theorem palette_ofFields_of_obj {entries : Fields}
    (given : fields.get? "palette" = some (.obj entries)) :
    (ofFields fields).palette = entries := by
  simp [ofFields, given, Json.fields?]

theorem palette_ofFields_of_ne (given : ∀ entries, fields.get? "palette" ≠ some (.obj entries)) :
    (ofFields fields).palette = [] := by
  unfold ofFields
  cases found : fields.get? "palette" with
  | none => rfl
  | some value =>
    cases value with
    | obj entries => exact absurd found (given entries)
    | null | bool | int | real | arr | str => rfl

/-! ## Themes that a text tells -/

/-- The theme is what the members of an object tell. Mode and palette go by the last member of their
name alone. -/
structure IsToldBy (theme : Theme) (members : List (LooseText × Json)) : Prop where
  dark : theme.bodyClass = "dark" ↔ Fields.last? members "mode" = some (.str "dark")
  light : theme.bodyClass ≠ "dark" → theme.bodyClass = ""
  names : ∀ entries, Fields.last? members "palette" = some (.obj entries) →
    theme.palette.map (·.1) = (entries.map (·.1)).eraseDups
  values : ∀ entries, Fields.last? members "palette" = some (.obj entries) →
    ∀ name, theme.palette.get? name = (Fields.last? entries name).map Json.settle
  noPalette : (∀ entries, Fields.last? members "palette" ≠ some (.obj entries)) →
    theme.palette = []

theorem get?_settled (members : List (LooseText × Json)) (name : LooseText) :
    Fields.get? (.ofPairs (Json.settleMembers members)) name =
      (Fields.last? members name).map Json.settle := by
  rw [Fields.get?_ofPairs, Json.last?_settleMembers]

theorem isToldBy_ofFields (members : List (LooseText × Json)) :
    (ofFields (.ofPairs (Json.settleMembers members))).IsToldBy members where
  dark := by
    rw [bodyClass_eq_dark_iff, mode_ofFields_eq_dark_iff, get?_settled, Option.map_eq_some_iff]
    constructor
    · rintro ⟨mode, given, word⟩
      rw [given, Json.settle_eq_str_iff.mp word]
    · intro given
      exact ⟨_, given, rfl⟩
  light := bodyClass_of_ne
  names := by
    intro entries given
    rw [palette_ofFields_of_obj ((get?_settled members "palette").trans (congrArg _ given)),
      Fields.names_ofPairs, Json.settleMembers_eq_map, List.map_map]
    rfl
  values := by
    intro entries given name
    rw [palette_ofFields_of_obj ((get?_settled members "palette").trans (congrArg _ given)),
      get?_settled]
  noPalette := by
    intro given
    apply palette_ofFields_of_ne
    intro fields found
    rw [get?_settled, Option.map_eq_some_iff] at found
    obtain ⟨palette, last, settled⟩ := found
    obtain ⟨entries, rfl, -⟩ := Json.settle_eq_obj settled
    exact given entries last

/-- A text that says no object leaves the theme of a page without one. An object tells mode and
palette, each whatever the other one and all other members are, and the whole palette is declared in
order. -/
theorem ofText_isTold (raw : Option String) :
    (∀ text, (∃ fields, Json.read text = .ok (.obj fields)) ↔ ∃ members, Says text (.obj members)) ∧
    ((∀ text ∈ raw, ∀ members, ¬Says text.toList (.obj members)) →
      (ofText raw).mode = "light" ∧ (ofText raw).palette = []) ∧
    (∀ text ∈ raw, ∀ members, Says text.toList (.obj members) → (ofText raw).IsToldBy members) ∧
    ((ofText raw).palette = [] → (ofText raw).css = "") ∧
    ((ofText raw).palette ≠ [] →
      (ofText raw).css = ":root \x7b" ++ declarations (ofText raw).palette ++ " \x7d") := by
  refine ⟨fun text => ?_, fun silent => ?_, fun text given members said => ?_, css_of_nil,
    css_of_ne_nil⟩
  · constructor
    · rintro ⟨fields, read⟩
      obtain ⟨members, said, -⟩ := Json.read_eq_obj_iff.mp read
      exact ⟨members, said⟩
    · rintro ⟨members, said⟩
      exact ⟨_, Json.read_eq_obj_iff.mpr ⟨members, said, rfl⟩⟩
  · cases raw with
    | none => exact ⟨rfl, rfl⟩
    | some text =>
      rw [ofText]
      split
      · rename_i fields read
        obtain ⟨members, said, -⟩ := Json.read_eq_obj_iff.mp read
        exact absurd said (silent text rfl members)
      · exact ⟨rfl, rfl⟩
  · cases given
    have read := Json.read_eq_obj_iff.mpr ⟨members, said, rfl⟩
    simp only [ofText, read]
    exact isToldBy_ofFields members

theorem ofText_isTold_repeatedNames :
    let entries : Fields := [("a", .str "x"), ("b", .str "y"), ("a", .str "z")]
    let members : Fields :=
      [("mode", .str "light"), ("palette", .obj entries), ("mode", .str "dark")]
    let theme := ofText (some (Json.text (.obj members)))
    theme.bodyClass = "dark" ∧ theme.palette.map (·.1) = ["a", "b"] ∧
      theme.palette.get? "a" = some (.str "z") ∧ (ofText (some "[]")).palette = [] := by
  intro entries members theme
  have spelled : Json.IsSpelled Json.maxDepth (.obj members) := by
    apply Json.isSpelled_obj
    simp only [members, entries, List.forall_mem_cons]
    refine ⟨⟨rfl, Json.isSpelled_str rfl⟩, ⟨rfl, Json.isSpelled_obj ?_⟩,
      ⟨rfl, Json.isSpelled_str rfl⟩, List.forall_mem_nil _⟩
    simp only [List.forall_mem_cons]
    exact ⟨⟨rfl, Json.isSpelled_str rfl⟩, ⟨rfl, Json.isSpelled_str rfl⟩,
      ⟨rfl, Json.isSpelled_str rfl⟩, List.forall_mem_nil _⟩
  have said : Says (Json.text (.obj members)).toList (.obj members) := by
    rw [Json.text, String.toList_ofList]
    exact Json.says_write spelled
  have told := (ofText_isTold (some (Json.text (.obj members)))).2.2.1 _ rfl members said
  have list : Json.read "[]".toList = .ok (.arr []) := rfl
  have silent : ∀ text ∈ some "[]", ∀ members, ¬Says text.toList (.obj members) := by
    rintro _ ⟨⟩ members said
    obtain ⟨fields, read⟩ := ((ofText_isTold none).1 _).mpr ⟨members, said⟩
    rw [list] at read
    cases read
  exact ⟨told.dark.mpr rfl, told.names entries rfl, told.values entries rfl "a",
    ((ofText_isTold (some "[]")).2.1 silent).2⟩

/-! ## Themes that are written and read -/

def strings (palette : List (String × String)) : Fields :=
  palette.map fun entry => (↑entry.1, .str entry.2)

def written (mode : String) (palette : List (String × String)) : Json :=
  .obj [("mode", .str mode), ("palette", .obj (strings palette))]

variable {mode : String} {palette : List (String × String)}

theorem isPlain_written (mode : String) (distinct : (palette.map (·.1)).Nodup) :
    (written mode palette).isPlain 2 = true := by
  have names : (strings palette).IsDistinct := by
    rw [strings, Fields.IsDistinct, List.map_map]
    have once := distinct.map LooseText.ofString_injective
    rwa [List.map_map] at once
  have values : (strings palette).IsPlain 0 := by
    intro field mem
    obtain ⟨entry, -, rfl⟩ := List.mem_map.mp mem
    exact ⟨LooseText.isWhole_ofList _, LooseText.isWhole_ofList _⟩
  have apart : LooseText.ofString "mode" ∉ [LooseText.ofString "palette"] := by decide
  refine Fields.isPlain_obj_iff.mpr ⟨?_, List.nodup_cons.mpr ⟨apart, List.nodup_singleton _⟩⟩
  simp only [Fields.IsPlain, List.forall_mem_cons]
  refine ⟨⟨rfl, ?_⟩, ⟨rfl, Fields.isPlain_obj_iff.mpr ⟨values, names⟩⟩, List.forall_mem_nil _⟩
  exact LooseText.isWhole_ofList _

theorem ofText_text_written (mode : String) (distinct : (palette.map (·.1)).Nodup) :
    ofText (some (Json.text (written mode palette))) =
      { mode := mode, palette := strings palette } := by
  have read : Json.read (Json.text (written mode palette)).toList = .ok (written mode palette) := by
    rw [Json.text, String.toList_ofList]
    exact Json.read_write (isPlain_written mode distinct) (by decide)
  simp only [ofText, read]
  rfl

theorem css_of_strings (palette : List (String × String)) :
    css { mode := mode, palette := strings palette } =
      (if palette = [] then ""
        else ":root \x7b " ++
          " ".intercalate (palette.map fun entry => entry.1 ++ ": " ++ entry.2 ++ ";") ++
          " \x7d") := by
  have declared : (strings palette).map (fun (n, v) => declaration n v) =
      (palette.map fun entry => entry.1 ++ ": " ++ entry.2 ++ ";").map LooseText.ofString := by
    rw [strings, List.map_map, List.map_map]
    apply List.map_congr_left
    intro entry _
    simp only [Function.comp_apply, declaration, Json.display, LooseText.ofString_append]
  have empty : (strings palette).isEmpty = true ↔ palette = [] := by simp [strings]
  simp only [css, declared, LooseText.join_ofString, empty, apply_ite LooseText.ofString,
    LooseText.ofString_append]

/-- A theme of strings is what its text is read as, and every name and value of the palette stands
in the style sheet as it is. -/
theorem ofText_written (mode : String) (palette : List (String × String))
    (distinct : (palette.map (·.1)).Nodup) :
    let theme := ofText (some (Json.text (written mode palette)))
    (∀ c ∈ (Json.text (written mode palette)).toList, Json.IsPrintable c) ∧
      theme.mode = mode ∧
      theme.palette = strings palette ∧
      theme.css = (if palette = [] then ""
        else ":root \x7b " ++
          " ".intercalate (palette.map fun entry => entry.1 ++ ": " ++ entry.2 ++ ";") ++
          " \x7d") ∧
      theme.bodyClass = (if mode = "dark" then "dark" else "") := by
  intro theme
  have read : theme = { mode := mode, palette := strings palette } :=
    ofText_text_written mode distinct
  refine ⟨?_, congrArg Theme.mode read, congrArg Theme.palette read, ?_, ?_⟩
  · rw [Json.text, String.toList_ofList]
    exact Json.isPrinted (isPlain_written mode distinct)
  · rw [read]
    exact css_of_strings palette
  · rw [read]
    simp only [bodyClass, LooseText.ofString_injective.eq_iff]

/-- Quotation marks, backslashes, control characters and characters of two units come back. -/
theorem ofText_written_escaped :
    let palette := [("--\"a\"", "\\ \n\x00 é"), ("😀", "url(x)")]
    (ofText (some (Json.text (written "dark" palette)))).css =
        (":root \x7b --\"a\": \\ \n\x00 é; 😀: url(x); \x7d" : LooseText) ∧
      (ofText (some (Json.text (written "dark" palette)))).bodyClass = "dark" := by
  intro palette
  obtain ⟨-, -, -, sheet, dark⟩ := ofText_written "dark" palette (by decide)
  refine ⟨sheet.trans ?_, dark⟩
  decide

end PagePress.Theme
