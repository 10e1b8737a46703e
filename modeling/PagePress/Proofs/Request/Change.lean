import PagePress.Proofs.Json.Fields
import PagePress.Proofs.Request.Validity
import PagePress.Proofs.Text.Loose

/-!
# Changes that follow one another

A body gives some of the fields and leaves out the others. Changes that are made by one body after
the other are those of a single body, in which the fields of the second override the fields of the
first; and if no field is given by both, it does not matter which of them comes first. If each of
the two bodies can be stored, so can the single one.
-/

namespace PagePress

/-! ## Columns -/

namespace Request

variable {α : Type} {body first second : Fields} {field : String} {read : Json → Checked α}

/-- What a body makes of a column: it has the value of its field, or stays as it is if the field is
left out. -/
def Sets (body : Fields) (field : String) (read : Json → Checked α) (old new : α) : Prop :=
  match body.get? field with
  | none => new = old
  | some value => read value = .ok new

/-- What a body makes of a column that may be null: null clears it. -/
def SetsOrClears (body : Fields) (field : String) (read : Json → Checked α)
    (old new : Option α) : Prop :=
  match body.get? field with
  | none => new = old
  | some .null => new = none
  | some value => (read value).map some = .ok new

theorem optional_eq_ok_iff {given : Option α} : optional body field read = .ok given ↔
    (body.get? field = none ∧ given = none) ∨
      ∃ value a, body.get? field = some value ∧ read value = .ok a ∧ given = some a := by
  rw [optional, Checked.under_eq_ok_iff]
  cases body.get? field with
  | none => simp [eq_comm (a := given)]
  | some value => simp [Outcome.map_eq_ok_iff, eq_comm (a := given)]

theorem sets_of_optional {given : Option α}
    (h : optional body field (notNull read) = .ok given) (old : α) :
    Sets body field read old (given.getD old) := by
  unfold Sets
  rcases optional_eq_ok_iff.1 h with ⟨absent, rfl⟩ | ⟨value, a, present, isRead, rfl⟩
  · simp only [absent, Option.getD_none]
  · simp only [present, Option.getD_some]
    exact of_notNull isRead

theorem setsOrClears_of_optional {given : Option (Option α)}
    (h : optional body field (nullable read) = .ok given) (old : Option α) :
    SetsOrClears body field read old (given.getD old) := by
  unfold SetsOrClears
  rcases optional_eq_ok_iff.1 h with ⟨absent, rfl⟩ | ⟨value, a, present, isRead, rfl⟩
  · simp only [absent, Option.getD_none]
  · simp only [present, Option.getD_some]
    cases value with
    | null => exact (Except.ok.inj isRead).symm
    | bool | int | real | str | arr | obj => exact isRead

/-- Of a field that both bodies give the second gives the value. -/
theorem optional_merge (once : second.IsDistinct) {given given' : Option α}
    (h : optional first field read = .ok given) (h' : optional second field read = .ok given') :
    optional (first.merge second) field read = .ok (given'.or given) := by
  rw [optional_eq_ok_iff, Fields.get?_merge once]
  rcases optional_eq_ok_iff.1 h' with ⟨absent, rfl⟩ | ⟨value, a, present, isRead, rfl⟩
  · rw [absent, Option.none_or, Option.none_or]
    exact optional_eq_ok_iff.1 h
  · rw [present, Option.some_or, Option.some_or]
    exact .inr ⟨value, a, rfl, isRead, rfl⟩

/-- A field that one of the bodies leaves out comes from the other. -/
theorem or_comm_of_optional (apart : first.get? field = none ∨ second.get? field = none)
    {given given' : Option α} (h : optional first field read = .ok given)
    (h' : optional second field read = .ok given') : given'.or given = given.or given' := by
  rcases optional_eq_ok_iff.1 h with ⟨-, rfl⟩ | ⟨_, _, present, -, -⟩
  · rw [Option.or_none, Option.none_or]
  · rcases optional_eq_ok_iff.1 h' with ⟨-, rfl⟩ | ⟨_, _, present', -, -⟩
    · rw [Option.or_none, Option.none_or]
    · rw [present, present'] at apart
      rcases apart with absent | absent <;> cases absent

end Request

/-! ## Texts that cannot be stored -/

/-- The body gives a text with half of a pair for one of the fields. -/
def Fields.HasBrokenText (body : Fields) (names : List String) : Prop :=
  ∃ name ∈ names, ∃ s : LooseText, body.get? name = some (.str s) ∧ ∃ unit, .half unit ∈ s.symbols

def PageChanges.HasBrokenText (body : Fields) : Prop :=
  body.HasBrokenText ["name", "slug", "custom_css", "theme", "is_published"]

def TemplateChanges.HasBrokenText (body : Fields) : Prop :=
  body.HasBrokenText
    ["name", "description", "thumbnail", "html_content", "css_content", "is_active"]

namespace Form

variable {form : Form} {first second body : Fields}

theorem isStorable_eq_false_iff :
    form.isStorable (.obj body) = false ↔ body.HasBrokenText form.fieldNames := by
  simp only [isStorable, List.all_eq_false, Fields.HasBrokenText]
  refine exists_congr fun name => and_congr_right fun _ => ?_
  change ¬((body.get? name).bind Json.looseStr?).all LooseText.isWhole = true ↔ _
  cases body.get? name with
  | none => simp
  | some value => cases value <;> simp [Json.looseStr?, ← LooseText.isWhole_eq_false_iff]

theorem isStorable_iff :
    form.isStorable (.obj body) = true ↔ ¬body.HasBrokenText form.fieldNames := by
  rw [← isStorable_eq_false_iff, Bool.not_eq_false]

theorem isStorable_merge (once : second.IsDistinct) (h : form.isStorable (.obj first) = true)
    (h' : form.isStorable (.obj second) = true) :
    form.isStorable (.obj (first.merge second)) = true := by
  rw [isStorable_iff] at h h' ⊢
  rintro ⟨name, mem, s, given, broken⟩
  rw [Fields.get?_merge once, Option.or_eq_some_iff] at given
  rcases given with given | ⟨-, given⟩
  · exact h' ⟨name, mem, s, given, broken⟩
  · exact h ⟨name, mem, s, given, broken⟩

end Form

/-! ## Pages -/

namespace PageChanges

def followedBy (first second : PageChanges) : PageChanges where
  name := second.name.or first.name
  slug := second.slug.or first.slug
  customCss := second.customCss.or first.customCss
  theme := second.theme.or first.theme
  isPublished := second.isPublished.or first.isPublished

def apply (changes : PageChanges) (page : Page) (now : Micros) : Page :=
  { page with
    name := changes.name.getD page.name
    slug := changes.slug.getD page.slug
    customCss := changes.customCss.getD page.customCss
    theme := changes.theme.getD page.theme
    isPublished := changes.isPublished.getD page.isPublished
    updatedAt := now }

theorem apply_followedBy (first second : PageChanges) (page : Page) (before now : Micros) :
    (first.followedBy second).apply page now = second.apply (first.apply page before) now := by
  simp only [apply, followedBy, Option.getD_or]

end PageChanges

/-- The page after a body has changed it: each column goes by its own field, and the others stay as
they are. -/
structure Page.IsChangedBy (old : Page) (body : Fields) (now : Micros) (new : Page) : Prop where
  name : Request.Sets body "name" Request.name old.name new.name
  slug : Request.Sets body "slug" Request.slug old.slug new.slug
  customCss : Request.SetsOrClears body "custom_css" Request.text old.customCss new.customCss
  theme : Request.SetsOrClears body "theme" Request.text old.theme new.theme
  isPublished : Request.Sets body "is_published" Request.truth old.isPublished new.isPublished
  id : new.id = old.id
  templateId : new.templateId = old.templateId
  customerId : new.customerId = old.customerId
  createdAt : new.createdAt = old.createdAt
  updatedAt : new.updatedAt = now

namespace Request

variable {body first second : Fields}

theorem pageChanges_eq_ok_iff {changes : PageChanges} : pageChanges body = .ok changes ↔
    optional body "name" (notNull name) = .ok changes.name ∧
    optional body "slug" (notNull slug) = .ok changes.slug ∧
    optional body "custom_css" (nullable text) = .ok changes.customCss ∧
    optional body "theme" (nullable text) = .ok changes.theme ∧
    optional body "is_published" (notNull truth) = .ok changes.isPublished := by
  constructor
  · intro h
    obtain ⟨_, shown, h1, hshown, rfl⟩ := Checked.and_eq_ok_iff.1 h
    obtain ⟨_, theme, h2, htheme, rfl⟩ := Checked.and_eq_ok_iff.1 h1
    obtain ⟨_, css, h3, hcss, rfl⟩ := Checked.and_eq_ok_iff.1 h2
    obtain ⟨_, slug, h4, hslug, rfl⟩ := Checked.and_eq_ok_iff.1 h3
    obtain ⟨_, name, h5, hname, rfl⟩ := Checked.and_eq_ok_iff.1 h4
    cases h5
    exact ⟨hname, hslug, hcss, htheme, hshown⟩
  · rintro ⟨hname, hslug, hcss, htheme, hshown⟩
    rw [pageChanges, hname, hslug, hcss, htheme, hshown]
    rfl

theorem eq_str_of_slug {j : Json} {s : String} (h : slug j = .ok s) : j = .str s := by
  obtain ⟨t, isName, chars⟩ := Outcome.bind_eq_ok_iff.1 h
  obtain ⟨u, least, hmost⟩ := Outcome.bind_eq_ok_iff.1 isName
  obtain ⟨v, whole, hleast⟩ := Outcome.bind_eq_ok_iff.1 least
  obtain ⟨loose, isText, unbroken⟩ := Outcome.bind_eq_ok_iff.1 whole
  have kept : t = s := by
    unfold allOf at chars
    split at chars <;> cases chars
    rfl
  obtain ⟨rfl, -⟩ := of_atLeast hleast
  obtain ⟨rfl, -⟩ := of_atMost hmost
  obtain rfl := LooseText.eq_ofString_of_toString? (Outcome.getDM_eq_ok_iff.1 unbroken)
  subst kept
  cases j with
  | str given =>
    cases isText
    rfl
  | null | bool | int | real | arr | obj => cases isText

/-- The slug asked for is the text that is given for it. -/
theorem slug_eq_some_iff {changes : PageChanges} (h : pageChanges body = .ok changes)
    {s : String} : changes.slug = some s ↔ body.get? "slug" = some (.str s) := by
  obtain ⟨-, slug, -⟩ := pageChanges_eq_ok_iff.1 h
  rcases optional_eq_ok_iff.1 slug with ⟨absent, none⟩ | ⟨value, a, present, isRead, given⟩
  · rw [absent, none]
    exact iff_of_false nofun nofun
  · obtain rfl := eq_str_of_slug (of_notNull isRead)
    rw [present, given]
    simp [LooseText.ofString_injective.eq_iff]

theorem pageChanges_merge (once : second.IsDistinct) {changes changes' : PageChanges}
    (h : pageChanges first = .ok changes) (h' : pageChanges second = .ok changes') :
    pageChanges (first.merge second) = .ok (changes.followedBy changes') := by
  obtain ⟨name, slug, css, theme, shown⟩ := pageChanges_eq_ok_iff.1 h
  obtain ⟨name', slug', css', theme', shown'⟩ := pageChanges_eq_ok_iff.1 h'
  exact pageChanges_eq_ok_iff.2 ⟨optional_merge once name name', optional_merge once slug slug',
    optional_merge once css css', optional_merge once theme theme',
    optional_merge once shown shown'⟩

theorem pageChanges_comm
    (apart : ∀ name ∈ Form.pageChanges.fieldNames, first.get? name = none ∨ second.get? name = none)
    {changes changes' : PageChanges} (h : pageChanges first = .ok changes)
    (h' : pageChanges second = .ok changes') :
    changes.followedBy changes' = changes'.followedBy changes := by
  simp only [Form.fieldNames, List.forall_mem_cons] at apart
  obtain ⟨noName, noSlug, noCss, noTheme, noShown, -⟩ := apart
  obtain ⟨name, slug, css, theme, shown⟩ := pageChanges_eq_ok_iff.1 h
  obtain ⟨name', slug', css', theme', shown'⟩ := pageChanges_eq_ok_iff.1 h'
  simp only [PageChanges.followedBy, or_comm_of_optional noName name name',
    or_comm_of_optional noSlug slug slug', or_comm_of_optional noCss css css',
    or_comm_of_optional noTheme theme theme', or_comm_of_optional noShown shown shown']

theorem isChangedBy_of_pageChanges {changes : PageChanges} (h : pageChanges body = .ok changes)
    (page : Page) (now : Micros) : page.IsChangedBy body now (changes.apply page now) := by
  obtain ⟨name, slug, css, theme, shown⟩ := pageChanges_eq_ok_iff.1 h
  exact {
    name := sets_of_optional name page.name
    slug := sets_of_optional slug page.slug
    customCss := setsOrClears_of_optional css page.customCss
    theme := setsOrClears_of_optional theme page.theme
    isPublished := sets_of_optional shown page.isPublished
    id := rfl
    templateId := rfl
    customerId := rfl
    createdAt := rfl
    updatedAt := rfl }

end Request

/-! ## Templates -/

namespace TemplateChanges

def followedBy (first second : TemplateChanges) : TemplateChanges where
  name := second.name.or first.name
  description := second.description.or first.description
  thumbnail := second.thumbnail.or first.thumbnail
  html := second.html.or first.html
  css := second.css.or first.css
  isActive := second.isActive.or first.isActive

theorem apply_followedBy (first second : TemplateChanges) (template : Template)
    (before now : Micros) : (first.followedBy second).apply template now =
      second.apply (first.apply template before) now := by
  simp only [apply, followedBy, Option.getD_or]

end TemplateChanges

/-- The template after a body has changed it: each column goes by its own field, and the others stay
as they are. -/
structure Template.IsChangedBy (old : Template) (body : Fields) (now : Micros) (new : Template) :
    Prop where
  name : Request.Sets body "name" Request.name old.name new.name
  description :
    Request.SetsOrClears body "description" Request.text old.description new.description
  thumbnail :
    Request.SetsOrClears body "thumbnail" (Request.shortText 2048) old.thumbnail new.thumbnail
  html : Request.Sets body "html_content" Request.someText old.html new.html
  css : Request.Sets body "css_content" Request.text old.css new.css
  isActive : Request.Sets body "is_active" Request.truth old.isActive new.isActive
  id : new.id = old.id
  createdAt : new.createdAt = old.createdAt
  updatedAt : new.updatedAt = now

namespace Request

variable {body first second : Fields}

theorem templateChanges_eq_ok_iff {changes : TemplateChanges} :
    templateChanges body = .ok changes ↔
      optional body "name" (notNull name) = .ok changes.name ∧
      optional body "description" (nullable text) = .ok changes.description ∧
      optional body "thumbnail" (nullable (shortText 2048)) = .ok changes.thumbnail ∧
      optional body "html_content" (notNull someText) = .ok changes.html ∧
      optional body "css_content" (notNull text) = .ok changes.css ∧
      optional body "is_active" (notNull truth) = .ok changes.isActive := by
  constructor
  · intro h
    obtain ⟨_, active, h1, hactive, rfl⟩ := Checked.and_eq_ok_iff.1 h
    obtain ⟨_, css, h2, hcss, rfl⟩ := Checked.and_eq_ok_iff.1 h1
    obtain ⟨_, html, h3, hhtml, rfl⟩ := Checked.and_eq_ok_iff.1 h2
    obtain ⟨_, thumbnail, h4, hthumbnail, rfl⟩ := Checked.and_eq_ok_iff.1 h3
    obtain ⟨_, description, h5, hdescription, rfl⟩ := Checked.and_eq_ok_iff.1 h4
    obtain ⟨_, name, h6, hname, rfl⟩ := Checked.and_eq_ok_iff.1 h5
    cases h6
    exact ⟨hname, hdescription, hthumbnail, hhtml, hcss, hactive⟩
  · rintro ⟨hname, hdescription, hthumbnail, hhtml, hcss, hactive⟩
    rw [templateChanges, hname, hdescription, hthumbnail, hhtml, hcss, hactive]
    rfl

theorem templateChanges_merge (once : second.IsDistinct) {changes changes' : TemplateChanges}
    (h : templateChanges first = .ok changes) (h' : templateChanges second = .ok changes') :
    templateChanges (first.merge second) = .ok (changes.followedBy changes') := by
  obtain ⟨name, description, thumbnail, html, css, active⟩ := templateChanges_eq_ok_iff.1 h
  obtain ⟨name', description', thumbnail', html', css', active'⟩ :=
    templateChanges_eq_ok_iff.1 h'
  exact templateChanges_eq_ok_iff.2 ⟨optional_merge once name name',
    optional_merge once description description', optional_merge once thumbnail thumbnail',
    optional_merge once html html', optional_merge once css css',
    optional_merge once active active'⟩

theorem templateChanges_comm (apart : ∀ name ∈ Form.templateChanges.fieldNames,
      first.get? name = none ∨ second.get? name = none)
    {changes changes' : TemplateChanges} (h : templateChanges first = .ok changes)
    (h' : templateChanges second = .ok changes') :
    changes.followedBy changes' = changes'.followedBy changes := by
  simp only [Form.fieldNames, List.forall_mem_cons] at apart
  obtain ⟨noName, noDescription, noThumbnail, noHtml, noCss, noActive, -⟩ := apart
  obtain ⟨name, description, thumbnail, html, css, active⟩ := templateChanges_eq_ok_iff.1 h
  obtain ⟨name', description', thumbnail', html', css', active'⟩ :=
    templateChanges_eq_ok_iff.1 h'
  simp only [TemplateChanges.followedBy, or_comm_of_optional noName name name',
    or_comm_of_optional noDescription description description',
    or_comm_of_optional noThumbnail thumbnail thumbnail',
    or_comm_of_optional noHtml html html', or_comm_of_optional noCss css css',
    or_comm_of_optional noActive active active']

theorem isChangedBy_of_templateChanges {changes : TemplateChanges}
    (h : templateChanges body = .ok changes) (template : Template) (now : Micros) :
    template.IsChangedBy body now (changes.apply template now) := by
  obtain ⟨name, description, thumbnail, html, css, active⟩ := templateChanges_eq_ok_iff.1 h
  exact {
    name := sets_of_optional name template.name
    description := setsOrClears_of_optional description template.description
    thumbnail := setsOrClears_of_optional thumbnail template.thumbnail
    html := sets_of_optional html template.html
    css := sets_of_optional css template.css
    isActive := sets_of_optional active template.isActive
    id := rfl
    createdAt := rfl
    updatedAt := rfl }

end Request

end PagePress
