import PagePress.Http.Reading
import PagePress.Proofs.Outcome
import PagePress.Publishing.Submission

/-!
# Valid operations

What the check of a request's data guarantees. An operation is *valid* if the data it stores keeps
the rules for names, slugs and markup; operations that store data as it is given are not. Whatever
way an operation takes into the service by a check, it is valid.
-/

namespace PagePress

/-- A name has 1 to 255 characters. -/
def IsName (s : String) : Prop := 1 ≤ s.length ∧ s.length ≤ 255

/-- A slug is a name of lower-case ASCII letters, digits and hyphens. -/
def IsSlug (s : String) : Prop :=
  IsName s ∧ ∀ c ∈ s.toList, ('a' ≤ c ∧ c ≤ 'z') ∨ ('0' ≤ c ∧ c ≤ '9') ∨ c = '-'

structure NewPage.IsValid (data : NewPage) : Prop where
  name : IsName data.name
  slug : IsSlug data.slug

structure PageChanges.IsValid (changes : PageChanges) : Prop where
  name : ∀ s ∈ changes.name, IsName s
  slug : ∀ s ∈ changes.slug, IsSlug s

structure NewTemplate.IsValid (data : NewTemplate) : Prop where
  name : IsName data.name
  html : data.html ≠ ""

structure TemplateChanges.IsValid (changes : TemplateChanges) : Prop where
  name : ∀ s ∈ changes.name, IsName s
  html : ∀ s ∈ changes.html, s ≠ ""

/-- Whether all that the operation stores keeps the rules. -/
def Operation.IsValid : Operation → Prop
  | createTemplate data => data.IsValid
  | updateTemplate _ changes => changes.IsValid
  | createPage data => data.IsValid
  | updatePage _ changes => changes.IsValid
  | op => op.isRaw = false

/-! ## Single values -/

theorem Checked.and_eq_ok_iff {α β : Type} {f : Checked (α → β)} {x : Checked α} {b : β} :
    f.and x = .ok b ↔ ∃ g a, f = .ok g ∧ x = .ok a ∧ g a = b := by
  cases f <;> cases x <;> simp [Checked.and]

theorem Checked.under_eq_ok_iff {α : Type} {step : Step} {x : Checked α} {a : α} :
    Checked.under step x = .ok a ↔ x = .ok a :=
  Outcome.mapError_eq_ok_iff

namespace Request

theorem of_atLeast {least : Nat} {s t : String} (h : atLeast least s = .ok t) :
    t = s ∧ least ≤ t.length := by
  unfold atLeast at h
  split at h
  · cases h
  · cases h
    exact ⟨rfl, by omega⟩

theorem of_atMost {most : Nat} {s t : String} (h : atMost most s = .ok t) :
    t = s ∧ t.length ≤ most := by
  unfold atMost at h
  split at h
  · cases h
  · cases h
    exact ⟨rfl, by omega⟩

theorem of_name {j : Json} {s : String} (h : name j = .ok s) : IsName s := by
  obtain ⟨t, htext, hmost⟩ := Outcome.bind_eq_ok_iff.1 h
  obtain ⟨u, -, hleast⟩ := Outcome.bind_eq_ok_iff.1 htext
  obtain ⟨rfl, most⟩ := of_atMost hmost
  exact ⟨(of_atLeast hleast).2, most⟩

theorem of_isSlugChar {c : Char} (h : isSlugChar c = true) :
    ('a' ≤ c ∧ c ≤ 'z') ∨ ('0' ≤ c ∧ c ≤ '9') ∨ c = '-' := by
  simp only [isSlugChar, Char.isDigit, Bool.or_eq_true, Bool.and_eq_true, decide_eq_true_eq,
    beq_iff_eq] at h
  rcases h with (letter | digit) | hyphen
  · exact .inl letter
  · exact .inr (.inl digit)
  · exact .inr (.inr hyphen)

theorem of_slug {j : Json} {s : String} (h : slug j = .ok s) : IsSlug s := by
  obtain ⟨t, hname, chars⟩ := Outcome.bind_eq_ok_iff.1 h
  unfold allOf at chars
  split at chars
  · rename_i all
    cases chars
    exact ⟨of_name hname, fun c mem => of_isSlugChar (List.all_eq_true.mp all c mem)⟩
  · cases chars

theorem of_someText {j : Json} {s : String} (h : someText j = .ok s) : s ≠ "" := by
  obtain ⟨t, -, least⟩ := Outcome.bind_eq_ok_iff.1 h
  have := (of_atLeast least).2
  rintro rfl
  simp at this

theorem of_elementKey {j : Json} {s : String} (h : elementKey j = .ok s) : IsName s := by
  obtain ⟨t, hname, chars⟩ := Outcome.bind_eq_ok_iff.1 h
  unfold allOf at chars
  split at chars
  · cases chars
    exact of_name hname
  · cases chars

theorem of_shortText {most : Nat} {j : Json} {s : String} (h : shortText most j = .ok s) :
    s.length ≤ most := by
  obtain ⟨t, -, hmost⟩ := Outcome.bind_eq_ok_iff.1 h
  exact (of_atMost hmost).2

/-! ## Fields -/

section Fields

variable {α : Type} {fields : Fields} {field : String} {read : Json → Checked α} {P : α → Prop}

theorem of_notNull {j : Json} {a : α} (h : notNull read j = .ok a) : read j = .ok a := by
  cases j with
  | null => cases h
  | _ => exact h

theorem of_nullable (sound : ∀ {j a}, read j = .ok a → P a) {j : Json} {given : Option α}
    (h : nullable read j = .ok given) : ∀ a ∈ given, P a := by
  unfold nullable at h
  split at h
  · cases h
    rintro a ⟨⟩
  · obtain ⟨b, hb, rfl⟩ := Outcome.map_eq_ok_iff.1 h
    rintro a ⟨⟩
    exact sound hb

/-- A required field has what its reader guarantees. -/
theorem of_required (sound : ∀ {j a}, read j = .ok a → P a) {a : α}
    (h : required fields field read = .ok a) : P a := by
  have h := Checked.under_eq_ok_iff.1 h
  split at h
  · exact sound h
  · cases h

/-- A field that may be left out has what its reader guarantees, if it is given. -/
theorem of_optional (sound : ∀ {j a}, read j = .ok a → P a) {given : Option α}
    (h : optional fields field read = .ok given) : ∀ a ∈ given, P a := by
  have h := Checked.under_eq_ok_iff.1 h
  split at h
  · obtain ⟨b, hb, rfl⟩ := Outcome.map_eq_ok_iff.1 h
    rintro a ⟨⟩
    exact sound hb
  · cases h
    rintro a ⟨⟩

/-- A field with a value of its own has what its reader and this value guarantee. -/
theorem of_withDefault (sound : ∀ {j a}, read j = .ok a → P a) {value : α} (own : P value) {a : α}
    (h : withDefault fields field value read = .ok a) : P a := by
  obtain ⟨given, hgiven, rfl⟩ := Outcome.map_eq_ok_iff.1 h
  cases given with
  | none => exact own
  | some b => exact of_optional sound hgiven b rfl

end Fields

/-! ## Whole requests -/

variable {fields : Fields}

theorem newPage_eq_ok_iff {data : NewPage} :
    newPage fields = .ok data ↔
      required fields "template_id" identifier = .ok data.templateId ∧
        required fields "customer_id" identifier = .ok data.customerId ∧
        required fields "name" name = .ok data.name ∧ required fields "slug" slug = .ok data.slug ∧
        withDefault fields "custom_css" none (nullable text) = .ok data.customCss := by
  constructor
  · intro h
    obtain ⟨_, css, h1, hcss, rfl⟩ := Checked.and_eq_ok_iff.1 h
    obtain ⟨_, slug, h2, hslug, rfl⟩ := Checked.and_eq_ok_iff.1 h1
    obtain ⟨_, name, h3, hname, rfl⟩ := Checked.and_eq_ok_iff.1 h2
    obtain ⟨_, customer, h4, hcustomer, rfl⟩ := Checked.and_eq_ok_iff.1 h3
    obtain ⟨_, template, h5, htemplate, rfl⟩ := Checked.and_eq_ok_iff.1 h4
    cases h5
    exact ⟨htemplate, hcustomer, hname, hslug, hcss⟩
  · rintro ⟨htemplate, hcustomer, hname, hslug, hcss⟩
    rw [newPage, htemplate, hcustomer, hname, hslug, hcss]
    rfl

theorem of_newPage {data : NewPage} (h : newPage fields = .ok data) : data.IsValid := by
  obtain ⟨-, -, hname, hslug, -⟩ := newPage_eq_ok_iff.1 h
  exact ⟨of_required of_name hname, of_required of_slug hslug⟩

theorem of_pageChanges {changes : PageChanges} (h : pageChanges fields = .ok changes) :
    changes.IsValid := by
  obtain ⟨_, shown, h1, -, rfl⟩ := Checked.and_eq_ok_iff.1 h
  obtain ⟨_, theme, h2, -, rfl⟩ := Checked.and_eq_ok_iff.1 h1
  obtain ⟨_, css, h3, -, rfl⟩ := Checked.and_eq_ok_iff.1 h2
  obtain ⟨_, slug, h4, hslug, rfl⟩ := Checked.and_eq_ok_iff.1 h3
  obtain ⟨_, name, h5, hname, rfl⟩ := Checked.and_eq_ok_iff.1 h4
  cases h5
  exact ⟨of_optional (fun h => of_name (of_notNull h)) hname,
    of_optional (fun h => of_slug (of_notNull h)) hslug⟩

theorem of_newTemplate {data : NewTemplate} (h : newTemplate fields = .ok data) :
    data.IsValid := by
  obtain ⟨_, active, h1, -, rfl⟩ := Checked.and_eq_ok_iff.1 h
  obtain ⟨_, css, h2, -, rfl⟩ := Checked.and_eq_ok_iff.1 h1
  obtain ⟨_, html, h3, hhtml, rfl⟩ := Checked.and_eq_ok_iff.1 h2
  obtain ⟨_, thumbnail, h4, -, rfl⟩ := Checked.and_eq_ok_iff.1 h3
  obtain ⟨_, description, h5, -, rfl⟩ := Checked.and_eq_ok_iff.1 h4
  obtain ⟨_, name, h6, hname, rfl⟩ := Checked.and_eq_ok_iff.1 h5
  cases h6
  exact ⟨of_required of_name hname, of_required of_someText hhtml⟩

theorem of_templateChanges {changes : TemplateChanges} (h : templateChanges fields = .ok changes) :
    changes.IsValid := by
  obtain ⟨_, active, h1, -, rfl⟩ := Checked.and_eq_ok_iff.1 h
  obtain ⟨_, css, h2, -, rfl⟩ := Checked.and_eq_ok_iff.1 h1
  obtain ⟨_, html, h3, hhtml, rfl⟩ := Checked.and_eq_ok_iff.1 h2
  obtain ⟨_, thumbnail, h4, -, rfl⟩ := Checked.and_eq_ok_iff.1 h3
  obtain ⟨_, description, h5, -, rfl⟩ := Checked.and_eq_ok_iff.1 h4
  obtain ⟨_, name, h6, hname, rfl⟩ := Checked.and_eq_ok_iff.1 h5
  cases h6
  exact ⟨of_optional (fun h => of_name (of_notNull h)) hname,
    of_optional (fun h => of_someText (of_notNull h)) hhtml⟩

/-- The key and the label of a new element are kept short. -/
theorem of_newElement {data : NewElement} (h : newElement fields = .ok data) :
    IsName data.key ∧ ∀ label ∈ data.label, label.length ≤ 255 := by
  obtain ⟨_, label, h1, hlabel, rfl⟩ := Checked.and_eq_ok_iff.1 h
  obtain ⟨_, content, h2, -, rfl⟩ := Checked.and_eq_ok_iff.1 h1
  obtain ⟨_, kind, h3, -, rfl⟩ := Checked.and_eq_ok_iff.1 h2
  obtain ⟨_, key, h4, hkey, rfl⟩ := Checked.and_eq_ok_iff.1 h3
  cases h4
  refine ⟨of_required of_elementKey hkey, ?_⟩
  exact of_withDefault (P := fun label => ∀ s ∈ label, s.length ≤ 255) (of_nullable of_shortText)
    (by simp) hlabel

end Request

/-- What is read of an object is read of its fields. -/
theorem Form.of_read {α : Type} {P : α → Prop} {form : Form} {read : Fields → Checked α}
    (sound : ∀ {fields a}, read fields = .ok a → P a) {j : Json} {a : α}
    (h : form.read read j = .ok a) : P a := by
  cases j with
  | obj given => exact sound h
  | _ => cases h

/-- Submitted data becomes part of valid operations only. -/
theorem Submission.isValid_of_read {submission : Submission} {data : Json} {op : Operation}
    (h : submission.read data = .ok op) : op.IsValid := by
  cases submission with
  | newTemplate =>
    obtain ⟨_, hread, rfl⟩ := Outcome.map_eq_ok_iff.1 h
    exact Form.of_read Request.of_newTemplate hread
  | templateChanges id =>
    obtain ⟨_, hread, rfl⟩ := Outcome.map_eq_ok_iff.1 h
    exact Form.of_read Request.of_templateChanges hread
  | newPage =>
    obtain ⟨_, hread, rfl⟩ := Outcome.map_eq_ok_iff.1 h
    exact Form.of_read Request.of_newPage hread
  | pageChanges id =>
    obtain ⟨_, hread, rfl⟩ := Outcome.map_eq_ok_iff.1 h
    exact Form.of_read Request.of_pageChanges hread
  | newElement pageId =>
    obtain ⟨_, hread, rfl⟩ := Outcome.map_eq_ok_iff.1 h
    rfl

/-- Nothing is submitted in order to render. -/
theorem Submission.ne_render_of_read {submission : Submission} {data : Json} {op : Operation}
    (h : submission.read data = .ok op) (slug : String) : op ≠ .render slug := by
  cases submission <;>
  · obtain ⟨_, -, rfl⟩ := Outcome.map_eq_ok_iff.1 h
    exact Operation.noConfusion

/-! ## Requests to the server -/

namespace Payload

variable {α : Type} {form : Form} {fields : Fields → Checked α}

theorem of_readValue {value : Option Json} {body : Body α}
    (h : readValue form fields value = .ok body) {a : α} (ha : body.data = .ok a) :
    ∃ given, fields given = .ok a := by
  cases value with
  | none =>
    cases h
    cases ha
  | some j =>
    simp only [readValue] at h
    split at h
    · cases h
      split at ha
      · exact ⟨_, ha⟩
      · cases ha
    · split at h
      · cases h
        split at ha
        · exact ⟨_, ha⟩
        · cases ha
      · cases h

/-- What is read from a body is read of its fields. -/
theorem of_read {P : α → Prop} (sound : ∀ {given a}, fields given = .ok a → P a)
    {payload : Payload} {body : Body α} (h : payload.read form fields = .ok body) {a : α}
    (ha : body.data = .ok a) : P a := by
  obtain ⟨value, -, hvalue⟩ := Outcome.bind_eq_ok_iff.1 h
  obtain ⟨inner, hinner, hbody⟩ := Outcome.bind_eq_ok_iff.1 hvalue
  cases hbody
  obtain ⟨given, hgiven⟩ := of_readValue hinner (Checked.under_eq_ok_iff.1 ha)
  exact sound hgiven

end Payload

namespace HttpRequest

variable {α : Type} {result : Call} {Q : Operation → Prop}

theorem of_call {operation : Checked Operation} (h : call operation = .ok (some result))
    (holds : ∀ op, operation = .ok op → Q op) : Q result.operation := by
  obtain ⟨op, hop, hresult⟩ := Outcome.map_eq_ok_iff.1 h
  cases hresult
  exact holds op (Outcome.mapError_eq_ok_iff.1 hop)

theorem of_callWith {operation : Checked (α → Operation)} {P : α → Prop} {form : Form}
    {fields : Fields → Checked α} {payload : Payload}
    (h : (payload.read form fields >>= fun body => callWith operation body) = .ok (some result))
    (sound : ∀ {given a}, fields given = .ok a → P a)
    (holds : ∀ f, operation = .ok f → ∀ a, P a → Q (f a)) : Q result.operation := by
  obtain ⟨body, hbody, hcall⟩ := Outcome.bind_eq_ok_iff.1 h
  obtain ⟨op, hop, hresult⟩ := Outcome.map_eq_ok_iff.1 hcall
  cases hresult
  obtain ⟨f, a, hf, ha, rfl⟩ := Checked.and_eq_ok_iff.1 (Outcome.mapError_eq_ok_iff.1 hop)
  exact holds f hf a (Payload.of_read sound hbody ha)

/-- A request calls for valid operations only. -/
theorem isValid_of_call? {request : HttpRequest} {endpoint : Endpoint}
    (h : request.call? endpoint = .ok (some result)) : result.operation.IsValid := by
  cases endpoint with
  | listTemplates | getPageBySlug | showPage =>
    refine of_call h fun op hop => ?_
    cases hop
    rfl
  | getTemplate | previewTemplate | deleteTemplate | listPages | getPage | deletePage | publish
  | unpublish | getElements | deleteElement =>
    refine of_call h fun op hop => ?_
    obtain ⟨_, -, rfl⟩ := Outcome.map_eq_ok_iff.1 hop
    rfl
  | createTemplate =>
    refine of_callWith h Request.of_newTemplate fun f hf data valid => ?_
    cases hf
    exact valid
  | createPage =>
    refine of_callWith h Request.of_newPage fun f hf data valid => ?_
    cases hf
    exact valid
  | updateTemplate id =>
    refine of_callWith h Request.of_templateChanges fun f hf changes valid => ?_
    obtain ⟨_, -, rfl⟩ := Outcome.map_eq_ok_iff.1 hf
    exact valid
  | updatePage id =>
    refine of_callWith h Request.of_pageChanges fun f hf changes valid => ?_
    obtain ⟨_, -, rfl⟩ := Outcome.map_eq_ok_iff.1 hf
    exact valid
  | createElement | setContent =>
    refine of_callWith (P := fun _ => True) h (fun _ => trivial) fun f hf data _ => ?_
    obtain ⟨_, -, rfl⟩ := Outcome.map_eq_ok_iff.1 hf
    rfl
  | health | handbook | description => cases h

/-- A request renders only where visitors look at a page. -/
theorem endpoint_of_render {request : HttpRequest} {endpoint : Endpoint} {slug : String}
    (h : request.call? endpoint = .ok (some result)) (renders : result.operation = .render slug) :
    endpoint = .showPage slug := by
  cases endpoint with
  | showPage slug' =>
    have same : result.operation = .render slug' := by
      refine of_call (Q := (· = .render slug')) h fun op hop => ?_
      cases hop
      rfl
    rw [Operation.render.inj (same.symm.trans renders)]
  | listTemplates | getPageBySlug =>
    refine absurd renders (of_call (Q := (· ≠ .render slug)) h fun op hop => ?_)
    cases hop
    exact Operation.noConfusion
  | getTemplate | previewTemplate | deleteTemplate | listPages | getPage | deletePage | publish
  | unpublish | getElements | deleteElement =>
    refine absurd renders (of_call (Q := (· ≠ .render slug)) h fun op hop => ?_)
    obtain ⟨_, -, rfl⟩ := Outcome.map_eq_ok_iff.1 hop
    exact Operation.noConfusion
  | createTemplate | createPage =>
    refine absurd renders (of_callWith (Q := (· ≠ .render slug)) (P := fun _ => True) h
      (fun _ => trivial) fun f hf a _ => ?_)
    cases hf
    exact Operation.noConfusion
  | updateTemplate | updatePage | createElement | setContent =>
    refine absurd renders (of_callWith (Q := (· ≠ .render slug)) (P := fun _ => True) h
      (fun _ => trivial) fun f hf a _ => ?_)
    obtain ⟨_, -, rfl⟩ := Outcome.map_eq_ok_iff.1 hf
    exact Operation.noConfusion
  | health | handbook | description => cases h

end HttpRequest

end PagePress
