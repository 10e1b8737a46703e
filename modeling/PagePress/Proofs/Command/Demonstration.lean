import PagePress.Proofs.Command.Run
import PagePress.Proofs.Publishing.Change
import PagePress.Proofs.Publishing.Creation
import PagePress.Proofs.Uuid

/-!
# Setting up a demonstration

The command for a demonstration writes a customer and a template before it asks for the page, and
every write is final. So there are two outcomes only: the customer and the template are added, and
the page with its elements is added as well or not.
-/

namespace PagePress

/-! ## What is added -/

namespace Demo

/-- The customer added if nobody has the email. -/
def newCustomer (turn : Turn) (email : String) : Customer :=
  ⟨turn.customerId, customerName, email, turn.now⟩

def newTemplate (turn : Turn) : Template :=
  ⟨turn.templateId, template.name, template.description, template.thumbnail, template.html,
    template.css, template.isActive, turn.now, turn.now⟩

/-- The page added, which is public. -/
def newPage (turn : Turn) (templateId customerId : Uuid) (slug : String) : Page :=
  ⟨turn.pageId, templateId, customerId, "Demo page", slug, none, none, true, turn.now, turn.now⟩

/-- The store with what the page needs: one more template, and one more customer if nobody has the
email. -/
def prepare (store : Store) (turn : Turn) (email : String) : Store :=
  { store with
    customers :=
      if ∃ customer ∈ store.customers, customer.email = email then store.customers
      else store.customers ++ [newCustomer turn email]
    templates := store.templates ++ [newTemplate turn] }

def owner (store : Store) (turn : Turn) (email : String) : Customer :=
  (store.customerWithEmail? email).getD (newCustomer turn email)

/-- The page can be added: its slug is one, no page has it, and nothing stands where the elements
go. -/
structure IsPossible (store : Store) (turn : Turn) (slug : String) : Prop where
  isSlug : IsSlug slug
  isFree : ∀ page ∈ store.pages, page.slug ≠ slug
  places : Table.Unique Element.place
    (store.elements ++ Store.variableRows turn.now turn.pageId template.html)

/-- What the command leaves in the store, told by its exit code. -/
structure Leaves (store : Store) (turn : Turn) (slug email : String) (exitCode : Nat)
    (store' : Store) : Prop where
  /-- What was written before the page stays. -/
  ofFailure : exitCode ≠ 0 → store' = prepare store turn email
  /-- One page is added, with the elements for its template. -/
  ofSuccess : exitCode = 0 → (∀ page ∈ store.pages, page.slug ≠ slug) ∧
    ∃ template ∈ (prepare store turn email).templates,
      ∃ customer ∈ (prepare store turn email).customers,
        store' = (prepare store turn email).addPage (newPage turn template.id customer.id slug)
          (Store.variableRows turn.now turn.pageId template.html)

section Prepare

variable {store : Store} {turn : Turn} {email : String}

/-- The owner is a customer with the email, or is added as such. -/
theorem owner_cases (store : Store) (turn : Turn) (email : String) :
    (store.customerWithEmail? email = some (owner store turn email) ∧
      owner store turn email ∈ store.customers ∧
      (prepare store turn email).customers = store.customers) ∨
    (store.customerWithEmail? email = none ∧ owner store turn email = newCustomer turn email ∧
      (∀ customer ∈ store.customers, customer.email ≠ email) ∧
      (prepare store turn email).customers = store.customers ++ [newCustomer turn email]) := by
  cases found : store.customerWithEmail? email with
  | some customer =>
    have mem : customer ∈ store.customers := List.mem_of_find?_eq_some found
    have own : customer.email = email := by simpa using List.find?_some found
    have known : ∃ customer ∈ store.customers, customer.email = email := ⟨customer, mem, own⟩
    have same : owner store turn email = customer := by rw [owner, found, Option.getD_some]
    refine .inl ⟨by rw [same], same ▸ mem, ?_⟩
    rw [prepare, if_pos known]
  | none =>
    have unknown : ∀ customer ∈ store.customers, customer.email ≠ email := by
      simpa [Store.customerWithEmail?] using found
    have nobody : ¬∃ customer ∈ store.customers, customer.email = email := by simpa using unknown
    refine .inr ⟨rfl, by rw [owner, found, Option.getD_none], unknown, ?_⟩
    rw [prepare, if_neg nobody]

theorem owner_mem_prepare (store : Store) (turn : Turn) (email : String) :
    owner store turn email ∈ (prepare store turn email).customers := by
  rcases owner_cases store turn email with ⟨-, mem, same⟩ | ⟨-, same, -, added⟩
  · rwa [same]
  · rw [added, same]
    exact List.mem_append_right _ List.mem_cons_self

theorem consistent_prepare (consistent : store.Consistent) (fresh : turn.IsFresh store) :
    (prepare store turn email).Consistent := by
  have templateIds : Table.Unique (·.id) (store.templates ++ [newTemplate turn]) :=
    consistent.templateIds.append_singleton fresh.template
  rcases owner_cases store turn email with ⟨-, -, same⟩ | ⟨-, -, unknown, added⟩
  · exact { consistent with
      customerIds := same ▸ consistent.customerIds
      emails := same ▸ consistent.emails
      templateIds }
  · exact { consistent with
      customerIds := added ▸ consistent.customerIds.append_singleton fresh.customer
      emails := added ▸ consistent.emails.append_singleton unknown
      templateIds }

end Prepare

end Demo

/-! ## The request for the page -/

namespace Request

theorem slug_of_isSlug {s : String} (h : IsSlug s) : slug (.str s) = .ok s := by
  obtain ⟨⟨least, most⟩, chars⟩ := h
  have all : s.toList.all isSlugChar = true := by
    refine List.all_eq_true.mpr fun c mem => ?_
    simp only [isSlugChar, Char.isDigit, Bool.or_eq_true, Bool.and_eq_true, decide_eq_true_eq,
      beq_iff_eq, or_assoc]
    exact chars c mem
  have whole : wholeText (.str s) = .ok s := by
    simp [wholeText, looseText, bind, Except.bind, Option.getDM, pure, Except.pure]
  have isName : name (.str s) = .ok s := by
    simp only [name, whole, bind, Except.bind, atLeast, atMost, Nat.not_lt.mpr least,
      Nat.not_lt.mpr most, if_false]
  simp only [slug, isName, bind, Except.bind, allOf, all, if_true]

theorem identifier_text (id : Uuid) : identifier (.str id.text) = .ok id.written := by
  have read : (LooseText.ofString id.text).toList = id.text.toList := LooseText.toList_ofList _
  rw [identifier, read, Uuid.ofText?_text]

/-- The request for the page is accepted exactly if the slug is one. -/
theorem newPage_pageFields {templateId customerId : Uuid} {s : String} {data : NewPage} :
    newPage (Demo.pageFields templateId customerId s) = .ok data ↔
      IsSlug s ∧ data = ⟨templateId.written, customerId.written, "Demo page", s, none⟩ := by
  have htemplate : required (Demo.pageFields templateId customerId s) "template_id" identifier =
      Checked.under (.field "template_id") (identifier (.str templateId.text)) := rfl
  have hcustomer : required (Demo.pageFields templateId customerId s) "customer_id" identifier =
      Checked.under (.field "customer_id") (identifier (.str customerId.text)) := rfl
  have hname : required (Demo.pageFields templateId customerId s) "name" name =
      .ok "Demo page" := rfl
  have hslug : required (Demo.pageFields templateId customerId s) "slug" slug =
      Checked.under (.field "slug") (slug (.str s)) := rfl
  have hcss : withDefault (Demo.pageFields templateId customerId s) "custom_css" none
      (nullable text) = .ok none := rfl
  have slug_iff (t : String) : slug (.str s) = .ok t ↔ IsSlug s ∧ s = t := by
    constructor
    · intro h
      obtain rfl : s = t := LooseText.ofString_injective (Json.str.inj (eq_str_of_slug h))
      exact ⟨of_slug h, rfl⟩
    · rintro ⟨isSlug, rfl⟩
      exact slug_of_isSlug isSlug
  rw [newPage_eq_ok_iff, htemplate, hcustomer, hname, hslug, hcss, identifier_text,
    identifier_text, Checked.under_eq_ok_iff, Checked.under_eq_ok_iff, Checked.under_eq_ok_iff,
    slug_iff]
  obtain ⟨template, customer, title, given, css⟩ := data
  simp only [Except.ok.injEq, NewPage.mk.injEq]
  constructor
  · rintro ⟨rfl, rfl, rfl, ⟨isSlug, rfl⟩, rfl⟩
    exact ⟨isSlug, rfl, rfl, rfl, rfl, rfl⟩
  · rintro ⟨isSlug, rfl, rfl, rfl, rfl, rfl⟩
    exact ⟨rfl, rfl, rfl, ⟨isSlug, rfl⟩, rfl⟩

end Request

/-! ## Making the page -/

section Publish

variable {store : Store} {page : Page} {rows : List Element}

/-- A page that was just added is replaced by another with its identifier. -/
theorem Store.replacePage_addPage (new : ∀ old ∈ store.pages, old.id ≠ page.id) {row : Page}
    (own : row.id = page.id) :
    (store.addPage page rows).replacePage row = store.addPage row rows := by
  have kept : store.pages.map (fun old => if old.id = row.id then row else old) = store.pages := by
    refine (List.map_congr_left fun old mem => ?_).trans (List.map_id _)
    exact if_neg (own ▸ new old mem)
  rw [replacePage, addPage, addPage, List.map_append, List.map_singleton, if_pos own.symm, kept]

theorem Publishing.publish_addPage (consistent : (store.addPage page rows).Consistent)
    (now : Micros) :
    publish (store.addPage page rows) now page.id =
      .ok ({ page with isPublished := true, updatedAt := now },
        store.addPage { page with isPublished := true, updatedAt := now } rows) := by
  have mem : page ∈ (store.addPage page rows).pages :=
    List.mem_append_right _ List.mem_cons_self
  have free : ¬(store.addPage page rows).SlugIsHeld page.id none := by
    rintro ⟨other, -, -, same⟩
    cases same
  have new : ∀ old ∈ store.pages, old.id ≠ page.id :=
    (Table.unique_append_singleton.mp consistent.pageIds).2
  rw [publish, updatePage_of_free consistent mem free]
  exact congrArg (fun left => Except.ok (_, left)) (Store.replacePage_addPage new rfl)

end Publish

namespace Command

variable {store store' : Store} {turn : Turn} {templateId customerId : Uuid} {slug : String}
  {page : Page}

theorem demoPage_eq_ok_iff (consistent : store.Consistent)
    (fresh : ∀ page ∈ store.pages, page.id ≠ turn.pageId) :
    demoPage store turn templateId customerId slug = .ok (page, store') ↔
      IsSlug slug ∧ (∀ old ∈ store.pages, old.slug ≠ slug) ∧
        (store.customer? customerId.written).isSome = true ∧
        ∃ template, store.template? templateId.written = some template ∧
          Table.Unique Element.place
            (store.elements ++ Store.variableRows turn.now turn.pageId template.html) ∧
          page = Demo.newPage turn templateId.written customerId.written slug ∧
          store' = store.addPage page (Store.variableRows turn.now turn.pageId template.html) := by
  constructor
  · intro h
    obtain ⟨data, hdata, hrest⟩ := Outcome.bind_eq_ok_iff.mp h
    obtain ⟨⟨made, mid⟩, hcreate, hpublish⟩ := Outcome.bind_eq_ok_iff.mp hrest
    obtain ⟨isSlug, rfl⟩ := Request.newPage_pageFields.mp (Outcome.mapError_eq_ok_iff.mp hdata)
    obtain ⟨_, -, written⟩ := Publishing.of_createPage hcreate
    obtain ⟨template, found, known, free, places, rfl, rfl⟩ :=
      (Publishing.createPage_eq_ok_iff consistent).mp hcreate
    have published := Publishing.publish_addPage (consistent.insertPage fresh written) turn.now
    cases hpublish.symm.trans published
    exact ⟨isSlug, free, known, template, found, places, rfl, rfl⟩
  · rintro ⟨isSlug, free, known, template, found, places, rfl, rfl⟩
    let data : NewPage := ⟨templateId.written, customerId.written, "Demo page", slug, none⟩
    have hcreate : Publishing.createPage store turn.now turn.pageId data =
        .ok (data.row turn.now turn.pageId, store.addPage (data.row turn.now turn.pageId)
          (Store.variableRows turn.now turn.pageId template.html)) :=
      (Publishing.createPage_eq_ok_iff consistent).mpr
        ⟨template, found, known, free, places, rfl, rfl⟩
    obtain ⟨_, -, written⟩ := Publishing.of_createPage hcreate
    refine Outcome.bind_eq_ok_iff.mpr ⟨_,
      Outcome.mapError_eq_ok_iff.mpr (Request.newPage_pageFields.mpr ⟨isSlug, rfl⟩), ?_⟩
    refine Outcome.bind_eq_ok_iff.mpr ⟨_, hcreate, ?_⟩
    exact Publishing.publish_addPage (consistent.insertPage fresh written) turn.now

/-! ## The whole command -/

variable {email : String}

theorem demoCustomer_eq (store : Store) (turn : Turn) (email : String) :
    demoCustomer store turn email = some (Demo.owner store turn email,
      { store with customers := (Demo.prepare store turn email).customers }) := by
  rcases Demo.owner_cases store turn email with ⟨found, -, same⟩ | ⟨found, own, unknown, added⟩
  · rw [demoCustomer, found, same]
  · rw [demoCustomer, found, own, added]
    exact Store.insertCustomer_eq_some_iff.mpr ⟨rfl, rfl, rfl, unknown, rfl⟩

/-- The command succeeds with the page, or it leaves what the page would have needed. -/
theorem seed_cases (store : Store) (turn : Turn) (slug email : String) :
    (∃ page store', demoPage (Demo.prepare store turn email) turn turn.templateId
        (Demo.owner store turn email).id slug = .ok (page, store') ∧
      (seed store turn slug email).1.exitCode = 0 ∧ (seed store turn slug email).2 = store') ∨
    ((∀ made, demoPage (Demo.prepare store turn email) turn turn.templateId
        (Demo.owner store turn email).id slug ≠ .ok made) ∧
      (seed store turn slug email).1.exitCode = 1 ∧
      (seed store turn slug email).2 = Demo.prepare store turn email) := by
  have template : Publishing.createTemplate
      { store with customers := (Demo.prepare store turn email).customers } turn.now
        turn.templateId Demo.template = (Demo.newTemplate turn, Demo.prepare store turn email) :=
    rfl
  have id : (Demo.newTemplate turn).id = turn.templateId := rfl
  simp only [seed, demoCustomer_eq, template, id]
  cases made : demoPage (Demo.prepare store turn email) turn turn.templateId
      (Demo.owner store turn email).id slug with
  | ok done =>
    obtain ⟨page, store'⟩ := done
    exact .inl ⟨page, store', rfl, rfl, rfl⟩
  | error failure =>
    refine .inr ⟨nofun, ?_⟩
    cases failure <;> exact ⟨rfl, rfl⟩

section Leaves

variable (consistent : store.Consistent) (fresh : turn.IsFresh store)
include consistent fresh

theorem leaves_seed (slug email : String) :
    Demo.Leaves store turn slug email (seed store turn slug email).1.exitCode
      (seed store turn slug email).2 := by
  rcases seed_cases store turn slug email with ⟨page, store', made, code, left⟩ | ⟨-, code, left⟩
  · refine ⟨fun failed => absurd code failed, fun _ => ?_⟩
    obtain ⟨-, free, known, template, found, -, rfl, rfl⟩ :=
      (demoPage_eq_ok_iff (Demo.consistent_prepare consistent fresh) fresh.page).mp made
    obtain ⟨customer, hcustomer⟩ := Option.isSome_iff_exists.mp known
    obtain ⟨memTemplate, ownTemplate⟩ := Store.template?_eq_some found
    obtain ⟨memCustomer, ownCustomer⟩ := Store.customer?_eq_some hcustomer
    refine ⟨free, template, memTemplate, customer, memCustomer, ?_⟩
    rw [left, ownTemplate, ownCustomer]
  · refine ⟨fun _ => left, fun succeeded => ?_⟩
    rw [code] at succeeded
    cases succeeded

section Written

variable (template : turn.templateId.written = turn.templateId)
  (customer : (Demo.owner store turn email).id.written = (Demo.owner store turn email).id)
include template customer

/-- With identifiers that can be written, the page is made from the template for the customer. -/
theorem demoPage_of_written :
    demoPage (Demo.prepare store turn email) turn turn.templateId
        (Demo.owner store turn email).id slug = .ok (page, store') ↔
      Demo.IsPossible store turn slug ∧
        page = Demo.newPage turn turn.templateId (Demo.owner store turn email).id slug ∧
        store' = (Demo.prepare store turn email).addPage page
          (Store.variableRows turn.now turn.pageId Demo.template.html) := by
  have consistent' : (Demo.prepare store turn email).Consistent :=
    Demo.consistent_prepare consistent fresh
  have found : (Demo.prepare store turn email).template? turn.templateId =
      some (Demo.newTemplate turn) :=
    consistent'.template?_eq_some_iff.mpr ⟨List.mem_append_right _ List.mem_cons_self, rfl⟩
  have known : ((Demo.prepare store turn email).customer?
      (Demo.owner store turn email).id).isSome = true :=
    List.find?_isSome.mpr ⟨_, Demo.owner_mem_prepare store turn email, by simp⟩
  rw [demoPage_eq_ok_iff consistent' fresh.page, template, customer, found]
  constructor
  · rintro ⟨isSlug, free, -, _, same, places, hpage, left⟩
    cases same
    exact ⟨⟨isSlug, free, places⟩, hpage, left⟩
  · rintro ⟨⟨isSlug, free, places⟩, hpage, left⟩
    exact ⟨isSlug, free, known, _, rfl, places, hpage, left⟩

/-- The command succeeds whenever its page can be added. -/
theorem seed_of_written :
    ((seed store turn slug email).1.exitCode = 0 ↔ Demo.IsPossible store turn slug) ∧
      ((seed store turn slug email).1.exitCode = 0 →
        (seed store turn slug email).2 = (Demo.prepare store turn email).addPage
          (Demo.newPage turn turn.templateId (Demo.owner store turn email).id slug)
          (Store.variableRows turn.now turn.pageId Demo.template.html)) := by
  rcases seed_cases store turn slug email with ⟨page, mid, made, code, left⟩ | ⟨no, code, left⟩
  · obtain ⟨possible, rfl, rfl⟩ :=
      (demoPage_of_written consistent fresh template customer).mp made
    exact ⟨iff_of_true code possible, fun _ => left⟩
  · have failed : (seed store turn slug email).1.exitCode ≠ 0 := by omega
    refine ⟨iff_of_false failed fun possible => ?_, fun succeeded => absurd succeeded failed⟩
    exact no _ ((demoPage_of_written consistent fresh template customer).mpr ⟨possible, rfl, rfl⟩)

end Written

end Leaves

end Command

end PagePress
