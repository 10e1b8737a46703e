import PagePress.Proofs.Publishing.Effect
import PagePress.Proofs.Request.Validity
import PagePress.Proofs.Store.Consistency

/-!
# Integrity

Operations keep the store consistent, as long as what they create gets an identifier of its own.
Valid operations keep more: every reference leads to a row, though the storage does not see to it,
and every name, slug and markup keeps its rule.
-/

namespace PagePress

namespace Store

/-- Every reference leads to a row. -/
structure Linked (store : Store) : Prop where
  templates : store.pages.map (·.templateId) ⊆ store.templates.map (·.id)
  customers : store.pages.map (·.customerId) ⊆ store.customers.map (·.id)
  pages : store.elements.map (·.pageId) ⊆ store.pages.map (·.id)

/-- Every name, every slug and every markup keeps its rule. -/
structure WellFormed (store : Store) : Prop where
  slugs : ∀ page ∈ store.pages, IsSlug page.slug
  pageNames : ∀ page ∈ store.pages, IsName page.name
  templateNames : ∀ template ∈ store.templates, IsName template.name
  markup : ∀ template ∈ store.templates, template.html ≠ ""

theorem Linked.empty : Linked {} := ⟨by simp, by simp, by simp⟩

theorem WellFormed.empty : WellFormed {} := ⟨by simp, by simp, by simp, by simp⟩

namespace Linked

variable {store : Store}

theorem insertTemplate (h : store.Linked) (template : Template) :
    (store.insertTemplate template).Linked := by
  refine { h with templates := List.Subset.trans h.templates ?_ }
  simp [Store.insertTemplate]

theorem replaceTemplate (h : store.Linked) (template : Template) :
    (store.replaceTemplate template).Linked := by
  have ids : (store.replaceTemplate template).templates.map (·.id) = store.templates.map (·.id) :=
    Table.map_replace fun _ _ same => same.symm
  exact { h with templates := ids ▸ h.templates }

/-- Only a template that no page uses can go. -/
theorem eraseTemplate (h : store.Linked) {id : Uuid}
    (unused : ∀ page ∈ store.pages, page.templateId ≠ id) : (store.eraseTemplate id).Linked := by
  refine { h with templates := fun used mem => ?_ }
  obtain ⟨page, hpage, rfl⟩ := List.mem_map.mp mem
  obtain ⟨template, htemplate, same⟩ := List.mem_map.mp (h.templates mem)
  refine List.mem_map.mpr ⟨template, List.mem_filter.mpr ⟨htemplate, ?_⟩, same⟩
  have := unused page hpage
  simpa [same] using this

theorem insertPage (h : store.Linked) {page : Page} {rows : List Element}
    (template : page.templateId ∈ store.templates.map (·.id))
    (customer : page.customerId ∈ store.customers.map (·.id))
    (own : ∀ e ∈ rows, e.pageId = page.id) :
    { store with pages := store.pages ++ [page], elements := store.elements ++ rows }.Linked where
  templates := by simpa using ⟨h.templates, by simpa using template⟩
  customers := by simpa using ⟨h.customers, by simpa using customer⟩
  pages := by
    intro id mem
    rcases List.mem_append.mp (List.map_append ▸ mem) with old | new
    · simpa using .inl (by simpa using h.pages old)
    · obtain ⟨e, he, rfl⟩ := List.mem_map.mp new
      simp [own e he]

theorem replacePage (h : store.Linked) {old page : Page} (found : old ∈ store.pages)
    (template : page.templateId = old.templateId) (customer : page.customerId = old.customerId) :
    (store.replacePage page).Linked where
  templates := by
    intro id mem
    obtain ⟨row, hrow, rfl⟩ := List.mem_map.mp mem
    rcases Table.mem_of_mem_replace hrow with rfl | hrow
    · exact template ▸ h.templates (List.mem_map_of_mem found)
    · exact h.templates (List.mem_map_of_mem hrow)
  customers := by
    intro id mem
    obtain ⟨row, hrow, rfl⟩ := List.mem_map.mp mem
    rcases Table.mem_of_mem_replace hrow with rfl | hrow
    · exact customer ▸ h.customers (List.mem_map_of_mem found)
    · exact h.customers (List.mem_map_of_mem hrow)
  pages := by
    have ids : (store.replacePage page).pages.map (·.id) = store.pages.map (·.id) :=
      Table.map_replace fun _ _ same => same.symm
    exact ids ▸ h.pages

/-- The elements of a page go with it. -/
theorem erasePage (h : store.Linked) (id : Uuid) : (store.erasePage id).Linked where
  templates := List.Subset.trans (List.map_subset _ (List.filter_subset_self _)) h.templates
  customers := List.Subset.trans (List.map_subset _ (List.filter_subset_self _)) h.customers
  pages := by
    intro pageId mem
    obtain ⟨e, he, rfl⟩ := List.mem_map.mp mem
    obtain ⟨he, other⟩ := List.mem_filter.mp he
    obtain ⟨page, hpage, same⟩ := List.mem_map.mp (h.pages (List.mem_map_of_mem he))
    exact List.mem_map.mpr ⟨page, List.mem_filter.mpr ⟨hpage, by simpa [same] using other⟩, same⟩

theorem insertElement (h : store.Linked) {e : Element} (own : e.pageId ∈ store.pages.map (·.id)) :
    { store with elements := store.elements ++ [e] }.Linked :=
  { h with pages := by simpa using ⟨h.pages, by simpa using own⟩ }

/-- A change of elements that brings none to another page keeps the references. -/
theorem changeElements (h : store.Linked) {rows : List Element}
    (own : ∀ e ∈ rows, e.pageId ∈ store.elements.map (·.pageId)) :
    { store with elements := rows }.Linked := by
  refine { h with pages := fun id mem => ?_ }
  obtain ⟨e, he, rfl⟩ := List.mem_map.mp mem
  exact h.pages (own e he)

end Linked

namespace WellFormed

variable {store : Store}

theorem insertTemplate (h : store.WellFormed) {template : Template} (name : IsName template.name)
    (markup : template.html ≠ "") : (store.insertTemplate template).WellFormed where
  slugs := h.slugs
  pageNames := h.pageNames
  templateNames := List.forall_mem_append.mpr ⟨h.templateNames, by simpa using name⟩
  markup := List.forall_mem_append.mpr ⟨h.markup, by simpa using markup⟩

theorem replaceTemplate (h : store.WellFormed) {template : Template} (name : IsName template.name)
    (markup : template.html ≠ "") : (store.replaceTemplate template).WellFormed where
  slugs := h.slugs
  pageNames := h.pageNames
  templateNames row mem := by
    rcases Table.mem_of_mem_replace mem with rfl | mem
    · exact name
    · exact h.templateNames row mem
  markup row mem := by
    rcases Table.mem_of_mem_replace mem with rfl | mem
    · exact markup
    · exact h.markup row mem

theorem insertPage (h : store.WellFormed) {page : Page} (slug : IsSlug page.slug)
    (name : IsName page.name) (rows : List Element) :
    { store with pages := store.pages ++ [page], elements := rows }.WellFormed where
  slugs := List.forall_mem_append.mpr ⟨h.slugs, by simpa using slug⟩
  pageNames := List.forall_mem_append.mpr ⟨h.pageNames, by simpa using name⟩
  templateNames := h.templateNames
  markup := h.markup

theorem replacePage (h : store.WellFormed) {page : Page} (slug : IsSlug page.slug)
    (name : IsName page.name) : (store.replacePage page).WellFormed where
  slugs row mem := by
    rcases Table.mem_of_mem_replace mem with rfl | mem
    · exact slug
    · exact h.slugs row mem
  pageNames row mem := by
    rcases Table.mem_of_mem_replace mem with rfl | mem
    · exact name
    · exact h.pageNames row mem
  templateNames := h.templateNames
  markup := h.markup

end WellFormed

end Store

/-- New values keep the rules if the old ones do and the changes do. -/
theorem TemplateChanges.IsValid.apply {changes : TemplateChanges} (valid : changes.IsValid)
    {template : Template} (name : IsName template.name) (markup : template.html ≠ "")
    (now : Micros) :
    IsName (changes.apply template now).name ∧ (changes.apply template now).html ≠ "" := by
  constructor
  · cases hname : changes.name with
    | none => simpa [TemplateChanges.apply, hname] using name
    | some s => simpa [TemplateChanges.apply, hname] using valid.name s hname
  · cases hhtml : changes.html with
    | none => simpa [TemplateChanges.apply, hhtml] using markup
    | some s => simpa [TemplateChanges.apply, hhtml] using valid.html s hhtml

structure PageValues.IsValid (values : PageValues) : Prop where
  name : ∀ s, values.name = some (some s) → IsName s
  slug : ∀ s, values.slug = some (some s) → IsSlug s

theorem PageChanges.IsValid.values {changes : PageChanges} (valid : changes.IsValid) :
    changes.values.IsValid where
  name s h := valid.name s (by simpa [PageChanges.values] using h)
  slug s h := valid.slug s (by simpa [PageChanges.values] using h)

theorem Operation.IsValid.pageValues {op : Operation} (valid : op.IsValid) {id : Uuid}
    {values : PageValues} (given : op.pageValues? = some (id, values)) : values.IsValid := by
  cases op with
  | updatePage id changes =>
    cases given
    exact valid.values
  | publish | unpublish =>
    cases given
    exact PageChanges.IsValid.values ⟨by simp, by simp⟩
  | setPageValues => cases valid
  | _ => cases given

theorem PageValues.IsValid.row? {values : PageValues} (valid : values.IsValid) {now : Micros}
    {old page : Page} (slug : IsSlug old.slug) (name : IsName old.name)
    (h : values.row? now old = some page) : IsSlug page.slug ∧ IsName page.name := by
  obtain ⟨hname, hslug, -, -⟩ := PageValues.row?_eq_some_iff.1 h
  constructor
  · cases given : values.slug with
    | none =>
      rw [given] at hslug
      exact Option.some.inj hslug ▸ slug
    | some s =>
      rw [given] at hslug
      exact valid.slug _ (given.trans (congrArg some hslug))
  · cases given : values.name with
    | none =>
      rw [given] at hname
      exact Option.some.inj hname ▸ name
    | some s =>
      rw [given] at hname
      exact valid.name _ (given.trans (congrArg some hname))

/-- Whether what the operation creates gets an identifier that nothing of its sort has. -/
def Turn.IsFreshFor (turn : Turn) (store : Store) : Operation → Prop
  | .createCustomer _ _ => ∀ customer ∈ store.customers, customer.id ≠ turn.customerId
  | .createTemplate _ => ∀ template ∈ store.templates, template.id ≠ turn.templateId
  | .createPage _ | .insertPage _ => ∀ page ∈ store.pages, page.id ≠ turn.pageId
  | _ => True

namespace Effect

variable {turn : Turn} {store store' : Store} {op : Operation}

/-- Every operation keeps the store consistent. -/
theorem consistent (effect : Effect turn store op store') (fresh : turn.IsFreshFor store op)
    (h : store.Consistent) : store'.Consistent := by
  cases effect with
  | nothing => exact h
  | customerAdded written => exact h.insertCustomer fresh written
  | templateAdded => exact h.insertTemplate fresh
  | templateChanged => exact h.replaceTemplate _
  | templateErased => exact h.eraseTemplate _
  | pageAdded _ written | rawPageAdded written => exact h.insertPage fresh written
  | pageChanged _ _ written => exact h.updatePage written
  | pageErased => exact h.erasePage _
  | contentAdded _ written | elementAdded _ written | rawElementAdded written =>
    exact h.insertElement written
  | contentSet _ written => exact h.setContent written
  | elementErased => exact h.eraseElement _ _

/-- Every valid operation keeps the references. -/
theorem linked (effect : Effect turn store op store') (valid : op.IsValid)
    (consistent : store.Consistent) (h : store.Linked) : store'.Linked := by
  cases effect with
  | nothing => exact h
  | customerAdded written =>
    obtain ⟨-, -, -, -, rfl⟩ := Store.insertCustomer_eq_some_iff.1 written
    exact { h with customers := List.Subset.trans h.customers (by simp) }
  | templateAdded => exact h.insertTemplate _
  | templateChanged => exact h.replaceTemplate _
  | templateErased unused => exact h.eraseTemplate unused
  | pageAdded drafted written =>
    obtain ⟨template, found, customer, -, rfl⟩ := Publishing.draftPage_eq_ok_iff.1 drafted
    obtain ⟨hrow, -, rows, hrows, -, rfl⟩ :=
      (Store.insertPage_eq_some_iff consistent.places).mp written
    obtain ⟨-, -, hpage⟩ := PageDraft.row?_eq_some_iff.1 hrow
    obtain ⟨customer, found'⟩ := Option.isSome_iff_exists.mp customer
    obtain ⟨htemplate, sameTemplate⟩ := Store.template?_eq_some found
    obtain ⟨hcustomer, sameCustomer⟩ := Store.customer?_eq_some found'
    refine h.insertPage ?_ ?_ fun e he => ?_
    · rw [hpage]
      exact List.mem_map.mpr ⟨template, htemplate, sameTemplate⟩
    · rw [hpage]
      exact List.mem_map.mpr ⟨customer, hcustomer, sameCustomer⟩
    · obtain ⟨draft, -, hdraft⟩ := ElementDraft.exists_of_mem_rows hrows he
      rw [hpage, (ElementDraft.row?_eq_some_iff.1 hdraft).2]
  | rawPageAdded => cases valid
  | pageChanged _ found written =>
    obtain ⟨hrow, -, rfl⟩ := Store.updatePage_eq_some_iff.1 written
    obtain ⟨-, -, -, hpage⟩ := PageValues.row?_eq_some_iff.1 hrow
    exact h.replacePage (Store.page?_eq_some found).1 (by rw [hpage]) (by rw [hpage])
  | pageErased => exact h.erasePage _
  | contentAdded found written | elementAdded found written =>
    obtain ⟨hrow, -, rfl⟩ := Store.insertElement_eq_some_iff.1 written
    obtain ⟨mem, same⟩ := Store.page?_eq_some found
    refine h.insertElement (List.mem_map.mpr ⟨_, mem, ?_⟩)
    rw [(ElementDraft.row?_eq_some_iff.1 hrow).2, same]
  | contentSet _ written =>
    obtain ⟨old, hold, he, rfl⟩ := Store.setContent_eq_some_iff.1 written
    refine h.changeElements fun row mem => ?_
    rcases Table.mem_of_mem_replace mem with new | mem
    · rw [new, he]
      exact List.mem_map.mpr ⟨old, (Store.element?_eq_some hold).1, rfl⟩
    · exact List.mem_map_of_mem mem
  | rawElementAdded => cases valid
  | elementErased =>
    exact h.changeElements fun e mem => List.mem_map_of_mem (List.mem_filter.mp mem).1

/-- Every valid operation keeps the rules for names, slugs and markup. -/
theorem wellFormed (effect : Effect turn store op store') (valid : op.IsValid)
    (consistent : store.Consistent) (h : store.WellFormed) : store'.WellFormed := by
  cases effect with
  | nothing => exact h
  | customerAdded written =>
    obtain ⟨-, -, -, -, rfl⟩ := Store.insertCustomer_eq_some_iff.1 written
    exact { h with }
  | templateAdded => exact h.insertTemplate valid.name valid.html
  | templateChanged found =>
    have old := (Store.template?_eq_some found).1
    obtain ⟨name, markup⟩ := valid.apply (h.templateNames _ old) (h.markup _ old) turn.now
    exact h.replaceTemplate name markup
  | templateErased =>
    exact { h with
      templateNames := fun row mem => h.templateNames row (List.mem_filter.mp mem).1
      markup := fun row mem => h.markup row (List.mem_filter.mp mem).1 }
  | pageAdded drafted written =>
    obtain ⟨template, -, -, -, rfl⟩ := Publishing.draftPage_eq_ok_iff.1 drafted
    obtain ⟨hrow, -, rows, -, -, rfl⟩ :=
      (Store.insertPage_eq_some_iff consistent.places).mp written
    obtain ⟨hname, hslug, -⟩ := PageDraft.row?_eq_some_iff.1 hrow
    exact h.insertPage (Option.some.inj hslug ▸ valid.slug) (Option.some.inj hname ▸ valid.name) _
  | rawPageAdded => cases valid
  | pageChanged given found written =>
    obtain ⟨hrow, -, rfl⟩ := Store.updatePage_eq_some_iff.1 written
    have old := (Store.page?_eq_some found).1
    obtain ⟨slug, name⟩ :=
      (valid.pageValues given).row? (h.slugs _ old) (h.pageNames _ old) hrow
    exact h.replacePage slug name
  | pageErased =>
    exact { h with
      slugs := fun row mem => h.slugs row (List.mem_filter.mp mem).1
      pageNames := fun row mem => h.pageNames row (List.mem_filter.mp mem).1 }
  | contentAdded _ written | elementAdded _ written =>
    obtain ⟨-, -, rfl⟩ := Store.insertElement_eq_some_iff.1 written
    exact { h with }
  | contentSet _ written =>
    obtain ⟨-, -, -, rfl⟩ := Store.setContent_eq_some_iff.1 written
    exact { h with }
  | rawElementAdded => cases valid
  | elementErased => exact { h with }

end Effect

end PagePress
