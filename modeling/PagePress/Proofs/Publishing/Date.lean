import PagePress.Proofs.Publishing.Sequence

/-!
# When things were created

Pages and templates keep the date of their creation whatever is changed in them. A turn leaves the
dates of a kind of thing as they are or loses some of them, and adds at most one behind the others,
its own.
-/

namespace PagePress

namespace Store

def pageDates (store : Store) : List (Uuid × Micros) :=
  store.pages.map fun page => (page.id, page.createdAt)

def templateDates (store : Store) : List (Uuid × Micros) :=
  store.templates.map fun template => (template.id, template.createdAt)

variable {store : Store} {turn : Turn}

theorem pageDates_replacePage (consistent : store.Consistent) {old page : Page}
    (mem : old ∈ store.pages) (id : page.id = old.id) (date : page.createdAt = old.createdAt) :
    (store.replacePage page).pageDates = store.pageDates := by
  refine Table.map_replace fun other hother same => ?_
  obtain rfl := consistent.pageIds.eq_of_mem mem hother (id.symm.trans same.symm)
  rw [id, date]

theorem templateDates_replaceTemplate (consistent : store.Consistent) {old template : Template}
    (mem : old ∈ store.templates) (id : template.id = old.id)
    (date : template.createdAt = old.createdAt) :
    (store.replaceTemplate template).templateDates = store.templateDates := by
  refine Table.map_replace fun other hother same => ?_
  obtain rfl := consistent.templateIds.eq_of_mem mem hother (id.symm.trans same.symm)
  rw [id, date]

theorem pageDates_insertPage (consistent : store.Consistent) {draft : PageDraft} {page : Page}
    {store' : Store} (written : store.insertPage turn.now turn.pageId draft = some (page, store')) :
    store'.pageDates = store.pageDates ++ [(turn.pageId, turn.now)] ∧
      store'.templateDates = store.templateDates := by
  obtain ⟨hrow, -, rows, -, -, rfl⟩ := (insertPage_eq_some_iff consistent.places).mp written
  rw [(PageDraft.row?_eq_some_iff.mp hrow).2.2]
  exact ⟨List.map_append, rfl⟩

end Store

/-- What becomes of the dates of things when at most one new thing is created. -/
inductive Dated (id : Uuid) (now : Micros) (dates : List (Uuid × Micros)) :
    List (Uuid × Micros) → Prop where
  | kept {dates' : List (Uuid × Micros)} (sub : dates'.Sublist dates) : Dated id now dates dates'
  | added (new : ∀ date ∈ dates, date.1 ≠ id) : Dated id now dates (dates ++ [(id, now)])

/-- As what is created has a new identifier, a second thing cannot come into being in a turn. -/
theorem Dated.sublist {id : Uuid} {now : Micros} {first dates dates' : List (Uuid × Micros)}
    (h : Dated id now dates dates') (so : dates.Sublist (first ++ [(id, now)])) :
    dates'.Sublist (first ++ [(id, now)]) := by
  cases h with
  | kept sub => exact sub.trans so
  | added new =>
    obtain ⟨front, back, rfl, hfront, hback⟩ := List.sublist_append_iff.mp so
    have none : back = [] := by
      refine List.eq_nil_iff_forall_not_mem.mpr fun date mem => ?_
      obtain rfl := List.mem_singleton.mp (hback.subset mem)
      exact new _ (List.mem_append_right front mem) rfl
    rw [none, List.append_nil]
    exact hfront.append (.refl _)

namespace Effect

variable {turn : Turn} {store store' : Store} {op : Operation}

theorem pageDates (effect : Effect turn store op store') (fresh : turn.IsFreshFor store op)
    (consistent : store.Consistent) :
    Dated turn.pageId turn.now store.pageDates store'.pageDates := by
  cases effect with
  | nothing | templateAdded | templateChanged | templateErased | elementErased =>
    exact .kept (.refl _)
  | customerAdded written =>
    obtain ⟨-, -, -, -, rfl⟩ := Store.insertCustomer_eq_some_iff.mp written
    exact .kept (.refl _)
  | pageAdded _ written | rawPageAdded written =>
    rw [(Store.pageDates_insertPage consistent written).1]
    refine .added fun date mem => ?_
    obtain ⟨page, hpage, rfl⟩ := List.mem_map.mp mem
    exact fresh page hpage
  | pageChanged _ found written =>
    obtain ⟨hrow, -, rfl⟩ := Store.updatePage_eq_some_iff.mp written
    obtain ⟨-, -, -, hpage⟩ := PageValues.row?_eq_some_iff.mp hrow
    rw [Store.pageDates_replacePage consistent (Store.page?_eq_some found).1 (by rw [hpage])
      (by rw [hpage])]
    exact .kept (.refl _)
  | pageErased => exact .kept (List.filter_sublist.map _)
  | contentAdded _ written | elementAdded _ written | rawElementAdded written =>
    obtain ⟨-, -, rfl⟩ := Store.insertElement_eq_some_iff.mp written
    exact .kept (.refl _)
  | contentSet _ written =>
    obtain ⟨-, -, -, rfl⟩ := Store.setContent_eq_some_iff.mp written
    exact .kept (.refl _)

theorem templateDates (effect : Effect turn store op store') (fresh : turn.IsFreshFor store op)
    (consistent : store.Consistent) :
    Dated turn.templateId turn.now store.templateDates store'.templateDates := by
  cases effect with
  | nothing | elementErased | pageErased => exact .kept (.refl _)
  | customerAdded written =>
    obtain ⟨-, -, -, -, rfl⟩ := Store.insertCustomer_eq_some_iff.mp written
    exact .kept (.refl _)
  | @templateAdded data =>
    have dates : (Publishing.createTemplate store turn.now turn.templateId data).2.templateDates =
        store.templateDates ++ [(turn.templateId, turn.now)] := List.map_append
    rw [dates]
    refine .added fun date mem => ?_
    obtain ⟨template, htemplate, rfl⟩ := List.mem_map.mp mem
    exact fresh template htemplate
  | @templateChanged _ changes template found =>
    have dates : (store.replaceTemplate (changes.apply template turn.now)).templateDates =
        store.templateDates :=
      Store.templateDates_replaceTemplate consistent (Store.template?_eq_some found).1 rfl rfl
    rw [dates]
    exact .kept (.refl _)
  | templateErased => exact .kept (List.filter_sublist.map _)
  | pageAdded _ written | rawPageAdded written =>
    rw [(Store.pageDates_insertPage consistent written).2]
    exact .kept (.refl _)
  | pageChanged _ _ written =>
    obtain ⟨-, -, rfl⟩ := Store.updatePage_eq_some_iff.mp written
    exact .kept (.refl _)
  | contentAdded _ written | elementAdded _ written | rawElementAdded written =>
    obtain ⟨-, -, rfl⟩ := Store.insertElement_eq_some_iff.mp written
    exact .kept (.refl _)
  | contentSet _ written =>
    obtain ⟨-, -, -, rfl⟩ := Store.setContent_eq_some_iff.mp written
    exact .kept (.refl _)

end Effect

/-- However many operations a turn carries out, it adds at most one page and one template. -/
theorem Effects.dates_sublist {turn : Turn} {store store' : Store} {ops : List Operation}
    (effects : Effects turn store ops store') (consistent : store.Consistent) :
    store'.pageDates.Sublist (store.pageDates ++ [(turn.pageId, turn.now)]) ∧
      store'.templateDates.Sublist (store.templateDates ++ [(turn.templateId, turn.now)]) := by
  suffices general : ∀ first : Store,
      store.pageDates.Sublist (first.pageDates ++ [(turn.pageId, turn.now)]) →
      store.templateDates.Sublist (first.templateDates ++ [(turn.templateId, turn.now)]) →
      store'.pageDates.Sublist (first.pageDates ++ [(turn.pageId, turn.now)]) ∧
        store'.templateDates.Sublist (first.templateDates ++ [(turn.templateId, turn.now)]) from
    general store (List.sublist_append_left _ _) (List.sublist_append_left _ _)
  induction effects with
  | done => exact fun _ pages templates => ⟨pages, templates⟩
  | next fresh effect _ ih =>
    intro first pages templates
    exact ih (effect.consistent fresh consistent) first
      ((effect.pageDates fresh consistent).sublist pages)
      ((effect.templateDates fresh consistent).sublist templates)

end PagePress
