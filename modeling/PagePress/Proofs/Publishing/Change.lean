import PagePress.Proofs.Request.Change
import PagePress.Proofs.Store.Constraint

/-!
# Changing pages and templates

A change of a page is refused for one reason only: that another page holds the slug asked for. What
is changed is one row. Changes made one after the other come to the same as all of them made at
once, up to the time of the last change, and this does not depend on the order of changes that have
no field in common.
-/

namespace PagePress

def Page.stamped (page : Page) (now : Micros) : Page := { page with updatedAt := now }

def Template.stamped (template : Template) (now : Micros) : Template :=
  { template with updatedAt := now }

/-- Another page holds the slug, if there is one. -/
def Store.SlugIsHeld (store : Store) (id : Uuid) (slug : Option String) : Prop :=
  ∃ other ∈ store.pages, other.id ≠ id ∧ slug = some other.slug

section Pages

variable {store store₁ store₂ : Store} {now time₁ time₂ : Micros} {page row₁ row₂ : Page}
  {changes first second : PageChanges}

theorem PageChanges.row?_values (changes : PageChanges) (page : Page) (now : Micros) :
    changes.values.row? now page = some (changes.apply page now) := by
  refine PageValues.row?_eq_some_iff.2 ⟨?_, ?_, ?_, rfl⟩
  · exact Option.getD_map some page.name changes.name
  · exact Option.getD_map some page.slug changes.slug
  · exact Option.getD_map some page.isPublished changes.isPublished

/-- Which slugs other pages hold does not depend on the page itself. -/
theorem Store.slugIsHeld_replacePage {id : Uuid} {slug : Option String} (row : Page)
    (own : row.id = id) :
    (store.replacePage row).SlugIsHeld id slug ↔ store.SlugIsHeld id slug := by
  subst own
  constructor
  · rintro ⟨other, mem, apart, held⟩
    rcases Table.mem_of_mem_replace mem with rfl | old
    · exact absurd rfl apart
    · exact ⟨other, old, apart, held⟩
  · rintro ⟨other, mem, apart, held⟩
    exact ⟨other, List.mem_map.mpr ⟨other, mem, if_neg apart⟩, apart, held⟩

theorem PageChanges.slugIsHeld_followedBy {id : Uuid}
    (held : store.SlugIsHeld id (first.followedBy second).slug) :
    store.SlugIsHeld id first.slug ∨ store.SlugIsHeld id second.slug := by
  obtain ⟨other, mem, apart, same⟩ := held
  rcases Option.or_eq_some_iff.mp same with given | ⟨-, given⟩
  · exact .inr ⟨other, mem, apart, given⟩
  · exact .inl ⟨other, mem, apart, given⟩

namespace Publishing

/-- The storage takes a page with changes unless another page holds the slug. -/
theorem store_updatePage (consistent : store.Consistent) (mem : page ∈ store.pages)
    (free : ¬store.SlugIsHeld page.id changes.slug) (now : Micros) :
    store.updatePage now page changes.values =
      some (changes.apply page now, store.replacePage (changes.apply page now)) := by
  refine Store.updatePage_eq_some_iff.2 ⟨changes.row?_values page now, ?_, rfl⟩
  intro other hother same
  cases given : changes.slug with
  | none =>
    have own : other.slug = page.slug := by rw [same, PageChanges.apply, given, Option.getD_none]
    rw [consistent.slugs.eq_of_mem hother mem own]
    rfl
  | some slug =>
    by_contra apart
    have asked : other.slug = slug := by rw [same, PageChanges.apply, given, Option.getD_some]
    exact free ⟨other, hother, apart, by rw [given, asked]⟩

theorem updatePage_eq (consistent : store.Consistent) (mem : page ∈ store.pages) (now : Micros) :
    updatePage store now page.id changes =
      if changes.slug.any (store.isSlugTaken · (some page.id)) then refuse .slugTaken
      else setPageValues store now page changes.values := by
  have found : store.page? page.id = some page :=
    consistent.page?_eq_some_iff.2 ⟨mem, rfl⟩
  rw [updatePage, getPage, found]
  simp only [Option.getDM, bind, Except.bind, pure, Except.pure]
  split <;> rfl

theorem any_isSlugTaken_iff_slugIsHeld {id : Uuid} {slug : Option String} :
    slug.any (store.isSlugTaken · (some id)) = true ↔ store.SlugIsHeld id slug := by
  simp only [Store.any_isSlugTaken_iff, Store.SlugIsHeld, ne_eq, Option.some.injEq, and_comm]

theorem updatePage_of_held (consistent : store.Consistent) (mem : page ∈ store.pages)
    (held : store.SlugIsHeld page.id changes.slug) (now : Micros) :
    updatePage store now page.id changes = refuse .slugTaken := by
  rw [updatePage_eq consistent mem, if_pos (any_isSlugTaken_iff_slugIsHeld.2 held)]

theorem updatePage_of_free (consistent : store.Consistent) (mem : page ∈ store.pages)
    (free : ¬store.SlugIsHeld page.id changes.slug) (now : Micros) :
    updatePage store now page.id changes =
      .ok (changes.apply page now, store.replacePage (changes.apply page now)) := by
  rw [updatePage_eq consistent mem, if_neg (mt any_isSlugTaken_iff_slugIsHeld.1 free),
    setPageValues, store_updatePage consistent mem free]
  rfl

/-- What is known after a change of a page that is there. -/
theorem updatePage_eq_ok_iff (consistent : store.Consistent) (mem : page ∈ store.pages) :
    updatePage store now page.id changes = .ok (row₁, store₁) ↔
      ¬store.SlugIsHeld page.id changes.slug ∧ row₁ = changes.apply page now ∧
        store₁ = store.replacePage row₁ := by
  by_cases held : store.SlugIsHeld page.id changes.slug
  · rw [updatePage_of_held consistent mem held]
    exact iff_of_false nofun fun known => known.1 held
  · rw [updatePage_of_free consistent mem held]
    simp only [Except.ok.injEq, Prod.mk.injEq, held, not_false_eq_true, true_and]
    constructor
    · rintro ⟨rfl, rfl⟩
      exact ⟨rfl, rfl⟩
    · rintro ⟨rfl, rfl⟩
      exact ⟨rfl, rfl⟩

/-- After a change the same page can be changed again. -/
theorem updatePage_again (consistent : store.Consistent) (mem : page ∈ store.pages)
    (free : ¬store.SlugIsHeld page.id first.slug) (time₁ : Micros) :
    updatePage (store.replacePage (first.apply page time₁)) time₂ page.id second =
        .ok (row₂, store₂) ↔
      ¬store.SlugIsHeld page.id second.slug ∧
        row₂ = (first.followedBy second).apply page time₂ ∧
        store₂ = (store.replacePage (first.apply page time₁)).replacePage row₂ := by
  have consistent' := consistent.updatePage (store_updatePage consistent mem free time₁)
  have mem' : first.apply page time₁ ∈ (store.replacePage (first.apply page time₁)).pages :=
    List.mem_map.mpr ⟨page, mem, if_pos rfl⟩
  have own : (first.apply page time₁).id = page.id := rfl
  rw [PageChanges.apply_followedBy first second page time₁,
    ← Store.slugIsHeld_replacePage (first.apply page time₁) own]
  exact updatePage_eq_ok_iff consistent' mem'

/-- When a page is changed twice, and what it is then. -/
theorem updatePage_twice_iff (consistent : store.Consistent) (mem : page ∈ store.pages)
    (time₁ : Micros) :
    (∃ row₁ store₁, updatePage store time₁ page.id first = .ok (row₁, store₁) ∧
      updatePage store₁ time₂ page.id second = .ok (row₂, store₂)) ↔
      ¬store.SlugIsHeld page.id first.slug ∧ ¬store.SlugIsHeld page.id second.slug ∧
        row₂ = (first.followedBy second).apply page time₂ ∧
        store₂ = (store.replacePage (first.apply page time₁)).replacePage row₂ := by
  constructor
  · rintro ⟨row₁, store₁, once, twice⟩
    obtain ⟨free, rfl, rfl⟩ := (updatePage_eq_ok_iff consistent mem).mp once
    exact ⟨free, (updatePage_again consistent mem free time₁).mp twice⟩
  · rintro ⟨free, rest⟩
    exact ⟨_, _, updatePage_of_free consistent mem free time₁,
      (updatePage_again consistent mem free time₁).mpr rest⟩

/-- What two changes come to is what both of them come to when they are made at once. -/
theorem updatePage_followedBy (consistent : store.Consistent) (mem : page ∈ store.pages)
    (once : updatePage store time₁ page.id first = .ok (row₁, store₁))
    (twice : updatePage store₁ time₂ page.id second = .ok (row₂, store₂)) (now : Micros) :
    updatePage store now page.id (first.followedBy second) =
      .ok (row₂.stamped now, store.replacePage (row₂.stamped now)) := by
  obtain ⟨free, free', rfl, -⟩ :=
    (updatePage_twice_iff consistent mem time₁).mp ⟨row₁, store₁, once, twice⟩
  refine updatePage_of_free consistent mem (fun held => ?_) now
  rcases PageChanges.slugIsHeld_followedBy held with held | held
  · exact free held
  · exact free' held

/-- Two changes with no field in common can be made the other way round. -/
theorem updatePage_swap (consistent : store.Consistent) (mem : page ∈ store.pages)
    (once : updatePage store time₁ page.id first = .ok (row₁, store₁))
    (twice : updatePage store₁ time₂ page.id second = .ok (row₂, store₂))
    (apart : first.followedBy second = second.followedBy first) (now now' : Micros) :
    ∃ row store', updatePage store now page.id second = .ok (row, store') ∧
      ∃ store'', updatePage store' now' page.id first = .ok (row₂.stamped now', store'') := by
  obtain ⟨free, free', rfl, -⟩ :=
    (updatePage_twice_iff consistent mem time₁).mp ⟨row₁, store₁, once, twice⟩
  obtain ⟨row, store', once', twice'⟩ := (updatePage_twice_iff consistent mem now).mpr
    ⟨free', free, congrArg (·.apply page now') apart, rfl⟩
  exact ⟨row, store', once', _, twice'⟩

end Publishing

end Pages

/-! ## Templates -/

section Templates

variable {store store₁ store₂ : Store} {time₁ time₂ : Micros} {template row₁ row₂ : Template}
  {first second : TemplateChanges}

namespace Publishing

theorem updateTemplate_eq (consistent : store.Consistent) (mem : template ∈ store.templates)
    (changes : TemplateChanges) (now : Micros) :
    updateTemplate store now template.id changes =
      .ok (changes.apply template now, store.replaceTemplate (changes.apply template now)) := by
  have found : store.template? template.id = some template :=
    consistent.template?_eq_some_iff.2 ⟨mem, rfl⟩
  rw [updateTemplate, getTemplate, found]
  rfl

/-- After a change the same template can be changed again. -/
theorem updateTemplate_again (consistent : store.Consistent) (mem : template ∈ store.templates)
    (first second : TemplateChanges) (time₁ time₂ : Micros) :
    updateTemplate (store.replaceTemplate (first.apply template time₁)) time₂ template.id second =
      .ok ((first.followedBy second).apply template time₂,
        (store.replaceTemplate (first.apply template time₁)).replaceTemplate
          ((first.followedBy second).apply template time₂)) := by
  have mem' : first.apply template time₁ ∈
      (store.replaceTemplate (first.apply template time₁)).templates :=
    List.mem_map.mpr ⟨template, mem, if_pos rfl⟩
  rw [TemplateChanges.apply_followedBy first second template time₁]
  exact updateTemplate_eq (consistent.replaceTemplate _) mem' second time₂

theorem updateTemplate_followedBy (consistent : store.Consistent)
    (mem : template ∈ store.templates)
    (once : updateTemplate store time₁ template.id first = .ok (row₁, store₁))
    (twice : updateTemplate store₁ time₂ template.id second = .ok (row₂, store₂)) (now : Micros) :
    updateTemplate store now template.id (first.followedBy second) =
      .ok (row₂.stamped now, store.replaceTemplate (row₂.stamped now)) := by
  rw [updateTemplate_eq consistent mem] at once
  cases once
  rw [updateTemplate_again consistent mem] at twice
  cases twice
  exact updateTemplate_eq consistent mem _ now

theorem updateTemplate_swap (consistent : store.Consistent) (mem : template ∈ store.templates)
    (once : updateTemplate store time₁ template.id first = .ok (row₁, store₁))
    (twice : updateTemplate store₁ time₂ template.id second = .ok (row₂, store₂))
    (apart : first.followedBy second = second.followedBy first) (now now' : Micros) :
    ∃ row store', updateTemplate store now template.id second = .ok (row, store') ∧
      ∃ store'', updateTemplate store' now' template.id first =
        .ok (row₂.stamped now', store'') := by
  rw [updateTemplate_eq consistent mem] at once
  cases once
  rw [updateTemplate_again consistent mem, apart] at twice
  cases twice
  exact ⟨_, _, updateTemplate_eq consistent mem second now, _,
    updateTemplate_again consistent mem second first now now'⟩

end Publishing

end Templates

end PagePress
