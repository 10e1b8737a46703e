import PagePress.Proofs.Session.Integrity
import PagePress.Proofs.Store.Constraint

/-!
# Conflicts told apart

The storage refuses a write that breaks one of its constraints without saying which. What is told
then depends on the slug alone: if another page holds it, the slug is taken, whatever else may be
wrong; if none does, the failure is passed on as it is.
-/

namespace PagePress

namespace Publishing

variable {store : Store} {slug : Option String} {except : Option Uuid}

theorem pageConflict_of_held
    (held : ∃ other ∈ store.pages, slug = some other.slug ∧ some other.id ≠ except) :
    pageConflict store slug except = .refused { kind := .slugTaken } :=
  if_pos (Store.any_isSlugTaken_iff.mpr held)

theorem pageConflict_of_free
    (free : ¬∃ other ∈ store.pages, slug = some other.slug ∧ some other.id ≠ except) :
    pageConflict store slug except = .constraint :=
  if_neg (mt Store.any_isSlugTaken_iff.mp free)

end Publishing

/-- What comes of an operation that stores a page as it is given. If the tables that it would leave
are allowed, they are left, and nothing else changes. Otherwise nothing changes, and it is told
whether another page holds the slug. -/
structure Service.Settles (service : Service) (turn : Turn) (op : Operation) (row : LoosePage)
    (wanted : LooseTables) (isHeld : Prop) : Prop where
  stored : wanted.AreAllowed → ∃ page store,
    service.perform turn op = .ok (.page page, { service with store }) ∧ page.loose = row ∧
      store.loose = wanted ∧ store.customers = service.store.customers ∧
      store.templates = service.store.templates
  slugTaken : ¬wanted.AreAllowed → (service.perform turn op = refuse .slugTaken ↔ isHeld)
  constraint : ¬wanted.AreAllowed → (service.perform turn op = .error .constraint ↔ ¬isHeld)
  unchanged : ¬wanted.AreAllowed → service.after turn op = service

section Settles

variable {service : Service} {turn : Turn} {op : Operation} {row : LoosePage}
  {wanted : LooseTables} {isHeld : Prop}

/-- A write either takes place or is looked into. -/
theorem Service.Settles.of_write (write : Option (Page × Store)) (slug : Option String)
    (except : Option Uuid)
    (call : service.perform turn op = service.commit .page
      (write.getDM (.error (Publishing.pageConflict service.store slug except))))
    (takes : (∃ page store, write = some (page, store)) ↔ wanted.AreAllowed)
    (exact : ∀ page store, write = some (page, store) → page.loose = row ∧ store.loose = wanted ∧
      store.customers = service.store.customers ∧ store.templates = service.store.templates)
    (held : isHeld ↔
      ∃ other ∈ service.store.pages, slug = some other.slug ∧ some other.id ≠ except) :
    service.Settles turn op row wanted isHeld := by
  cases write with
  | some written =>
    obtain ⟨page, store⟩ := written
    have allowed : wanted.AreAllowed := takes.mp ⟨page, store, rfl⟩
    exact {
      stored := fun _ => ⟨page, store, call, exact page store rfl⟩
      slugTaken := fun broken => absurd allowed broken
      constraint := fun broken => absurd allowed broken
      unchanged := fun broken => absurd allowed broken }
  | none =>
    have broken : ¬wanted.AreAllowed := by
      intro allowed
      obtain ⟨page, store, written⟩ := takes.mpr allowed
      cases written
    have failed : service.perform turn op =
        .error (Publishing.pageConflict service.store slug except) := call
    have unchanged : service.after turn op = service := by
      simp only [Service.after, failed]
    by_cases here : isHeld
    · rw [Publishing.pageConflict_of_held (held.mp here)] at failed
      have other : service.perform turn op ≠ .error .constraint := by
        intro same
        cases failed.symm.trans same
      exact {
        stored := fun allowed => absurd allowed broken
        slugTaken := fun _ => iff_of_true failed here
        constraint := fun _ => iff_of_false other (not_not.mpr here)
        unchanged := fun _ => unchanged }
    · rw [Publishing.pageConflict_of_free (mt held.mpr here)] at failed
      have other : service.perform turn op ≠ refuse .slugTaken := by
        intro same
        cases failed.symm.trans same
      exact {
        stored := fun allowed => absurd allowed broken
        slugTaken := fun _ => iff_of_false other here
        constraint := fun _ => iff_of_true failed here
        unchanged := fun _ => unchanged }

end Settles

namespace Session

/-- What comes of storing a page, or new values of a page that is there, in every state that a
session reaches. -/
theorem conflicts_are_told (ttl : Micros) (steps : List (Micros × Action)) (pause : Micros) :
    let session := ((start ttl).run steps).2
    let service := session.service
    let store := service.store
    let turn := session.nextTurn pause
    (∀ draft : PageDraft, service.Settles turn (.insertPage draft)
      (draft.loose turn.now turn.pageId) (store.withDraft turn.now turn.pageId draft)
      (∃ other ∈ store.pages, draft.slug = some other.slug)) ∧
    ∀ page ∈ store.pages, ∀ values : PageValues, service.Settles turn
      (.setPageValues page.id values) (values.loose turn.now page)
      (store.withValues turn.now page values)
      (∃ other ∈ store.pages, other.id ≠ page.id ∧
        values.slug.getD (some page.slug) = some other.slug) := by
  intro session service store turn
  have orderly : session.IsOrderly := (isOrderly_start ttl).run steps
  constructor
  · intro draft
    have new := (orderly.isFresh_nextTurn pause).page
    refine .of_write (store.insertPage turn.now turn.pageId draft) draft.slug none rfl
      (Store.exists_insertPage_iff orderly.consistent new) ?_ ?_
    · intro page store' written
      exact Store.loose_insertPage orderly.consistent written
    · simp [store]
  · intro page mem values
    have found : store.page? page.id = some page :=
      orderly.consistent.page?_eq_some_iff.mpr ⟨mem, rfl⟩
    refine .of_write (store.updatePage turn.now page values) (values.slug.getD (some page.slug))
      (some page.id) ?_ (Store.exists_updatePage_iff orderly.consistent mem) ?_ ?_
    · simp only [Service.perform]
      rw [found]
      rfl
    · intro changed store' written
      exact Store.loose_updatePage written
    · simp [store, and_comm]

/-- A page with two elements of one key. -/
def doubled (slug : String) : PageDraft where
  templateId := identifier 10 1
  customerId := identifier 12 0
  name := some "Doubled"
  slug := some slug
  elements :=
    [{ key := some "title", content := some "A" }, { key := some "title", content := some "B" }]

/-- A key given twice, with and without the slug of the first page, and a null name and a new one
for the first page. -/
theorem conflicts_are_told_firstPage :
    let session := ((start 60).run firstPage).2
    let service := session.service
    let turn := session.nextTurn 0
    service.perform turn (.insertPage (doubled "second")) = .error .constraint ∧
      service.perform turn (.insertPage (doubled "first")) = refuse .slugTaken ∧
      service.perform turn (.setPageValues (identifier 11 2) { name := some none }) =
        .error .constraint ∧
      ∃ page store, service.perform turn
        (.setPageValues (identifier 11 2) { name := some (some "New"), theme := some none }) =
          .ok (.page page, { service with store }) := by
  intro session service turn
  obtain ⟨creates, updates⟩ := conflicts_are_told 60 firstPage 0
  have second := creates (doubled "second")
  have first := creates (doubled "first")
  obtain ⟨page, mem, own, null, free, new⟩ : ∃ page ∈ service.store.pages,
      page.id = identifier 11 2 ∧
      ¬(service.store.withValues turn.now page { name := some none }).AreAllowed ∧
      (¬∃ other ∈ service.store.pages, other.id ≠ page.id ∧ some page.slug = some other.slug) ∧
      (service.store.withValues turn.now page
        { name := some (some "New"), theme := some none }).AreAllowed := by
    decide +kernel
  rw [← own]
  obtain ⟨changed, store, stored, -⟩ := (updates page mem _).stored new
  exact ⟨(second.constraint (by decide +kernel)).mpr (by decide +kernel),
    (first.slugTaken (by decide +kernel)).mpr (by decide +kernel),
    ((updates page mem _).constraint null).mpr free, changed, store, stored⟩

end Session

end PagePress
