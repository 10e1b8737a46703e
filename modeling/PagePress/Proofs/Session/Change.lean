import PagePress.Proofs.Publishing.Change
import PagePress.Proofs.Session.Integrity

/-!
# Changes in sessions

In every state that a session reaches, a valid body changes the columns that it gives, and nothing
else. Bodies that change a row one after the other do what one body does in which the fields of the
second override those of the first; and bodies that have no field in common can change it in either
order. A valid body fails for two reasons only: another page may hold the slug that it gives, and
the storage takes no text with a broken pair.
-/

namespace PagePress

def Submission.Accepts (submission : Submission) (body : Fields) : Prop :=
  ∃ op, submission.read (.obj body) = .ok op

namespace Service

/-- What comes of bodies that are to change a page. -/
structure ChangesPage (service : Service) (page : Page) : Prop where
  /-- One row is changed, as the body says, and nothing else. -/
  changed : ∀ (turn : Turn) (body : Fields) (result : Result) (after : Service),
    service.submit turn (.pageChanges page.id) (.obj body) = .ok (result, after) →
      ∃ new, result = .page new ∧ page.IsChangedBy body turn.now new ∧
        after = { service with store := { service.store with
          pages := service.store.pages.map fun row => if row.id = page.id then new else row } }
  /-- A valid body is refused exactly if another page holds the slug that it gives. -/
  slugTaken : ∀ (turn : Turn) (body : Fields), (Submission.pageChanges page.id).Accepts body →
    (service.submit turn (.pageChanges page.id) (.obj body) = refuse .slugTaken ↔
      ∃ other ∈ service.store.pages, other.id ≠ page.id ∧
        body.get? "slug" = some (.str other.slug))
  /-- A valid body that is not refused is carried out, unless it has a text that the storage does
  not take. -/
  succeeds : ∀ (turn : Turn) (body : Fields), (Submission.pageChanges page.id).Accepts body →
    service.submit turn (.pageChanges page.id) (.obj body) ≠ refuse .slugTaken →
    ¬PageChanges.HasBrokenText body →
      (service.submit turn (.pageChanges page.id) (.obj body)).isOk = true
  /-- Such a text is what a body fails for that is not refused. -/
  brokenText : ∀ (turn : Turn) (body : Fields), (Submission.pageChanges page.id).Accepts body →
    service.submit turn (.pageChanges page.id) (.obj body) ≠ refuse .slugTaken →
    PageChanges.HasBrokenText body →
      service.submit turn (.pageChanges page.id) (.obj body) = .error .brokenText
  /-- A page may be given the slug that it has. -/
  ownSlug : ∀ (turn : Turn) (body : Fields), (Submission.pageChanges page.id).Accepts body →
    body.get? "slug" = some (.str page.slug) →
      service.submit turn (.pageChanges page.id) (.obj body) ≠ refuse .slugTaken ∧
        (¬PageChanges.HasBrokenText body →
          (service.submit turn (.pageChanges page.id) (.obj body)).isOk = true)

/-- What comes of bodies that are to change a template. -/
structure ChangesTemplate (service : Service) (template : Template) : Prop where
  /-- One row is changed, as the body says, and nothing else. -/
  changed : ∀ (turn : Turn) (body : Fields) (result : Result) (after : Service),
    service.submit turn (.templateChanges template.id) (.obj body) = .ok (result, after) →
      ∃ new, result = .template new ∧ template.IsChangedBy body turn.now new ∧
        after = { service with store := { service.store with
          templates := service.store.templates.map fun row =>
            if row.id = template.id then new else row } }
  /-- A valid body is carried out, unless it has a text that the storage does not take. -/
  succeeds : ∀ (turn : Turn) (body : Fields),
    (Submission.templateChanges template.id).Accepts body →
    ¬TemplateChanges.HasBrokenText body →
      (service.submit turn (.templateChanges template.id) (.obj body)).isOk = true
  brokenText : ∀ (turn : Turn) (body : Fields),
    (Submission.templateChanges template.id).Accepts body →
    TemplateChanges.HasBrokenText body →
      service.submit turn (.templateChanges template.id) (.obj body) = .error .brokenText

/-- What comes of two bodies that change a row one after the other, up to the time that the row is
stamped with. -/
structure Composes {Row : Type} (service : Service) (submission : Submission)
    (result : Row → Result) (stamped : Row → Micros → Row) (names : List String) : Prop where
  /-- One body with the fields of both, where those of the second count, does the same. -/
  merged : ∀ {first second : Fields} {turn₁ turn₂ : Turn} {row₁ row₂ : Row}
    {service₁ service₂ : Service},
    service.submit turn₁ submission (.obj first) = .ok (result row₁, service₁) →
    service₁.submit turn₂ submission (.obj second) = .ok (result row₂, service₂) →
    second.IsDistinct → ∀ turn : Turn, ∃ after,
      service.submit turn submission (.obj (first.merge second)) =
        .ok (result (stamped row₂ turn.now), after)
  /-- Bodies of which no field is given by both can come in the other order. -/
  swapped : ∀ {first second : Fields} {turn₁ turn₂ : Turn} {row₁ row₂ : Row}
    {service₁ service₂ : Service},
    service.submit turn₁ submission (.obj first) = .ok (result row₁, service₁) →
    service₁.submit turn₂ submission (.obj second) = .ok (result row₂, service₂) →
    (∀ name ∈ names, first.get? name = none ∨ second.get? name = none) → ∀ turn turn' : Turn,
      ∃ row between, service.submit turn submission (.obj second) = .ok (result row, between) ∧
        ∃ after, between.submit turn' submission (.obj first) =
          .ok (result (stamped row₂ turn'.now), after)

/-! ## From the store to the service -/

section Update

variable {Row Changes : Type} {service after : Service} {turn : Turn} {body : Fields}
  {submission : Submission} {answer : Result}

/-- The body is read, the changes are made in the store, and the new row is the result. -/
structure Updates (submission : Submission) (operation : Changes → Operation)
    (result : Row → Result) (read : Fields → Checked Changes)
    (update : Store → Micros → Changes → Outcome (Row × Store)) : Prop where
  reads : ∀ body, submission.read (.obj body) = (read body).map operation
  performs : ∀ (service : Service) (turn : Turn) changes,
    service.perform turn (operation changes) =
      service.commit result (update service.store turn.now changes)

variable {operation : Changes → Operation} {result : Row → Result}
  {read : Fields → Checked Changes} {update : Store → Micros → Changes → Outcome (Row × Store)}

theorem Updates.call_of_read (updates : Updates submission operation result read update)
    {changes : Changes} (isRead : read body = .ok changes) :
    submission.call (.obj body) =
      .ok ⟨operation changes, submission.form.isStorable (.obj body)⟩ := by
  rw [Submission.call, updates.reads, isRead]
  rfl

/-- What comes of a valid body that can be stored is what comes of its changes. -/
theorem Updates.submit_of_storable (updates : Updates submission operation result read update)
    {changes : Changes} (isRead : read body = .ok changes)
    (storable : submission.form.isStorable (.obj body) = true) :
    service.submit turn submission (.obj body) =
      service.commit result (update service.store turn.now changes) := by
  rw [submit_of_call (updates.call_of_read isRead), execute_of_storable storable,
    updates.performs]

/-- A valid body that cannot be stored fails after its changes have been found to be in order. -/
theorem Updates.submit_of_unstorable (updates : Updates submission operation result read update)
    {changes : Changes} (isRead : read body = .ok changes)
    (unstorable : submission.form.isStorable (.obj body) = false) :
    service.submit turn submission (.obj body) =
      service.commit result (update service.store turn.now changes) >>= fun _ =>
        .error .brokenText := by
  rw [submit_of_call (updates.call_of_read isRead), execute_of_unstorable unstorable,
    updates.performs]

/-- What the changes are refused for is told before it comes out whether the body can be stored. -/
theorem Updates.submit_of_error (updates : Updates submission operation result read update)
    {changes : Changes} {failure : Failure} (isRead : read body = .ok changes)
    (failed : update service.store turn.now changes = .error failure) :
    service.submit turn submission (.obj body) = .error failure := by
  cases storable : submission.form.isStorable (.obj body) with
  | true =>
    rw [updates.submit_of_storable isRead storable, failed]
    rfl
  | false =>
    rw [updates.submit_of_unstorable isRead storable, failed]
    rfl

theorem Updates.submit_eq_ok_iff (updates : Updates submission operation result read update) :
    service.submit turn submission (.obj body) = .ok (answer, after) ↔
      submission.form.isStorable (.obj body) = true ∧
        ∃ changes row store, read body = .ok changes ∧
          update service.store turn.now changes = .ok (row, store) ∧ answer = result row ∧
            after = { service with store } := by
  cases isRead : read body with
  | error violations =>
    rw [submit, Submission.call, updates.reads, isRead]
    constructor
    · intro done
      cases done
    · rintro ⟨-, _, _, _, same, -⟩
      cases same
  | ok changes =>
    rw [submit_of_call (updates.call_of_read isRead), execute_eq_ok_iff, updates.performs]
    refine and_congr_right fun _ => ?_
    constructor
    · intro done
      obtain ⟨⟨row, store⟩, made, same⟩ := Outcome.map_eq_ok_iff.mp done
      cases same
      exact ⟨changes, row, store, rfl, made, rfl, rfl⟩
    · rintro ⟨_, row, store, same, made, rfl, rfl⟩
      cases same
      exact Outcome.map_eq_ok_iff.mpr ⟨(row, store), made, rfl⟩

/-- Bodies compose if reading them and making their changes do. -/
theorem Updates.composes (updates : Updates submission operation result read update)
    (injective : Function.Injective result) {stamped : Row → Micros → Row} {names : List String}
    (followedBy : Changes → Changes → Changes)
    (merge : ∀ {first second changes changes'}, second.IsDistinct → read first = .ok changes →
      read second = .ok changes' → read (first.merge second) = .ok (followedBy changes changes'))
    (comm : ∀ {first second : Fields} {changes changes'},
      (∀ name ∈ names, first.get? name = none ∨ second.get? name = none) →
      read first = .ok changes → read second = .ok changes' →
      followedBy changes changes' = followedBy changes' changes)
    (atOnce : ∀ {changes changes' time₁ time₂ row₁ row₂ store₁ store₂},
      update service.store time₁ changes = .ok (row₁, store₁) →
      update store₁ time₂ changes' = .ok (row₂, store₂) → ∀ now,
        ∃ store, update service.store now (followedBy changes changes') =
          .ok (stamped row₂ now, store))
    (swap : ∀ {changes changes' time₁ time₂ row₁ row₂ store₁ store₂},
      update service.store time₁ changes = .ok (row₁, store₁) →
      update store₁ time₂ changes' = .ok (row₂, store₂) →
      followedBy changes changes' = followedBy changes' changes → ∀ now now',
        ∃ row store, update service.store now changes' = .ok (row, store) ∧
          ∃ store', update store now' changes = .ok (stamped row₂ now', store')) :
    service.Composes submission result stamped names where
  merged := by
    intro first second turn₁ turn₂ row₁ row₂ service₁ service₂ once twice distinct turn
    obtain ⟨storable, changes, _, store₁, isRead, made, same, rfl⟩ :=
      updates.submit_eq_ok_iff.mp once
    obtain ⟨storable', changes', _, store₂, isRead', made', same', rfl⟩ :=
      updates.submit_eq_ok_iff.mp twice
    obtain rfl := injective same'
    obtain ⟨store, done⟩ := atOnce made made' turn.now
    exact ⟨_, updates.submit_eq_ok_iff.mpr ⟨Form.isStorable_merge distinct storable storable',
      _, _, store, merge distinct isRead isRead', done, rfl, rfl⟩⟩
  swapped := by
    intro first second turn₁ turn₂ row₁ row₂ service₁ service₂ once twice apart turn turn'
    obtain ⟨storable, changes, _, store₁, isRead, made, same, rfl⟩ :=
      updates.submit_eq_ok_iff.mp once
    obtain ⟨storable', changes', _, store₂, isRead', made', same', rfl⟩ :=
      updates.submit_eq_ok_iff.mp twice
    obtain rfl := injective same'
    obtain ⟨row, store, done, store', done'⟩ :=
      swap made made' (comm apart isRead isRead') turn.now turn'.now
    exact ⟨row, _,
      updates.submit_eq_ok_iff.mpr ⟨storable', _, row, store, isRead', done, rfl, rfl⟩, _,
      updates.submit_eq_ok_iff.mpr ⟨storable, _, _, store', isRead, done', rfl, rfl⟩⟩

end Update

theorem updates_pageChanges (id : Uuid) :
    Updates (.pageChanges id) (.updatePage id) .page Request.pageChanges
      fun store now changes => Publishing.updatePage store now id changes :=
  ⟨fun _ => rfl, fun _ _ _ => rfl⟩

theorem updates_templateChanges (id : Uuid) :
    Updates (.templateChanges id) (.updateTemplate id) .template Request.templateChanges
      fun store now changes => Publishing.updateTemplate store now id changes :=
  ⟨fun _ => rfl, fun _ _ _ => rfl⟩

/-! ## Pages and templates -/

section Rows

variable {service : Service} {body : Fields}

/-- What comes of a valid body: it gives a slug that another page holds, or it cannot be stored, or
it is carried out. -/
theorem submit_pageChanges_cases (consistent : service.store.Consistent) {page : Page}
    (mem : page ∈ service.store.pages) (turn : Turn)
    (valid : (Submission.pageChanges page.id).Accepts body) :
    (service.submit turn (.pageChanges page.id) (.obj body) = refuse .slugTaken ∧
      ∃ other ∈ service.store.pages, other.id ≠ page.id ∧
        body.get? "slug" = some (.str other.slug)) ∨
    (¬∃ other ∈ service.store.pages, other.id ≠ page.id ∧
        body.get? "slug" = some (.str other.slug)) ∧
      (PageChanges.HasBrokenText body ∧
          service.submit turn (.pageChanges page.id) (.obj body) = .error .brokenText ∨
        ¬PageChanges.HasBrokenText body ∧
          (service.submit turn (.pageChanges page.id) (.obj body)).isOk = true) := by
  obtain ⟨op, accepted⟩ := valid
  obtain ⟨changes, isRead, -⟩ := Outcome.map_eq_ok_iff.mp accepted
  have slug : service.store.SlugIsHeld page.id changes.slug ↔ ∃ other ∈ service.store.pages,
      other.id ≠ page.id ∧ body.get? "slug" = some (.str other.slug) := by
    simp only [Store.SlugIsHeld, Request.slug_eq_some_iff isRead]
  have updates := updates_pageChanges page.id
  rw [← slug]
  by_cases held : service.store.SlugIsHeld page.id changes.slug
  · exact .inl ⟨updates.submit_of_error isRead
      (Publishing.updatePage_of_held consistent mem held turn.now), held⟩
  · refine .inr ⟨held, ?_⟩
    cases storable : Form.pageChanges.isStorable (.obj body) with
    | true =>
      rw [updates.submit_of_storable isRead storable,
        Publishing.updatePage_of_free consistent mem held]
      exact .inr ⟨Form.isStorable_iff.mp storable, rfl⟩
    | false =>
      rw [updates.submit_of_unstorable isRead storable,
        Publishing.updatePage_of_free consistent mem held]
      exact .inl ⟨Form.isStorable_eq_false_iff.mp storable, rfl⟩

theorem changesPage (consistent : service.store.Consistent) {page : Page}
    (mem : page ∈ service.store.pages) : service.ChangesPage page := by
  have slugTaken : ∀ (turn : Turn) (body : Fields),
      (Submission.pageChanges page.id).Accepts body →
      (service.submit turn (.pageChanges page.id) (.obj body) = refuse .slugTaken ↔
        ∃ other ∈ service.store.pages, other.id ≠ page.id ∧
          body.get? "slug" = some (.str other.slug)) := by
    intro turn body valid
    rcases submit_pageChanges_cases consistent mem turn valid with
      ⟨refused, held⟩ | ⟨free, ⟨-, failed⟩ | ⟨-, done⟩⟩
    · exact iff_of_true refused held
    · refine iff_of_false (fun refused => ?_) free
      rw [failed] at refused
      cases refused
    · refine iff_of_false (fun refused => ?_) free
      rw [refused] at done
      cases done
  have succeeds : ∀ (turn : Turn) (body : Fields),
      (Submission.pageChanges page.id).Accepts body →
      service.submit turn (.pageChanges page.id) (.obj body) ≠ refuse .slugTaken →
      ¬PageChanges.HasBrokenText body →
        (service.submit turn (.pageChanges page.id) (.obj body)).isOk = true := by
    intro turn body valid notTaken whole
    rcases submit_pageChanges_cases consistent mem turn valid with
      ⟨refused, -⟩ | ⟨-, ⟨broken, -⟩ | ⟨-, done⟩⟩
    · exact absurd refused notTaken
    · exact absurd broken whole
    · exact done
  refine ⟨?changed, slugTaken, succeeds, ?brokenText, ?ownSlug⟩
  case changed =>
    intro turn body result after done
    obtain ⟨-, changes, row, store, isRead, made, rfl, rfl⟩ :=
      (updates_pageChanges page.id).submit_eq_ok_iff.mp done
    obtain ⟨-, rfl, rfl⟩ := (Publishing.updatePage_eq_ok_iff consistent mem).mp made
    exact ⟨_, rfl, Request.isChangedBy_of_pageChanges isRead page turn.now, rfl⟩
  case brokenText =>
    intro turn body valid notTaken broken
    rcases submit_pageChanges_cases consistent mem turn valid with
      ⟨refused, -⟩ | ⟨-, ⟨-, failed⟩ | ⟨whole, -⟩⟩
    · exact absurd refused notTaken
    · exact failed
    · exact absurd broken whole
  case ownSlug =>
    intro turn body valid own
    have notTaken : service.submit turn (.pageChanges page.id) (.obj body) ≠
        refuse .slugTaken := by
      intro refused
      obtain ⟨other, hother, apart, held⟩ := (slugTaken turn body valid).mp refused
      have slug : other.slug = page.slug := by
        rw [own] at held
        exact (LooseText.ofString_injective (Json.str.inj (Option.some.inj held))).symm
      exact apart (congrArg Page.id (consistent.slugs.eq_of_mem hother mem slug))
    exact ⟨notTaken, succeeds turn body valid notTaken⟩

theorem changesTemplate (consistent : service.store.Consistent) {template : Template}
    (mem : template ∈ service.store.templates) : service.ChangesTemplate template where
  changed := by
    intro turn body result after done
    obtain ⟨-, changes, row, store, isRead, made, rfl, rfl⟩ :=
      (updates_templateChanges template.id).submit_eq_ok_iff.mp done
    rw [Publishing.updateTemplate_eq consistent mem] at made
    cases made
    exact ⟨_, rfl, Request.isChangedBy_of_templateChanges isRead template turn.now, rfl⟩
  succeeds := by
    rintro turn body ⟨op, accepted⟩ whole
    obtain ⟨changes, isRead, -⟩ := Outcome.map_eq_ok_iff.mp accepted
    rw [(updates_templateChanges template.id).submit_of_storable isRead
        (Form.isStorable_iff.mpr whole), Publishing.updateTemplate_eq consistent mem]
    rfl
  brokenText := by
    rintro turn body ⟨op, accepted⟩ broken
    obtain ⟨changes, isRead, -⟩ := Outcome.map_eq_ok_iff.mp accepted
    rw [(updates_templateChanges template.id).submit_of_unstorable isRead
        (Form.isStorable_eq_false_iff.mpr broken), Publishing.updateTemplate_eq consistent mem]
    rfl

theorem composes_pageChanges (consistent : service.store.Consistent) {page : Page}
    (mem : page ∈ service.store.pages) :
    service.Composes (.pageChanges page.id) .page Page.stamped Form.pageChanges.fieldNames := by
  refine (updates_pageChanges page.id).composes (fun _ _ => Result.page.inj)
    PageChanges.followedBy ?_ ?_ ?_ ?_
  · intro first second changes changes' distinct isRead isRead'
    exact Request.pageChanges_merge distinct isRead isRead'
  · intro first second changes changes' apart isRead isRead'
    exact Request.pageChanges_comm apart isRead isRead'
  · intro changes changes' time₁ time₂ row₁ row₂ store₁ store₂ once twice now
    exact ⟨_, Publishing.updatePage_followedBy consistent mem once twice now⟩
  · intro changes changes' time₁ time₂ row₁ row₂ store₁ store₂ once twice apart now now'
    exact Publishing.updatePage_swap consistent mem once twice apart now now'

theorem composes_templateChanges (consistent : service.store.Consistent) {template : Template}
    (mem : template ∈ service.store.templates) :
    service.Composes (.templateChanges template.id) .template Template.stamped
      Form.templateChanges.fieldNames := by
  refine (updates_templateChanges template.id).composes (fun _ _ => Result.template.inj)
    TemplateChanges.followedBy ?_ ?_ ?_ ?_
  · intro first second changes changes' distinct isRead isRead'
    exact Request.templateChanges_merge distinct isRead isRead'
  · intro first second changes changes' apart isRead isRead'
    exact Request.templateChanges_comm apart isRead isRead'
  · intro changes changes' time₁ time₂ row₁ row₂ store₁ store₂ once twice now
    exact ⟨_, Publishing.updateTemplate_followedBy consistent mem once twice now⟩
  · intro changes changes' time₁ time₂ row₁ row₂ store₁ store₂ once twice apart now now'
    exact Publishing.updateTemplate_swap consistent mem once twice apart now now'

end Rows

end Service

namespace Session

/-- What comes of bodies that change pages and templates, in every state that a session reaches. -/
theorem changes_compose (ttl : Micros) (steps : List (Micros × Action)) :
    let service := ((start ttl).run steps).2.service
    (∀ page ∈ service.store.pages, service.ChangesPage page ∧
      service.Composes (.pageChanges page.id) .page Page.stamped Form.pageChanges.fieldNames) ∧
    ∀ template ∈ service.store.templates, service.ChangesTemplate template ∧
      service.Composes (.templateChanges template.id) .template Template.stamped
        Form.templateChanges.fieldNames := by
  intro service
  have consistent : service.store.Consistent := ((isOrderly_start ttl).run steps).consistent
  constructor
  · intro page mem
    exact ⟨Service.changesPage consistent mem, Service.composes_pageChanges consistent mem⟩
  · intro template mem
    exact ⟨Service.changesTemplate consistent mem, Service.composes_templateChanges consistent mem⟩

/-- The first page gets a new name, and then a new slug and no theme; or all of it at once; or the
other way round. -/
theorem changes_compose_firstPage :
    let service := ((start 60).run firstPage).2.service
    let turn := ((start 60).run firstPage).2.nextTurn 0
    let page := Submission.pageChanges (identifier 11 2)
    let naming : Fields := [("name", .str "New")]
    let moving : Fields := [("slug", .str "moved"), ("theme", .null)]
    ∃ row₁ row₂ service₁ service₂,
      service.submit turn page (.obj naming) = .ok (.page row₁, service₁) ∧
      service₁.submit turn page (.obj moving) = .ok (.page row₂, service₂) ∧
      (∃ after, service.submit turn page (.obj (naming.merge moving)) =
        .ok (.page (row₂.stamped turn.now), after)) ∧
      ∃ row between, service.submit turn page (.obj moving) = .ok (.page row, between) ∧
        ∃ after, between.submit turn page (.obj naming) =
          .ok (.page (row₂.stamped turn.now), after) := by
  intro service turn page naming moving
  obtain ⟨row, mem, own⟩ : ∃ row ∈ service.store.pages, row.id = identifier 11 2 := by
    decide +kernel
  obtain ⟨-, composes⟩ := (changes_compose 60 firstPage).1 row mem
  rw [own] at composes
  have both : (service.submit turn page (.obj naming) >>= fun done =>
      done.2.submit turn page (.obj moving)).isOk = true := by
    decide +kernel
  cases made : service.submit turn page (.obj naming) >>= fun done =>
      done.2.submit turn page (.obj moving) with
  | error failure =>
    rw [made] at both
    cases both
  | ok done =>
    obtain ⟨_, service₂⟩ := done
    obtain ⟨⟨_, service₁⟩, once, twice⟩ := Outcome.bind_eq_ok_iff.mp made
    have updates := Service.updates_pageChanges (identifier 11 2)
    obtain ⟨-, -, row₁, -, -, -, rfl, -⟩ := updates.submit_eq_ok_iff.mp once
    obtain ⟨-, -, row₂, -, -, -, rfl, -⟩ := updates.submit_eq_ok_iff.mp twice
    exact ⟨row₁, row₂, service₁, service₂, once, twice,
      composes.merged once twice (by decide) turn, composes.swapped once twice (by decide) _ _⟩

/-- The first page keeps its slug, and is given a text with half of a pair. -/
def halvedCss : Fields := [("slug", .str "first"), ("custom_css", .str ⟨[.half 0xD800]⟩)]

/-- The same as a request to the server, where the half is escaped. -/
def halvedCssRequest : HttpRequest where
  id := "r1"
  origin := "http://testserver"
  method := "PATCH"
  target := "/api/v1/pages/b0000000-0000-4000-8000-000000000002/"
  payload := .text "\x7b\"slug\": \"first\", \"custom_css\": \"\\ud800\"\x7d"

/-- It is not enough that a valid body keeps the slug of its page: the page is not changed, as the
storage does not take the text. -/
theorem halvedCss_fails :
    let session := ((start 60).run firstPage).2
    (∃ page ∈ session.service.store.pages, page.id = identifier 11 2 ∧
      halvedCss.get? "slug" = some (.str page.slug)) ∧
    (Submission.pageChanges (identifier 11 2)).Accepts halvedCss ∧
    session.service.submit (session.nextTurn 0) (.pageChanges (identifier 11 2))
      (.obj halvedCss) = .error .brokenText ∧
    (session.service.handle (session.nextTurn 0) halvedCssRequest).1.status = 500 := by
  intro session
  have consistent := ((isOrderly_start 60).run firstPage).consistent
  obtain ⟨page, mem, own, slug⟩ : ∃ page ∈ session.service.store.pages,
      page.id = identifier 11 2 ∧ page.slug = "first" := by
    decide +kernel
  have keeps : halvedCss.get? "slug" = some (.str page.slug) := by rw [slug]; rfl
  have valid : (Submission.pageChanges page.id).Accepts halvedCss := ⟨_, rfl⟩
  have broken : PageChanges.HasBrokenText halvedCss :=
    ⟨"custom_css", by decide, ⟨[.half 0xD800]⟩, rfl, 0xD800, List.mem_singleton_self _⟩
  have changes := Service.changesPage consistent mem
  have told := changes.brokenText (session.nextTurn 0) halvedCss valid
    (changes.ownSlug (session.nextTurn 0) halvedCss valid keeps).1 broken
  rw [own] at valid told
  exact ⟨⟨page, mem, own, keeps⟩, valid, told, by decide +kernel⟩

end Session

end PagePress
