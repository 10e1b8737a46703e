import PagePress.Proofs.Element.Label
import PagePress.Proofs.Markup.Remaining
import PagePress.Proofs.Session.Creation

/-!
# Pages without open placeholders

A document shows no placeholder if its page has a content for every variable of its template and no
content has an opening brace. A page that has just been created is such a page: it has an element
for every variable, and the contents that elements start out with have no brace.
-/

namespace PagePress

namespace Store

variable {store : Store} {page : Page} {template : Template}

/-- What a page is rendered from, if its template is there. -/
theorem exists_source (page : Page) (found : store.template? page.templateId = some template) :
    ∃ source, store.source? page = some source ∧ source.html = template.html ∧
      source.contents = (store.elementsOf page.id).map fun e => (e.key, e.content) :=
  ⟨_, by rw [source?, found]; rfl, rfl, rfl⟩

/-- A new page has a content without an opening brace for every variable of the markup. -/
theorem IsNew.covers (new : store.IsNew page.id) (now : Micros) (html : String) :
    let elements := (store.addPage page (variableRows now page.id html)).elementsOf page.id
    (∀ name ∈ Markup.variableNames html.toList, ∃ e ∈ elements, e.key.toList = name) ∧
      ∀ e ∈ elements, '{' ∉ e.content.toList := by
  intro elements
  have rows : ∀ e, e ∈ elements ↔
      ∃ name ∈ Markup.variableNames html.toList, variableRow now page.id name = e := by
    intro e
    rw [← mem_variableRows]
    exact new.elementsOf_addPage_perm.mem_iff
  constructor
  · intro name mem
    exact ⟨variableRow now page.id name, (rows _).mpr ⟨name, mem, rfl⟩, String.toList_ofList⟩
  · intro e mem
    obtain ⟨name, isName, rfl⟩ := (rows e).mp mem
    have isVariable := (Markup.mem_variableNames_iff.mp isName).1
    exact ElementDefaults.not_mem_content isVariable (by simp)

end Store

namespace Publishing

variable {store store' : Store} {now : Micros} {id : Uuid} {data : NewPage} {page : Page}

/-- The document of a page that has just been created has no open placeholder. -/
theorem Creation.exists_closed_source (consistent : store.Consistent) (new : store.IsNew id)
    (creation : Creation store now id data (.ok (page, store'))) :
    ∃ template ∈ store.templates, template.id = data.templateId ∧
      ∃ source, store'.source? page = some source ∧ source.html = template.html ∧
        (Markup.IsBraced template.html.toList → ¬['{', '{'] <:+: source.body) := by
  cases creation with
  | @made template customer hasTemplate own hasCustomer owner free =>
    have newRow : store.IsNew (data.row now id).id := new
    obtain ⟨covered, plain⟩ := newRow.covers now template.html
    have found : (store.addPage (data.row now id)
        (Store.variableRows now id template.html)).template? data.templateId = some template :=
      consistent.template?_eq_some_iff.mpr ⟨hasTemplate, own⟩
    obtain ⟨source, has, html, contents⟩ := Store.exists_source (data.row now id) found
    refine ⟨template, hasTemplate, own, source, has, html, fun braced => ?_⟩
    rw [Markup.Source.body, html, contents, List.map_map]
    refine braced.substituteAll_closed ?_ ?_
    · intro entry mem
      obtain ⟨e, isElement, rfl⟩ := List.mem_map.mp mem
      exact plain e isElement
    · intro name mem
      obtain ⟨e, isElement, rfl⟩ := covered name mem
      rw [List.map_map]
      exact List.mem_map_of_mem isElement

end Publishing

/-- Nothing is left open where every variable has a content without an opening brace, whatever other
keys have contents and in whatever order. So the document of a page that has just been created has
no open placeholder, in every state that a session reaches. -/
theorem Session.substitution_closed :
    (∀ (html : List Char) (contents : List (List Char × List Char)), Markup.IsBraced html →
      (∀ name ∈ Markup.variableNames html, name ∈ contents.map Prod.fst) →
      (∀ entry ∈ contents, '{' ∉ entry.2) →
      ¬['{', '{'] <:+: Markup.substituteAll html contents) ∧
    ∀ (ttl : Micros) (steps : List (Micros × Action)) (turn : Turn) (data : NewPage) (page : Page)
      (store' : Store),
      let store := ((start ttl).run steps).2.service.store
      store.IsNew turn.pageId →
      Publishing.createPage store turn.now turn.pageId data = .ok (page, store') →
      ∃ template ∈ store.templates, template.id = data.templateId ∧
        ∃ source, store'.source? page = some source ∧ source.html = template.html ∧
          (Markup.IsBraced template.html.toList → ¬['{', '{'] <:+: source.body) := by
  constructor
  · intro html contents braced covered plain
    exact braced.substituteAll_closed plain covered
  · intro ttl steps turn data page store' store new made
    have consistent : store.Consistent := ((isOrderly_start ttl).run steps).consistent
    have way : Publishing.Creation store turn.now turn.pageId data
        (Publishing.createPage store turn.now turn.pageId data) :=
      Publishing.creation consistent new
    rw [made] at way
    exact way.exists_closed_source consistent new

/-- A slot with a placeholder in it, and one more behind it. -/
def openHeading : List Char :=
  "<h1 data-element=\"title\">\x7b\x7btitle\x7d\x7d!</h1>\x7b\x7bend\x7d\x7d\x7d".toList

/-- A content for each variable of the heading, after one for a key that reaches beyond the end of a
placeholder. -/
def headingContents : List (List Char × List Char) :=
  [("end\x7d".toList, "\x7d".toList), ("title".toList, "Hi".toList), ("end".toList, [])]

theorem Session.substitution_closed_heading :
    (Markup.IsBraced openHeading ∧
      (∀ name ∈ Markup.variableNames openHeading, name ∈ headingContents.map Prod.fst) ∧
      (∀ entry ∈ headingContents, '{' ∉ entry.2) ∧
      ¬['{', '{'] <:+: Markup.substituteAll openHeading headingContents ∧
      Markup.substituteAll openHeading headingContents =
        "<h1 data-element=\"title\">Hi</h1>\x7d".toList) ∧
    let store := ((start 60).run firstPage).2.service.store
    let turn := ((start 60).run firstPage).2.nextTurn 0
    store.IsNew turn.pageId ∧ ∃ page store',
      Publishing.createPage store turn.now turn.pageId secondPage = .ok (page, store') ∧
      ∃ source, store'.source? page = some source ∧ Markup.IsBraced source.html.toList ∧
        ¬['{', '{'] <:+: source.body := by
  refine ⟨?_, ?_⟩
  · have braced : Markup.IsBraced openHeading := by decide +kernel
    have covered : ∀ name ∈ Markup.variableNames openHeading,
        name ∈ headingContents.map Prod.fst := by
      decide +kernel
    have plain : ∀ entry ∈ headingContents, '{' ∉ entry.2 := by decide
    exact ⟨braced, covered, plain, substitution_closed.1 _ _ braced covered plain,
      by decide +kernel⟩
  · intro store turn
    have new : store.IsNew turn.pageId :=
      isNew_nextTurn 60 (show ∀ step ∈ firstPage, step.2.isChecked = true by decide) 0
    have succeeds : (Publishing.createPage store turn.now turn.pageId secondPage).isOk = true := by
      decide +kernel
    have allBraced : ∀ template ∈ store.templates, Markup.IsBraced template.html.toList := by
      decide +kernel
    cases made : Publishing.createPage store turn.now turn.pageId secondPage with
    | error failure =>
      rw [made] at succeeds
      cases succeeds
    | ok result =>
      obtain ⟨page, store'⟩ := result
      obtain ⟨template, stored, -, source, has, html, closed⟩ :=
        substitution_closed.2 60 firstPage turn secondPage page store' new made
      have braced : Markup.IsBraced template.html.toList := allBraced template stored
      exact ⟨new, page, store', rfl, source, has, html ▸ braced, closed braced⟩

end PagePress
