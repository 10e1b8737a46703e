import PagePress.Proofs.Cache.Memory
import PagePress.Proofs.Store.Consistency
import PagePress.Publishing.Rendering

/-!
# What rendering gives

Rendering is a hit, or a look at the store, which shows a page, fails to show it, or has none to
show.
-/

namespace PagePress

/-- The page that the public sees under the slug. -/
structure Store.Shows (store : Store) (slug : String) (page : Page) : Prop where
  stored : page ∈ store.pages
  slug : page.slug = slug
  isPublished : page.isPublished = true

theorem Store.Consistent.published?_eq_some_iff {store : Store} (h : store.Consistent)
    {slug : String} {page : Page} :
    (store.pageWithSlug? slug).filter (·.isPublished) = some page ↔ store.Shows slug page := by
  rw [Option.filter_eq_some_iff, h.pageWithSlug?_eq_some_iff]
  exact ⟨fun ⟨⟨stored, slug⟩, isPublished⟩ => ⟨stored, slug, isPublished⟩,
    fun ⟨stored, slug, isPublished⟩ => ⟨⟨stored, slug⟩, isPublished⟩⟩

/-- At most one page is shown under a slug. -/
theorem Store.Shows.unique {store : Store} (consistent : store.Consistent) {slug : String}
    {page other : Page} (h : store.Shows slug page) (h' : store.Shows slug other) :
    page = other :=
  consistent.slugs.eq_of_mem h.stored h'.stored (h.slug.trans h'.slug.symm)

namespace Publishing

/-- The ways in which rendering can go, each with what it gives. -/
inductive Rendered (store : Store) (cache : RenderCache) (now : Micros) (slug : String) :
    Outcome (Rendering × RenderCache) → Prop where
  | hit {e : CacheEntry} (kept : e ∈ cache.entries) (own : e.slug = slug)
      (live : now < e.expires) :
      Rendered store cache now slug (.ok (.document e.document true, cache.touch slug))
  | missing (hidden : ∀ page, ¬store.Shows slug page) :
      Rendered store cache now slug (.ok (.notFound, cache.touch slug))
  | failed {page : Page} {failure : Failure} (shown : store.Shows slug page)
      (failed : document store page = .error failure) :
      Rendered store cache now slug (.error failure)
  | made {page : Page} {made : Document} (shown : store.Shows slug page)
      (made_eq : document store page = .ok made) :
      Rendered store cache now slug
        (.ok (.document made false, (cache.touch slug).insert now slug made))

theorem rendered {store : Store} (consistent : store.Consistent) (cache : RenderCache)
    (now : Micros) (slug : String) :
    Rendered store cache now slug (render store cache now slug) := by
  unfold render
  split
  · rename_i document cache' hget
    obtain ⟨hdocument, rfl⟩ := Prod.mk.inj hget
    obtain ⟨e, kept, own, rfl, live⟩ := RenderCache.get_fst_eq_some hdocument
    exact .hit kept own live
  · rename_i cache' hget
    obtain ⟨-, rfl⟩ := Prod.mk.inj hget
    split
    · rename_i hidden
      refine .missing fun page shown => ?_
      rw [consistent.published?_eq_some_iff.mpr shown] at hidden
      cases hidden
    · rename_i page found
      have shown := consistent.published?_eq_some_iff.mp found
      cases made : document store page with
      | ok made => exact .made shown ‹_›
      | error failure => exact .failed shown ‹_›

end Publishing

end PagePress
