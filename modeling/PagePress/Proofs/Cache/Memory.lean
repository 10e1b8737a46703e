import PagePress.Cache.Memory

/-!
# Entries of the render cache

Where the entries of a cache come from. Reading brings no new entry, and writing brings one, which
takes the place of the older one of its slug.
-/

namespace PagePress.RenderCache

variable {cache : RenderCache} {now : Micros} {slug : String} {document : Document} {e : CacheEntry}

def entry (cache : RenderCache) (now : Micros) (slug : String) (document : Document) : CacheEntry :=
  { slug, document, expires := now + cache.ttl, written := cache.writes }

/-- A document is read from a live entry of its slug. -/
theorem get_fst_eq_some (h : (cache.get now slug).1 = some document) :
    ∃ e ∈ cache.entries, e.slug = slug ∧ e.document = document ∧ now < e.expires := by
  obtain ⟨e, found, same⟩ := Option.map_eq_some_iff.mp h
  obtain ⟨found, live⟩ := Option.filter_eq_some_iff.mp found
  exact ⟨e, List.mem_of_find?_eq_some found, by simpa using List.find?_some found, same,
    by simpa [CacheEntry.isLive] using live⟩

theorem mem_of_mem_touch (h : e ∈ (cache.touch slug).entries) : e ∈ cache.entries := by
  rcases List.mem_append.mp h with other | own
  · exact (List.mem_filter.mp other).1
  · exact List.mem_of_find?_eq_some (Option.mem_toList.mp own)

theorem mem_of_mem_expire (h : e ∈ (cache.expire now).entries) : e ∈ cache.entries := by
  unfold expire at h
  split at h
  · cases h
  · exact (List.mem_filter.mp h).1

/-- What stays when a slug is written to is not an entry of that slug. -/
theorem of_mem_kept (h : e ∈ cache.kept slug) : e ∈ cache.entries ∧ e.slug ≠ slug := by
  unfold kept at h
  split at h
  · simpa [without] using h
  · rename_i absent
    have mem : e ∈ cache.entries := List.mem_of_mem_drop h
    refine ⟨mem, fun same => absent ?_⟩
    exact List.any_eq_true.mpr ⟨e, mem, by simpa using same⟩

theorem expire_ttl : (cache.expire now).ttl = cache.ttl := by
  unfold expire
  split <;> rfl

theorem insert_ttl : (cache.insert now slug document).ttl = cache.ttl := expire_ttl

theorem of_mem_insert (h : e ∈ (cache.insert now slug document).entries) :
    e = cache.entry now slug document ∨ e ∈ cache.entries ∧ e.slug ≠ slug := by
  rcases List.mem_append.mp h with old | new
  · obtain ⟨mem, other⟩ := of_mem_kept old
    exact .inr ⟨mem_of_mem_expire mem, other⟩
  · exact .inl (List.mem_singleton.mp new)

end PagePress.RenderCache
