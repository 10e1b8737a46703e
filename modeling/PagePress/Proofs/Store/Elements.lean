import PagePress.Proofs.Store.Consistency

/-!
# The elements of a page

The elements of a page are listed by key. In a consistent store the list is determined by which
elements there are, in whatever order they were added.
-/

namespace PagePress.Store

variable {store a b : Store} {pageId : Uuid}

theorem mem_elementsOf {e : Element} :
    e ∈ store.elementsOf pageId ↔ e ∈ store.elements ∧ e.pageId = pageId := by
  simp [elementsOf, List.mem_mergeSort]

theorem elementsOf_sorted (store : Store) (pageId : Uuid) :
    (store.elementsOf pageId).Pairwise fun e next => e.key ≤ next.key := by
  have sorted : (store.elementsOf pageId).Pairwise fun e next => decide (e.key ≤ next.key) := by
    refine List.pairwise_mergeSort (fun e next last hfirst hlast => ?_) (fun e other => ?_) _
    · simp only [decide_eq_true_eq] at hfirst hlast ⊢
      exact String.le_trans hfirst hlast
    · simpa using String.le_total e.key other.key
  exact sorted.imp of_decide_eq_true

/-- No two elements of a page have the same key. -/
theorem Consistent.eq_of_mem_elementsOf (h : store.Consistent) {e other : Element}
    (he : e ∈ store.elementsOf pageId) (hother : other ∈ store.elementsOf pageId)
    (same : e.key = other.key) : e = other := by
  obtain ⟨he, own⟩ := mem_elementsOf.1 he
  obtain ⟨hother, own'⟩ := mem_elementsOf.1 hother
  exact h.places.eq_of_mem he hother (Prod.ext (own.trans own'.symm) same)

theorem Consistent.nodup_elements (h : store.Consistent) : store.elements.Nodup :=
  List.Nodup.of_map _ h.places

theorem Consistent.nodup_keys (h : store.Consistent) (pageId : Uuid) :
    ((store.elementsOf pageId).map (·.key)).Nodup := by
  refine List.Nodup.map_on (fun e he other hother => h.eq_of_mem_elementsOf he hother) ?_
  exact (List.mergeSort_perm _ _).nodup_iff.mpr (h.nodup_elements.filter _)

/-- Lists in the order of their keys, without a key twice, are the same if their members are. -/
theorem eq_of_sorted_keys {α : Type} {key : α → String} {l l' : List α}
    (keys : (l.map key).Nodup) (keys' : (l'.map key).Nodup)
    (sorted : l.Pairwise fun entry next => key entry ≤ key next)
    (sorted' : l'.Pairwise fun entry next => key entry ≤ key next)
    (same : ∀ entry, entry ∈ l ↔ entry ∈ l') : l = l' := by
  have lists : l.Perm l' :=
    (List.perm_ext_iff_of_nodup (.of_map key keys) (.of_map key keys')).mpr same
  refine lists.eq_of_pairwise (fun entry next hentry hnext first last => ?_) sorted sorted'
  exact List.inj_on_of_nodup_map keys hentry (lists.mem_iff.mpr hnext)
    (String.le_antisymm first last)

/-- Consistent stores that hold the same elements of a page list them alike. -/
theorem elementsOf_congr (ha : a.Consistent) (hb : b.Consistent)
    (same : ∀ e, e.pageId = pageId → (e ∈ a.elements ↔ e ∈ b.elements)) :
    a.elementsOf pageId = b.elementsOf pageId := by
  refine eq_of_sorted_keys (ha.nodup_keys pageId) (hb.nodup_keys pageId)
    (elementsOf_sorted a pageId) (elementsOf_sorted b pageId) fun e => ?_
  rw [mem_elementsOf, mem_elementsOf, and_congr_left_iff]
  exact same e

/-! ## Contents by key -/

def contentsOf (store : Store) (pageId : Uuid) : List (String × String) :=
  (store.elementsOf pageId).map fun e => (e.key, e.content)

/-- The content under a key can be looked up among the contents of all elements. -/
theorem map_content_element? (store : Store) (pageId : Uuid) (key : String) :
    (store.element? pageId key).map (·.content) =
      ((store.elements.map fun e => (e.pageId, e.key, e.content)).find?
        fun row => row.1 = pageId && row.2.1 = key).map (·.2.2) := by
  rw [List.find?_map, Option.map_map]
  rfl

theorem Consistent.mem_contentsOf_iff (h : store.Consistent) {key content : String} :
    (key, content) ∈ store.contentsOf pageId ↔
      (store.element? pageId key).map (·.content) = some content := by
  rw [contentsOf, List.mem_map, Option.map_eq_some_iff]
  refine exists_congr fun e => ?_
  rw [mem_elementsOf, h.element?_eq_some_iff, Prod.mk.injEq, Element.place, Prod.mk.injEq]
  tauto

theorem Consistent.nodup_contentsOf_keys (h : store.Consistent) (pageId : Uuid) :
    ((store.contentsOf pageId).map Prod.fst).Nodup := by
  rw [contentsOf, List.map_map]
  exact h.nodup_keys pageId

theorem contentsOf_sorted (store : Store) (pageId : Uuid) :
    (store.contentsOf pageId).Pairwise fun entry next => entry.1 ≤ next.1 :=
  List.pairwise_map.mpr (elementsOf_sorted store pageId)

/-- The list of the contents is determined by the content under every key. -/
theorem contentsOf_congr (ha : a.Consistent) (hb : b.Consistent) {other : Uuid}
    (same : ∀ key, (a.element? pageId key).map (·.content) =
      (b.element? other key).map (·.content)) :
    a.contentsOf pageId = b.contentsOf other := by
  refine eq_of_sorted_keys (ha.nodup_contentsOf_keys pageId) (hb.nodup_contentsOf_keys other)
    (contentsOf_sorted a pageId) (contentsOf_sorted b other) fun ⟨key, content⟩ => ?_
  rw [ha.mem_contentsOf_iff, hb.mem_contentsOf_iff, same]

end PagePress.Store
