import PagePress.Proofs.Cache.History
import PagePress.Proofs.Cache.Memory
import PagePress.Proofs.Store.Table

/-!
# What a cache keeps

A document can be read as long as it may be served, unless as many other slugs as there are entries
were used since. The invariant ties every entry to the last write of its slug, and the order of the
live entries to the order in which their slugs were used. Entries that have expired may stand
anywhere, as reading moves them to the end without being a use; they are gone with the next write.
-/

namespace PagePress

variable {ttl now time : Micros} {capacity : Nat} {past : List CacheEvent} {cache : RenderCache}
  {slug other : String} {document : Document} {e : CacheEntry}

theorem CacheEntry.isLive_iff : e.isLive now = true ↔ now < e.expires := decide_eq_true_iff

namespace RenderCache

/-! ## Entries -/

/-- Reading changes the order of the entries, and nothing else. -/
theorem touch_perm (distinct : Table.Unique (·.slug) cache.entries) (slug : String) :
    (cache.touch slug).entries.Perm cache.entries := by
  have own : (cache.entries.find? (·.slug = slug)).toList =
      cache.entries.filter (·.slug = slug) := distinct.toList_find? slug
  have others : cache.without slug = cache.entries.filter fun e => !decide (e.slug = slug) := by
    simp [without]
  rw [touch, own, others]
  exact List.perm_append_comm.trans (List.filter_append_perm _ _)

theorem kept_sublist (cache : RenderCache) (slug : String) :
    (cache.kept slug).Sublist cache.entries := by
  unfold kept
  split
  · exact List.filter_sublist
  · exact List.drop_sublist _ _

theorem length_kept_lt (room : 0 < cache.capacity)
    (length_le : cache.entries.length ≤ cache.capacity) (slug : String) :
    (cache.kept slug).length < cache.capacity := by
  unfold kept
  split
  · rename_i present
    obtain ⟨e, mem, own⟩ := List.any_eq_true.mp present
    have fewer : (cache.without slug).length < cache.entries.length :=
      List.length_filter_lt_length_iff_exists.mpr ⟨e, mem, by simpa using own⟩
    omega
  · rw [List.length_drop]
    omega

/-- An entry of another slug goes only if it is the first of a full cache. -/
theorem exists_of_not_mem_kept (length_le : cache.entries.length ≤ cache.capacity)
    (mem : e ∈ cache.entries) (apart : e.slug ≠ slug) (gone : e ∉ cache.kept slug) :
    ∃ rest, cache.entries = e :: rest ∧ rest.length + 1 = cache.capacity ∧
      ∀ entry ∈ cache.entries, entry.slug ≠ slug := by
  unfold kept at gone
  split at gone
  · exact absurd (List.mem_filter.mpr ⟨mem, by simpa using apart⟩) gone
  · rename_i absent
    have free : ∀ entry ∈ cache.entries, entry.slug ≠ slug := by simpa using absent
    cases parts : cache.entries with
    | nil => simp [parts] at mem
    | cons first rest =>
      rw [parts] at gone mem length_le
      have full : (first :: rest).length + 1 - cache.capacity = 1 := by
        have some_gone : (first :: rest).length + 1 - cache.capacity ≠ 0 := by
          intro none_gone
          rw [none_gone] at gone
          exact gone mem
        simp only [List.length_cons] at length_le some_gone ⊢
        omega
      rw [full] at gone
      rcases List.mem_cons.mp mem with rfl | mem
      · refine ⟨rest, rfl, ?_, parts ▸ free⟩
        simp only [List.length_cons] at full length_le
        omega
      · exact absurd mem gone

/-- Of the live entries, the one that is read comes last. -/
theorem live_touch (cache : RenderCache) (now : Micros) (slug : String) :
    (cache.touch slug).entries.filter (·.isLive now) =
      (cache.without slug).filter (·.isLive now) ++ (cache.find? now slug).toList := by
  rw [touch, List.filter_append, find?, Option.toList_filter]

/-! ## The invariant -/

/-- The cache holds what it must after the steps of the past, the last of them taken at `now` or
before. -/
structure Holds (ttl : Micros) (capacity : Nat) (past : List CacheEvent) (now : Micros)
    (cache : RenderCache) : Prop where
  ttl_eq : cache.ttl = ttl
  capacity_eq : cache.capacity = capacity
  distinct : Table.Unique (·.slug) cache.entries
  length_le : cache.entries.length ≤ capacity
  /-- An entry has the document that was written last. -/
  source : ∀ e ∈ cache.entries, ∃ time, lastWrite? past e.slug = some (time, e.document) ∧
    e.expires = time + ttl ∧ time ≤ now
  written_lt : ∀ e ∈ cache.entries, e.written < cache.writes
  /-- Entries expire in the order in which they were written. -/
  expires_le : ∀ e ∈ cache.entries, ∀ later ∈ cache.entries, e.written ≤ later.written →
    e.expires ≤ later.expires
  /-- Live entries stand in the order of their last use. -/
  recency : (cache.entries.filter (·.isLive now)).Pairwise fun e later =>
    later.slug ∈ usedSince past e.slug
  /-- An entry that is missed before its time made room for others. -/
  missing : ∀ slug time document, lastWrite? past slug = some (time, document) →
    now < time + ttl → (∀ e ∈ cache.entries, e.slug ≠ slug) →
    capacity ≤ (usedSince past slug).toFinset.card

/-- An empty cache holds all that it must. -/
theorem holds_empty (ttl : Micros) (capacity : Nat) (now : Micros) :
    Holds ttl capacity [] now { ttl, capacity } where
  ttl_eq := rfl
  capacity_eq := rfl
  distinct := .nil
  length_le := Nat.zero_le _
  source := by simp
  written_lt := by simp
  expires_le := by simp
  recency := .nil
  missing := by simp [lastWrite?]

namespace Holds

/-- Nothing is asked of the cache because time passes. -/
theorem mono (h : Holds ttl capacity past now cache) (le : now ≤ time) :
    Holds ttl capacity past time cache :=
  { h with
    source := by
      intro e mem
      obtain ⟨written, last, expires, before⟩ := h.source e mem
      exact ⟨written, last, expires, before.trans le⟩
    recency := by
      refine h.recency.sublist (List.monotone_filter_right _ fun e live => ?_)
      rw [CacheEntry.isLive_iff] at live ⊢
      exact le.trans_lt live
    missing := by
      intro slug written document last live
      exact h.missing slug written document last (le.trans_lt live) }

/-- A live entry is found by its slug. -/
theorem find?_eq_some_iff (h : Holds ttl capacity past now cache) :
    cache.find? now slug = some e ↔ e ∈ cache.entries ∧ e.slug = slug ∧ now < e.expires := by
  rw [find?, Option.filter_eq_some_iff, h.distinct.find?_eq_some_iff, CacheEntry.isLive_iff,
    and_assoc]

/-- With the clock, all entries expire that are due. -/
theorem expire_entries (h : Holds ttl capacity past now cache) :
    (cache.expire now).entries = cache.entries.filter (·.isLive now) := by
  unfold expire
  cases hfirst : cache.firstLive? now with
  | none =>
    rw [firstLive?, List.min?_eq_none_iff, List.map_eq_nil_iff] at hfirst
    exact hfirst.symm
  | some first =>
    obtain ⟨mem, least⟩ := List.min?_eq_some_iff.mp hfirst
    obtain ⟨oldest, first, rfl⟩ := List.mem_map.mp mem
    obtain ⟨inside, live⟩ := List.mem_filter.mp first
    refine List.filter_congr fun e entry => ?_
    rw [Bool.eq_iff_iff, decide_eq_true_eq]
    constructor
    · intro later
      rw [CacheEntry.isLive_iff] at live ⊢
      exact live.trans_le (h.expires_le oldest inside e entry later)
    · intro live
      exact least _ (List.mem_map_of_mem (List.mem_filter.mpr ⟨entry, live⟩))

/-- A use puts the entry of its slug behind all others. -/
theorem pairwise_use {event : CacheEvent} {entries others : List CacheEntry}
    (used : event.used? = some slug) (own : e.slug = slug) (sublist : others.Sublist entries)
    (apart : ∀ other ∈ others, other.slug ≠ slug)
    (recency : entries.Pairwise fun e later => later.slug ∈ usedSince past e.slug) :
    (others ++ [e]).Pairwise fun e later => later.slug ∈ usedSince (past ++ [event]) e.slug := by
  have since : ∀ other ∈ others, usedSince (past ++ [event]) other.slug =
      usedSince past other.slug ++ [slug] := by
    intro other mem
    simp [usedSince_append, used, (apart other mem).symm]
  rw [List.pairwise_append]
  refine ⟨?_, List.pairwise_singleton _ _, ?_⟩
  · refine (recency.sublist sublist).imp_of_mem fun {x y} mem _ before => ?_
    rw [since x mem]
    exact List.mem_append_left _ before
  · intro x mem y last
    obtain rfl := List.mem_singleton.mp last
    rw [since x mem, own]
    simp

/-! ### Reading -/

/-- The invariant is kept up by what only moves entries and writes nothing. -/
theorem of_perm {event : CacheEvent} (h : Holds ttl capacity past now cache)
    (nothing : ∀ slug, event.written? slug = none) {entries : List CacheEntry}
    (perm : entries.Perm cache.entries)
    (recency : (entries.filter (·.isLive now)).Pairwise fun e later =>
      later.slug ∈ usedSince (past ++ [event]) e.slug)
    (held : ∀ slug, event.used? = some slug → ∃ e ∈ cache.entries, e.slug = slug) :
    Holds ttl capacity (past ++ [event]) now { cache with entries } := by
  have last : ∀ slug, lastWrite? (past ++ [event]) slug = lastWrite? past slug := by
    intro slug
    rw [lastWrite?_append, nothing, Option.none_or]
  refine ⟨h.ttl_eq, h.capacity_eq, (perm.map _).nodup_iff.mpr h.distinct,
    perm.length_eq.trans_le h.length_le, ?_, ?_, ?_, recency, ?_⟩
  · intro e mem
    rw [last]
    exact h.source e (perm.mem_iff.mp mem)
  · exact fun e mem => h.written_lt e (perm.mem_iff.mp mem)
  · exact fun e mem later mem' => h.expires_le e (perm.mem_iff.mp mem) later (perm.mem_iff.mp mem')
  · intro slug time document last' live absent
    have absent : ∀ e ∈ cache.entries, e.slug ≠ slug := fun e mem =>
      absent e (perm.mem_iff.mpr mem)
    have unused : event.used? ≠ some slug := by
      intro used
      obtain ⟨e, mem, own⟩ := held slug used
      exact absent e mem own
    rw [last] at last'
    refine (h.missing slug time document last' live absent).trans (Finset.card_le_card ?_)
    intro other mem
    simp only [List.mem_toFinset] at mem ⊢
    exact usedSince_subset_append unused mem

theorem read (h : Holds ttl capacity past now cache) (slug : String) :
    Holds ttl capacity (past ++ [⟨now, .read slug, (cache.get now slug).1⟩]) now
      (cache.touch slug) := by
  have others : ((cache.without slug).filter (·.isLive now)).Sublist
      (cache.entries.filter (·.isLive now)) := List.filter_sublist.filter _
  have recency : ((cache.touch slug).entries.filter (·.isLive now)).Pairwise fun e later =>
      later.slug ∈ usedSince (past ++ [⟨now, .read slug, (cache.get now slug).1⟩]) e.slug := by
    rw [live_touch]
    cases found : cache.find? now slug with
    | none =>
      have unused : CacheEvent.used? ⟨now, .read slug, (cache.get now slug).1⟩ = none := by
        simp [CacheEvent.used?, get, found]
      simp only [usedSince_append, unused, Option.toList_none, List.append_nil]
      exact h.recency.sublist others
    | some e =>
      obtain ⟨-, own, -⟩ := h.find?_eq_some_iff.mp found
      have used : CacheEvent.used? ⟨now, .read slug, (cache.get now slug).1⟩ = some slug := by
        simp [CacheEvent.used?, get, found]
      exact pairwise_use used own others (by simp [without]) h.recency
  refine h.of_perm (fun _ => rfl) (touch_perm h.distinct slug) recency ?_
  intro other used
  obtain ⟨document, answered, rfl⟩ := Option.map_eq_some_iff.mp used
  obtain ⟨e, mem, own, -⟩ := get_fst_eq_some answered
  exact ⟨e, mem, own⟩

/-! ### Writing -/

theorem mem_expire_iff (h : Holds ttl capacity past now cache) :
    e ∈ (cache.expire now).entries ↔ e ∈ cache.entries ∧ now < e.expires := by
  rw [h.expire_entries, List.mem_filter, CacheEntry.isLive_iff]

theorem expire_capacity (cache : RenderCache) (now : Micros) :
    (cache.expire now).capacity = cache.capacity := by
  unfold expire
  split <;> rfl

theorem length_expire_le (h : Holds ttl capacity past now cache) :
    (cache.expire now).entries.length ≤ (cache.expire now).capacity := by
  rw [expire_capacity, h.capacity_eq, h.expire_entries]
  exact (List.length_filter_le _ _).trans h.length_le

theorem insert_entries (cache : RenderCache) (now : Micros) (slug : String) (document : Document) :
    (cache.insert now slug document).entries =
      (cache.expire now).kept slug ++ [cache.entry now slug document] := rfl

/-- What makes room is alive, so that there is always room. -/
theorem insert?_eq (h : Holds ttl capacity past now cache) (room : 0 < capacity) (slug : String)
    (document : Document) :
    cache.insert? now slug document = .ok (cache.insert now slug document) := by
  have roomy : cache.capacity ≠ 0 := by
    rw [h.capacity_eq]
    omega
  have live : ((cache.expire now).evicted slug).all (·.isLive now) = true := by
    refine List.all_eq_true.mpr fun e gone => ?_
    have mem : e ∈ (cache.expire now).entries := by
      unfold evicted at gone
      split at gone
      · cases gone
      · exact List.mem_of_mem_take gone
    exact CacheEntry.isLive_iff.mpr (h.mem_expire_iff.mp mem).2
  rw [insert?, if_neg roomy, if_pos live]

/-- An entry that goes although it is alive makes room for as many others as there are entries. -/
theorem card_usedSince_of_gone (h : Holds ttl capacity past now cache) {event : CacheEvent}
    (used : event.used? = some slug) (mem : e ∈ cache.entries) (live : now < e.expires)
    (apart : e.slug ≠ slug) (gone : e ∉ (cache.expire now).kept slug) :
    capacity ≤ (usedSince (past ++ [event]) e.slug).toFinset.card := by
  obtain ⟨rest, parts, full, free⟩ :=
    exists_of_not_mem_kept h.length_expire_le (h.mem_expire_iff.mpr ⟨mem, live⟩) apart gone
  rw [expire_capacity, h.capacity_eq] at full
  rw [parts] at free
  have recency : (e :: rest).Pairwise fun e later => later.slug ∈ usedSince past e.slug := by
    rw [← parts, h.expire_entries]
    exact h.recency
  have distinct : Table.Unique (·.slug) (e :: rest) := by
    rw [← parts, h.expire_entries]
    exact h.distinct.filter _
  have since : usedSince (past ++ [event]) e.slug = usedSince past e.slug ++ [slug] := by
    simp [usedSince_append, used, apart.symm]
  -- the slugs of the other entries, and the one that is written to, are all different
  have others : (slug :: rest.map (·.slug)).Nodup := by
    refine List.nodup_cons.mpr ⟨?_, (List.nodup_cons.mp distinct).2⟩
    intro among
    obtain ⟨entry, inside, own⟩ := List.mem_map.mp among
    exact free entry (List.mem_cons_of_mem e inside) own
  calc capacity = (slug :: rest.map (·.slug)).toFinset.card := by
        rw [List.toFinset_card_of_nodup others, List.length_cons, List.length_map, full]
    _ ≤ (usedSince (past ++ [event]) e.slug).toFinset.card := by
        refine Finset.card_le_card fun other mem => ?_
        rw [List.mem_toFinset] at mem ⊢
        rw [since]
        rcases List.mem_cons.mp mem with rfl | mem
        · simp
        · obtain ⟨entry, inside, rfl⟩ := List.mem_map.mp mem
          exact List.mem_append_left _ ((List.pairwise_cons.mp recency).1 entry inside)

section Write

variable (h : Holds ttl capacity past now cache) (slug : String) (document : Document)

theorem lastWrite?_write_self (past : List CacheEvent) (now : Micros) :
    lastWrite? (past ++ [⟨now, .write slug document, none⟩]) slug = some (now, document) := by
  simp [lastWrite?_append, CacheEvent.written?]

variable {slug} in
theorem lastWrite?_write_of_ne (past : List CacheEvent) (now : Micros) (apart : other ≠ slug) :
    lastWrite? (past ++ [⟨now, .write slug document, none⟩]) other = lastWrite? past other := by
  simp [lastWrite?_append, CacheEvent.written?, apart.symm]

include h

theorem length_insert_le (room : 0 < capacity) :
    (cache.insert now slug document).entries.length ≤ capacity := by
  have roomy : 0 < (cache.expire now).capacity := by
    rw [expire_capacity, h.capacity_eq]
    exact room
  have lt := length_kept_lt roomy h.length_expire_le slug
  rw [expire_capacity, h.capacity_eq] at lt
  rw [insert_entries, List.length_append]
  exact lt

theorem missing_insert (target : String) (time : Micros) (document' : Document)
    (last : lastWrite? (past ++ [⟨now, .write slug document, none⟩]) target =
      some (time, document')) (live : now < time + ttl)
    (absent : ∀ e ∈ (cache.insert now slug document).entries, e.slug ≠ target) :
    capacity ≤
      (usedSince (past ++ [⟨now, .write slug document, none⟩]) target).toFinset.card := by
  rw [insert_entries] at absent
  have apart : target ≠ slug := by
    rintro rfl
    exact absent (cache.entry now target document) (by simp) rfl
  rw [lastWrite?_write_of_ne document past now apart] at last
  by_cases held : ∃ e ∈ cache.entries, e.slug = target
  · obtain ⟨e, mem, rfl⟩ := held
    obtain ⟨written, last', expires, -⟩ := h.source e mem
    obtain ⟨rfl, -⟩ := Prod.mk.inj (Option.some.inj (last'.symm.trans last))
    refine h.card_usedSince_of_gone rfl mem (expires ▸ live) apart fun kept => ?_
    exact absent e (List.mem_append_left _ kept) rfl
  · have unheld : ∀ e ∈ cache.entries, e.slug ≠ target := fun e mem same => held ⟨e, mem, same⟩
    have unused : CacheEvent.used? ⟨now, .write slug document, none⟩ ≠ some target := fun same =>
      apart (Option.some.inj same).symm
    refine (h.missing target time document' last live unheld).trans (Finset.card_le_card ?_)
    intro used mem
    rw [List.mem_toFinset] at mem ⊢
    exact usedSince_subset_append unused mem

theorem write (room : 0 < capacity) :
    Holds ttl capacity (past ++ [⟨now, .write slug document, none⟩]) now
      (cache.insert now slug document) := by
  have entries := insert_entries cache now slug document
  have sublist : ((cache.expire now).kept slug).Sublist (cache.entries.filter (·.isLive now)) := by
    rw [← h.expire_entries]
    exact kept_sublist _ _
  have apart : ∀ e ∈ (cache.expire now).kept slug, e.slug ≠ slug := fun e mem => (of_mem_kept mem).2
  have expires : (cache.entry now slug document).expires = now + ttl := by rw [entry, h.ttl_eq]
  refine ⟨insert_ttl.trans h.ttl_eq, (expire_capacity cache now).trans h.capacity_eq,
    ?_, h.length_insert_le slug document room, ?_, ?_, ?_, ?_, h.missing_insert slug document⟩
  · rw [entries]
    exact Table.Unique.append_singleton (List.Nodup.sublist (sublist.map _) (h.distinct.filter _))
      apart
  · intro e mem
    rcases of_mem_insert mem with rfl | ⟨old, ne⟩
    · exact ⟨now, lastWrite?_write_self slug document past now, expires, Int.le_refl now⟩
    · rw [lastWrite?_write_of_ne document past now ne]
      exact h.source e old
  · intro e mem
    show e.written < cache.writes + 1
    rcases of_mem_insert mem with rfl | ⟨old, -⟩
    · exact Nat.lt_succ_self _
    · exact Nat.lt_succ_of_lt (h.written_lt e old)
  · intro e mem later mem' before
    rcases of_mem_insert mem with rfl | ⟨old, -⟩ <;>
      rcases of_mem_insert mem' with rfl | ⟨old', -⟩
    · exact Int.le_refl _
    · exact absurd before (Nat.not_le.mpr (h.written_lt later old'))
    · obtain ⟨written, -, due, past⟩ := h.source e old
      rw [expires, due]
      exact Int.add_le_add_right past ttl
    · exact h.expires_le e old later old' before
  · rw [entries]
    exact (pairwise_use rfl rfl sublist apart h.recency).sublist List.filter_sublist

end Write

/-- A step can always be taken. -/
theorem step (h : Holds ttl capacity past now cache) (room : 0 < capacity) (le : now ≤ time)
    (step : CacheStep) :
    ∃ answer cache', cache.step time step = .ok (answer, cache') ∧
      Holds ttl capacity (past ++ [⟨time, step, answer⟩]) time cache' := by
  have h := h.mono le
  cases step with
  | read slug => exact ⟨_, _, rfl, h.read slug⟩
  | write slug document =>
    refine ⟨none, _, ?_, h.write slug document room⟩
    rw [RenderCache.step, h.insert?_eq room]
    rfl

end Holds

/-! ## What can be relied on -/

/-- What may be expected of the cache at a time after the steps of the past. -/
structure IsReliable (ttl : Micros) (capacity : Nat) (past : List CacheEvent) (now : Micros)
    (cache : RenderCache) : Prop where
  /-- What is read was the last to be written, not as long ago as an entry lives. -/
  sound : ∀ slug document, (cache.get now slug).1 = some document →
    ∃ time, lastWrite? past slug = some (time, document) ∧ now < time + ttl
  /-- What was written last can be read as long, unless as many other slugs as there is room for
  were used since. -/
  complete : ∀ slug time document, lastWrite? past slug = some (time, document) →
    now < time + ttl → (usedSince past slug).toFinset.card < capacity →
    (cache.get now slug).1 = some document
  bounded : (cache.entries.filter (·.isLive now)).length ≤ capacity
  /-- To write again what can be read costs no other slug its entry. -/
  spares : ∀ slug document, (cache.get now slug).1 ≠ none →
    ∃ cache', cache.insert? now slug document = .ok cache' ∧
      ∀ later, now ≤ later → ∀ other, other ≠ slug →
        (cache'.get later other).1 = (cache.get later other).1

namespace Holds

variable (h : Holds ttl capacity past now cache)
include h

theorem get_eq_some_iff : (cache.get now slug).1 = some document ↔
    ∃ e ∈ cache.entries, e.slug = slug ∧ e.document = document ∧ now < e.expires := by
  refine ⟨get_fst_eq_some, fun ⟨e, mem, own, same, live⟩ => ?_⟩
  rw [get, h.find?_eq_some_iff.mpr ⟨mem, own, live⟩, Option.map_some, same]

/-- Where the slug of a live entry is written to, all other live entries stay. -/
theorem mem_insert_of_held (held : ∃ e ∈ cache.entries, e.slug = slug ∧ now < e.expires)
    (apart : e.slug ≠ slug) :
    e ∈ (cache.insert now slug document).entries ↔ e ∈ cache.entries ∧ now < e.expires := by
  obtain ⟨own, mem, rfl, live⟩ := held
  have present : (cache.expire now).entries.any (·.slug = own.slug) = true :=
    List.any_eq_true.mpr ⟨own, h.mem_expire_iff.mpr ⟨mem, live⟩, by simp⟩
  have new : e ≠ cache.entry now own.slug document := by
    rintro rfl
    exact apart rfl
  rw [insert_entries, kept, if_pos present, List.mem_append, List.mem_singleton, without,
    List.mem_filter, h.mem_expire_iff]
  simp [new, apart]

theorem isReliable (room : 0 < capacity) : IsReliable ttl capacity past now cache where
  sound := by
    intro slug document answered
    obtain ⟨e, mem, rfl, rfl, live⟩ := h.get_eq_some_iff.mp answered
    obtain ⟨time, last, expires, -⟩ := h.source e mem
    exact ⟨time, last, expires ▸ live⟩
  complete := by
    intro slug time document last live few
    by_cases held : ∃ e ∈ cache.entries, e.slug = slug
    · obtain ⟨e, mem, rfl⟩ := held
      obtain ⟨written, last', expires, -⟩ := h.source e mem
      obtain ⟨rfl, rfl⟩ := Prod.mk.inj (Option.some.inj (last'.symm.trans last))
      exact h.get_eq_some_iff.mpr ⟨e, mem, rfl, rfl, expires ▸ live⟩
    · have many := h.missing slug time document last live fun e mem same => held ⟨e, mem, same⟩
      omega
  bounded := (List.length_filter_le _ _).trans h.length_le
  spares := by
    intro slug document held
    obtain ⟨current, answered⟩ := Option.ne_none_iff_exists'.mp held
    obtain ⟨own, mem, same, -, live⟩ := h.get_eq_some_iff.mp answered
    refine ⟨_, h.insert?_eq room slug document, fun later le other apart => ?_⟩
    refine Option.ext fun found => ?_
    have after := (h.write slug document room).mono le
    rw [after.get_eq_some_iff, (h.mono le).get_eq_some_iff]
    constructor
    · rintro ⟨e, stays, rfl, rfl, live'⟩
      exact ⟨e, ((h.mem_insert_of_held ⟨own, mem, same, live⟩ apart).mp stays).1, rfl, rfl, live'⟩
    · rintro ⟨e, stays, rfl, rfl, live'⟩
      refine ⟨e, ?_, rfl, rfl, live'⟩
      exact (h.mem_insert_of_held ⟨own, mem, same, live⟩ apart).mpr ⟨stays, le.trans_lt live'⟩

end Holds

/-- Whatever was read and written, as long as the clock has not gone back, the cache can be relied
on: every step could be taken, and what can be read is what was written last. -/
theorem run_isReliable (ttl : Micros) {capacity : Nat} (room : 0 < capacity)
    {steps : List (Micros × CacheStep)} {now : Micros}
    (forward : (steps.map (·.1) ++ [now]).Pairwise (· ≤ ·)) :
    ∃ past cache, run { ttl, capacity } steps = .ok (past, cache) ∧
      past.map (fun event => (event.time, event.step)) = steps ∧
      IsReliable ttl capacity past now cache := by
  obtain ⟨start, forward, before⟩ : ∃ start, (start :: steps.map (·.1)).Pairwise (· ≤ ·) ∧
      ∀ time ∈ start :: steps.map (·.1), time ≤ now := by
    obtain ⟨forward, -, before⟩ := List.pairwise_append.mp forward
    have before : ∀ time ∈ steps.map (·.1), time ≤ now := fun time mem =>
      before time mem now (by simp)
    cases steps with
    | nil => exact ⟨now, by simp, by simp⟩
    | cons first rest =>
      refine ⟨first.1, List.pairwise_cons.mpr ⟨?_, forward⟩, ?_⟩
      · intro time mem
        rcases List.mem_cons.mp mem with rfl | mem
        · exact Int.le_refl _
        · exact (List.pairwise_cons.mp forward).1 time mem
      · intro time mem
        rcases List.mem_cons.mp mem with rfl | mem
        · exact before _ (by simp)
        · exact before time mem
  obtain ⟨past, last, cache, ran, same, holds, mem⟩ :=
    run_induction (motive := Holds ttl capacity) (fun _ _ _ _ step h le => h.step room le step)
      (holds_empty ttl capacity start) forward
  exact ⟨past, cache, ran, same, (holds.mono (before last mem)).isReliable room⟩

/-- Two documents are written, the first of them is read, and a third is written, for which there
is no room. -/
def crowded : List (Micros × CacheStep) :=
  [(0, .write "a" ⟨"A", true⟩), (10, .write "b" ⟨"B", true⟩), (20, .read "a"),
    (30, .write "c" ⟨"C", true⟩)]

theorem run_isReliable_crowded :
    ∃ past cache, run { ttl := 60, capacity := 2 } crowded = .ok (past, cache) ∧
      lastWrite? past "a" = some (0, ⟨"A", true⟩) ∧ usedSince past "a" = ["c"] ∧
      usedSince past "b" = ["a", "c"] ∧
      (cache.get 40 "a").1 = some ⟨"A", true⟩ ∧ (cache.get 40 "b").1 = none := by
  have forward : (crowded.map Prod.fst ++ [40]).Pairwise (· ≤ ·) := by decide
  obtain ⟨past, cache, ran, -, reliable⟩ := run_isReliable 60 Nat.two_pos forward
  have known : (run { ttl := 60, capacity := 2 } crowded).toOption.map
      (fun (ran : List CacheEvent × RenderCache) => (lastWrite? ran.1 "a", usedSince ran.1 "a",
        usedSince ran.1 "b", (ran.2.get 40 "b").1)) =
      some (some (0, ⟨"A", true⟩), ["c"], ["a", "c"], none) := by
    decide +kernel
  rw [ran] at known
  simp only [Except.toOption, Option.map_some, Option.some.injEq, Prod.mk.injEq] at known
  obtain ⟨last, since, since', lost⟩ := known
  refine ⟨past, cache, ran, last, since, since', ?_, lost⟩
  exact reliable.complete "a" 0 _ last (by decide) (by rw [since]; decide)

end RenderCache

end PagePress
