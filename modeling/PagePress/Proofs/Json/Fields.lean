import Mathlib.Data.List.Induction
import Mathlib.Data.List.Nodup
import PagePress.Json.Basic

/-!
# Overriding fields

Setting fields one after the other gives the old fields, each with its new value if it has one, and
behind them the new ones. Where a name is set several times, the last value counts, at the place of
the first.
-/

namespace PagePress.Fields

variable {fields updates : Fields} {name other : LooseText} {value : Json}

/-- The fields with the values that the updates have for them, and then the fields that are only
among the updates. -/
def override (fields updates : Fields) : Fields :=
  fields.map (fun field => (field.1, (updates.get? field.1).getD field.2)) ++
    updates.filter fun field => field.1 ∉ fields.map (·.1)

def IsDistinct (fields : Fields) : Prop := (fields.map (·.1)).Nodup

instance (fields : Fields) : Decidable fields.IsDistinct :=
  inferInstanceAs (Decidable (fields.map (·.1)).Nodup)

theorem get?_eq_none_iff : fields.get? name = none ↔ name ∉ fields.map (·.1) := by
  simp only [get?, List.lookup_eq_none_iff, List.mem_map, not_exists, not_and]
  constructor
  · rintro absent field mem rfl
    simpa using absent field mem
  · intro absent field mem
    simpa using fun same => absent field mem same.symm

theorem get?_cons (name other : LooseText) (value : Json) (fields : Fields) :
    get? ((name, value) :: fields) other =
      if other = name then some value else fields.get? other := by
  by_cases same : other = name
  · simp [get?, same]
  · simp [get?, List.lookup_cons, same, beq_eq_false_iff_ne.mpr same]

theorem mem_of_get? (found : fields.get? name = some value) : (name, value) ∈ fields := by
  obtain ⟨front, back, rfl, -⟩ := List.lookup_eq_some_iff.mp found
  simp

/-! ## Setting one field -/

theorem set_of_not_mem (new : name ∉ fields.map (·.1)) :
    set name value fields = fields ++ [(name, value)] := by
  induction fields with
  | nil => rfl
  | cons field fields ih =>
    simp only [List.map_cons, List.mem_cons, not_or] at new
    rw [set, if_neg (Ne.symm new.1), ih new.2, List.cons_append]

theorem set_of_mem (distinct : fields.IsDistinct) (old : name ∈ fields.map (·.1)) :
    set name value fields =
      fields.map fun field => if field.1 = name then (name, value) else field := by
  induction fields with
  | nil => cases old
  | cons field fields ih =>
    obtain ⟨first, later⟩ := List.nodup_cons.mp distinct
    by_cases same : field.1 = name
    · subst same
      have kept : fields.map (fun f => if f.1 = field.1 then (field.1, value) else f) = fields := by
        refine (List.map_congr_left fun f mem => if_neg fun equal => first ?_).trans (List.map_id _)
        exact List.mem_map.mpr ⟨f, mem, equal⟩
      rw [set, if_pos rfl, List.map_cons, if_pos rfl, kept]
    · have old : name ∈ fields.map (·.1) :=
        (List.mem_cons.mp old).resolve_left fun equal => same equal.symm
      rw [set, if_neg same, List.map_cons, if_neg same, ih later old]

theorem names_set_of_mem (distinct : fields.IsDistinct) (old : name ∈ fields.map (·.1)) :
    (set name value fields).map (·.1) = fields.map (·.1) := by
  rw [set_of_mem distinct old, List.map_map]
  refine List.map_congr_left fun field _ => ?_
  by_cases same : field.1 = name <;> simp [same]

theorem isDistinct_set (distinct : fields.IsDistinct) (name : LooseText) (value : Json) :
    (set name value fields).IsDistinct := by
  unfold IsDistinct at distinct ⊢
  by_cases old : name ∈ fields.map (·.1)
  · exact (names_set_of_mem distinct old).symm ▸ distinct
  · rw [set_of_not_mem old, List.map_append]
    exact distinct.append (List.nodup_singleton name) (by simpa using old)

theorem get?_set (name other : LooseText) (value : Json) (fields : Fields) :
    (set name value fields).get? other =
      if other = name then some value else fields.get? other := by
  induction fields with
  | nil => exact get?_cons name other value []
  | cons field fields ih =>
    obtain ⟨n, v⟩ := field
    by_cases same : n = name
    · subst same
      rw [set, if_pos rfl, get?_cons, get?_cons]
      by_cases equal : other = n <;> simp [equal]
    · rw [set, if_neg same, get?_cons, get?_cons, ih]
      by_cases equal : other = n
      · subst equal
        simp [same]
      · simp [equal]

/-! ## Setting several fields -/

theorem override_set (distinct : fields.IsDistinct) (new : name ∉ updates.map (·.1)) :
    (set name value fields).override updates = fields.override ((name, value) :: updates) := by
  have absent : updates.get? name = none := get?_eq_none_iff.mpr new
  unfold override
  by_cases old : name ∈ fields.map (·.1)
  · rw [names_set_of_mem distinct old, set_of_mem distinct old, List.map_map,
      List.filter_cons_of_neg (by simpa using old)]
    refine congrArg (· ++ _) (List.map_congr_left fun field _ => ?_)
    by_cases same : field.1 = name
    · simp [same, absent, get?_cons]
    · simp [same, get?_cons]
  · have apart : ∀ field ∈ fields, field.1 ≠ name := fun field mem same =>
      old (List.mem_map.mpr ⟨field, mem, same⟩)
    have front : fields.map (fun field => (field.1, (updates.get? field.1).getD field.2)) =
        fields.map fun field => (field.1, (get? ((name, value) :: updates) field.1).getD field.2) :=
      List.map_congr_left fun field mem => by simp [get?_cons, apart field mem]
    have back : updates.filter (fun field => field.1 ∉ fields.map (·.1) ++ [name]) =
        updates.filter fun field => field.1 ∉ fields.map (·.1) := by
      refine List.filter_congr fun field mem => ?_
      have other : field.1 ≠ name := fun same => new (List.mem_map.mpr ⟨field, mem, same⟩)
      simp [other]
    rw [set_of_not_mem old, List.filter_cons_of_pos (by simpa using old), List.map_append,
      List.map_append, front]
    simp only [List.map_cons, List.map_nil, absent, Option.getD_none, back, List.append_assoc,
      List.singleton_append]

/-- Setting fields one after the other overrides all of them. -/
theorem merge_eq_override (distinct : fields.IsDistinct) (once : updates.IsDistinct) :
    fields.merge updates = fields.override updates := by
  induction updates generalizing fields with
  | nil => simp [merge, override, get?]
  | cons field updates ih =>
    obtain ⟨name, value⟩ := field
    obtain ⟨new, later⟩ := List.nodup_cons.mp once
    have step : fields.merge ((name, value) :: updates) = (set name value fields).merge updates :=
      rfl
    rw [step, ih (isDistinct_set distinct name value) later, override_set distinct new]

/-- What was set is what is found. -/
theorem get?_merge (once : updates.IsDistinct) (name : LooseText) :
    (fields.merge updates).get? name = (updates.get? name).or (fields.get? name) := by
  induction updates generalizing fields with
  | nil => rfl
  | cons field updates ih =>
    obtain ⟨other, value⟩ := field
    obtain ⟨new, later⟩ := List.nodup_cons.mp once
    have step : fields.merge ((other, value) :: updates) = (set other value fields).merge updates :=
      rfl
    rw [step, ih later, get?_set, get?_cons]
    by_cases same : name = other
    · subst same
      have absent : get? updates name = none := get?_eq_none_iff.mpr new
      simp [absent]
    · simp [same]

theorem isDistinct_merge (distinct : fields.IsDistinct) (updates : Fields) :
    (fields.merge updates).IsDistinct := by
  induction updates generalizing fields with
  | nil => exact distinct
  | cons field updates ih => exact ih (isDistinct_set distinct field.1 field.2)

theorem IsDistinct.override (distinct : fields.IsDistinct) (once : updates.IsDistinct) :
    (fields.override updates).IsDistinct :=
  merge_eq_override distinct once ▸ isDistinct_merge distinct updates

theorem mem_names_override :
    name ∈ (fields.override updates).map (·.1) ↔
      name ∈ fields.map (·.1) ∨ name ∈ updates.map (·.1) := by
  have front : (fields.map fun field => (field.1, (updates.get? field.1).getD field.2)).map (·.1) =
      fields.map (·.1) := by simp
  rw [override, List.map_append, List.mem_append, front]
  by_cases old : name ∈ fields.map (·.1)
  · exact iff_of_true (.inl old) (.inl old)
  · simp only [old, false_or, List.mem_map, List.mem_filter]
    constructor
    · rintro ⟨field, ⟨mem, -⟩, rfl⟩
      exact ⟨field, mem, rfl⟩
    · rintro ⟨field, mem, rfl⟩
      exact ⟨field, ⟨mem, by simpa using old⟩, rfl⟩

/-- Fields of which no two have one name are what they give as pairs. -/
theorem ofPairs_of_isDistinct (distinct : fields.IsDistinct) : ofPairs fields = fields := by
  have none : IsDistinct [] := List.nodup_nil
  rw [ofPairs, merge_eq_override none distinct]
  simp [override]

/-! ## Pairs with repeated names -/

def last? (pairs : List (LooseText × Json)) (name : LooseText) : Option Json :=
  get? pairs.reverse name

theorem last?_concat (pairs : List (LooseText × Json)) (name other : LooseText) (value : Json) :
    last? (pairs ++ [(name, value)]) other =
      if other = name then some value else last? pairs other := by
  rw [last?, List.reverse_append, List.reverse_singleton, List.singleton_append, get?_cons, last?]

theorem ofPairs_concat (pairs : List (LooseText × Json)) (name : LooseText) (value : Json) :
    ofPairs (pairs ++ [(name, value)]) = set name value (ofPairs pairs) := by
  simp [ofPairs, merge]

theorem isDistinct_ofPairs (pairs : List (LooseText × Json)) : (ofPairs pairs).IsDistinct :=
  have none : IsDistinct [] := List.nodup_nil
  isDistinct_merge none pairs

/-- Of the pairs of one name the last gives the value. -/
theorem get?_ofPairs (pairs : List (LooseText × Json)) (name : LooseText) :
    (ofPairs pairs).get? name = last? pairs name := by
  induction pairs using List.reverseRecOn with
  | nil => rfl
  | append_singleton pairs pair ih => rw [ofPairs_concat, get?_set, last?_concat, ih]

/-- Of the pairs of one name the first gives the place. -/
theorem names_ofPairs (pairs : List (LooseText × Json)) :
    (ofPairs pairs).map (·.1) = (pairs.map (·.1)).eraseDups := by
  induction pairs using List.reverseRecOn with
  | nil => rfl
  | append_singleton pairs pair ih =>
    obtain ⟨name, value⟩ := pair
    have known : name ∈ (ofPairs pairs).map (·.1) ↔ name ∈ pairs.map (·.1) := by
      rw [ih, List.mem_eraseDups]
    rw [List.map_append, List.eraseDups_append, ← ih, ofPairs_concat]
    by_cases old : name ∈ pairs.map (·.1)
    · rw [names_set_of_mem (isDistinct_ofPairs pairs) (known.mpr old)]
      simp [List.removeAll, List.mem_map.mp old]
    · have new : ∀ v, (name, v) ∉ pairs := fun v mem => old (List.mem_map.mpr ⟨_, mem, rfl⟩)
      rw [set_of_not_mem (mt known.mp old), List.map_append]
      simp [List.removeAll, new, List.eraseDups_cons]

end PagePress.Fields
