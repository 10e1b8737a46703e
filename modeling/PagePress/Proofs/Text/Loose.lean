import Mathlib.Data.List.Basic
import PagePress.Text.Loose

/-!
# Putting loose texts together

Loose texts are put together symbol by symbol, and texts without broken pairs as strings are.
-/

namespace PagePress.LooseText

variable {s t u : LooseText}

@[simp] theorem symbols_append (s t : LooseText) : (s ++ t).symbols = s.symbols ++ t.symbols := rfl

@[simp] theorem symbols_ofString (s : String) : (ofString s).symbols = s.toList.map .char := rfl

theorem ext_symbols (same : s.symbols = t.symbols) : s = t := by
  cases s
  cases t
  exact congrArg mk same

theorem ofString_injective : Function.Injective ofString := by
  intro s t same
  have lists : s.toList = t.toList :=
    List.map_injective_iff.mpr (fun _ _ => Symbol.char.inj) (LooseText.mk.inj same)
  exact String.toList_inj.mp lists

theorem isWhole_eq_false_iff : s.isWhole = false ↔ ∃ unit, .half unit ∈ s.symbols := by
  rw [isWhole, List.all_eq_false]
  constructor
  · rintro ⟨symbol, mem, broken⟩
    cases symbol with
    | char c => exact absurd rfl broken
    | half unit => exact ⟨unit, mem⟩
  · rintro ⟨unit, mem⟩
    exact ⟨.half unit, mem, Bool.false_ne_true⟩

/-- Only a text without broken pairs is a string, and it is the string that it comes from. -/
theorem eq_ofString_of_toString? {string : String} (h : s.toString? = some string) :
    s = ofString string := by
  unfold toString? at h
  split at h
  · rename_i whole
    have kept : ∀ symbol ∈ s.symbols, (Symbol.char ∘ Symbol.toChar) symbol = id symbol := by
      intro symbol mem
      cases symbol with
      | char c => rfl
      | half unit => cases List.all_eq_true.mp whole _ mem
    cases h
    apply ext_symbols
    rw [symbols_ofString, String.toList_ofList, toList, List.map_map, List.map_congr_left kept,
      List.map_id]
  · cases h

theorem append_assoc (s t u : LooseText) : s ++ t ++ u = s ++ (t ++ u) := by
  apply ext_symbols
  simp

theorem append_empty (s : LooseText) : s ++ ofString "" = s := by
  apply ext_symbols
  simp

/-- Strings are put together before or after they are taken as loose texts. -/
theorem ofString_append (s t : String) : ofString (s ++ t) = ofString s ++ ofString t := by
  apply ext_symbols
  simp

theorem join_cons_cons (sep s t : LooseText) (texts : List LooseText) :
    join sep (s :: t :: texts) = s ++ sep ++ join sep (t :: texts) := by
  apply ext_symbols
  simp [join, List.intercalate_cons_cons]

theorem join_singleton (sep s : LooseText) : join sep [s] = s := by
  apply ext_symbols
  simp [join]

theorem join_ofString (sep : String) (texts : List String) :
    join (ofString sep) (texts.map ofString) = ofString (sep.intercalate texts) := by
  induction texts with
  | nil => rfl
  | cons s texts ih =>
    cases texts with
    | nil => rw [List.map_singleton, join_singleton, String.intercalate_singleton]
    | cons t texts =>
      rw [List.map_cons, List.map_cons, join_cons_cons, ← List.map_cons, ih,
        String.intercalate_cons_cons, ofString_append, ofString_append]

end PagePress.LooseText
