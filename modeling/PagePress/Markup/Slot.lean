import PagePress.Text.Search

/-!
# Slots

A slot is a tag that carries the attribute `data-element="key"` together with a closing tag, with
nothing but text between the two. Filling a slot replaces that text. Tags are found as pieces of
text that start with `<` and end with the next `>`, well-formed or not.
-/

namespace PagePress.Markup

/-- The attribute that makes a tag a slot for the key. -/
def slotMark (key : List Char) : List Char := "data-element=\"".toList ++ key ++ ['"']

def closingTag? : List Char → Option (List Char × List Char)
  | '<' :: '/' :: c :: s =>
    if c = '>' then none
    else (Text.through? '>' (c :: s)).map fun (tag, rest) => ('<' :: '/' :: tag, rest)
  | _ => none

/-- A slot cut out of the text: its opening tag, its closing tag, and what follows the slot. -/
structure Slot where
  openTag : List Char
  closeTag : List Char
  rest : List Char
deriving DecidableEq, Repr

/-- The slot whose mark has just been read: the rest of the opening tag, a text without `<`, and a
closing tag. -/
def Slot.afterMark? (s : List Char) : Option Slot := do
  let (tagEnd, body) ← Text.through? '>' s
  let (closeTag, rest) ← closingTag? (body.dropWhile (· != '<'))
  return { openTag := tagEnd, closeTag, rest }

/-- The slot whose opening tag has been read up to here. Of several marks in one tag, the last one
that a slot can follow counts. -/
def Slot.inTag? (mark : List Char) : List Char → Option Slot
  | [] => none
  | c :: s =>
    match (if c = '>' then none else Slot.inTag? mark s) with
    | some slot => some { slot with openTag := c :: slot.openTag }
    | none =>
      if mark.isPrefixOf (c :: s) then
        (Slot.afterMark? ((c :: s).drop mark.length)).map fun slot =>
          { slot with openTag := mark ++ slot.openTag }
      else none

def Slot.at? (mark : List Char) : List Char → Option Slot
  | '<' :: s => (Slot.inTag? mark s).map fun slot => { slot with openTag := '<' :: slot.openTag }
  | _ => none

theorem length_rest_lt_of_closingTag? {s tag rest : List Char}
    (h : closingTag? s = some (tag, rest)) : rest.length < s.length := by
  unfold closingTag? at h
  split at h
  · split at h
    · contradiction
    · simp only [Option.map_eq_some_iff, Prod.mk.injEq, Prod.exists] at h
      obtain ⟨_, _, h, _, rfl⟩ := h
      have := Text.length_rest_lt_of_through? h
      simp only [List.length_cons] at this ⊢
      omega
  · contradiction

theorem Slot.length_rest_lt_of_afterMark? {s : List Char} {slot : Slot}
    (h : Slot.afterMark? s = some slot) : slot.rest.length < s.length := by
  simp only [Slot.afterMark?, Option.bind_eq_bind, Option.pure_def, Option.bind_eq_some_iff,
    Prod.exists, Option.some.injEq] at h
  obtain ⟨_, body, hb, _, rest, hc, rfl⟩ := h
  have h1 := Text.length_rest_lt_of_through? hb
  have h2 := length_rest_lt_of_closingTag? hc
  have h3 := (List.dropWhile_sublist (l := body) (· != '<')).length_le
  simp only
  omega

theorem Slot.length_rest_lt_of_inTag? {mark s : List Char} {slot : Slot}
    (h : Slot.inTag? mark s = some slot) : slot.rest.length < s.length := by
  induction s generalizing slot with
  | nil => simp [Slot.inTag?] at h
  | cons c s ih =>
    unfold Slot.inTag? at h
    split at h
    · rename_i inner hi
      split at hi
      · contradiction
      · have := ih hi
        simp only [Option.some.injEq] at h
        subst h
        simp only [List.length_cons]
        omega
    · split at h
      · simp only [Option.map_eq_some_iff] at h
        obtain ⟨inner, hi, rfl⟩ := h
        have := Slot.length_rest_lt_of_afterMark? hi
        simp only [List.length_drop, List.length_cons] at this ⊢
        omega
      · contradiction

theorem Slot.length_rest_lt_of_at? {mark s : List Char} {slot : Slot}
    (h : Slot.at? mark s = some slot) : slot.rest.length < s.length := by
  unfold Slot.at? at h
  split at h
  · simp only [Option.map_eq_some_iff] at h
    obtain ⟨inner, hi, rfl⟩ := h
    have := Slot.length_rest_lt_of_inTag? hi
    simp only [List.length_cons]
    omega
  · contradiction

def fillMarked (mark value : List Char) : List Char → List Char
  | [] => []
  | c :: s =>
    match _h : Slot.at? mark (c :: s) with
    | some slot => slot.openTag ++ value ++ slot.closeTag ++ fillMarked mark value slot.rest
    | none => c :: fillMarked mark value s
termination_by s => s.length
decreasing_by
  · exact Slot.length_rest_lt_of_at? _h
  · simp

def fillSlots (key value html : List Char) : List Char := fillMarked (slotMark key) value html

end PagePress.Markup
