import Mathlib.Data.List.Induction
import PagePress.Proofs.Markup.Placeholder

/-!
# The variables of a template

The variables found by reading a template from the left are exactly those whose placeholder stands
anywhere in it: of two placeholders that overlap, neither hides the other, as they are the same.
They are listed in the order of their first placeholders.
-/

namespace PagePress.Markup

variable {name other s t : List Char}

/-! ## Placeholders in a text -/

theorem opens_placeholder (name : List Char) : ['{', '{'] <+: placeholder name :=
  ⟨name ++ ['}', '}'], rfl⟩

/-- No other placeholder starts within a placeholder. -/
theorem infix_placeholder_append (isName : IsVariable name) (isOther : IsVariable other)
    (within : placeholder name <:+: placeholder other ++ s) :
    name = other ∨ placeholder name <:+: s := by
  obtain ⟨u, start, suffix⟩ := List.infix_iff_prefix_suffix.mp within
  have opens : ['{', '{'] <+: u := (opens_placeholder name).trans start
  rcases suffix_placeholder_append isOther opens suffix with rfl | later
  · by_contra! apart
    exact not_placeholder_prefix isOther isName (Ne.symm apart.1) start
  · exact .inr (start.isInfix.trans later.isInfix)

/-- Reading from the left finds a name exactly if its placeholder stands somewhere in the text. -/
theorem mem_placeholderNames_iff :
    name ∈ placeholderNames s ↔ IsVariable name ∧ placeholder name <:+: s := by
  fun_induction placeholderNames s with
  | case1 => simp [placeholder]
  | case2 c s read rest found ih =>
    obtain ⟨isRead, parts⟩ := placeholder?_eq_some_iff.1 found
    rw [List.mem_cons, ih, parts]
    constructor
    · rintro (rfl | ⟨isName, within⟩)
      · exact ⟨isRead, (List.prefix_append _ _).isInfix⟩
      · exact ⟨isName, within.trans (List.suffix_append _ _).isInfix⟩
    · rintro ⟨isName, within⟩
      exact (infix_placeholder_append isName isRead within).imp_right fun within => ⟨isName, within⟩
  | case3 c s none ih =>
    rw [ih, and_congr_right_iff]
    intro isName
    rw [List.infix_cons_iff]
    refine ⟨.inr, fun within => within.resolve_left ?_⟩
    rintro ⟨rest, same⟩
    rw [← same, placeholder?_placeholder isName] at none
    cases none

/-! ## The order of the variables -/

/-- No placeholder but itself starts within a placeholder. -/
theorem firstPlace_placeholder_append (isName : IsVariable name) (isOther : IsVariable other)
    (apart : name ≠ other) :
    Text.firstPlace (placeholder name) (placeholder other ++ s) =
      (placeholder other).length + Text.firstPlace (placeholder name) s := by
  refine Text.firstPlace_append fun u suffix start => ?_
  have opens : ['{', '{'] <+: u := (opens_placeholder name).trans start
  rcases suffix_placeholder_append isOther opens suffix with rfl | later
  · exfalso
    exact not_placeholder_prefix isOther isName (Ne.symm apart) start
  · exact later

/-- Reading from the left meets the variables in the order of their first placeholders. -/
theorem firstPlace_lt_of_idxOf_lt (isName : IsVariable name) (isOther : IsVariable other)
    (earlier : (placeholderNames s).idxOf name < (placeholderNames s).idxOf other) :
    Text.firstPlace (placeholder name) s < Text.firstPlace (placeholder other) s := by
  fun_induction placeholderNames s with
  | case1 => simp at earlier
  | case2 c s read rest found ih =>
    obtain ⟨isRead, parts⟩ := placeholder?_eq_some_iff.1 found
    have apart : other ≠ read := by
      rintro rfl
      simp at earlier
    rw [parts, firstPlace_placeholder_append isOther isRead apart]
    by_cases same : name = read
    · subst same
      rw [Text.firstPlace_of_prefix (List.prefix_append _ _)]
      have long : 0 < (placeholder name).length := List.length_pos_iff.mpr (placeholder_ne_nil name)
      omega
    · rw [List.idxOf_cons_ne _ (Ne.symm same), List.idxOf_cons_ne _ (Ne.symm apart)] at earlier
      rw [firstPlace_placeholder_append isName isRead same]
      have later := ih (Nat.lt_of_succ_lt_succ earlier)
      omega
  | case3 c s none ih =>
    have starts_not : ∀ {name}, IsVariable name → ¬placeholder name <+: c :: s := by
      rintro name isName ⟨rest, same⟩
      rw [← same, placeholder?_placeholder isName] at none
      cases none
    rw [Text.firstPlace_cons (starts_not isName), Text.firstPlace_cons (starts_not isOther)]
    exact Nat.succ_lt_succ (ih earlier)

/-! ## Each variable once -/

section EraseDups

variable {α : Type} [BEq α] [LawfulBEq α]

/-- What is left when repetitions are dropped stands in the order in which it came first. -/
theorem pairwise_eraseDups (l : List α) :
    l.eraseDups.Pairwise fun a b => l.idxOf a < l.idxOf b := by
  induction l using List.reverseRecOn with
  | nil => simp
  | append_singleton l a ih =>
    have kept : l.eraseDups.Pairwise fun b d => (l ++ [a]).idxOf b < (l ++ [a]).idxOf d := by
      refine ih.imp_of_mem fun hb hd earlier => ?_
      rwa [List.idxOf_append_of_mem (List.mem_eraseDups.mp hb),
        List.idxOf_append_of_mem (List.mem_eraseDups.mp hd)]
    rw [List.eraseDups_append]
    by_cases repeated : a ∈ l
    · simpa [List.removeAll, repeated] using kept
    · have last : [a].removeAll l = [a] := by simp [List.removeAll, repeated]
      have alone : [a].eraseDups = [a] := by simp [List.eraseDups_cons]
      rw [last, alone]
      refine List.pairwise_append.mpr ⟨kept, List.pairwise_singleton _ a, fun b hb d hd => ?_⟩
      obtain rfl := List.mem_singleton.mp hd
      have before := List.mem_eraseDups.mp hb
      have place := List.idxOf_lt_length_of_mem before
      rw [List.idxOf_append_of_mem before, List.idxOf_append_of_notMem repeated]
      omega

theorem nodup_eraseDups (l : List α) : l.eraseDups.Nodup := by
  refine (pairwise_eraseDups l).imp fun {a b} earlier => ?_
  rintro rfl
  exact Nat.lt_irrefl _ earlier

end EraseDups

theorem nodup_variableNames (html : List Char) : (variableNames html).Nodup :=
  nodup_eraseDups _

theorem mem_variableNames_iff :
    name ∈ variableNames s ↔ IsVariable name ∧ placeholder name <:+: s :=
  List.mem_eraseDups.trans mem_placeholderNames_iff

theorem pairwise_variableNames (html : List Char) :
    (variableNames html).Pairwise fun name later =>
      Text.firstPlace (placeholder name) html < Text.firstPlace (placeholder later) html := by
  refine (pairwise_eraseDups (placeholderNames html)).imp_of_mem fun hname hlater earlier => ?_
  exact firstPlace_lt_of_idxOf_lt (mem_variableNames_iff.1 hname).1
    (mem_variableNames_iff.1 hlater).1 earlier

/-! ## The list of the variables -/

/-- The list names the variables of a text: each name whose placeholder stands anywhere in it, also
between further braces, once, and in the order of their first places. -/
structure ListsVariables (html : List Char) (names : List (List Char)) : Prop where
  mem_iff : ∀ name, name ∈ names ↔ IsVariable name ∧ placeholder name <:+: html
  nodup : names.Nodup
  ordered : names.Pairwise fun name later =>
    Text.firstPlace (placeholder name) html < Text.firstPlace (placeholder later) html

/-- A text has one list of variables, and it is the one that is read from it. -/
theorem listsVariables_iff {html : List Char} {names : List (List Char)} :
    ListsVariables html names ↔ names = variableNames html := by
  constructor
  · rintro ⟨mem_iff, nodup, ordered⟩
    have same : names.Perm (variableNames html) :=
      (List.perm_ext_iff_of_nodup nodup (nodup_variableNames html)).mpr fun name =>
        (mem_iff name).trans mem_variableNames_iff.symm
    refine same.eq_of_pairwise (fun name other _ _ before after => ?_) ordered
      (pairwise_variableNames html)
    exact absurd before (Nat.lt_asymm after)
  · rintro rfl
    exact ⟨fun _ => mem_variableNames_iff, nodup_variableNames html, pairwise_variableNames html⟩

/-- Neither further braces nor a placeholder that is not closed hide one. -/
example : variableNames "\x7b\x7b\x7bb\x7d\x7d\x7d\x7b\x7ba\x7b\x7ba\x7d\x7d".toList =
    ["b".toList, "a".toList] := by decide +kernel

end PagePress.Markup
