import PagePress.Text.Hex

/-!
# Identifiers

A universally unique identifier is a number of 128 bits. It is written with lower-case hexadecimal
digits in groups of 8, 4, 4, 4 and 12; it is read from that form in any letter case, from the
digits alone, from the form in braces, and from the form behind `urn:uuid:`.
-/

namespace PagePress

structure Uuid where
  value : Nat
deriving DecidableEq, Repr

namespace Uuid

def number? (ds : List Char) : Option Nat :=
  ds.foldlM (fun n c => (Text.hexValue? c).map (16 * n + ·)) 0

def ofDigits? (s : List Char) : Option Uuid :=
  if s.length = 32 then (number? s).map Uuid.mk else none

def ofGroups? (s : List Char) : Option Uuid :=
  if s.length = 36 ∧ [8, 13, 18, 23].all (fun i => s[i]? == some '-') then
    ofDigits?
      (s.take 8 ++ (s.drop 9).take 4 ++ (s.drop 14).take 4 ++ (s.drop 19).take 4 ++ s.drop 24)
  else none

def ofText? (s : List Char) : Option Uuid :=
  if s.length = 32 then ofDigits? s
  else if s.length = 36 then ofGroups? s
  else if s.length = 38 ∧ s.head? = some '{' ∧ s.getLast? = some '}' then
    ofGroups? ((s.drop 1).take 36)
  else if s.length = 45 ∧ "urn:uuid:".toList.isPrefixOf s then ofGroups? (s.drop 9)
  else none

def digits (id : Uuid) : List Char := Text.hexDigits 32 id.value

def text (id : Uuid) : String :=
  let ds := id.digits
  String.ofList <|
    ds.take 8 ++ '-' :: (ds.drop 8).take 4 ++ '-' :: (ds.drop 12).take 4
      ++ '-' :: (ds.drop 16).take 4 ++ '-' :: ds.drop 20

instance : ToString Uuid := ⟨text⟩

end Uuid

end PagePress
