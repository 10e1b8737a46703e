import PagePress.DomainName.Letters
import PagePress.Text.Composition
import PagePress.Text.Direction
import PagePress.Text.Punycode
import PagePress.Text.Search

/-!
# Domain names

A domain name consists of labels with dots between them. A label holds letters, digits and inner
hyphens of ASCII. A label that begins with `xn--` stands for one of any letters, an international
label, and is shown as that.
-/

namespace PagePress.DomainName

/-! ### International labels -/

def isArabicDigit (c : Char) : Bool := '\u0660' ≤ c && c ≤ '\u0669'

def isPersianDigit (c : Char) : Bool := '\u06f0' ≤ c && c ≤ '\u06f9'

/-- Whether a character with the given neighbours may stand in the label. Some marks of punctuation
stand only in words of their script, and the two kinds of Arabic digits do not mix. -/
def fits (label : List Char) (before : Option Char) (c : Char) (after : Option Char) : Bool :=
  if c = '\u00b7' then before == some 'l' && after == some 'l'
  else if c = '\u0375' then after.any isGreek
  else if c = '\u05f3' ∨ c = '\u05f4' then before.any isHebrew
  else if c = '\u30fb' then label.any isJapanese
  else if isArabicDigit c then !label.any isPersianDigit
  else if isPersianDigit c then !label.any isArabicDigit
  else isLetter c

/-- Whether the label has a hyphen at one of its ends, or two in third and fourth place. -/
def hasBadHyphens (label : List Char) : Bool :=
  label.head? == some '-' || label.getLast? == some '-'
    || (label[2]? == some '-' && label[3]? == some '-')

def isInternational (label : List Char) : Bool :=
  Text.isComposed label && !hasBadHyphens label && !label.head?.any Text.isMark
    && (List.range label.length).all (fun i =>
      label[i]?.all fun c => fits label (if i = 0 then none else label[i - 1]?) c label[i + 1]?)
    && Text.readsOneWay label

/-! ### Labels and names -/

/-- Whether the text is a label, if no other is encoded in it: at most 63 letters, digits and inner
hyphens. -/
def isLabel (s : List Char) : Bool :=
  !s.isEmpty && s.length ≤ 63 && s.all (fun c => c.isAlphanum || c == '-')
    && s.head? != some '-' && s.getLast? != some '-'

def shownLabel? (s : List Char) : Option (List Char) :=
  if "xn--".toList.isPrefixOf s then
    (Text.Punycode.decode? (s.drop 4)).filter isInternational
  else if hasBadHyphens s then none
  else some s

def shown? (name : List Char) : Option (List Char) :=
  if name.length ≤ 253 then do
    let labels := Text.splitAll '.' name
    let shown ← labels.mapM fun label => if isLabel label then shownLabel? label else none
    some (['.'].intercalate shown)
  else none

end PagePress.DomainName
