import PagePress.DomainName.Basic
import PagePress.Text.Blank
import PagePress.Text.Search
import PagePress.Text.Word

/-!
# Email addresses

An address is a local part of ASCII characters, an at sign and the name of a mail domain. It may be
given behind a display name, in angle brackets. The normal form of an address has its domain in
lower case, with international labels as they are shown, and its local part in lower case too if
that is one of the names every domain keeps for its own use.

Only addresses in ASCII characters are taken.
-/

namespace PagePress.Email

def localMarks : List Char := "_!#$%&'*+-/=?^`\x7b|\x7d~".toList

def isLocalChar (c : Char) : Bool := c.isAlphanum || localMarks.contains c

/-- Local part: runs of its characters with single dots between them. -/
def isLocalPart (s : List Char) : Bool :=
  (Text.splitAll '.' s).all fun run => !run.isEmpty && run.all isLocalChar

/-- Top-level names under which no mail is delivered. -/
def reservedNames : List String := ["arpa", "invalid", "local", "localhost", "onion", "test"]

/-- Whether mail can be delivered under the domain name in lower case: it has at least two labels,
and the last ends with a letter and is not reserved. -/
def takesMail (name : List Char) : Bool :=
  let labels := Text.splitAll '.' name
  2 ≤ labels.length && name.getLast?.any Char.isAlpha
    && !(labels.getLast?.any fun last => reservedNames.any (·.toList == last))

/-- The greatest length of an address, in characters as it is given and in bytes as it is shown. -/
def maxLength : Nat := 254

def byteLength (s : List Char) : Nat := (String.ofList s).utf8ByteSize

/-- Local parts that every domain keeps for its own use. -/
def keptNames : List String :=
  ["info", "marketing", "sales", "support", "abuse", "noc", "security", "postmaster", "hostmaster",
   "usenet", "news", "webmaster", "www", "uucp", "ftp"]

def normalAddress? (s : List Char) : Option (List Char) := do
  let (front, domain) ← Text.cut? ['@'] s
  let domain := domain.map Char.toLower
  let shown ← DomainName.shown? domain
  let lowered := front.map Char.toLower
  let address := (if keptNames.any (·.toList == lowered) then lowered else front) ++ '@' :: shown
  if isLocalPart front && takesMail domain && s.length ≤ maxLength
      && byteLength address ≤ maxLength then
    some address
  else none

def isDisplayChar (c : Char) : Bool :=
  Text.isWord c || c == '.' || localMarks.contains c || Text.isBlank c

/-- The inside of the angle bracket that the text starts with, after white space; it is not
empty. -/
def bracketed? (s : List Char) : Option (List Char) :=
  match Text.dropBlanks s with
  | '<' :: inside => if inside.isEmpty then none else some inside
  | _ => none

/-- The bracketed address behind the last closing quote that one can follow. -/
def afterQuote? : List Char → Option (List Char)
  | [] => none
  | c :: s => (afterQuote? s).or (if c == '"' then bracketed? s else none)

/-- The address in angle brackets at the end of the text, behind an optional display name. -/
def displayedAddress? (s : List Char) : Option (List Char) :=
  match (Text.trimBlanks s).reverse with
  | '>' :: back =>
    match back.reverse with
    | '"' :: _ :: quotedName => afterQuote? quotedName
    | front => bracketed? (front.dropWhile isDisplayChar)
  | _ => none

def normal? (text : String) : Option String :=
  let s := text.toList
  if 2048 < s.length || s.contains '\n' || s.contains '\r' then none
  else
    (normalAddress? (Text.trimBlanks ((displayedAddress? s).getD s))).map String.ofList

end PagePress.Email
