import PagePress.Decimal.Digits
import PagePress.Text.Hex
import PagePress.Text.Quoted
import PagePress.Text.Ranges
import PagePress.Text.Search

/-!
# User, host and port

The authority of an address stands between its scheme and its path: `user:password@host:port`, where
all but the host may be left out. A host in brackets is a number of the internet protocol, of
version 6 or of a later one, and may hold colons.
-/

namespace PagePress.Authority

inductive Fault where
  | strayBracket
  | badFutureHost
  | bracketedHost
  | unreadableHost (host : String)
  /-- A character looks like one that divides an address. -/
  | confusable (authority : String)
  | unreadablePort (port : String)
  | oversizedPort (digits : Nat)
  | portOutOfRange
deriving DecidableEq, Repr

def quoted (s : String) : String := String.ofList (Text.quoted s.toList)

def number (n : Nat) : String := String.ofList (Decimal.digits n)

def Fault.message : Fault → String
  | strayBracket => "Invalid IPv6 URL"
  | badFutureHost => "IPvFuture address is invalid"
  | bracketedHost => "An IPv4 address cannot be in brackets"
  | unreadableHost host => quoted host ++ " does not appear to be an IPv4 or IPv6 address"
  | confusable authority =>
    "netloc '" ++ authority ++ "' contains invalid characters under NFKC normalization"
  | unreadablePort port => "Port could not be cast to integer value as " ++ quoted port
  | oversizedPort digits =>
    "Exceeds the limit (" ++ number Decimal.maxDigits
      ++ " digits) for integer string conversion: value has " ++ number digits
      ++ " digits; use sys.set_int_max_str_digits() to increase the limit"
  | portOutOfRange => "Port out of range 0-65535"

/-- Host and port: what follows the last at sign, or all if there is none. -/
def hostAndPort (authority : List Char) : List Char :=
  ((Text.splitAll '@' authority).getLast?).getD authority

/-! ### Numbers of hosts -/

def isOctet (s : List Char) : Bool :=
  !s.isEmpty && s.length ≤ 3 && s.all Char.isDigit && (s.head? != some '0' || s == ['0'])
    && Decimal.ofDigits s ≤ 255

def isVersion4 (s : List Char) : Bool :=
  let octets := Text.splitAll '.' s
  octets.length == 4 && octets.all isOctet

def isGroup (s : List Char) : Bool :=
  !s.isEmpty && s.length ≤ 4 && s.all fun c => (Text.hexValue? c).isSome

/-- The groups on one side of a gap, of which there may be none. -/
def besideGap (groups : List (List Char)) : List (List Char) :=
  if groups = [[]] then [] else groups

/-- Whether the groups are eight, or fewer around one gap. -/
def areGroups : List (List Char) → Bool
  | [] => false
  | first :: rest =>
    match rest.dropWhile (!·.isEmpty) with
    | [] :: next :: back =>
      let groups :=
        besideGap (first :: rest.takeWhile (!·.isEmpty)) ++ besideGap (next :: back)
      groups.length ≤ 7 && groups.all isGroup
    | _ => rest.length == 7 && (first :: rest).all isGroup

/-- Whether the text is a number of version 6. Its last two groups may be written as a number of
version 4, and the name of a zone may follow it. -/
def isVersion6 (s : List Char) : Bool :=
  let (number, zoned) := match Text.cut? ['%'] s with
    | some (number, zone) => (number, !zone.isEmpty && !zone.contains '%')
    | none => (s, true)
  let groups := Text.splitAll ':' number
  zoned && match groups.getLast? with
    | some last =>
      if last.contains '.' then
        isVersion4 last && areGroups (groups.dropLast ++ [['0'], ['0']])
      else areGroups groups
    | none => false

def isFuture (s : List Char) : Bool :=
  let version := (s.drop 1).takeWhile fun c => (Text.hexValue? c).isSome
  !version.isEmpty && match s.drop (version.length + 1) with
    | '.' :: _ :: _ => true
    | _ => false

def checkNumber (host : List Char) : Except Fault Unit :=
  if host.head? = some 'v' then
    if isFuture host then .ok () else .error .badFutureHost
  else if isVersion4 host then .error .bracketedHost
  else if isVersion6 host then .ok ()
  else .error (.unreadableHost (String.ofList host))

def checkBrackets (authority : List Char) : Except Fault Unit :=
  match authority.contains '[', authority.contains ']' with
  | false, false => .ok ()
  | true, true =>
    let s := hostAndPort authority
    match Text.cut? ['['] s with
    | none => checkNumber (s.takeWhile (· != ':'))
    | some (before, inside) =>
      let (host, after) := (Text.cut? [']'] inside).getD (inside, [])
      if !before.isEmpty || !(after.isEmpty || after.head? == some ':') then .error .strayBracket
      else checkNumber host
  | _, _ => .error .strayBracket

/-! ### Look-alikes -/

/-- The characters whose plain form holds one of `/?#@:`. -/
def confusableRanges : List (Nat × Nat) :=
  [(0x2047, 0x2049), (0x2100, 0x2101), (0x2105, 0x2106), (0x2A74, 0x2A74), (0xFE13, 0xFE13),
   (0xFE16, 0xFE16), (0xFE55, 0xFE56), (0xFE5F, 0xFE5F), (0xFE6B, 0xFE6B), (0xFF03, 0xFF03),
   (0xFF0F, 0xFF0F), (0xFF1A, 0xFF1A), (0xFF1F, 0xFF20)]

/-- Checks an authority for look-alikes of the characters that divide an address. -/
def checkLetters (authority : List Char) : Except Fault Unit :=
  if authority.any fun c => Text.inRanges confusableRanges c.toNat then
    .error (.confusable (String.ofList authority))
  else .ok ()

/-! ### Ports -/

def portText (authority : List Char) : List Char :=
  let s := hostAndPort authority
  let behind :=
    match Text.cut? ['['] s with
    | some (_, inside) => ((Text.cut? [']'] inside).map (·.2)).getD []
    | none => s
  ((Text.cut? [':'] behind).map (·.2)).getD []

def checkPort (authority : List Char) : Except Fault Unit :=
  let port := portText authority
  if !port.all Char.isDigit then .error (.unreadablePort (String.ofList port))
  else if Decimal.maxDigits < port.length then .error (.oversizedPort port.length)
  else if 65535 < Decimal.ofDigits port then .error .portOutOfRange
  else .ok ()

end PagePress.Authority
