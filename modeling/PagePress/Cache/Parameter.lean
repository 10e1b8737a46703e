import PagePress.Decimal.Numeral
import PagePress.Text.Blank
import PagePress.Text.Query

/-!
# Parameters of a connection

The query of the address of a shared cache holds parameters of the connection. Some of them take
only certain values; the others are taken as they are.
-/

namespace PagePress.Connection

/-- What the value of a parameter is. -/
inductive ValueKind where
  | integer
  | real
  /-- A list of checks on certificates. -/
  | checks
  /-- A version of the encryption. -/
  | version
  | any
deriving DecidableEq, Repr

def kindOf (name : String) : ValueKind :=
  if ["db", "max_connections", "health_check_interval", "protocol"].contains name then .integer
  else if ["socket_timeout", "socket_connect_timeout", "timeout"].contains name then .real
  else if ["ssl_include_verify_flags", "ssl_exclude_verify_flags"].contains name then .checks
  else if name = "ssl_min_version" then .version
  else .any

def checkNames : List String :=
  ["VERIFY_DEFAULT", "VERIFY_CRL_CHECK_LEAF", "VERIFY_CRL_CHECK_CHAIN", "VERIFY_X509_STRICT",
   "VERIFY_ALLOW_PROXY_CERTS", "VERIFY_X509_TRUSTED_FIRST", "VERIFY_X509_PARTIAL_CHAIN"]

def areChecks (s : List Char) : Bool :=
  let names := Text.splitAll ',' (s.filter fun c => c != '[' && c != ']')
  names.all fun name => checkNames.any (·.toList == Text.trimBlanks name)

def versionNames : List String :=
  ["MINIMUM_SUPPORTED", "SSLv3", "TLSv1", "TLSv1_1", "TLSv1_2", "TLSv1_3", "MAXIMUM_SUPPORTED"]

def versionNumbers : List Int := [-2, -1, 768, 769, 770, 771, 772]

def isVersion (s : List Char) : Bool :=
  versionNames.any (·.toList == s)
    || (Decimal.Numeral.integer? s).any versionNumbers.contains

def ValueKind.accepts : ValueKind → List Char → Bool
  | integer, s => (Decimal.Numeral.integer? s).isSome
  | real, s => Decimal.Numeral.isReal s
  | checks, s => areChecks s
  | version, s => isVersion s
  | any, _ => true

/-- The parameters in a query that have a value, each with its first value. Values are
percent-encoded twice over. -/
def parameters (query : List Char) : List (String × List Char) :=
  let given := (Text.queryParameters query).filter fun (_, value) => !value.isEmpty
  (given.map (·.1)).eraseDups.filterMap fun name =>
    (given.lookup name).map fun value => (name, Text.decodePercent value.toList)

/-- The first parameter with a value that it does not take. -/
def misfit? (parameters : List (String × List Char)) : Option String :=
  (parameters.find? fun (name, value) => !(kindOf name).accepts value).map (·.1)

def limitsBelowZero (parameters : List (String × List Char)) : Bool :=
  (parameters.lookup "max_connections").any fun value =>
    (Decimal.Numeral.integer? value).any (· < 0)

end PagePress.Connection
