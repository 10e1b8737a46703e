import PagePress.Json.Reader
import PagePress.Request.Value
import PagePress.Settings.Number
import PagePress.Text.LetterCase

/-!
# Settings

The service is set up by environment variables, whose names are taken in any letter case. What is
not set has a default.
-/

namespace PagePress

structure Settings where
  databaseName : String := "pageforge"
  databaseUser : String := "pageforge"
  databasePassword : String := "pageforge"
  databaseHost : String := "localhost"
  databasePort : Int := 5432
  databaseUrl : Option String := none
  cacheBackend : String := "memory"
  cacheTtl : Int := 60
  cacheUrl : Option String := none
  allowedOrigins : List LooseText := ["http://localhost:3000"]
  trackerAddress : Option String := none
  trackerEnvironment : String := "development"
deriving DecidableEq, Repr

/-- Why an environment gives no settings. -/
inductive SettingsFault where
  /-- A list of texts is not written as a JSON text. -/
  | malformedList
  | invalid (violations : List Violation)
deriving DecidableEq, Repr

namespace Settings

/-- The address of the database: the one that is set, or else the one made from its parts. -/
def url (s : Settings) : String :=
  match s.databaseUrl.filter (!·.isEmpty) with
  | some url => url
  | none =>
    let port := String.ofList (Decimal.integer s.databasePort)
    "postgresql+psycopg2://" ++ s.databaseUser ++ ":" ++ s.databasePassword ++ "@" ++ s.databaseHost
      ++ ":" ++ port ++ "/" ++ s.databaseName

/-- The value of a variable; of several whose names differ in letter case the last one counts. -/
def valueOf? (environment : List (String × String)) (name : String) : Option String :=
  let lowered (s : String) : List Char := Text.lower s.toList
  (environment.reverse.find? fun v => lowered v.1 == lowered name).map (·.2)

def numberViolation : NumberFault → ViolationKind
  | .unreadable => .unreadableInteger
  | .oversized => .oversizedInteger

def integerSetting (environment : List (String × String)) (name : String) (whenMissing : Int) :
    Checked Int :=
  match valueOf? environment name with
  | none => .ok whenMissing
  | some value =>
    match integer value.toList with
    | .ok n => .ok n
    | .error fault => Checked.under (.field name) (.fail (numberViolation fault))

def textItems (i : Nat) : List Json → Checked (List LooseText)
  | [] => .ok []
  | item :: items =>
    Checked.and ((Checked.under (.index i) (Request.looseText item)).map List.cons)
      (textItems (i + 1) items)

def textList : Json → Checked (List LooseText)
  | .arr items => textItems 0 items
  | _ => .fail .notList

/-- The JSON value of the list of origins; null counts as not set. -/
def originsValue (environment : List (String × String)) : Except SettingsFault (Option Json) :=
  match valueOf? environment "CORS_ORIGINS" with
  | none => .ok none
  | some value =>
    match Json.read value.toList with
    | .ok .null => .ok none
    | .ok j => .ok (some j)
    | .error _ => .error .malformedList

def origins (value : Option Json) : Checked (List LooseText) :=
  match value with
  | none => .ok ({} : Settings).allowedOrigins
  | some value => Checked.under (.field "CORS_ORIGINS") (textList value)

def ofEnvironment (environment : List (String × String)) : Except SettingsFault Settings := do
  let text? := valueOf? environment
  let text (name whenMissing : String) : String := (text? name).getD whenMissing
  let value ← originsValue environment
  let standard : Settings := {}
  let settings (databasePort cacheTtl : Int) (allowedOrigins : List LooseText) : Settings :=
    { databaseName := text "DATABASE_NAME" standard.databaseName
      databaseUser := text "DATABASE_USER" standard.databaseUser
      databasePassword := text "DATABASE_PASSWORD" standard.databasePassword
      databaseHost := text "DATABASE_HOST" standard.databaseHost
      databasePort
      databaseUrl := text? "DATABASE_URL"
      cacheBackend := text "RENDER_CACHE_BACKEND" standard.cacheBackend
      cacheTtl
      cacheUrl := text? "REDIS_URL"
      allowedOrigins
      trackerAddress := text? "SENTRY_DSN"
      trackerEnvironment := text "SENTRY_ENVIRONMENT" standard.trackerEnvironment }
  let checked := Checked.and (Checked.and ((integerSetting environment "DATABASE_PORT"
      standard.databasePort).map settings)
    (integerSetting environment "RENDER_CACHE_TTL_SECONDS" standard.cacheTtl)) (origins value)
  checked.mapError .invalid

def toFields (s : Settings) : Fields :=
  [("DATABASE_NAME", .str s.databaseName), ("DATABASE_USER", .str s.databaseUser),
   ("DATABASE_PASSWORD", .str s.databasePassword), ("DATABASE_HOST", .str s.databaseHost),
   ("DATABASE_PORT", .int s.databasePort), ("DATABASE_URL", .ofOption s.databaseUrl),
   ("RENDER_CACHE_BACKEND", .str s.cacheBackend), ("RENDER_CACHE_TTL_SECONDS", .int s.cacheTtl),
   ("REDIS_URL", .ofOption s.cacheUrl), ("CORS_ORIGINS", .arr (s.allowedOrigins.map .str)),
   ("SENTRY_DSN", .ofOption s.trackerAddress), ("SENTRY_ENVIRONMENT", .str s.trackerEnvironment)]

end Settings

end PagePress
