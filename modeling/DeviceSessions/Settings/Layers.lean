import DeviceSessions.Json.Buffered
import DeviceSessions.Settings.Basic
import DeviceSessions.Settings.Value

/-!
# Settings from values

The settings that a tree of values stands for. Values are converted to the types of their settings,
settings that are not named take their usual values, and names that are no settings are passed over.
-/

namespace DeviceSessions

namespace Setting

/-- A field that has to be there. -/
def field? {α : Type} (fields : List (String × Setting)) (name : String)
    (convert : Setting → Option α) : Option α :=
  (fields.lookup name).bind convert

/-- A field with a value for the case that it is not there. -/
def fieldOr? {α : Type} (fields : List (String × Setting)) (name : String) (absent : α)
    (convert : Setting → Option α) : Option α :=
  match fields.lookup name with
  | some value => convert value
  | none => some absent

mutual

/-- The value of a sound JSON value. Numbers that are no integers of 64 bits, with a sign or without,
are binary floating-point numbers; of entries with one key the last counts. -/
def ofJson : Json → Setting
  | .null => nil
  | .bool b => bool b
  | .number n =>
    match n.int? with
    | some i =>
      if Int64.minValue.toInt ≤ i ∧ i < UInt64.size then int i else float (n.float?.getD .nan)
    | none => float (n.float?.getD .nan)
  | .string s => text (s.text?.getD "")
  | .array items => list (ofItems items)
  | .object entries => table (ofEntries [] entries)

/-- The values of the items of an array. -/
def ofItems : List Json → List Setting
  | [] => []
  | item :: items => ofJson item :: ofItems items

/-- The values of the entries of an object, put over those before them. -/
def ofEntries (before : List (String × Setting)) :
    List (Json.Quoted × Json) → List (String × Setting)
  | [] => before
  | (key, value) :: entries =>
    ofEntries (alter (key.text?.getD "") (fun _ => ofJson value) before) entries

end

end Setting

namespace DatabaseSettings

/-- The settings that a value stands for; all but the URL may be left out. -/
def ofSetting? (s : Setting) : Option DatabaseSettings := do
  let r ← s.toRecord? ["url", "max_connections", "min_connections", "connect_timeout_seconds",
    "idle_timeout_seconds"]
  let least : DatabaseSettings := { url := ← Setting.field? r "url" Setting.toText? }
  return {
    url := least.url
    maxConnections :=
      ← Setting.fieldOr? r "max_connections" least.maxConnections Setting.toUInt32?
    minConnections :=
      ← Setting.fieldOr? r "min_connections" least.minConnections Setting.toUInt32?
    connectTimeoutSeconds :=
      ← Setting.fieldOr? r "connect_timeout_seconds" least.connectTimeoutSeconds Setting.toUInt64?
    idleTimeoutSeconds :=
      ← Setting.fieldOr? r "idle_timeout_seconds" least.idleTimeoutSeconds Setting.toUInt64? }

end DatabaseSettings

namespace AuthSettings

/-- The settings that a value stands for; all but the secret may be left out. -/
def ofSetting? (s : Setting) : Option AuthSettings := do
  let r ← s.toRecord? ["jwt_secret", "jwt_issuer", "access_ttl_minutes", "refresh_ttl_hours",
    "store_timeout_seconds"]
  let least : AuthSettings := { secret := ← Setting.field? r "jwt_secret" Setting.toText? }
  return {
    secret := least.secret
    issuer := ← Setting.fieldOr? r "jwt_issuer" least.issuer Setting.toText?
    accessMinutes :=
      ← Setting.fieldOr? r "access_ttl_minutes" least.accessMinutes Setting.toUInt64?
    refreshHours :=
      ← Setting.fieldOr? r "refresh_ttl_hours" least.refreshHours Setting.toUInt64?
    storeTimeoutSeconds :=
      ← Setting.fieldOr? r "store_timeout_seconds" least.storeTimeoutSeconds Setting.toUInt64? }

end AuthSettings

namespace LoggingSettings

/-- The settings that a value stands for; everything may be left out. -/
def ofSetting? (s : Setting) : Option LoggingSettings := do
  let r ← s.toRecord? ["level", "format"]
  let least : LoggingSettings := {}
  return {
    level := ← Setting.fieldOr? r "level" least.level Setting.toText?
    format := ← Setting.fieldOr? r "format" least.format (Setting.toNamed? LogFormat.byName) }

end LoggingSettings

namespace Settings

/-- The settings that a value stands for; the section of the log may be left out. -/
def ofSetting? (s : Setting) : Option Settings := do
  let r ← s.toRecord? ["database", "auth", "logging"]
  return {
    database := ← Setting.field? r "database" DatabaseSettings.ofSetting?
    auth := ← Setting.field? r "auth" AuthSettings.ofSetting?
    logging := ← Setting.fieldOr? r "logging" {} LoggingSettings.ofSetting? }

end Settings

end DeviceSessions
