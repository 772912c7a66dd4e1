import DeviceSessions.Json.Fields
import DeviceSessions.Settings.Basic

/-!
# Settings in JSON
-/

namespace DeviceSessions

open Json

namespace AuthSettings

/-- The JSON form. -/
def toJson (s : AuthSettings) : Json :=
  ofFields [
    ("jwt_secret", ofText s.secret), ("jwt_issuer", ofText s.issuer),
    ("access_ttl_minutes", ofNat s.accessMinutes.toNat),
    ("refresh_ttl_hours", ofNat s.refreshHours.toNat),
    ("store_timeout_seconds", ofNat s.storeTimeoutSeconds.toNat)]

/-- Reads the JSON form; all but the secret may be left out. -/
def ofJson? (j : Json) : Option AuthSettings := do
  let r ← record? ["jwt_secret", "jwt_issuer", "access_ttl_minutes", "refresh_ttl_hours",
    "store_timeout_seconds"] j
  let least : AuthSettings := { secret := ← r.field? "jwt_secret" text? }
  return {
    secret := least.secret
    issuer := ← r.fieldOr? "jwt_issuer" least.issuer text?
    accessMinutes := ← r.fieldOr? "access_ttl_minutes" least.accessMinutes uint64?
    refreshHours := ← r.fieldOr? "refresh_ttl_hours" least.refreshHours uint64?
    storeTimeoutSeconds :=
      ← r.fieldOr? "store_timeout_seconds" least.storeTimeoutSeconds uint64? }

end AuthSettings

namespace DatabaseSettings

/-- The JSON form. -/
def toJson (s : DatabaseSettings) : Json :=
  ofFields [
    ("url", ofText s.url), ("max_connections", ofNat s.maxConnections.toNat),
    ("min_connections", ofNat s.minConnections.toNat),
    ("connect_timeout_seconds", ofNat s.connectTimeoutSeconds.toNat),
    ("idle_timeout_seconds", ofNat s.idleTimeoutSeconds.toNat)]

/-- Reads the JSON form; all but the URL may be left out. -/
def ofJson? (j : Json) : Option DatabaseSettings := do
  let r ← record? ["url", "max_connections", "min_connections", "connect_timeout_seconds",
    "idle_timeout_seconds"] j
  let least : DatabaseSettings := { url := ← r.field? "url" text? }
  return {
    url := least.url
    maxConnections := ← r.fieldOr? "max_connections" least.maxConnections uint32?
    minConnections := ← r.fieldOr? "min_connections" least.minConnections uint32?
    connectTimeoutSeconds :=
      ← r.fieldOr? "connect_timeout_seconds" least.connectTimeoutSeconds uint64?
    idleTimeoutSeconds := ← r.fieldOr? "idle_timeout_seconds" least.idleTimeoutSeconds uint64? }

end DatabaseSettings

namespace LoggingSettings

/-- The JSON form. -/
def toJson (s : LoggingSettings) : Json :=
  ofFields [("level", ofText s.level), ("format", ofText s.format.name)]

/-- Reads the JSON form; everything may be left out. -/
def ofJson? (j : Json) : Option LoggingSettings := do
  let r ← record? ["level", "format"] j
  let least : LoggingSettings := {}
  return {
    level := ← r.fieldOr? "level" least.level text?
    format := ← r.fieldOr? "format" least.format (named? LogFormat.byName) }

end LoggingSettings

namespace Settings

/-- The JSON form. -/
def toJson (s : Settings) : Json :=
  ofFields [
    ("database", s.database.toJson), ("auth", s.auth.toJson), ("logging", s.logging.toJson)]

/-- Reads the JSON form; the section of the log may be left out. -/
def ofJson? (j : Json) : Option Settings := do
  let r ← record? ["database", "auth", "logging"] j
  return {
    database := ← r.field? "database" DatabaseSettings.ofJson?
    auth := ← r.field? "auth" AuthSettings.ofJson?
    logging := ← r.fieldOr? "logging" {} LoggingSettings.ofJson? }

end Settings

end DeviceSessions
