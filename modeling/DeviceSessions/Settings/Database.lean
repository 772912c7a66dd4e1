import DeviceSessions.Error
import DeviceSessions.Text.Blank
import DeviceSessions.Time.Span

/-!
# Settings of the database

Where the database is, and how many connections to it are kept.
-/

namespace DeviceSessions

/-- The settings of the database. The URL may hold a password. -/
structure DatabaseSettings where
  url : String
  maxConnections : UInt32 := 10
  minConnections : UInt32 := 1
  connectTimeoutSeconds : UInt64 := 5
  idleTimeoutSeconds : UInt64 := 600
  deriving DecidableEq, Repr

/-- How connections are kept. -/
structure PoolOptions where
  maxConnections : Nat
  minConnections : Nat
  acquireTimeout : Span
  idleTimeout : Span
  deriving DecidableEq, Repr

namespace DatabaseSettings

/-- How long to wait for a connection. -/
def connectTimeout (s : DatabaseSettings) : Span := .ofSecs s.connectTimeoutSeconds.toNat

/-- How long an idle connection is kept. -/
def idleTimeout (s : DatabaseSettings) : Span := .ofSecs s.idleTimeoutSeconds.toNat

/-- How connections are kept under these settings: never fewer at least than at most. -/
def pool (s : DatabaseSettings) : PoolOptions :=
  { maxConnections := s.maxConnections.toNat
    minConnections := min s.minConnections.toNat s.maxConnections.toNat
    acquireTimeout := s.connectTimeout
    idleTimeout := s.idleTimeout }

/-- Refuses settings with which no connection can be made. -/
def validate (s : DatabaseSettings) : Result Unit :=
  if Text.trim s.url = "" then .error ⟨.configuration, "database.url must be set", false⟩
  else if s.maxConnections = 0 then
    .error ⟨.configuration, "database.max_connections must be at least 1", false⟩
  else if s.connectTimeoutSeconds = 0 then
    .error ⟨.configuration, "database.connect_timeout_seconds must be at least 1", false⟩
  else .ok ()

/-- The form in diagnostics, which does not show the URL. -/
def diagnostic (s : DatabaseSettings) : String :=
  "DatabaseConfig \x7b url: \"<redacted>\", max_connections: " ++ toString s.maxConnections.toNat ++
    ", min_connections: " ++ toString s.minConnections.toNat ++
    ", connect_timeout_seconds: " ++ toString s.connectTimeoutSeconds.toNat ++
    ", idle_timeout_seconds: " ++ toString s.idleTimeoutSeconds.toNat ++ " \x7d"

end DatabaseSettings

end DeviceSessions
