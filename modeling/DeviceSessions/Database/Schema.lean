import DeviceSessions.Digest.Sha384

/-!
# Schema

The scripts that create the tables, in order, each under a version. A database records which of them
it has been given, with a checksum that tells whether it was this text.
-/

namespace DeviceSessions

/-- A script that changes the schema. -/
structure Migration where
  version : Int
  description : String
  script : String
  deriving DecidableEq, Repr

namespace Migration

/-- The digest of the script. -/
def checksum (m : Migration) : Bytes := Digest.sha384 (Bytes.ofText m.script)

/-- The text with these lines. -/
def ofLines (lines : List String) : String := String.join (lines.map (· ++ "\n"))

/-- Users, with email addresses that are unique in any letter case. -/
def users : Migration := ⟨20260101000001, "users", ofLines [
  "CREATE TABLE IF NOT EXISTS users (",
  "    id            UUID PRIMARY KEY,",
  "    email         TEXT NOT NULL,",
  "    password_hash TEXT NOT NULL,",
  "    is_active     BOOLEAN NOT NULL DEFAULT TRUE,",
  "    created_at    TIMESTAMPTZ NOT NULL DEFAULT NOW(),",
  "    updated_at    TIMESTAMPTZ NOT NULL DEFAULT NOW()",
  ");",
  "",
  "CREATE UNIQUE INDEX IF NOT EXISTS users_email_lower_idx ON users (LOWER(email));"]⟩

/-- Devices and sessions. A device takes its session with it. -/
def sessions : Migration := ⟨20260101000002, "devices sessions", ofLines [
  "CREATE TYPE device_type AS ENUM ('desktop', 'mobile', 'tablet', 'bot', 'unknown');",
  "",
  "CREATE TABLE IF NOT EXISTS devices (",
  "    id          TEXT NOT NULL,",
  "    user_id     UUID NOT NULL REFERENCES users (id) ON DELETE CASCADE,",
  "    name        TEXT NOT NULL,",
  "    device_type device_type NOT NULL DEFAULT 'unknown',",
  "    os          TEXT NOT NULL,",
  "    browser     TEXT NOT NULL,",
  "    user_agent  TEXT NOT NULL,",
  "    ip          TEXT NOT NULL,",
  "    last_active TIMESTAMPTZ NOT NULL DEFAULT NOW(),",
  "    created_at  TIMESTAMPTZ NOT NULL DEFAULT NOW(),",
  "    PRIMARY KEY (user_id, id)",
  ");",
  "",
  "CREATE TABLE IF NOT EXISTS sessions (",
  "    id           BIGSERIAL PRIMARY KEY,",
  "    user_id      UUID NOT NULL,",
  "    device_id    TEXT NOT NULL,",
  "    token_hash   TEXT NOT NULL,",
  "    expires_at   TIMESTAMPTZ NOT NULL,",
  "    revoked      BOOLEAN NOT NULL DEFAULT FALSE,",
  "    last_used_at TIMESTAMPTZ NOT NULL DEFAULT NOW(),",
  "    created_at   TIMESTAMPTZ NOT NULL DEFAULT NOW(),",
  "    CONSTRAINT sessions_user_device_key UNIQUE (user_id, device_id),",
  "    CONSTRAINT sessions_device_fk FOREIGN KEY (user_id, device_id)",
  "        REFERENCES devices (user_id, id) ON DELETE CASCADE",
  ");",
  "",
  "CREATE INDEX IF NOT EXISTS sessions_user_active_idx ON sessions (user_id) WHERE NOT revoked;"]⟩

/-- All scripts in order. -/
def all : List Migration := [users, sessions]

end Migration

end DeviceSessions
