/-!
# Statements

The statements that the program sends to its database, by name.
-/

namespace DeviceSessions

/-- A statement. -/
inductive Statement where
  | healthCheck
  | findUser
  | createUser
  | setActive
  | begin
  | upsertDevice
  | upsertSession
  | commit
  | listDevices
  | findDevice
  | renameDevice
  | deleteDevice
  | findSession
  | touchSession
  | revokeAll
  | revokeDevice
  | inspectMigrations
  | appliedVersions
  | databaseName
  | lock
  | script
  | dirtyVersion
  | listApplied
  | recordMigration
  | timeMigration
  | unlock
  deriving DecidableEq, Repr

namespace Statement

/-- All statements by name. -/
def byName : List (String × Statement) := [
  ("health_check", healthCheck), ("find_user", findUser), ("create_user", createUser),
  ("set_active", setActive), ("begin", begin), ("upsert_device", upsertDevice),
  ("upsert_session", upsertSession), ("commit", commit), ("list_devices", listDevices),
  ("find_device", findDevice), ("rename_device", renameDevice), ("delete_device", deleteDevice),
  ("find_session", findSession), ("touch_session", touchSession), ("revoke_all", revokeAll),
  ("revoke_device", revokeDevice), ("inspect_migrations", inspectMigrations),
  ("applied_versions", appliedVersions), ("database_name", databaseName), ("lock", lock),
  ("script", script), ("dirty_version", dirtyVersion), ("list_applied", listApplied),
  ("record_migration", recordMigration), ("time_migration", timeMigration), ("unlock", unlock)]

/-- All statements. -/
def all : List Statement := byName.map Prod.snd

end Statement

end DeviceSessions
