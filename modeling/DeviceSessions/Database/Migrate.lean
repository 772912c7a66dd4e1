import DeviceSessions.Controller.Event
import DeviceSessions.Database.Query

/-!
# Running the scripts of the schema

Every script that the database has not recorded is run, each in a transaction with its record. A
script that was run with another text, or that is not known, stops the run.
-/

namespace DeviceSessions

/-- The description of a version. -/
def Migration.describe (version : Int) : String :=
  match all.find? fun m => m.version = version with
  | some m => m.description
  | none => "other"

/-- The record of a script that was run well. -/
def Migration.row (m : Migration) : MigrationRow := ⟨m.version, m.description, true, m.checksum⟩

/-- The records of all scripts. -/
def Migration.allRows : Keyed Int MigrationRow := .ofList (all.map fun m => (m.version, m.row))

/-- The event that reports that no script is missing. -/
def Migration.upToDate : Event :=
  ⟨.info, "Session database schema is up to date", [("count", .number all.length)]⟩

namespace Tables

/-- Creates the table of scripts, if it is not there. -/
def createMigrations (t : Tables) : Outcome (Unit × Tables) :=
  .ok ((), { t with migrations := some (t.migrations.getD .empty) })

/-- The records of scripts; their table has to be there. -/
def migrationRows (t : Tables) : Outcome (Keyed Int MigrationRow × Tables) :=
  match t.migrations with
  | some rows => .ok (rows, t)
  | none => .error .failed

/-- Refuses to go on after a script that failed half way. -/
def refuseDirty (t : Tables) : Outcome (Unit × Tables) := do
  let (rows, t) ← t.migrationRows
  if rows.values.any fun r => !r.success then throw .failed
  return ((), t)

/-- Runs the script of number `index`. The first may be run again; the second needs the tables of
the first, and cannot be run twice. -/
def runScript (t : Tables) (index : Nat) : Outcome (Unit × Tables) :=
  if index = 0 then .ok ((), { t with schema := max t.schema 1 })
  else if t.schema = index then .ok ((), { t with schema := index + 1 })
  else .error .failed

/-- Records that a script was run. -/
def recordMigration (t : Tables) (m : Migration) : Outcome (Unit × Tables) := do
  let (rows, t) ← t.migrationRows
  return ((), { t with migrations := some (rows.put m.version m.row) })

end Tables

namespace Query

/-- Runs one script with its record, both or neither; how long it took is noted afterwards. -/
def applyMigration (m : Migration) (index : Nat) : Query Unit := do
  atomically do
    ping .begin
    send .script (·.runScript index)
    send .recordMigration (·.recordMigration m)
    ping .commit
  ping .timeMigration

/-- Runs a script that is not recorded; one that is must have the same text. -/
def migrateOne (recorded : Keyed Int MigrationRow) (m : Migration) (index : Nat) : Query Unit :=
  match recorded.get? m.version with
  | some row => if row.checksum = m.checksum then return else throw .failed
  | none => applyMigration m index

/-- Runs the scripts from number `index` on. -/
def migrateFrom (recorded : Keyed Int MigrationRow) : Nat → List Migration → Query Unit
  | _, [] => return
  | index, m :: rest => do
    migrateOne recorded m index
    migrateFrom recorded (index + 1) rest

/-- Runs every script that is not recorded. -/
def migrate : Query Unit := do
  ping .databaseName
  ping .lock
  send .script Tables.createMigrations
  send .dirtyVersion Tables.refuseDirty
  let recorded ← send .listApplied Tables.migrationRows
  if recorded.values.any fun r => !Migration.all.any fun m => m.version = r.version then
    throw .failed
  migrateFrom recorded 0 Migration.all
  ping .databaseName
  ping .unlock

end Query

/-- A script, and whether the database records that it was run. -/
structure MigrationStatus where
  version : Int
  description : String
  applied : Bool
  deriving DecidableEq, Repr

namespace Request

/-- Runs every script that is not recorded. -/
def migrate : Request Unit := Query.migrate.orElseFail fun _ => databaseError "Failed to run migrations"

/-- Which scripts were run. -/
def migrationStatus : Request (List MigrationStatus) := do
  let known ← send .inspectMigrations "Failed to inspect migrations"
    fun t => .ok (t.migrations.isSome, t)
  let rows ←
    if known then
      send .appliedVersions "Failed to list applied migrations" Tables.migrationRows
    else pure .empty
  return Migration.all.map fun m =>
    ⟨m.version, m.description, (rows.get? m.version).any (·.success)⟩

end Request

end DeviceSessions
