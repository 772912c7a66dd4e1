import DeviceSessions.Database.Connection
import DeviceSessions.Database.Migrate

/-!
# A database in a world

Requests of the program that are made beside those of a controller, in the same world.
-/

namespace DeviceSessions.World

/-- The world of a controller with these settings over a database. -/
def overDatabase (s : AuthSettings) (db : Database) (now : Instant) (ids : Nat → Uuid)
    (salts : Nat → Bytes) : Result (World Database) := do
  let issuer ← Issuer.ofSettings s
  return { now, deadline := s.storeTimeout, issuer, verifier := {}, ids, salts, state := db }

/-- Makes a request of the database. -/
def ask {α : Type} (w : World Database) (r : Request α) : Result α × World Database :=
  let (result, state) := r.on w.state
  (result, { w with state })

/-- Brings the schema up to date and reports that. -/
def migrate (w : World Database) : Result Unit × World Database :=
  match w.ask Request.migrate with
  | (.ok (), w) => (.ok (), { w with log := w.log ++ [Migration.upToDate] })
  | (.error e, w) => (.error e, w)

/-- Adds a user under a fresh identifier. -/
def createUser (w : World Database) (n : NewUser) : Result User × World Database :=
  let (id, w) := w.drawId
  w.ask (Request.createUser n id w.now)

end DeviceSessions.World
