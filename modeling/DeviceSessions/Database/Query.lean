import DeviceSessions.Database.Statement
import DeviceSessions.Database.Tables
import DeviceSessions.Error

/-!
# Queries

A query sends statements to a database one after the other and stops at the first that fails. Some
statements may be made to fail. A transaction that does not end well leaves no trace, except for
numbers taken from the sequence.
-/

namespace DeviceSessions

/-- A database: its tables, and the statements that fail. -/
structure Database where
  tables : Tables := {}
  faults : List Statement := []
  deriving Repr

/-- A query with an answer. -/
abbrev Query := ExceptT Rejection (StateM Database)

/-- A query whose failure is an error. -/
abbrev Request := ExceptT Error (StateM Database)

/-- Undoes what a program did to the tables if it fails. -/
def atomically {ε α : Type} (q : ExceptT ε (StateM Database) α) : ExceptT ε (StateM Database) α :=
  ExceptT.mk fun db =>
    match q.run.run db with
    | (.ok a, after) => (.ok a, after)
    | (.error e, after) =>
      (.error e,
        { after with tables := { db.tables with nextSessionId := after.tables.nextSessionId } })

namespace Query

/-- Sends one statement. -/
def send {α : Type} (s : Statement) (effect : Tables → Tables.Outcome (α × Tables)) : Query α :=
  ExceptT.mk fun db =>
    if db.faults.contains s then (.error .failed, db)
    else
      match effect db.tables with
      | .ok (a, tables) => (.ok a, { db with tables })
      | .error e => (.error e, db)

/-- Sends a statement that only has to be answered. -/
def ping (s : Statement) : Query Unit := send s fun t => .ok ((), t)

/-- The query with its failures made errors. -/
def orElseFail {α : Type} (q : Query α) (message : Rejection → Error) : Request α :=
  ExceptT.mk fun db =>
    match q.run.run db with
    | (.ok a, db) => (.ok a, db)
    | (.error e, db) => (.error (message e), db)

end Query

/-- An error of the database, which keeps the database's own as its source. -/
def databaseError (message : String) : Error := ⟨.database, message, true⟩

namespace Request

/-- Sends one statement, whose failure has a message. -/
def send {α : Type} (s : Statement) (message : String)
    (effect : Tables → Tables.Outcome (α × Tables)) : Request α :=
  (Query.send s effect).orElseFail fun _ => databaseError message

/-- The result of a request, and the database after it. -/
def on {α : Type} (r : Request α) (db : Database) : Result α × Database := r.run.run db

end Request

end DeviceSessions
