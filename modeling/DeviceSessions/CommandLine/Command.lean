import DeviceSessions.CommandLine.Grammar

/-!
# Commands

The commands of the program, and how they are written.
-/

namespace DeviceSessions.CommandLine

/-- How results are shown. -/
inductive OutputFormat where
  | table
  | json
  deriving DecidableEq, Repr

/-- The formats by name. -/
def OutputFormat.byName : List (String × OutputFormat) := [("table", .table), ("json", .json)]

/-- A command. Users and devices are named as they are written. -/
inductive Command where
  | runMigrations
  | showMigrations
  | createUser (email : String) (password : Option String)
  | setActive (email : String) (active : Bool)
  | revokeAll (user : String) (force : Bool)
  | revokeDevice (user device : String)
  | listDevices (user : String)
  | renameDevice (user device name : String)
  | deleteDevice (user device : String) (force : Bool)
  | inspectToken (token : String)
  deriving DecidableEq, Repr

/-- A command with the settings it runs under and the format of its results. -/
structure Invocation where
  settings : String := "config/default.toml"
  format : OutputFormat := .table
  command : Command
  deriving DecidableEq, Repr

namespace Invocation

/-- The option that asks for help. -/
def help : OptionRule := { name := "help", letter := some 'h', use := .help }

/-- An option with any value. -/
def free (name : String) : OptionRule := { name, use := .value fun _ => true }

/-- The option that leaves out a question. -/
def force : OptionRule := { name := "force", use := .switch }

/-- The grammar of the command line. -/
def grammar : Grammar :=
  .branch [
    { name := "config", letter := some 'c', use := .value fun _ => true },
    { name := "format", letter := some 'f',
      use := .value fun name => (OutputFormat.byName.lookup name).isSome },
    help, { name := "version", letter := some 'V', use := .version }] [
    ("migrate", .branch [help] [("run", .leaf [help] 0), ("status", .leaf [help] 0)]),
    ("user", .branch [help] [
      ("create", .leaf [free "email", free "password", help] 0), ("enable", .leaf [help] 1),
      ("disable", .leaf [help] 1)]),
    ("session", .branch [help] [
      ("revoke-all", .leaf [force, help] 1), ("revoke-device", .leaf [help] 2)]),
    ("device", .branch [help] [
      ("list", .leaf [help] 1), ("rename", .leaf [help] 3), ("delete", .leaf [force, help] 2)]),
    ("token", .branch [help] [("inspect", .leaf [help] 1)])]

/-- The command that was read, if nothing is missing. -/
def command? (r : Reading) : Option Command :=
  let force := (r.value? "force").isSome
  match r.path, r.words with
  | ["migrate", "run"], [] => some .runMigrations
  | ["migrate", "status"], [] => some .showMigrations
  | ["user", "create"], [] =>
    (r.value? "email").map fun email => .createUser email (r.value? "password")
  | ["user", "enable"], [email] => some (.setActive email true)
  | ["user", "disable"], [email] => some (.setActive email false)
  | ["session", "revoke-all"], [user] => some (.revokeAll user force)
  | ["session", "revoke-device"], [user, device] => some (.revokeDevice user device)
  | ["device", "list"], [user] => some (.listDevices user)
  | ["device", "rename"], [user, device, name] => some (.renameDevice user device name)
  | ["device", "delete"], [user, device] => some (.deleteDevice user device force)
  | ["token", "inspect"], [token] => some (.inspectToken token)
  | _, _ => none

/-- What was read, if nothing is missing. -/
def ofReading? (r : Reading) : Option Invocation := do
  let least : Invocation := { command := ← command? r }
  return { least with
    settings := (r.value? "config").getD least.settings
    format := ((r.value? "format").bind fun f => OutputFormat.byName.lookup f).getD least.format }

/-- Reads a command line. -/
def read (words : List String) : Except Refusal Invocation := do
  let r ← grammar.read {} false words
  match ofReading? r with
  | some i => return i
  | none => throw .misuse

end Invocation

end DeviceSessions.CommandLine
