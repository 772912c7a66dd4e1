import DeviceSessions.CommandLine.Listing
import DeviceSessions.Database.Service
import DeviceSessions.Settings.Load

/-!
# Running commands

What each command does with a database, and how a run of the program ends. Questions are put to a
terminal; where there is none, a command that would ask something fails.
-/

namespace DeviceSessions.CommandLine

/-- Who answers questions: whether to go on, and with which password. Where there is no answer, the
words say why. -/
structure Terminal where
  confirm : (prompt : String) → Except String Bool
  password : Except String String

/-- No terminal, so no answers. -/
def Terminal.absent : Terminal :=
  ⟨fun _ => .error "IO error: not a terminal", .error "IO error: not a terminal"⟩

/-- What a run has to work with: files, variables, the database that can be reached and its URL,
the time, what identifiers and salts are drawn from, and the terminal. -/
structure Surroundings where
  files : String → Option String
  vars : List (String × String)
  server : Option (String × Database)
  now : Instant
  ids : Nat → Uuid
  salts : Nat → Bytes
  terminal : Terminal := .absent

/-- How a run ends: with help or a complaint about the command line, or with a status, what it
printed, and what it complained about. -/
inductive Ending where
  | usage (status : Nat)
  | finished (status : Nat) (output : String) (complaint : Option String)
  deriving DecidableEq, Repr

/-- What a command does under some settings; it may change the database. -/
abbrev Job := ReaderT Surroundings (ExceptT Error (StateM Database))

namespace Job

/-- Makes a request of the database. -/
def ask {α : Type} (r : Request α) : Job α := fun _ => r

/-- Reaches the database. -/
def connect (s : Settings) : Job Unit := do
  let reachable := (← read).server.any fun server => server.1 = s.database.url
  if !reachable then throw (Database.unreachable s.database.url)
  ask Request.healthCheck

/-- Runs an action of a controller. -/
def control {α : Type} (s : Settings) (action : Controller → Action α) : Job α := do
  let around ← read
  let world ← World.overDatabase s.auth (← get) around.now around.ids around.salts
  let (result, after) := world.run Database.backend (action ⟨s.auth.storeTimeout⟩)
  set after.state
  ofExcept result

/-- The answer to a question; without one the job fails. -/
def answered {α : Type} (answer : Except String α) : Job α :=
  match answer with
  | .ok a => return a
  | .error words => throw ⟨.internal, "Input error: " ++ words, false⟩

/-- Asks whether to go on, unless that is forced. -/
def confirm (prompt : String) (force : Bool) : Job Bool := do
  if force then return true else answered ((← read).terminal.confirm prompt)

/-- The user that is named. -/
def userId (raw : String) : Job Uuid :=
  match Uuid.read (Text.trim raw) with
  | .ok u => return u
  | .error e =>
    throw ⟨.validation, "Invalid user ID '" ++ raw ++ "': " ++ e.message, false⟩

/-- A line that reports success. -/
def success (message : String) : String := "ok: " ++ message ++ "\n"

/-- The line of a command that was called off. -/
def cancelled : String := "Cancelled.\n"

/-- The fewest characters of a password. -/
def minPasswordLength : Nat := 8

/-- Creates a user. -/
def createUser (format : OutputFormat) (email : String) (password : Option String) :
    Job String := do
  let email := Text.trim email
  if !email.toList.contains '@' then
    throw ⟨.validation, "Invalid email '" ++ email ++ "'", false⟩
  let around ← read
  let password ←
    match password with
    | some password => pure password
    | none => answered around.terminal.password
  if password.length < minPasswordLength then
    throw ⟨.validation, s!"Password must be at least {minPasswordLength} characters", false⟩
  let verifier : Verifier := {}
  let user ← ask (Request.createUser
    { email, passwordHash := verifier.hash password (around.salts 0) } (around.ids 0) around.now)
  return userListing.render format [user] ++ success ("User '" ++ user.email ++ "' created")

/-- Lets a user log in, or not. -/
def setActive (email : String) (active : Bool) : Job String := do
  match ← ask (Request.findUser email) with
  | none => throw ⟨.notFound, "User '" ++ email ++ "' not found", false⟩
  | some user =>
    let _ ← ask (Request.setActive user.id active (← read).now)
    return success
      ("User '" ++ user.email ++ "' " ++ if active then "enabled" else "disabled")

/-- Does a command, and returns what it prints. -/
def ofInvocation (s : Settings) (i : Invocation) : Job String :=
  match i.command with
  | .runMigrations => do
    connect s
    ask Request.migrate
    return success "Session schema is up to date"
  | .showMigrations => do
    connect s
    return migrationListing.render i.format (← ask Request.migrationStatus)
  | .createUser email password => do
    connect s
    createUser i.format email password
  | .setActive email active => do
    connect s
    setActive email active
  | .revokeAll user force => do
    let user ← userId user
    if ← confirm ("Revoke ALL sessions of " ++ user.text ++ "?") force then
      connect s
      control s (·.logout user)
      return success ("All sessions of " ++ user.text ++ " revoked")
    else return cancelled
  | .revokeDevice user device => do
    let user ← userId user
    connect s
    control s (·.revokeDevice user device)
    return success ("Session on device " ++ device ++ " revoked")
  | .listDevices user => do
    connect s
    let user ← userId user
    return deviceListing.render i.format (← control s (·.listDevices user))
  | .renameDevice user device name => do
    connect s
    let user ← userId user
    control s (·.renameDevice user device name)
    return success ("Device " ++ device ++ " renamed to '" ++ Text.trim name ++ "'")
  | .deleteDevice user device force => do
    connect s
    let user ← userId user
    let found ← control s (·.device user device)
    if ← confirm ("Delete device '" ++ found.name ++ "' and its session?") force then
      control s (·.deleteDevice user device)
      return success ("Device '" ++ found.name ++ "' deleted")
    else return cancelled
  | .inspectToken token => do
    let around ← read
    let claims ← (← Issuer.ofSettings s.auth).parse (Text.trim token) around.now
    return renderClaims i.format around.now claims

end Job

/-- The name and version of the program. -/
def versionText : String := "sessionkeeper 0.1.0\n"

/-- The commands in short. -/
def usageText : String :=
  "Usage: sessionkeeper [-c FILE] [-f table|json] COMMAND\n" ++
    String.join ([
      "migrate run", "migrate status", "user create --email EMAIL [--password PASSWORD]",
      "user enable EMAIL", "user disable EMAIL", "session revoke-all USER [--force]",
      "session revoke-device USER DEVICE", "device list USER", "device rename USER DEVICE NAME",
      "device delete USER DEVICE [--force]", "token inspect TOKEN"].map
      fun line => "  " ++ line ++ "\n")

/-- The end of a run whose command line leads to no command. -/
def Refusal.ending : Refusal → Ending
  | .help => .usage 0
  | .version => .finished 0 versionText none
  | .misuse => .usage 2

/-- The environment that variables name. -/
def environmentOf (vars : List (String × String)) : Option String :=
  vars.lookup "SESSIONKEEPER_ENV"

/-- The files that a run may look at. -/
def filesOf (words : List String) (vars : List (String × String)) : List String :=
  match Invocation.read words with
  | .ok i =>
    (Settings.fileNames i.settings (environmentOf vars)).flatMap fun name =>
      (Settings.candidates name).map (·.1)
  | .error _ => []

/-- The settings of a run. -/
def Surroundings.settings (s : Surroundings) (name : String) : Result Settings :=
  Settings.load s.files name (environmentOf s.vars) s.vars

/-- Runs a command line, and returns the database after it. -/
def run (around : Surroundings) (words : List String) : Ending × Option Database :=
  let db := around.server.map (·.2)
  match Invocation.read words with
  | .error refusal => (refusal.ending, db)
  | .ok i =>
    match around.settings i.settings with
    | .error e => (.finished 2 "" (some ("Failed to load configuration: " ++ e.display)), db)
    | .ok s =>
      let (result, after) := ((Job.ofInvocation s i).run around).run.run (db.getD Database.down)
      let ending :=
        match result with
        | .ok output => .finished 0 output none
        | .error e => .finished 1 "" (some e.display)
      (ending, db.map fun _ => after)

end DeviceSessions.CommandLine
