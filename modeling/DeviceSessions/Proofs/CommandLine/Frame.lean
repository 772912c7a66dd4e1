import DeviceSessions.CommandLine.Run
import DeviceSessions.Proofs.Controller.Frame
import DeviceSessions.Proofs.Settings.Loaded
import DeviceSessions.Proofs.Text

/-!
# What commands leave as it is

A command is a chain of parts that read, with at most one part at its end that writes. So it either
fails and leaves the database as it was, or ends well, and then the tables are what that one part
makes of them. Only running the scripts of the schema is more than that. The status of a run tells
which of these it was.
-/

namespace DeviceSessions

open Request (Leaves)

namespace CommandLine

/-! ### What commands do -/

/-- Whether a question is answered with yes, or not asked. -/
def Surroundings.agrees (around : Surroundings) (prompt : String) (force : Bool) : Bool :=
  force || (around.terminal.confirm prompt).toOption = some true

/-- What a command that ends well makes of the tables `t`. Users and devices are those that the words
of the command name. -/
def Command.Changes (around : Surroundings) (t t' : Tables) : Command → Prop
  | .runMigrations => t'.rows = t.rows
  | .createUser email _ =>
    ∃ (user : User) (absent : t.users.get? user.id = none),
      user.email = Text.trim email ∧ t.userByEmail? user.email = none ∧
      t' = { t with users := t.users.insert user.id user absent }
  | .setActive email active =>
    ∃ user, t.userByEmail? email = some user ∧
      t' = { t with users := t.users.update user.id fun u =>
        { u with isActive := active, updatedAt := Tables.clock around.now } }
  | .revokeAll raw force =>
    ∃ user, Uuid.read (Text.trim raw) = .ok user ∧
      if around.agrees ("Revoke ALL sessions of " ++ user.text ++ "?") force then
        t' = { t with
          sessions := t.sessions.mapValues fun k s => if k.1 = user then s.revoke else s }
      else t' = t
  | .revokeDevice raw device =>
    ∃ user, Uuid.read (Text.trim raw) = .ok user ∧
      t' = { t with sessions := t.sessions.update (user, device) Session.revoke }
  | .renameDevice raw device name =>
    ∃ user, Uuid.read (Text.trim raw) = .ok user ∧ t.devices.contains (user, device) = true ∧
      t' = { t with devices := t.devices.update (user, device) fun d =>
        { d with name := Text.trim name } }
  | .deleteDevice raw device force =>
    ∃ user d, Uuid.read (Text.trim raw) = .ok user ∧ t.devices.get? (user, device) = some d ∧
      if around.agrees ("Delete device '" ++ d.name ++ "' and its session?") force then
        t' = { t with
          devices := t.devices.erase (user, device), sessions := t.sessions.erase (user, device) }
      else t' = t
  | .showMigrations | .listDevices _ | .inspectToken _ => t' = t

namespace Job

variable {α β : Type} {P : α → Tables → Prop} {Q : β → Tables → Prop}
  {around : Surroundings} {db : Database}

/-- What a job comes to, and the database after it. -/
def ran (j : Job α) (around : Surroundings) (db : Database) : Result α × Database :=
  Request.on (j.run around) db

theorem ran_bind (j : Job α) (f : α → Job β) (around : Surroundings) (db : Database) :
    (j >>= f).ran around db = match j.ran around db with
      | (.ok a, db') => (f a).ran around db'
      | (.error e, db') => (.error e, db') := by
  cases step : j.ran around db with
  | mk result db' =>
    cases result with
    | error e => exact Request.on_bind_error step fun a => (f a).run around
    | ok a => exact Request.on_bind step fun a => (f a).run around

theorem ran_read_bind (f : Surroundings → Job β) (around : Surroundings) (db : Database) :
    ((read : Job Surroundings) >>= f).ran around db = (f around).ran around db := rfl

theorem ran_lift (r : Result α) (around : Surroundings) (db : Database) :
    (liftM r : Job α).ran around db = (r, db) := by
  cases r with
  | error e => rfl
  | ok a => rfl

/-- An operation of a controller is run in a world around the database. -/
theorem ran_control (s : Settings) (operation : Controller → Action α) (around : Surroundings)
    (db : Database) :
    (control s operation).ran around db =
      match World.overDatabase s.auth db around.now around.ids around.salts with
      | .error e => (.error e, db)
      | .ok w => w.ran (operation ⟨s.auth.storeTimeout⟩) := by
  unfold control
  rw [ran_read_bind, ran_bind, show ran (get : Job Database) around db = (.ok db, db) from rfl]
  dsimp only
  rw [ran_bind, ran_lift]
  cases World.overDatabase s.auth db around.now around.ids around.salts with
  | error e => rfl
  | ok w =>
    dsimp only
    rw [ran_bind]
    unfold World.ran
    cases (w.run Database.backend (operation ⟨s.auth.storeTimeout⟩)).1 with
    | error e => rfl
    | ok a => rfl

theorem leaves_control {s : Settings} {operation : Controller → Action α}
    (left : ∀ w : World Database, w.state = db → (∀ target, w.faults target = none) →
      Leaves db P (w.ran (operation ⟨s.auth.storeTimeout⟩))) :
    Leaves db P ((control s operation).ran around db) := by
  rw [ran_control]
  cases made : World.overDatabase s.auth db around.now around.ids around.salts with
  | error e => exact .failed e
  | ok w =>
    unfold World.overDatabase at made
    cases issuer : Issuer.ofSettings s.auth with
    | error e =>
      rw [issuer] at made
      cases made
    | ok a =>
      rw [issuer] at made
      cases made
      exact left _ rfl fun _ => rfl

/-- A part of a job that only reads leaves it to the rest what is left. -/
theorem leaves_bind_read {j : Job α} {f : α → Job β} {read : α → Prop}
    (first : Leaves db (fun a t => t = db.tables ∧ read a) (j.ran around db))
    (rest : ∀ a, read a → Leaves db Q ((f a).ran around db)) :
    Leaves db Q ((j >>= f).ran around db) :=
  Request.Leaves.bind_read first rest

theorem leaves_bind_pure {j : Job α} {g : α → β}
    (first : Leaves db (fun a => Q (g a)) (j.ran around db)) :
    Leaves db Q ((j >>= fun a => pure (g a)).ran around db) :=
  Request.Leaves.bind_pure first

theorem leaves_pure {a : α} (holds : P a db.tables) :
    Leaves db P ((pure a : Job α).ran around db) := .answered holds

theorem leaves_connect (s : Settings) :
    Leaves db (fun _ t => t = db.tables ∧ True) ((connect s).ran around db) := by
  unfold connect
  rw [ran_read_bind]
  dsimp only
  split
  · exact .failed _
  · exact Request.leaves_healthCheck.mono fun _ _ same => ⟨same, trivial⟩

/-- Reaching the database changes nothing in it. -/
theorem leaves_connected (s : Settings) {f : Unit → Job α}
    (rest : Leaves db P ((f ()).ran around db)) : Leaves db P ((connect s >>= f).ran around db) :=
  leaves_bind_read (leaves_connect s) fun _ _ => rest

theorem leaves_userId (raw : String) :
    Leaves db (fun user t => t = db.tables ∧ Uuid.read (Text.trim raw) = .ok user)
      ((userId raw).ran around db) := by
  unfold userId
  cases Uuid.read (Text.trim raw) with
  | error e => exact .failed _
  | ok user => exact .answered ⟨rfl, rfl⟩

theorem leaves_lift (r : Result α) :
    Leaves db (fun a t => t = db.tables ∧ r = .ok a) ((liftM r : Job α).ran around db) := by
  rw [ran_lift]
  cases r with
  | error e => exact .failed e
  | ok a => exact .answered ⟨rfl, rfl⟩

theorem leaves_answered (answer : Except String α) :
    Leaves db (fun a t => t = db.tables ∧ answer = .ok a) ((answered answer).ran around db) := by
  unfold answered
  cases answer with
  | error words => exact .failed _
  | ok a => exact .answered ⟨rfl, rfl⟩

theorem leaves_confirm (prompt : String) (force : Bool) :
    Leaves db (fun yes t => t = db.tables ∧ yes = around.agrees prompt force)
      ((confirm prompt force).ran around db) := by
  unfold confirm
  cases force with
  | true => exact .answered ⟨rfl, rfl⟩
  | false =>
    refine (leaves_answered (around.terminal.confirm prompt)).mono ?_
    rintro yes t ⟨same, answer⟩
    refine ⟨same, ?_⟩
    simp [Surroundings.agrees, answer, Except.toOption]

/-- A check before a job. -/
theorem leaves_unless {p : Prop} [Decidable p] {e : Error} {j : Job α}
    (left : Leaves db P (j.ran around db)) :
    Leaves db P ((if p then do throw e; j else j : Job α).ran around db) := by
  split
  · exact .failed e
  · exact left

theorem leaves_createUser (format : OutputFormat) (email : String) (password : Option String) :
    Leaves db (fun _ t => (Command.createUser email password).Changes around db.tables t)
      ((createUser format email password).ran around db) := by
  have created : ∀ hash, Leaves db
      (fun _ t => (Command.createUser email password).Changes around db.tables t)
      (ran (ask (Request.createUser ⟨Text.trim email, hash⟩ (around.ids 0) around.now)) around db) := by
    intro hash
    refine Request.leaves_statement fun user t done => ?_
    dsimp only at done
    rw [Text.trim_trim] at done
    obtain ⟨absent, free, rfl, rfl⟩ := Tables.createUser_ok done
    exact ⟨NewUser.activate ⟨Text.trim email, hash⟩ _ _, absent, rfl, free, rfl⟩
  refine leaves_unless ?_
  rw [ran_read_bind]
  cases password with
  | some given => exact leaves_unless (leaves_bind_pure (created _))
  | none =>
    refine leaves_bind_read (leaves_answered around.terminal.password) fun _ _ => ?_
    exact leaves_unless (leaves_bind_pure (created _))

theorem leaves_setActive (email : String) (active : Bool) :
    Leaves db (fun _ t => (Command.setActive email active).Changes around db.tables t)
      ((setActive email active).ran around db) := by
  have looked : Leaves db (fun found t => t = db.tables ∧ found = db.tables.userByEmail? email)
      ((ask (Request.findUser email)).ran around db) := Request.leaves_findUser email
  refine leaves_bind_read looked ?_
  intro found known
  cases found with
  | none => exact .failed _
  | some user =>
    dsimp only
    have set : Leaves db (fun _ t => (Command.setActive email active).Changes around db.tables t)
        ((ask (Request.setActive user.id active around.now)).ran around db) := by
      refine Request.leaves_statement fun _ t done => ?_
      exact ⟨user, known.symm, Tables.setActive_ok done⟩
    rw [ran_read_bind]
    exact leaves_bind_pure set

/-- What stands behind a question is done where the answer is yes, and left out otherwise. -/
theorem leaves_confirmed {prompt : String} {force : Bool} {j : Job α} {a : α}
    (yes : around.agrees prompt force = true → Leaves db P (j.ran around db))
    (no : around.agrees prompt force = false → P a db.tables) :
    Leaves db P ((confirm prompt force >>= fun agreed => if agreed then j else pure a).ran around
      db) := by
  refine leaves_bind_read (leaves_confirm prompt force) ?_
  intro agreed answer
  cases agreed with
  | true => exact yes answer.symm
  | false => exact leaves_pure (no answer.symm)

theorem leaves_revokeAll (s : Settings) (file : String) (format : OutputFormat) (raw : String)
    (force : Bool) :
    Leaves db (fun _ t => (Command.revokeAll raw force).Changes around db.tables t)
      ((ofInvocation s ⟨file, format, .revokeAll raw force⟩).ran around db) := by
  refine leaves_bind_read (leaves_userId raw) ?_
  intro user named
  refine leaves_confirmed (fun yes => ?_) fun no => ?_
  · refine leaves_connected s ?_
    refine leaves_bind_pure (leaves_control fun w state quiet => ?_)
    subst state
    refine (World.leaves_logout quiet _ user).mono fun _ t done => ?_
    exact ⟨user, named, by rw [if_pos yes]; exact done⟩
  · exact ⟨user, named, by rw [no]; rfl⟩

theorem leaves_deleteDevice (s : Settings) (file : String) (format : OutputFormat)
    (raw device : String) (force : Bool) :
    Leaves db (fun _ t => (Command.deleteDevice raw device force).Changes around db.tables t)
      ((ofInvocation s ⟨file, format, .deleteDevice raw device force⟩).ran around db) := by
  refine leaves_connected s ?_
  refine leaves_bind_read (leaves_userId raw) ?_
  intro user named
  have looked : Leaves db (fun d t => t = db.tables ∧ db.tables.devices.get? (user, device) = some d)
      ((control s (·.device user device)).ran around db) := by
    refine leaves_control fun w state quiet => ?_
    subst state
    exact World.leaves_device quiet _ user device
  refine leaves_bind_read looked ?_
  intro found there
  refine leaves_confirmed (fun yes => ?_) fun no => ?_
  · refine leaves_bind_pure (leaves_control fun w state quiet => ?_)
    subst state
    -- Removing an unknown device might still remove a session, so the device has to be known.
    have known : w.state.tables.devices.contains (user, device) = true := by
      rw [Keyed.contains, there]
      rfl
    refine (World.leaves_deleteDevice quiet _ known).mono fun _ t done => ?_
    exact ⟨user, found, named, there, by rw [if_pos yes]; exact done⟩
  · exact ⟨user, found, named, there, by rw [no]; rfl⟩

/-- Of the parts of a command only the last one writes, and what it may write is decided by then. -/
theorem leaves_ofInvocation (s : Settings) (i : Invocation) (other : i.command ≠ .runMigrations)
    (around : Surroundings) (db : Database) :
    Leaves db (fun _ t => i.command.Changes around db.tables t)
      ((ofInvocation s i).ran around db) := by
  obtain ⟨file, format, command⟩ := i
  cases command with
  | runMigrations => exact absurd rfl other
  | showMigrations =>
    refine leaves_connected s ?_
    exact leaves_bind_pure Request.leaves_migrationStatus
  | createUser email password =>
    refine leaves_connected s ?_
    exact leaves_createUser format email password
  | setActive email active =>
    refine leaves_connected s ?_
    exact leaves_setActive email active
  | revokeAll raw force => exact leaves_revokeAll s file format raw force
  | revokeDevice raw device =>
    refine leaves_bind_read (leaves_userId raw) ?_
    intro user named
    refine leaves_connected s ?_
    refine leaves_bind_pure (leaves_control fun w state quiet => ?_)
    subst state
    refine (World.leaves_revokeDevice quiet _ user device).mono fun _ t done => ?_
    exact ⟨user, named, done⟩
  | listDevices raw =>
    refine leaves_connected s ?_
    refine leaves_bind_read (leaves_userId raw) ?_
    intro user named
    refine leaves_bind_pure (leaves_control fun w state quiet => ?_)
    subst state
    exact World.leaves_listDevices quiet _ user
  | renameDevice raw device name =>
    refine leaves_connected s ?_
    refine leaves_bind_read (leaves_userId raw) ?_
    intro user named
    refine leaves_bind_pure (leaves_control fun w state quiet => ?_)
    subst state
    refine (World.leaves_renameDevice quiet _ user device name).mono fun _ t done => ?_
    exact ⟨user, named, done⟩
  | deleteDevice raw device force => exact leaves_deleteDevice s file format raw device force
  | inspectToken token =>
    unfold ofInvocation
    dsimp only
    rw [ran_read_bind]
    refine leaves_bind_read (leaves_lift (Issuer.ofSettings s.auth)) fun issuer _ => ?_
    refine leaves_bind_read (leaves_lift (issuer.parse _ _)) fun claims _ => ?_
    exact leaves_pure rfl

/-- A job keeps the rows if its parts do. -/
theorem rows_bind {j : Job α} {f : α → Job β}
    (first : ∀ db, (j.ran around db).2.tables.rows = db.tables.rows)
    (rest : ∀ a db, ((f a).ran around db).2.tables.rows = db.tables.rows) (db : Database) :
    ((j >>= f).ran around db).2.tables.rows = db.tables.rows := by
  rw [ran_bind]
  have kept := first db
  cases step : j.ran around db with
  | mk result after =>
    rw [step] at kept
    cases result with
    | error e => exact kept
    | ok a => exact (rest a after).trans kept

/-- Running the scripts keeps the rows, even if it fails half way. -/
theorem rows_runMigrations (s : Settings) {i : Invocation} (running : i.command = .runMigrations)
    (around : Surroundings) (db : Database) :
    ((ofInvocation s i).ran around db).2.tables.rows = db.tables.rows := by
  obtain ⟨file, format, command⟩ := i
  cases running
  have reached : ∀ db, ((connect s).ran around db).2.tables.rows = db.tables.rows := by
    intro db
    rw [(leaves_connect s).untouched]
  have run : ∀ db, ((ask Request.migrate).ran around db).2.tables.rows = db.tables.rows :=
    Request.rows_migrate
  exact rows_bind reached (fun _ => rows_bind run fun _ _ => rfl) db

end Job

/-! ### Runs -/

/-- The status with which a run ends. -/
def Ending.status : Ending → Nat
  | .usage status => status
  | .finished status _ _ => status

/-- The database of a run; where there is none, every statement fails. -/
def Surroundings.database (around : Surroundings) : Database :=
  (around.server.map Prod.snd).getD Database.down

variable {words : List String} {i : Invocation} {around : Surroundings}

theorem run_unsettled (read : Invocation.read words = .ok i) {e : Error}
    (unsettled : around.settings i.settings = .error e) :
    run around words = (.finished 2 "" (some ("Failed to load configuration: " ++ e.display)),
      around.server.map Prod.snd) := by
  unfold run
  rw [read]
  dsimp only
  rw [unsettled]

theorem run_settled (read : Invocation.read words = .ok i) {s : Settings}
    (settled : around.settings i.settings = .ok s) :
    run around words =
      (match ((Job.ofInvocation s i).ran around around.database).1 with
        | .ok output => .finished 0 output none
        | .error e => .finished 1 "" (some e.display),
      around.server.map fun _ => ((Job.ofInvocation s i).ran around around.database).2) := by
  unfold run
  rw [read]
  dsimp only
  rw [settled]
  exact Prod.ext rfl (Option.map_map _ _ _)

/-- A command that ends well makes of the tables what it should. -/
theorem changes_of_ok {s : Settings} {output : String} {after : Database} {db : Database}
    (done : (Job.ofInvocation s i).ran around db = (.ok output, after)) :
    i.command.Changes around db.tables after.tables := by
  by_cases running : i.command = .runMigrations
  · have rows := Job.rows_runMigrations s running around db
    rw [done] at rows
    rw [running]
    exact rows
  · have left := Job.leaves_ofInvocation s i running around db
    rw [done] at left
    cases left with
    | answered changes => exact changes

/-- The status with which a command ends tells what it has done to the database. It is 2 if and only
if there are no settings; nothing in the database has mattered then, and it is left alone. It is 1 if
and only if the command has failed; only running the scripts may have changed anything then. It is 0
otherwise, and the tables are then what the command makes of them. -/
theorem status_tells_changes (read : Invocation.read words = .ok i) (around : Surroundings) :
    ((run around words).1.status = 2 ↔ ∃ e, around.settings i.settings = .error e) ∧
    ((run around words).1.status = 2 → ∀ server, run { around with server } words =
      ((run around words).1, server.map Prod.snd)) ∧
    ((run around words).1.status = 1 ↔ ∃ s e, around.settings i.settings = .ok s ∧
      ((Job.ofInvocation s i).ran around around.database).1 = .error e) ∧
    ((run around words).1.status = 1 → i.command ≠ .runMigrations →
      (run around words).2 = around.server.map Prod.snd) ∧
    ((run around words).1.status ≠ 2 → (run around words).1.status ≠ 1 →
      (run around words).1.status = 0 ∧ ∀ url db, around.server = some (url, db) →
        ∃ db', (run around words).2 = some db' ∧
          i.command.Changes around db.tables db'.tables) := by
  cases settled : around.settings i.settings with
  | error e =>
    rw [run_unsettled read settled]
    refine ⟨by simp [Ending.status], fun _ server => ?_, by simp [Ending.status],
      by simp [Ending.status], by simp [Ending.status]⟩
    have again : Surroundings.settings { around with server } i.settings = .error e := settled
    exact run_unsettled read again
  | ok s =>
    rw [run_settled read settled]
    cases outcome : (Job.ofInvocation s i).ran around around.database with
    | mk result after =>
    cases result with
    | error e =>
      refine ⟨by simp [Ending.status], by simp [Ending.status], ?_, ?_, by simp [Ending.status]⟩
      · simp [Ending.status, outcome]
      · intro _ other
        have left := Job.leaves_ofInvocation s i other around around.database
        rw [outcome] at left
        cases left with
        | failed _ =>
          unfold Surroundings.database
          cases around.server with
          | none => rfl
          | some server => rfl
    | ok output =>
      refine ⟨by simp [Ending.status], by simp [Ending.status], ?_, by simp [Ending.status], ?_⟩
      · simp [Ending.status, outcome]
      · intro _ _
        refine ⟨rfl, fun url db known => ?_⟩
        have same : around.database = db := by
          rw [Surroundings.database, known]
          rfl
        rw [same] at outcome
        exact ⟨after, by rw [known]; rfl, changes_of_ok outcome⟩

/-- Tables with one user, a phone and its session. -/
def onePhone : Tables where
  users := .put .empty soleUser.id soleUser
  devices := .put .empty (soleUser.id, "phone")
    ⟨"phone", soleUser.id, "Phone", .mobile, "iOS", "Safari", "Safari/1", "10.0.0.3", .epoch, .epoch⟩
  sessions := .put .empty (soleUser.id, "phone")
    ⟨1, soleUser.id, "phone", "a", .ofSecs 60, false, .epoch, .epoch⟩

/-- A run over these tables without a terminal. -/
def desk : Surroundings where
  files _ := none
  vars := fewestVars
  server := some ("pg://db", { tables := onePhone })
  now := .epoch
  ids _ := soleUser.id
  salts _ := []

/-- The command line that deletes the phone. -/
def farewell : List String :=
  ["-c", "config/default", "device", "delete", soleUser.id.text, "phone", "--force"]

theorem status_tells_changes_farewell :
    ∃ db, (run desk farewell).2 = some db ∧
      db.tables = { onePhone with devices := .empty, sessions := .empty } := by
  have read : Invocation.read farewell =
      .ok { settings := "config/default", command := .deleteDevice soleUser.id.text "phone" true } := by
    decide
  have settled : desk.settings "config/default" = .ok usualSettings := load_fewest
  have ended : (run desk farewell).1.status = 0 := by
    rw [run_settled read settled]
    decide
  obtain ⟨-, -, -, -, finish⟩ := status_tells_changes read desk
  obtain ⟨-, changes⟩ := finish (by rw [ended]; decide) (by rw [ended]; decide)
  obtain ⟨db, after, user, device, named, -, made⟩ := changes "pg://db" _ rfl
  obtain rfl : soleUser.id = user := Except.ok.inj named
  have forced : ∀ prompt, desk.agrees prompt true = true := fun _ => rfl
  rw [if_pos (forced _)] at made
  exact ⟨db, after, made⟩

end CommandLine

end DeviceSessions
