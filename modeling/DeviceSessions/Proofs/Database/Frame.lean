import DeviceSessions.Database.Migrate
import DeviceSessions.Proofs.Database.Request

/-!
# What requests leave as it is

A request of one statement either fails, and then the database is what it was, or is answered, and
then its tables are what the statement makes of them. Requests that only read can come before such a
request without changing that. Running the scripts of the schema goes over more than one statement,
but none of them touches the rows of users, devices and sessions.
-/

namespace DeviceSessions

/-! ### What the statements do -/

namespace Tables

variable {t t' : Tables}

/-- A user is added under an identifier and an address that nobody has. -/
theorem createUser_ok {n : NewUser} {id : Uuid} {now : Instant} {user : User}
    (done : t.createUser n id now = .ok (user, t')) :
    ∃ absent : t.users.get? id = none, t.userByEmail? n.email = none ∧
      user = n.activate id (clock now) ∧ t' = { t with users := t.users.insert id user absent } := by
  obtain ⟨_, -, done⟩ := bind_ok done
  obtain ⟨_, -, done⟩ := bind_ok done
  cases taken : t.users.contains id with
  | true =>
    simp only [taken, if_true] at done
    cases done
  | false =>
    cases found : t.userByEmail? n.email with
    | some other =>
      simp only [taken, found, Option.isSome_some, if_true] at done
      cases done
    | none =>
      simp only [taken, found, Option.isSome_none, Bool.false_eq_true, if_false] at done
      cases done
      have absent : t.users.get? id = none :=
        Option.isNone_iff_eq_none.mp (Option.isSome_eq_false_iff.mp taken)
      refine ⟨absent, rfl, rfl, ?_⟩
      rw [Keyed.put, dif_pos absent]

theorem setActive_ok {id : Uuid} {active : Bool} {now : Instant} {known : Bool}
    (done : t.setActive id active now = .ok (known, t')) :
    t' = { t with users := t.users.update id fun u =>
      { u with isActive := active, updatedAt := clock now } } := by
  obtain ⟨_, -, done⟩ := bind_ok done
  cases done
  rfl

theorem listDevices_ok {user : Uuid} {devices : List Device}
    (done : t.listDevices user = .ok (devices, t')) : t' = t := by
  obtain ⟨_, -, done⟩ := bind_ok done
  cases done
  rfl

theorem findDevice_ok {user : Uuid} {device : String} {found : Option Device}
    (done : t.findDevice user device = .ok (found, t')) :
    found = t.devices.get? (user, device) ∧ t' = t := by
  obtain ⟨_, -, done⟩ := bind_ok done
  obtain ⟨_, -, done⟩ := bind_ok done
  cases done
  exact ⟨rfl, rfl⟩

theorem renameDevice_ok {user : Uuid} {device name : String} {known : Bool}
    (done : t.renameDevice user device name = .ok (known, t')) :
    known = t.devices.contains (user, device) ∧
      t' = { t with devices := t.devices.update (user, device) fun d => { d with name } } := by
  obtain ⟨_, -, done⟩ := bind_ok done
  obtain ⟨_, -, done⟩ := bind_ok done
  cases done
  exact ⟨rfl, rfl⟩

theorem deleteDevice_ok {user : Uuid} {device : String} {known : Bool}
    (done : t.deleteDevice user device = .ok (known, t')) :
    known = t.devices.contains (user, device) ∧
      t' = { t with
        devices := t.devices.erase (user, device), sessions := t.sessions.erase (user, device) } := by
  obtain ⟨_, -, done⟩ := bind_ok done
  obtain ⟨_, -, done⟩ := bind_ok done
  cases done
  exact ⟨rfl, rfl⟩

/-- A session that is revoked already may as well be revoked again. -/
theorem revokeWhere_tables (t : Tables) (which : DeviceKey → Bool) :
    (t.revokeWhere which).2 =
      { t with sessions := t.sessions.mapValues fun k s => if which k then s.revoke else s } := by
  have same : (t.sessions.mapValues fun k s => if which k && !s.revoked then s.revoke else s) =
      t.sessions.mapValues fun k s => if which k then s.revoke else s := by
    apply Keyed.mapValues_congr
    intro k s _
    cases revoked : s.revoked with
    | false => simp
    | true =>
      have already : s.revoke = s := by
        rw [Session.revoke, ← revoked]
      simp [already]
  exact congrArg (fun sessions => { t with sessions }) same

theorem revokeAll_ok {user : Uuid} {n : Nat} (done : t.revokeAll user = .ok (n, t')) :
    t' = { t with
      sessions := t.sessions.mapValues fun k s => if k.1 = user then s.revoke else s } := by
  obtain ⟨_, -, done⟩ := bind_ok done
  have after : (t.revokeWhere fun k => k.1 = user).2 = t' := congrArg Prod.snd (Except.ok.inj done)
  simpa [revokeWhere_tables] using after.symm

theorem revokeDevice_ok {user : Uuid} {device : String} {n : Nat}
    (done : t.revokeDevice user device = .ok (n, t')) :
    t' = { t with sessions := t.sessions.update (user, device) Session.revoke } := by
  obtain ⟨_, -, done⟩ := bind_ok done
  obtain ⟨_, -, done⟩ := bind_ok done
  have after : (t.revokeWhere fun k => k = (user, device)).2 = t' :=
    congrArg Prod.snd (Except.ok.inj done)
  simpa [revokeWhere_tables, Keyed.update] using after.symm

theorem migrationRows_ok {rows : Keyed Int MigrationRow}
    (done : t.migrationRows = .ok (rows, t')) : t' = t := by
  unfold migrationRows at done
  split at done
  · cases done
    rfl
  · cases done

end Tables

/-! ### Requests of one statement -/

namespace Request

variable {α β : Type} {db : Database} {P Q : α → Tables → Prop} {r : Request α}

/-- What comes of a request of `db`: it fails and leaves the database as it is, or it is answered
and the answer and the tables after it are as `P` says. -/
inductive Leaves (db : Database) (P : α → Tables → Prop) : Result α × Database → Prop where
  | failed (e : Error) : Leaves db P (.error e, db)
  | answered {a : α} {t : Tables} (holds : P a t) : Leaves db P (.ok a, { db with tables := t })

theorem Leaves.mono {out : Result α × Database} (left : Leaves db P out)
    (weaker : ∀ a t, P a t → Q a t) : Leaves db Q out := by
  cases left with
  | failed e => exact .failed e
  | answered holds => exact .answered (weaker _ _ holds)

/-- What only reads leaves the database as it is. -/
theorem Leaves.untouched {read : α → Prop} {out : Result α × Database}
    (left : Leaves db (fun a t => t = db.tables ∧ read a) out) : out.2 = db := by
  cases left with
  | failed e => rfl
  | answered holds =>
    obtain ⟨rfl, -⟩ := holds
    rfl

theorem leaves_pure {a : α} (holds : P a db.tables) : Leaves db P ((pure a : Request α).on db) :=
  .answered holds

/-- The rest of a request goes on from the tables of its first part. -/
theorem Leaves.bind {R : β → Tables → Prop} {f : α → Request β} (first : Leaves db P (r.on db))
    (rest : ∀ a t, P a t → Leaves db R ((f a).on { db with tables := t })) :
    Leaves db R ((r >>= f).on db) := by
  cases ran : r.on db with
  | mk result after =>
    rw [ran] at first
    cases first with
    | failed e =>
      rw [on_bind_error ran]
      exact .failed e
    | answered holds =>
      rw [on_bind ran]
      exact rest _ _ holds

/-- A request that only reads leaves it to the rest what is left. -/
theorem Leaves.bind_read {read : α → Prop} {R : β → Tables → Prop} {f : α → Request β}
    (first : Leaves db (fun a t => t = db.tables ∧ read a) (r.on db))
    (rest : ∀ a, read a → Leaves db R ((f a).on db)) : Leaves db R ((r >>= f).on db) := by
  refine first.bind ?_
  rintro a t ⟨rfl, holds⟩
  exact rest a holds

/-- What is made of an answer changes no tables. -/
theorem Leaves.bind_pure {R : β → Tables → Prop} {g : α → β}
    (first : Leaves db (fun a => R (g a)) (r.on db)) :
    Leaves db R ((r >>= fun a => pure (g a)).on db) :=
  first.bind fun _ _ holds => .answered holds

theorem leaves_statement {s : Statement} {message : Rejection → Error}
    {effect : Tables → Tables.Outcome (α × Tables)}
    (makes : ∀ a t, effect db.tables = .ok (a, t) → P a t) :
    Leaves db P (on ((Query.send s effect).orElseFail message) db) := by
  unfold on Query.orElseFail Query.send
  simp only [ExceptT.run_mk, StateT.run]
  cases db.faults.contains s with
  | true => exact .failed _
  | false =>
    cases done : effect db.tables with
    | error why => exact .failed _
    | ok answer => exact .answered (makes _ _ done)

theorem leaves_healthCheck : Leaves db (fun _ t => t = db.tables) (healthCheck.on db) :=
  leaves_statement fun _ _ done => (congrArg Prod.snd (Except.ok.inj done)).symm

theorem leaves_findUser (email : String) :
    Leaves db (fun found t => t = db.tables ∧ found = db.tables.userByEmail? email)
      ((findUser email).on db) :=
  leaves_statement fun _ _ done => (Tables.findUser_ok done).symm

theorem leaves_migrationStatus : Leaves db (fun _ t => t = db.tables) (migrationStatus.on db) := by
  have looked : Leaves db (fun known t => t = db.tables ∧ known = db.tables.migrations.isSome)
      (on (send .inspectMigrations "Failed to inspect migrations"
        fun t => .ok (t.migrations.isSome, t)) db) := by
    refine leaves_statement fun known t done => ?_
    cases done
    exact ⟨rfl, rfl⟩
  refine looked.bind_read fun known _ => ?_
  cases known with
  | true => exact Leaves.bind_pure (leaves_statement fun _ _ done => Tables.migrationRows_ok done)
  | false => exact leaves_pure rfl

end Request

/-! ### Running the scripts -/

/-- The rows that the program works with. -/
def Tables.rows (t : Tables) :
    Keyed Uuid User × Keyed DeviceKey Device × Keyed DeviceKey Session :=
  (t.users, t.devices, t.sessions)

namespace Query

variable {α β : Type} {q : Query α}

/-- A query that touches no rows, whether it fails or not. -/
def Spares (q : Query α) : Prop := ∀ db, (q.run.run db).2.tables.rows = db.tables.rows

theorem spares_pure (a : α) : Spares (pure a) := fun _ => rfl

theorem spares_throw (why : Rejection) : Spares (throw why : Query α) := fun _ => rfl

theorem spares_send {s : Statement} {effect : Tables → Tables.Outcome (α × Tables)}
    (kept : ∀ {t a t'}, effect t = .ok (a, t') → t'.rows = t.rows) : Spares (send s effect) := by
  intro db
  unfold send
  simp only [ExceptT.run_mk, StateT.run]
  cases db.faults.contains s with
  | true => rfl
  | false =>
    cases done : effect db.tables with
    | error why => rfl
    | ok answer => exact kept done

theorem spares_ping (s : Statement) : Spares (ping s) :=
  spares_send fun done => by
    cases done
    rfl

theorem Spares.bind {f : α → Query β} (first : q.Spares) (rest : ∀ a, (f a).Spares) :
    (q >>= f).Spares := by
  intro db
  rw [ExceptT.run_bind, StateT.run_bind]
  have kept := first db
  cases ran : q.run.run db with
  | mk result after =>
    rw [ran] at kept
    cases result with
    | error why => exact kept
    | ok a => exact (rest a after).trans kept

/-- What is undone has not been touched either. -/
theorem Spares.atomically (spares : q.Spares) : Spares (atomically q) := by
  intro db
  have kept := spares db
  unfold DeviceSessions.atomically
  simp only [ExceptT.run_mk, StateT.run] at kept ⊢
  split
  · rename_i done
    rw [done] at kept
    exact kept
  · rfl

theorem spares_applyMigration (m : Migration) (index : Nat) : (applyMigration m index).Spares := by
  refine Spares.bind (Spares.atomically ?_) fun _ => spares_ping _
  refine (spares_ping _).bind fun _ => (spares_send ?script).bind fun _ =>
    (spares_send ?record).bind fun _ => spares_ping _
  case script =>
    intro t _ t' done
    unfold Tables.runScript at done
    split at done
    · cases done
      rfl
    · split at done
      · cases done
        rfl
      · cases done
  case record =>
    intro t _ t' done
    obtain ⟨⟨rows, u⟩, listed, done⟩ := bind_ok done
    cases Tables.migrationRows_ok listed
    cases done
    rfl

theorem spares_migrateFrom (recorded : Keyed Int MigrationRow) (index : Nat)
    (scripts : List Migration) : (migrateFrom recorded index scripts).Spares := by
  induction scripts generalizing index with
  | nil => exact spares_pure ()
  | cons m rest ih =>
    refine Spares.bind ?_ fun _ => ih (index + 1)
    unfold migrateOne
    split
    · split
      · exact spares_pure ()
      · exact spares_throw _
    · exact spares_applyMigration m index

theorem spares_migrate : migrate.Spares := by
  refine (spares_ping _).bind fun _ => (spares_ping _).bind fun _ =>
    (spares_send ?create).bind fun _ => (spares_send ?refuse).bind fun _ =>
    (spares_send ?list).bind fun recorded => ?rest
  case create =>
    intro t _ t' done
    cases done
    rfl
  case refuse =>
    intro t _ t' done
    obtain ⟨⟨rows, u⟩, listed, done⟩ := bind_ok done
    cases Tables.migrationRows_ok listed
    dsimp only at done
    split at done
    · cases done
    · cases done
      rfl
  case list =>
    intro t rows t' done
    rw [Tables.migrationRows_ok done]
  case rest =>
    have scripts := (spares_migrateFrom recorded 0 Migration.all).bind fun _ =>
      (spares_ping .databaseName).bind fun _ => spares_ping .unlock
    dsimp only
    split
    · exact (spares_throw _).bind fun _ => scripts
    · exact scripts

end Query

/-- Running the scripts touches no rows, even if it fails half way. -/
theorem Request.rows_migrate (db : Database) :
    (Request.migrate.on db).2.tables.rows = db.tables.rows := by
  have kept := Query.spares_migrate db
  unfold migrate on Query.orElseFail
  simp only [ExceptT.run_mk, StateT.run] at kept ⊢
  split
  · rename_i done
    rw [done] at kept
    exact kept
  · rename_i done
    rw [done] at kept
    exact kept

end DeviceSessions
