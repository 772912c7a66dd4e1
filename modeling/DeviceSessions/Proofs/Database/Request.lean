import DeviceSessions.Database.Requests
import DeviceSessions.Proofs.Session.Store
import DeviceSessions.Proofs.Time

/-!
# Requests that are answered and requests that fail

A request walks over its statements: one rule for each way a statement can end, and for the
statements of the session store the tables after them.
-/

namespace DeviceSessions

theorem Tables.findUser_ok {t t' : Tables} {email : String} {found : Option User}
    (done : t.findUser email = .ok (found, t')) : found = t.userByEmail? email ∧ t' = t := by
  obtain ⟨_, -, done⟩ := bind_ok done
  obtain ⟨_, -, done⟩ := bind_ok done
  cases done
  exact ⟨rfl, rfl⟩

/-! ### Running requests -/

namespace Request

variable {α β : Type} {db db' : Database}

theorem on_bind {r : Request α} {a : α} (first : r.on db = (.ok a, db')) (f : α → Request β) :
    (r >>= f).on db = (f a).on db' := by
  unfold on at first ⊢
  rw [ExceptT.run_bind, StateT.run_bind, first]
  rfl

theorem on_bind_error {r : Request α} {e : Error} (first : r.on db = (.error e, db'))
    (f : α → Request β) : (r >>= f).on db = (.error e, db') := by
  unfold on at first ⊢
  rw [ExceptT.run_bind, StateT.run_bind, first]
  rfl

/-- A statement that is not made to fail does what it does to the tables. -/
theorem on_statement {s : Statement} {effect : Tables → Tables.Outcome (α × Tables)}
    {message : Rejection → Error} (up : db.faults = []) :
    on ((Query.send s effect).orElseFail message) db = match effect db.tables with
      | .ok (a, t) => (.ok a, { db with tables := t })
      | .error why => (.error (message why), db) := by
  unfold on Query.orElseFail Query.send
  simp only [ExceptT.run_mk, StateT.run, up]
  cases effect db.tables with
  | ok answer => rfl
  | error why => rfl

theorem on_send {s : Statement} {message : String} {effect : Tables → Tables.Outcome (α × Tables)}
    {a : α} {t : Tables} (up : db.faults = []) (done : effect db.tables = .ok (a, t)) :
    (send s message effect).on db = (.ok a, { db with tables := t }) := by
  rw [send, on_statement up, done]

theorem on_send_refused {s : Statement} {message : String}
    {effect : Tables → Tables.Outcome (α × Tables)} {why : Rejection}
    (refused : effect db.tables = .error why) :
    (send s message effect).on db = (.error (databaseError message), db) := by
  have sent : ∃ why, (Query.send s effect).run.run db = (.error why, db) := by
    simp only [Query.send, ExceptT.run_mk, StateT.run, refused]
    split
    · exact ⟨_, rfl⟩
    · exact ⟨_, rfl⟩
  obtain ⟨why, sent⟩ := sent
  unfold on send Query.orElseFail
  simp only [ExceptT.run_mk, StateT.run] at sent ⊢
  rw [sent]

/-- A statement without effect fails or does nothing. -/
theorem on_send_idle (s : Statement) (message : String) (db : Database) :
    ((send s message fun t => .ok ((), t)).on db = (.ok (), db)) ∨
      (send s message fun t => .ok ((), t)).on db = (.error (databaseError message), db) := by
  by_cases failing : db.faults.contains s = true
  · right
    simp only [send, Query.send, Query.orElseFail, on, ExceptT.run_mk, StateT.run, failing, if_true]
  · left
    simp only [send, Query.send, Query.orElseFail, on, ExceptT.run_mk, StateT.run, failing]
    rfl

theorem on_atomically {r : Request α} {a : α} (done : r.on db = (.ok a, db')) :
    on (atomically r) db = (.ok a, db') := by
  unfold on atomically at *
  simp only [ExceptT.run_mk, StateT.run] at done ⊢
  rw [done]

theorem on_atomically_error {r : Request α} {e : Error} (failed : r.on db = (.error e, db)) :
    on (atomically r) db = (.error e, db) := by
  unfold on atomically at *
  simp only [ExceptT.run_mk, StateT.run] at failed ⊢
  rw [failed]

/-- A device and its session are recorded where both statements succeed. -/
theorem on_record {device : Device} {tokenHash : String} {expiresAt now : Instant} {row : Device}
    {session : Session} {t u : Tables} (up : db.faults = [])
    (upserted : db.tables.upsertDevice device = .ok (row, t))
    (recorded : t.upsertSession device.userId device.id tokenHash expiresAt now = .ok (session, u)) :
    (record device tokenHash expiresAt now).on db = (.ok session, { db with tables := u }) := by
  have second : (send .upsertSession "Failed to upsert session"
      (·.upsertSession device.userId device.id tokenHash expiresAt now)).on { db with tables := t } =
        (.ok session, { db with tables := u }) :=
    on_send (show ({ db with tables := t } : Database).faults = [] from up) recorded
  have last : (send .commit "Failed to commit session" fun t => .ok ((), t)).on
      { db with tables := u } = (.ok (), { db with tables := u }) :=
    on_send (show ({ db with tables := u } : Database).faults = [] from up) rfl
  apply on_atomically
  rw [on_bind (on_send up rfl), on_bind (on_send up upserted), on_bind second, on_bind last]
  rfl

/-- Nothing is recorded where the device is refused. -/
theorem on_record_refused {device : Device} {why : Rejection}
    (refused : db.tables.upsertDevice device = .error why) (tokenHash : String)
    (expiresAt now : Instant) :
    ∃ message, (record device tokenHash expiresAt now).on db =
      (.error (databaseError message), db) := by
  obtain begun | failed := on_send_idle .begin "Failed to begin transaction" db
  · have stopped : (send .upsertDevice "Failed to upsert device" (·.upsertDevice device)).on db =
        (.error (databaseError "Failed to upsert device"), db) := on_send_refused refused
    refine ⟨_, on_atomically_error ((on_bind begun _).trans (on_bind_error stopped _))⟩
  · exact ⟨_, on_atomically_error (on_bind_error failed _)⟩

/-! ### Requests that leave no trace -/

/-- A transaction that fails leaves no device and no session behind. -/
theorem on_atomically_kept (r : Request α) (db : Database) {e : Error}
    (failed : (on (atomically r) db).1 = .error e) :
    ((on (atomically r) db).2.tables.devices, (on (atomically r) db).2.tables.sessions) =
      (db.tables.devices, db.tables.sessions) := by
  unfold on atomically at *
  simp only [ExceptT.run_mk, StateT.run] at failed ⊢
  split at failed
  · cases failed
  · rfl

/-- A statement that leaves the tables as they are leaves the database as it is. -/
theorem on_send_kept {s : Statement} {message : String}
    {effect : Tables → Tables.Outcome (α × Tables)}
    (kept : ∀ t a t', effect t = .ok (a, t') → t' = t) (db : Database) :
    ((send s message effect).on db).2 = db := by
  have sent : ∀ r db', (Query.send s effect).run.run db = (r, db') → db' = db := by
    intro r db' ran
    simp only [Query.send, ExceptT.run_mk, StateT.run] at ran
    split at ran
    · cases ran
      rfl
    · split at ran
      · rename_i a t done
        cases ran
        rw [kept _ _ _ done]
      · cases ran
        rfl
  unfold on send Query.orElseFail
  simp only [ExceptT.run_mk, StateT.run] at sent ⊢
  split
  · exact sent _ _ ‹_›
  · exact sent _ _ ‹_›

theorem on_findUser_kept (email : String) (db : Database) : ((findUser email).on db).2 = db :=
  on_send_kept (fun _ _ _ done => (Tables.findUser_ok done).2) db

/-! ### Errors of requests -/

/-- A request that fails with nothing but errors of the database. -/
def FailsInside (r : Request α) : Prop := ∀ db e, (r.on db).1 = .error e → e.kind = .database

theorem failsInside_pure (a : α) : FailsInside (pure a) := fun _ _ failed => nomatch failed

theorem failsInside_send (s : Statement) (message : String)
    (effect : Tables → Tables.Outcome (α × Tables)) : FailsInside (send s message effect) := by
  intro db e failed
  unfold on send Query.orElseFail at failed
  simp only [ExceptT.run_mk, StateT.run] at failed
  split at failed
  · cases failed
  · cases failed
    rfl

theorem FailsInside.bind {β : Type} {r : Request α} {f : α → Request β} (first : r.FailsInside)
    (rest : ∀ a, (f a).FailsInside) : (r >>= f).FailsInside := by
  intro db e failed
  cases ran : r.on db with
  | mk outcome db' =>
    cases outcome with
    | error e' =>
      rw [on_bind_error ran] at failed
      cases failed
      exact first db e (by rw [ran])
    | ok a =>
      rw [on_bind ran] at failed
      exact rest a db' e failed

theorem failsInside_atomically {r : Request α} (inside : r.FailsInside) :
    FailsInside (atomically r) := by
  intro db e failed
  refine inside db e ?_
  unfold on atomically at *
  simp only [ExceptT.run_mk, StateT.run] at failed ⊢
  split at failed
  · cases failed
  · rename_i done
    rw [done]
    exact failed

theorem failsInside_request (now : Instant) (call : StoreCall) : (call.request now).FailsInside := by
  cases call with
  | create user tokenHash expiresAt device =>
    refine failsInside_atomically ?_
    refine (failsInside_send _ _ _).bind fun _ => ?_
    refine (failsInside_send _ _ _).bind fun _ => ?_
    refine (failsInside_send _ _ _).bind fun _ => ?_
    exact (failsInside_send _ _ _).bind fun _ => failsInside_pure _
  | isValid user device token =>
    refine (failsInside_send _ _ _).bind fun found => ?_
    cases found with
    | none => exact failsInside_pure _
    | some session =>
      dsimp only
      split
      · exact (failsInside_send _ _ _).bind fun _ => failsInside_pure _
      · exact failsInside_pure _
  | revokeAll user => exact failsInside_send _ _ _
  | revokeDevice user device => exact failsInside_send _ _ _
  | listDevices user => exact failsInside_send _ _ _
  | findDevice user device => exact failsInside_send _ _ _
  | renameDevice user device name => exact failsInside_send _ _ _
  | deleteDevice user device => exact failsInside_send _ _ _

end Request

/-! ### Tables where the statements of the store succeed -/

namespace Tables

variable {t : Tables}

theorem require_ok (ready : 2 ≤ t.schema) : t.require 2 = .ok () := if_pos ready

theorem storable_ok {texts : List String} (plain : ∀ s ∈ texts, '\x00' ∉ s.toList) :
    storable texts = .ok () := by
  refine if_neg ?_
  intro found
  obtain ⟨s, member, null⟩ := List.any_eq_true.mp found
  exact plain s member (List.elem_iff.mp null)

/-- A device of a user who is there is added or renewed as in memory. -/
theorem upsertDevice_ok (ready : 2 ≤ t.schema) {s : SessionStore} (devices : t.devices = s.devices)
    {user : Uuid} (known : t.users.contains user = true) {device : DeviceIdentity}
    (plain : ∀ s ∈ [device.id, device.name, device.os, device.browser, device.userAgent, device.ip],
      '\x00' ∉ s.toList) {now : Instant} (micros : now.IsMicros) :
    ∃ row, t.upsertDevice (.ofIdentity user device now) =
      .ok (row, { t with devices := s.withDevice user device now }) := by
  unfold upsertDevice SessionStore.withDevice
  simp only [require_ok ready, Device.ofIdentity, storable_ok plain, known, micros.truncateMicros,
    devices]
  cases s.devices.get? (user, device.id) with
  | none => exact ⟨_, rfl⟩
  | some row => exact ⟨_, rfl⟩

/-- No device is added for a user who is not there. -/
theorem upsertDevice_refused {device : Device} (unknown : t.users.contains device.userId = false) :
    ∃ why, t.upsertDevice device = .error why := by
  unfold upsertDevice require storable
  rw [unknown]
  split
  · split <;> exact ⟨_, rfl⟩
  · exact ⟨_, rfl⟩

/-- The session of a device that is there is added with the next number, or replaced with its own. -/
theorem upsertSession_ok (ready : 2 ≤ t.schema) {user : Uuid} {device tokenHash : String}
    (there : t.devices.contains (user, device) = true) (plain : '\x00' ∉ device.toList)
    (plainHash : '\x00' ∉ tokenHash.toList) {expiresAt now : Instant} (expires : expiresAt.IsMicros)
    (micros : now.IsMicros) :
    ∃ row : Session, t.upsertSession user device tokenHash expiresAt now = .ok (row, { t with
        sessions := t.sessions.put (user, device) row, nextSessionId := t.nextSessionId + 1 }) ∧
      row.id = ((t.sessions.get? (user, device)).map Session.id).getD t.nextSessionId ∧
      row = ⟨row.id, user, device, tokenHash, expiresAt, false, now, now⟩ := by
  have texts : storable [device, tokenHash] = .ok () := storable_ok (by simp [plain, plainHash])
  unfold upsertSession clock
  simp only [require_ok ready, texts, there, expires.truncateMicros, micros.floorMicros]
  cases t.sessions.get? (user, device) with
  | none => exact ⟨_, rfl, rfl, rfl⟩
  | some old => exact ⟨_, rfl, rfl, rfl⟩

/-- Every session has a number of its own, below the next one. -/
structure Numbered (t : Tables) : Prop where
  below : ∀ {k x}, t.sessions.get? k = some x → x.id < t.nextSessionId
  apart : ∀ {k k' x x'}, t.sessions.get? k = some x → t.sessions.get? k' = some x' →
    x.id = x'.id → k = k'

/-- A change of sessions that keeps their numbers. -/
theorem Numbered.of_mapValues (numbered : t.Numbered) (f : DeviceKey → Session → Session)
    (kept : ∀ k x, (f k x).id = x.id) :
    Numbered { t with sessions := t.sessions.mapValues f } := by
  have source : ∀ {k x}, (t.sessions.mapValues f).get? k = some x →
      ∃ y, t.sessions.get? k = some y ∧ y.id = x.id := by
    intro k x found
    rw [Keyed.get?_mapValues] at found
    obtain ⟨y, before, rfl⟩ := Option.map_eq_some_iff.mp found
    exact ⟨y, before, (kept k y).symm⟩
  constructor
  · intro k x found
    obtain ⟨y, before, same⟩ := source found
    exact same ▸ numbered.below before
  · intro k k' x x' found found' equal
    obtain ⟨y, before, same⟩ := source found
    obtain ⟨y', before', same'⟩ := source found'
    exact numbered.apart before before' (by rw [same, same', equal])

theorem Numbered.erase (numbered : t.Numbered) (key : DeviceKey) (devices : Keyed DeviceKey Device) :
    Numbered { t with devices, sessions := t.sessions.erase key } := by
  have source : ∀ {k x}, (t.sessions.erase key).get? k = some x → t.sessions.get? k = some x := by
    intro k x found
    rw [Keyed.get?_erase] at found
    split at found
    · cases found
    · exact found
  exact ⟨fun found => numbered.below (source found),
    fun found found' equal => numbered.apart (source found) (source found') equal⟩

/-- The session of a device keeps its number, or takes the next one. -/
theorem Numbered.put (numbered : t.Numbered) {key : DeviceKey} {row : Session}
    (id : row.id = ((t.sessions.get? key).map Session.id).getD t.nextSessionId)
    (devices : Keyed DeviceKey Device) :
    Numbered { t with
      devices, sessions := t.sessions.put key row, nextSessionId := t.nextSessionId + 1 } := by
  have fresh : ∀ {k x}, k ≠ key → t.sessions.get? k = some x → x.id ≠ row.id := by
    intro k x away found same
    rw [id] at same
    cases known : t.sessions.get? key with
    | none =>
      have below := numbered.below found
      rw [known] at same
      simp only [Option.map_none, Option.getD_none] at same
      omega
    | some old =>
      rw [known] at same
      exact away (numbered.apart found known same)
  have small : row.id < t.nextSessionId + 1 := by
    rw [id]
    cases known : t.sessions.get? key with
    | none =>
      simp only [Option.map_none, Option.getD_none]
      omega
    | some old =>
      have below := numbered.below known
      simp only [Option.map_some, Option.getD_some]
      omega
  constructor
  · intro k x found
    change (t.sessions.put key row).get? k = some x at found
    change x.id < t.nextSessionId + 1
    rw [Keyed.get?_put] at found
    split at found
    · rw [← Option.some.inj found]
      exact small
    · have below := numbered.below found
      omega
  · intro k k' x x' found found' equal
    change (t.sessions.put key row).get? k = some x at found
    change (t.sessions.put key row).get? k' = some x' at found'
    rw [Keyed.get?_put] at found found'
    split at found
    · rename_i here
      split at found'
      · rename_i here'
        exact here.trans here'.symm
      · rename_i away'
        rw [← Option.some.inj found] at equal
        exact absurd equal.symm (fresh away' found')
    · rename_i away
      split at found'
      · rw [← Option.some.inj found'] at equal
        exact absurd equal (fresh away found)
      · exact numbered.apart found found' equal

end Tables

end DeviceSessions
