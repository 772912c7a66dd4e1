import DeviceSessions.Proofs.Database.Request

/-!
# The database agrees with the store in memory

A database whose statements work answers the calls of a session store as the store in memory does;
only the numbers of the sessions may be others. Nothing is recorded for a user who is not there.
-/

namespace DeviceSessions

/-! ### What the database and the store in memory have in common -/

namespace StoreCall

/-- The texts of a call that its statements hold. -/
def texts : StoreCall → List String
  | create _ tokenHash _ d => [d.id, d.name, d.os, d.browser, d.userAgent, d.ip, tokenHash]
  | isValid _ d _ => [d.id]
  | revokeAll _ => []
  | revokeDevice _ device => [device]
  | listDevices _ => []
  | findDevice _ device => [device]
  | renameDevice _ device name => [device, name]
  | deleteDevice _ device => [device]

/-- The times of a call at `now`. -/
def times (now : Instant) : StoreCall → List Instant
  | create _ _ expiresAt _ => [now, expiresAt]
  | _ => [now]

/-- What a call at `now` has to be for a database with these users: for one of them, with texts
without the null character and with times of whole microseconds. -/
structure Suits (users : Keyed Uuid User) (now : Instant) (call : StoreCall) : Prop where
  known : users.contains call.user = true
  plain : ∀ s ∈ call.texts, '\x00' ∉ s.toList
  micros : ∀ t ∈ call.times now, t.IsMicros

end StoreCall

namespace Database

/-- The database works, and holds the devices and, up to their numbers, the sessions of a store. -/
structure Matches (db : Database) (s : SessionStore) : Prop where
  up : db.faults = []
  ready : 2 ≤ db.tables.schema
  devices : db.tables.devices = s.devices
  sessions : (db.tables.sessions.mapValues fun _ => Session.unnumbered) =
    s.sessions.mapValues fun _ => Session.unnumbered
  numbered : db.tables.Numbered
  consistent : s.Consistent

/-- A request is answered as the store answers a call, and both still have in common what they
had. -/
def Answers (db : Database) (s : SessionStore) (now : Instant) (call : StoreCall) : Prop :=
  ∃ b tables, (call.request now).on db = (.ok b, { db with tables }) ∧
    tables.users = db.tables.users ∧
    call.told b = call.told (s.answer now call).1 ∧
    Matches { db with tables } (s.answer now call).2

namespace Matches

variable {db : Database} {s : SessionStore} {now : Instant}

/-- The session of a device, numbers apart. -/
theorem session? (common : db.Matches s) (k : DeviceKey) :
    (db.tables.sessions.get? k).map Session.unnumbered =
      (s.sessions.get? k).map Session.unnumbered := by
  have same := congrArg (fun m => m.get? k) common.sessions
  simpa using same

/-- A change of the sessions that numbers have no part in, made on both sides. -/
theorem mapValues (common : db.Matches s) {f g : DeviceKey → Session → Session} {s' : SessionStore}
    (kept : ∀ k x, (f k x).id = x.id)
    (alike : ∀ k x, Session.unnumbered (f k x) = f k (Session.unnumbered x))
    (alike' : ∀ k x, (k, x) ∈ s.sessions.entries →
      Session.unnumbered (g k x) = f k (Session.unnumbered x))
    (devices : s'.devices = s.devices) (sessions : s'.sessions = s.sessions.mapValues g)
    (consistent : s'.Consistent) :
    Matches { db with tables := { db.tables with sessions := db.tables.sessions.mapValues f } } s' where
  up := common.up
  ready := common.ready
  devices := common.devices.trans devices.symm
  sessions := by
    have left := congrArg (fun m => m.mapValues f) common.sessions
    simp only [Keyed.mapValues_mapValues] at left
    rw [sessions]
    simp only [Keyed.mapValues_mapValues, alike]
    rw [left]
    exact (Keyed.mapValues_congr alike').symm
  numbered := common.numbered.of_mapValues f kept
  consistent := consistent

/-- A revocation of the sessions under some keys, made on both sides. -/
theorem revokeWhere (common : db.Matches s) (which : DeviceKey → Bool) {s' : SessionStore}
    (devices : s'.devices = s.devices)
    (sessions : s'.sessions =
      s.sessions.mapValues fun k x => if which k && !x.revoked then x.revoke else x)
    (consistent : s'.Consistent) :
    (db.tables.revokeWhere which).1 =
        (s.sessions.entries.filter fun e => which e.1 && !e.2.revoked).length ∧
      Matches { db with tables := (db.tables.revokeWhere which).2 } s' := by
  constructor
  · have left := Keyed.length_filter_mapValues db.tables.sessions (fun _ => Session.unnumbered)
      fun e => which e.1 && !e.2.revoked
    have right := Keyed.length_filter_mapValues s.sessions (fun _ => Session.unnumbered)
      fun e => which e.1 && !e.2.revoked
    rw [common.sessions] at left
    exact left.symm.trans right
  · have alike : ∀ (k : DeviceKey) (x : Session),
        Session.unnumbered (if which k && !x.revoked then x.revoke else x) =
          if which k && !(Session.unnumbered x).revoked then (Session.unnumbered x).revoke
          else Session.unnumbered x := by
      intro k x
      change _ = if which k && !x.revoked then _ else _
      split <;> rfl
    refine common.mapValues ?_ alike (fun k x _ => alike k x) devices sessions consistent
    intro k x
    dsimp only
    split <;> rfl

theorem revokeAll (common : db.Matches s) (user : Uuid) : db.Answers s now (.revokeAll user) := by
  have owned : ∀ e ∈ s.sessions.entries, (decide (e.2.userId = user) && !e.2.revoked) =
      (decide (e.1.1 = user) && !e.2.revoked) := by
    rintro ⟨⟨u, d⟩, x⟩ member
    rw [(common.consistent.owner (Keyed.get?_eq_some_iff.mpr member)).1]
  have devices : (s.revokeAll user).2.devices = s.devices := rfl
  have sessions : (s.revokeAll user).2.sessions =
      s.sessions.mapValues fun k x => if decide (k.1 = user) && !x.revoked then x.revoke else x := by
    refine Eq.trans (b := s.sessions.mapValues fun _ x =>
      if decide (x.userId = user) && !x.revoked then x.revoke else x) rfl ?_
    apply Keyed.mapValues_congr
    intro k x member
    rw [owned (k, x) member]
  have consistent := SessionStore.consistent_answer common.consistent now (.revokeAll user)
  obtain ⟨counted, after⟩ := common.revokeWhere _ devices sessions consistent
  have done : db.tables.revokeAll user =
      .ok (db.tables.revokeWhere fun k => decide (k.1 = user)) := by
    unfold Tables.revokeAll
    rw [Tables.require_ok common.ready]
    rfl
  have count : (s.revokeAll user).1 =
      (s.sessions.values.filter fun x => decide (x.userId = user) && !x.revoked).length := rfl
  rw [Keyed.length_filter_values, List.filter_congr owned] at count
  exact ⟨_, _, Request.on_send common.up done, rfl, counted.trans count.symm, after⟩

/-- The store in memory revokes the session of a device as the entries under one key. -/
theorem revokeDevice_entries (s : SessionStore) (user : Uuid) (device : String) :
    (s.revokeDevice user device).1 =
        (s.sessions.entries.filter fun e => decide (e.1 = (user, device)) && !e.2.revoked).length ∧
      (s.revokeDevice user device).2.devices = s.devices ∧
      (s.revokeDevice user device).2.sessions = s.sessions.mapValues fun k x =>
        if decide (k = (user, device)) && !x.revoked then x.revoke else x := by
  have counted : (s.sessions.entries.filter fun e => decide (e.1 = (user, device)) && !e.2.revoked) =
      ((s.sessions.get? (user, device)).map (Prod.mk (user, device))).toList.filter
        fun e => !e.2.revoked := by
    rw [← Keyed.filter_key, List.filter_filter]
    exact List.filter_congr fun e _ => Bool.and_comm _ _
  refine ⟨?_, ?_, ?_⟩
  · rw [counted]
    unfold SessionStore.revokeDevice SessionStore.session?
    cases s.sessions.get? (user, device) with
    | none => rfl
    | some row => cases revoked : row.revoked <;> simp [revoked]
  · rw [SessionStore.revokeDevice_store]
  · rw [SessionStore.revokeDevice_store]
    dsimp only [Keyed.update]
    apply Keyed.mapValues_congr
    intro k x _
    cases revoked : x.revoked with
    | true => simp [SessionStore.revoke_of_revoked revoked]
    | false => simp

theorem revokeDevice (common : db.Matches s) {user : Uuid} {device : String}
    (plain : '\x00' ∉ device.toList) : db.Answers s now (.revokeDevice user device) := by
  obtain ⟨count, devices, sessions⟩ := revokeDevice_entries s user device
  have consistent := SessionStore.consistent_answer common.consistent now (.revokeDevice user device)
  obtain ⟨counted, after⟩ := common.revokeWhere _ devices sessions consistent
  have done : db.tables.revokeDevice user device =
      .ok (db.tables.revokeWhere fun k => decide (k = (user, device))) := by
    unfold Tables.revokeDevice
    rw [Tables.require_ok common.ready, Tables.storable_ok (by simpa using plain)]
    rfl
  exact ⟨_, _, Request.on_send common.up done, rfl, counted.trans count.symm, after⟩

theorem listDevices (common : db.Matches s) (user : Uuid) :
    db.Answers s now (.listDevices user) := by
  have done : db.tables.listDevices user = .ok (s.listDevices user, db.tables) := by
    unfold Tables.listDevices
    rw [Tables.require_ok common.ready, common.devices]
    rfl
  exact ⟨_, _, Request.on_send common.up done, rfl, rfl, common⟩

theorem findDevice (common : db.Matches s) {user : Uuid} {device : String}
    (plain : '\x00' ∉ device.toList) : db.Answers s now (.findDevice user device) := by
  have done : db.tables.findDevice user device = .ok (s.device? user device, db.tables) := by
    unfold Tables.findDevice
    rw [Tables.require_ok common.ready, Tables.storable_ok (by simpa using plain), common.devices]
    rfl
  exact ⟨_, _, Request.on_send common.up done, rfl, rfl, common⟩

theorem renameDevice (common : db.Matches s) {user : Uuid} {device name : String}
    (plain : '\x00' ∉ device.toList) (plainName : '\x00' ∉ name.toList) :
    db.Answers s now (.renameDevice user device name) := by
  have consistent :=
    SessionStore.consistent_answer common.consistent now (.renameDevice user device name)
  have memory : (s.renameDevice user device name).1 = s.devices.contains (user, device) ∧
      (s.renameDevice user device name).2.sessions = s.sessions ∧
      (s.renameDevice user device name).2.devices =
        s.devices.update (user, device) fun d => { d with name } := by
    rw [SessionStore.renameDevice_store]
    exact ⟨SessionStore.renameDevice_fst s user device name, rfl, rfl⟩
  have done : db.tables.renameDevice user device name =
      .ok (db.tables.devices.contains (user, device), { db.tables with
        devices := db.tables.devices.update (user, device) fun d => { d with name } }) := by
    unfold Tables.renameDevice
    rw [Tables.require_ok common.ready, Tables.storable_ok (by simpa using ⟨plain, plainName⟩)]
    rfl
  refine ⟨_, _, Request.on_send common.up done, rfl, ?_, ?_⟩
  · rw [common.devices]
    exact memory.1.symm
  · exact
    { up := common.up
      ready := common.ready
      devices := by rw [common.devices]; exact memory.2.2.symm
      sessions := common.sessions.trans (congrArg (Keyed.mapValues · _) memory.2.1.symm)
      numbered := ⟨common.numbered.below, common.numbered.apart⟩
      consistent }

theorem deleteDevice (common : db.Matches s) {user : Uuid} {device : String}
    (plain : '\x00' ∉ device.toList) : db.Answers s now (.deleteDevice user device) := by
  have consistent :=
    SessionStore.consistent_answer common.consistent now (.deleteDevice user device)
  have done : db.tables.deleteDevice user device =
      .ok (db.tables.devices.contains (user, device), { db.tables with
        devices := db.tables.devices.erase (user, device)
        sessions := db.tables.sessions.erase (user, device) }) := by
    unfold Tables.deleteDevice
    rw [Tables.require_ok common.ready, Tables.storable_ok (by simpa using plain)]
    rfl
  refine ⟨_, _, Request.on_send common.up done, rfl, ?_, ?_⟩
  · rw [common.devices]
    rfl
  · exact
    { up := common.up
      ready := common.ready
      devices := congrArg (Keyed.erase · (user, device)) common.devices
      sessions := by
        have same := congrArg (Keyed.erase · (user, device)) common.sessions
        simp only [← Keyed.mapValues_erase] at same
        exact same
      numbered := common.numbered.erase _ _
      consistent }

/-- The use of a token is recorded in the one session with the number that was found. -/
theorem touch (common : db.Matches s) {key : DeviceKey} {x y : Session}
    (found : db.tables.sessions.get? key = some x) (known : s.sessions.get? key = some y)
    (consistent : SessionStore.Consistent { s with sessions := s.sessions.put key (y.touch now) }) :
    Matches
      { db with tables := { db.tables with
          sessions := db.tables.sessions.mapValues fun _ z => if z.id = x.id then z.touch now else z } }
      { s with sessions := s.sessions.put key (y.touch now) } := by
  have byKey : (db.tables.sessions.mapValues fun _ z => if z.id = x.id then z.touch now else z) =
      db.tables.sessions.mapValues fun k z => if k = key then z.touch now else z := by
    apply Keyed.mapValues_congr
    intro k z member
    have there := Keyed.get?_eq_some_iff.mpr member
    by_cases here : k = key
    · subst here
      rw [Option.some.inj (there.symm.trans found)]
      simp
    · have other : z.id ≠ x.id := fun same => here (common.numbered.apart there found same)
      simp [here, other]
  have alike : ∀ (k : DeviceKey) (z : Session),
      Session.unnumbered (if k = key then z.touch now else z) =
        if k = key then (Session.unnumbered z).touch now else Session.unnumbered z := by
    intro k z
    split <;> rfl
  rw [byKey]
  refine common.mapValues ?_ alike (fun k z _ => alike k z) rfl ?_ consistent
  · intro k z
    split <;> rfl
  · exact Keyed.put_eq_mapValues known fun z => z.touch now

/-- A token that is not good leaves both sides alone. -/
theorem isValid_false (common : db.Matches s) {user : Uuid} {device : DeviceIdentity}
    {token : String} (asked : (Request.isValid user device token now).on db = (.ok false, db))
    (memory : s.isValid user device token now = (false, s)) :
    db.Answers s now (.isValid user device token) := by
  refine ⟨false, db.tables, asked, rfl, congrArg Prod.fst memory.symm, ?_⟩
  exact (congrArg (Matches db) (congrArg Prod.snd memory)).mpr common

theorem isValid (common : db.Matches s) {user : Uuid} {device : DeviceIdentity} {token : String}
    (plain : '\x00' ∉ device.id.toList) (micros : now.IsMicros) :
    db.Answers s now (.isValid user device token) := by
  have consistent : (s.isValid user device token now).2.Consistent :=
    SessionStore.consistent_answer common.consistent now (.isValid user device token)
  have same := common.session? (user, device.id)
  have looked : db.tables.findSession user device.id =
      .ok (db.tables.sessions.get? (user, device.id), db.tables) := by
    unfold Tables.findSession
    rw [Tables.require_ok common.ready, Tables.storable_ok (by simpa using plain)]
    rfl
  have first : (Request.findSession user device.id).on db =
      (.ok (db.tables.sessions.get? (user, device.id)), db) := Request.on_send common.up looked
  cases found : db.tables.sessions.get? (user, device.id) with
  | none =>
    rw [found] at same first
    have absent : s.session? user device.id = none := Option.map_eq_none_iff.mp same.symm
    refine common.isValid_false ?_ (by rw [SessionStore.isValid, absent])
    rw [Request.isValid, Request.on_bind first]
    rfl
  | some x =>
    rw [found] at same first
    obtain ⟨y, known, alike⟩ := Option.map_eq_some_iff.mp same.symm
    have present : s.session? user device.id = some y := known
    have accepts : x.accepts token now = y.accepts token now := by
      change x.unnumbered.accepts token now = y.unnumbered.accepts token now
      rw [alike]
    cases accepted : y.accepts token now with
    | false =>
      refine common.isValid_false ?_ (by simp [SessionStore.isValid, present, accepted])
      rw [Request.isValid, Request.on_bind first]
      simp only [accepts, accepted]
      rfl
    | true =>
      have memory : s.isValid user device token now =
          (true, { s with sessions := s.sessions.put (user, device.id) (y.touch now) }) := by
        simp [SessionStore.isValid, present, accepted]
      have done : db.tables.touchSession x.id now = .ok ((), { db.tables with
          sessions := db.tables.sessions.mapValues fun _ z =>
            if z.id = x.id then z.touch now else z }) := by
        unfold Tables.touchSession Tables.clock
        rw [Tables.require_ok common.ready, micros.floorMicros]
        rfl
      have second : (Request.touchSession x.id now).on db = _ := Request.on_send common.up done
      rw [memory] at consistent
      have asked : (Request.isValid user device token now).on db = (.ok true, { db with
          tables := { db.tables with sessions := db.tables.sessions.mapValues fun _ z =>
            if z.id = x.id then z.touch now else z } }) := by
        rw [Request.isValid, Request.on_bind first]
        simp only [accepts, accepted, if_true]
        rw [Request.on_bind second]
        rfl
      refine ⟨true, _, asked, rfl, congrArg Prod.fst memory.symm, ?_⟩
      exact (congrArg (Matches _) (congrArg Prod.snd memory)).mpr
        (common.touch found known consistent)

theorem create (common : db.Matches s) {user : Uuid} {tokenHash : String} {expiresAt : Instant}
    {device : DeviceIdentity}
    (suits : (StoreCall.create user tokenHash expiresAt device).Suits db.tables.users now) :
    db.Answers s now (.create user tokenHash expiresAt device) := by
  have plain := suits.plain
  have micros : now.IsMicros := suits.micros now List.mem_cons_self
  have expires : expiresAt.IsMicros := suits.micros expiresAt (by simp [StoreCall.times])
  simp only [StoreCall.texts, List.forall_mem_cons] at plain
  obtain ⟨plainId, plainName, plainOs, plainBrowser, plainAgent, plainIp, plainHash, -⟩ := plain
  have consistent : (s.create user tokenHash expiresAt device now).2.Consistent :=
    SessionStore.consistent_create common.consistent user tokenHash expiresAt device now
  have plainDevice : ∀ s ∈ [device.id, device.name, device.os, device.browser, device.userAgent,
      device.ip], '\x00' ∉ s.toList := by
    simp [plainId, plainName, plainOs, plainBrowser, plainAgent, plainIp]
  obtain ⟨row, upserted⟩ := Tables.upsertDevice_ok common.ready common.devices suits.known
    plainDevice micros
  have there : (s.withDevice user device now).contains (user, device.id) = true := by
    have added := SessionStore.device?_create_isSome s user tokenHash expiresAt device now user
      device.id
    rw [decide_eq_true ⟨rfl, rfl⟩, Bool.true_or] at added
    exact added
  obtain ⟨fresh, recorded, number, fields⟩ := Tables.upsertSession_ok
    (t := { db.tables with devices := s.withDevice user device now }) common.ready there plainId
    plainHash expires micros
  have asked := Request.on_record common.up upserted recorded
  have alike : fresh.unnumbered = (s.create user tokenHash expiresAt device now).1.unnumbered := by
    rw [fields]
    rfl
  refine ⟨fresh, _, asked, rfl, alike, ?_⟩
  exact
  { up := common.up
    ready := common.ready
    devices := rfl
    sessions := by
      change (db.tables.sessions.put (user, device.id) fresh).mapValues _ =
        (s.sessions.put (user, device.id) _).mapValues _
      rw [Keyed.mapValues_put, Keyed.mapValues_put, common.sessions]
      exact congrArg (Keyed.put _ _) alike
    numbered := common.numbered.put number _
    consistent }

/-- Every call that suits the database is answered there as in memory. -/
theorem answers (common : db.Matches s) {call : StoreCall}
    (suits : call.Suits db.tables.users now) : db.Answers s now call := by
  have plain := suits.plain
  cases call with
  | create user tokenHash expiresAt device => exact common.create suits
  | isValid user device token =>
    exact common.isValid (plain _ List.mem_cons_self) (suits.micros now List.mem_cons_self)
  | revokeAll user => exact common.revokeAll user
  | revokeDevice user device => exact common.revokeDevice (plain _ List.mem_cons_self)
  | listDevices user => exact common.listDevices user
  | findDevice user device => exact common.findDevice (plain _ List.mem_cons_self)
  | renameDevice user device name =>
    exact common.renameDevice (plain _ List.mem_cons_self) (plain _ (by simp [StoreCall.texts]))
  | deleteDevice user device => exact common.deleteDevice (plain _ List.mem_cons_self)

end Matches

/-! ### Histories -/

/-- The database after calls, each at its time. -/
def after (db : Database) : List (Instant × StoreCall) → Database
  | [] => db
  | (now, call) :: rest => after ((call.request now).on db).2 rest

/-- Calls that suit a database keep what it has in common with a store. -/
theorem Matches.after {calls : List (Instant × StoreCall)} {db : Database} {s : SessionStore}
    (common : db.Matches s) (suit : ∀ e ∈ calls, e.2.Suits db.tables.users e.1) :
    (db.after calls).Matches (s.after calls) ∧ (db.after calls).tables.users = db.tables.users := by
  induction calls generalizing db s with
  | nil => exact ⟨common, rfl⟩
  | cons e rest ih =>
    obtain ⟨now, call⟩ := e
    obtain ⟨b, tables, asked, users, -, next⟩ := common.answers (suit _ List.mem_cons_self)
    have later : ∀ e ∈ rest, e.2.Suits tables.users e.1 := by
      intro e member
      rw [users]
      exact suit e (List.mem_cons_of_mem _ member)
    obtain ⟨common', users'⟩ := ih next later
    unfold Database.after SessionStore.after
    rw [asked]
    exact ⟨common', users'.trans users⟩

/-- A database without devices and sessions has everything in common with the empty store. -/
theorem matches_empty {db : Database} (up : db.faults = []) (ready : 2 ≤ db.tables.schema)
    (noDevices : db.tables.devices = .empty) (noSessions : db.tables.sessions = .empty) :
    db.Matches .empty where
  up := up
  ready := ready
  devices := noDevices
  sessions := by
    rw [noSessions]
    rfl
  numbered := by
    constructor <;> rw [noSessions] <;> intros <;> contradiction
  consistent := SessionStore.consistent_empty

end Database

/-! ### The agreement -/

/-- A working database with its tables, but without devices and sessions, answers every call that
suits it as the store in memory does after the same calls, numbers of sessions apart. For a user who
is not there, any database refuses to record a session, and stays as it was. -/
theorem Database.agrees_with_memory (db : Database) (up : db.faults = [])
    (ready : 2 ≤ db.tables.schema) (noDevices : db.tables.devices = .empty)
    (noSessions : db.tables.sessions = .empty) (history : List (Instant × StoreCall)) (now : Instant)
    (call : StoreCall) (suit : ∀ e ∈ history ++ [(now, call)], e.2.Suits db.tables.users e.1) :
    (∃ b, ((call.request now).on (db.after history)).1 = .ok b ∧
      call.told b = call.told ((SessionStore.empty.after history).answer now call).1) ∧
    ∀ (other : Database) (user : Uuid) (tokenHash : String) (expiresAt : Instant)
      (device : DeviceIdentity) (now : Instant), other.tables.users.contains user = false →
      ∃ e, ((StoreCall.create user tokenHash expiresAt device).request now).on other =
        (.error e, other) ∧ e.kind = .database := by
  constructor
  · have before : ∀ e ∈ history, e.2.Suits db.tables.users e.1 :=
      fun e member => suit e (List.mem_append_left _ member)
    have last : call.Suits db.tables.users now := suit (now, call) (by simp)
    obtain ⟨common, users⟩ := (matches_empty up ready noDevices noSessions).after before
    rw [← users] at last
    obtain ⟨b, tables, asked, -, alike, -⟩ := common.answers last
    exact ⟨b, congrArg Prod.fst asked, alike⟩
  · intro other user tokenHash expiresAt device now unknown
    have absent : other.tables.users.contains (Device.ofIdentity user device now).userId = false :=
      unknown
    obtain ⟨why, refused⟩ := Tables.upsertDevice_refused absent
    obtain ⟨message, failed⟩ := Request.on_record_refused refused tokenHash expiresAt now
    exact ⟨_, failed, rfl⟩

/-- A user of a small database. -/
def tenant : User := ⟨⟨List.replicate 16 7, rfl⟩, "bob@example.com", "", true, .epoch, .epoch⟩

/-- A device of that user. -/
def laptop : DeviceIdentity :=
  ⟨"laptop", "Firefox on Linux", .desktop, "Linux", "Firefox", "Firefox/1", "10.0.0.1"⟩

/-- A small database with that user. -/
def tenancy : Database := { tables := { users := .put .empty tenant.id tenant } }

/-- Two logins with a new name for the device and a revocation between them. -/
def visits : List (Instant × StoreCall) :=
  [(.epoch, .create tenant.id "a" (.ofSecs 60) laptop),
    (.epoch, .renameDevice tenant.id "laptop" "Mine"), (.epoch, .revokeAll tenant.id),
    (.epoch, .create tenant.id "b" (.ofSecs 60) laptop)]

theorem epoch_isMicros : Instant.IsMicros .epoch := ⟨0, rfl⟩

theorem minute_isMicros : Instant.IsMicros (.ofSecs 60) := ⟨60000000, rfl⟩

theorem visits_suit :
    ∀ e ∈ visits ++ [(.epoch, .listDevices tenant.id)], e.2.Suits tenancy.tables.users e.1 := by
  have known : tenancy.tables.users.contains tenant.id = true := by decide
  simp only [visits, List.cons_append, List.nil_append, List.forall_mem_cons]
  refine ⟨⟨known, by decide, ?_⟩, ⟨known, by decide, ?_⟩, ⟨known, by decide, ?_⟩,
    ⟨known, by decide, ?_⟩, ⟨known, by decide, ?_⟩, by simp⟩ <;>
  simp [StoreCall.times, epoch_isMicros, minute_isMicros]

theorem agrees_with_memory_after_visits :
    (∃ devices, ((Request.listDevices tenant.id).on (tenancy.after visits)).1 = .ok devices ∧
      devices = (SessionStore.empty.after visits).listDevices tenant.id) ∧
    ∃ e, ((StoreCall.create tenant.id "a" .epoch laptop).request .epoch).on {} = (.error e, {}) ∧
      e.kind = .database := by
  obtain ⟨answered, refuses⟩ := Database.agrees_with_memory tenancy rfl (by decide) rfl rfl
    visits .epoch (.listDevices tenant.id) visits_suit
  exact ⟨answered, refuses {} tenant.id "a" .epoch laptop .epoch rfl⟩

end DeviceSessions
