import DeviceSessions.Proofs.Keyed
import DeviceSessions.Session.Call

/-!
# Laws of the session store

What each call does to the session of a user on a device, the invariant that ties an entry to its
key, and what the number of active sessions says about the entries.
-/

namespace DeviceSessions

/-- The user whom a call of the store is for. -/
def StoreCall.user : StoreCall → Uuid
  | create user _ _ _ | isValid user _ _ | revokeAll user | revokeDevice user _ | listDevices user
  | findDevice user _ | renameDevice user _ _ | deleteDevice user _ => user

/-- The session without its number. -/
def Session.unnumbered (x : Session) : Session := { x with id := 0 }

/-- Whether a call of the store only asks. -/
def StoreCall.isQuery : StoreCall → Bool
  | .listDevices _ | .findDevice .. => true
  | _ => false

/-- What an answer tells, numbers of sessions apart. -/
def StoreCall.told : (call : StoreCall) → call.Answer → call.Answer
  | create .., x => Session.unnumbered x
  | isValid .., b | revokeAll _, b | revokeDevice .., b | listDevices _, b | findDevice .., b
  | renameDevice .., b | deleteDevice .., b => b

/-- What decides about the token of a session. -/
structure Holding where
  revoked : Bool
  tokenHash : String
  expiresAt : Instant

/-- What decides about the token of a session. -/
def Session.holding (x : Session) : Holding := ⟨x.revoked, x.tokenHash, x.expiresAt⟩

namespace SessionStore

/-- What the session of a user on a device holds. -/
def holding? (s : SessionStore) (user : Uuid) (device : String) : Option Holding :=
  (s.session? user device).map Session.holding

/-- A call that only asks leaves the store as it is. -/
theorem answer_query (s : SessionStore) (now : Instant) {call : StoreCall}
    (query : call.isQuery = true) : (s.answer now call).2 = s := by
  cases call with
  | listDevices user => rfl
  | findDevice user device => rfl
  | _ => cases query

/-! ### The session under a key after each call -/

theorem session?_create (s : SessionStore) (user : Uuid) (hash : String) (expiresAt : Instant)
    (device : DeviceIdentity) (now : Instant) (u : Uuid) (d : String) :
    (s.create user hash expiresAt device now).2.session? u d =
      if u = user ∧ d = device.id then some (s.create user hash expiresAt device now).1
      else s.session? u d := by
  simp only [create, session?, Keyed.get?_put, Prod.mk.injEq]

theorem session?_isValid (s : SessionStore) (user : Uuid) (device : DeviceIdentity) (token : String)
    (now : Instant) (u : Uuid) (d : String) :
    (s.isValid user device token now).2.session? u d =
      (s.session? u d).map fun x =>
        if u = user ∧ d = device.id ∧ x.accepts token now then x.touch now else x := by
  unfold isValid
  cases known : s.session? user device.id with
  | none =>
    by_cases here : u = user ∧ d = device.id
    · obtain ⟨rfl, rfl⟩ := here
      simp [known]
    · simp [← and_assoc, here]
  | some row =>
    by_cases accepted : row.accepts token now = true
    · simp only [accepted, if_true, session?, Keyed.get?_put, Prod.mk.injEq]
      split
      · rename_i here
        obtain ⟨rfl, rfl⟩ := here
        rw [session?] at known
        simp [known, accepted]
      · rename_i away
        simp [← and_assoc, away]
    · by_cases here : u = user ∧ d = device.id
      · obtain ⟨rfl, rfl⟩ := here
        simp [known, accepted]
      · simp [← and_assoc, here, accepted]

theorem accepts_iff {x : Session} {token : String} {now : Instant} :
    x.accepts token now = true ↔
      x.revoked = false ∧ now < x.expiresAt ∧ x.tokenHash = hashToken token := by
  simp [Session.accepts, Session.isActiveAt, digestsMatch, and_assoc]

theorem isValid_iff {s : SessionStore} {user : Uuid} {device : DeviceIdentity} {token : String}
    {now : Instant} :
    (s.isValid user device token now).1 = true ↔
      ∃ x, s.session? user device.id = some x ∧ x.accepts token now = true := by
  unfold isValid
  cases s.session? user device.id with
  | none => simp
  | some x => by_cases accepted : x.accepts token now = true <;> simp [accepted]

theorem session?_revokeAll (s : SessionStore) (user : Uuid) (u : Uuid) (d : String) :
    (s.revokeAll user).2.session? u d =
      (s.session? u d).map fun x => if x.userId = user && !x.revoked then x.revoke else x := by
  simp only [revokeAll, session?, Keyed.get?_mapValues]

theorem revoke_of_revoked {x : Session} (revoked : x.revoked = true) : x.revoke = x := by
  cases x
  simp_all [Session.revoke]

/-- Revoking a session that is revoked already changes nothing. -/
theorem revokeDevice_store (s : SessionStore) (user : Uuid) (device : String) :
    (s.revokeDevice user device).2 =
      { s with sessions := s.sessions.update (user, device) Session.revoke } := by
  unfold revokeDevice
  cases known : s.session? user device with
  | none =>
    have same := Keyed.update_eq_self (m := s.sessions) known Session.revoke
    rw [same]
  | some x =>
    cases revoked : x.revoked with
    | true =>
      have fixed : ∀ y, s.sessions.get? (user, device) = some y → y.revoke = y := by
        intro y found
        rw [← Option.some.inj (known.symm.trans found)]
        exact revoke_of_revoked revoked
      simp [revoked, Keyed.update_of_fixed fixed]
    | false =>
      have same := Keyed.put_eq_mapValues (m := s.sessions) known Session.revoke
      simp [revoked, same, Keyed.update]

theorem renameDevice_fst (s : SessionStore) (user : Uuid) (device name : String) :
    (s.renameDevice user device name).1 = (s.device? user device).isSome := by
  unfold renameDevice
  cases s.device? user device with
  | none => rfl
  | some d => rfl

/-- Where the device is not there, there is no name to change. -/
theorem renameDevice_store (s : SessionStore) (user : Uuid) (device name : String) :
    (s.renameDevice user device name).2 =
      { s with devices := s.devices.update (user, device) fun d => { d with name } } := by
  unfold renameDevice
  cases known : s.device? user device with
  | none =>
    have same := Keyed.update_eq_self (m := s.devices) known fun d => { d with name }
    rw [same]
  | some d =>
    have same := Keyed.put_eq_mapValues (m := s.devices) known fun d => { d with name }
    dsimp only
    rw [same]
    rfl

theorem session?_revokeDevice (s : SessionStore) (user : Uuid) (device : String) (u : Uuid)
    (d : String) :
    (s.revokeDevice user device).2.session? u d =
      (s.session? u d).map fun x => if u = user ∧ d = device then x.revoke else x := by
  rw [revokeDevice_store]
  refine (Keyed.get?_mapValues _ _ _).trans ?_
  simp only [Prod.mk.injEq, session?]

theorem session?_deleteDevice (s : SessionStore) (user : Uuid) (device : String) (u : Uuid)
    (d : String) :
    (s.deleteDevice user device).2.session? u d =
      if u = user ∧ d = device then none else s.session? u d := by
  simp only [deleteDevice, session?, Keyed.get?_erase, Prod.mk.injEq]

theorem session?_renameDevice (s : SessionStore) (user : Uuid) (device name : String) (u : Uuid)
    (d : String) : (s.renameDevice user device name).2.session? u d = s.session? u d := by
  rw [renameDevice_store]
  rfl

/-! ### Entries belong to their keys -/

/-- Every session is of the user and the device that it is kept under, and of a device that is
there. -/
structure Consistent (s : SessionStore) : Prop where
  owner : ∀ {u d x}, s.session? u d = some x → x.userId = u ∧ x.deviceId = d
  device : ∀ {u d x}, s.session? u d = some x → (s.device? u d).isSome

theorem consistent_empty : Consistent {} where
  owner h := by cases h
  device h := by cases h

/-- The record that a login makes of a device: a new one, or the one that is known already with what
is new. -/
theorem device?_create (s : SessionStore) (user : Uuid) (hash : String) (expiresAt : Instant)
    (device : DeviceIdentity) (now : Instant) (u : Uuid) (d : String) :
    (s.create user hash expiresAt device now).2.device? u d =
      if u = user ∧ d = device.id then
        some (((s.device? user device.id).map
          fun known => known.refresh (.ofIdentity user device now)).getD
            (.ofIdentity user device now))
      else s.device? u d := by
  simp only [create, device?, withDevice]
  cases s.devices.get? (user, device.id) <;> simp [Keyed.get?_put]

theorem device?_create_isSome (s : SessionStore) (user : Uuid) (hash : String) (expiresAt : Instant)
    (device : DeviceIdentity) (now : Instant) (u : Uuid) (d : String) :
    ((s.create user hash expiresAt device now).2.device? u d).isSome =
      (decide (u = user ∧ d = device.id) || (s.device? u d).isSome) := by
  rw [device?_create]
  by_cases here : u = user ∧ d = device.id <;> simp [here]

theorem device?_renameDevice (s : SessionStore) (user : Uuid) (device name : String) (u : Uuid)
    (d : String) :
    (s.renameDevice user device name).2.device? u d =
      (s.device? u d).map fun x => if u = user ∧ d = device then { x with name } else x := by
  rw [renameDevice_store]
  refine (Keyed.get?_mapValues _ _ _).trans ?_
  simp only [Prod.mk.injEq, device?]

theorem device?_isValid (s : SessionStore) (user : Uuid) (device : DeviceIdentity) (token : String)
    (now : Instant) (u : Uuid) (d : String) :
    (s.isValid user device token now).2.device? u d = s.device? u d := by
  unfold isValid
  split
  · split <;> rfl
  · rfl

theorem device?_revokeDevice (s : SessionStore) (user : Uuid) (device : String) (u : Uuid)
    (d : String) : (s.revokeDevice user device).2.device? u d = s.device? u d := by
  rw [revokeDevice_store]
  rfl

/-- A change of sessions that keeps keys, users and devices keeps the store consistent. -/
theorem Consistent.of_map {s t : SessionStore} (consistent : s.Consistent)
    (f : Uuid → String → Session → Session)
    (owner : ∀ u d x, (f u d x).userId = x.userId ∧ (f u d x).deviceId = x.deviceId)
    (sessions : ∀ u d, t.session? u d = (s.session? u d).map (f u d))
    (devices : ∀ u d, (t.device? u d).isSome = (s.device? u d).isSome) : t.Consistent := by
  have source : ∀ {u d x}, t.session? u d = some x → ∃ y, s.session? u d = some y ∧ f u d y = x := by
    intro u d x found
    rw [sessions] at found
    exact Option.map_eq_some_iff.mp found
  constructor
  · intro u d x found
    obtain ⟨y, before, rfl⟩ := source found
    rw [(owner u d y).1, (owner u d y).2]
    exact consistent.owner before
  · intro u d x found
    obtain ⟨y, before, -⟩ := source found
    rw [devices]
    exact consistent.device before

theorem consistent_create {s : SessionStore} (consistent : s.Consistent) (user : Uuid)
    (hash : String) (expiresAt : Instant) (device : DeviceIdentity) (now : Instant) :
    (s.create user hash expiresAt device now).2.Consistent := by
  constructor
  · intro u d x found
    rw [session?_create] at found
    split at found
    · rename_i here
      obtain ⟨rfl, rfl⟩ := here
      cases found
      exact ⟨rfl, rfl⟩
    · exact consistent.owner found
  · intro u d x found
    rw [session?_create] at found
    rw [device?_create_isSome]
    split at found
    · rename_i here
      simp [here]
    · simp [consistent.device found]

theorem consistent_deleteDevice {s : SessionStore} (consistent : s.Consistent) (user : Uuid)
    (device : String) : (s.deleteDevice user device).2.Consistent := by
  have kept : ∀ {u d x}, (s.deleteDevice user device).2.session? u d = some x →
      ¬(u = user ∧ d = device) ∧ s.session? u d = some x := by
    intro u d x found
    rw [session?_deleteDevice] at found
    split at found
    · cases found
    · exact ⟨‹_›, found⟩
  constructor
  · intro u d x found
    exact consistent.owner (kept found).2
  · intro u d x found
    obtain ⟨away, before⟩ := kept found
    have present := consistent.device before
    simpa only [deleteDevice, device?, Keyed.get?_erase, Prod.mk.injEq, away, if_false] using present

theorem consistent_answer {s : SessionStore} (consistent : s.Consistent) (now : Instant)
    (call : StoreCall) : (s.answer now call).2.Consistent := by
  cases call with
  | create user hash expiresAt device => exact consistent_create consistent user hash expiresAt device now
  | isValid user device token =>
    refine consistent.of_map _ ?_ (session?_isValid s user device token now) ?_
    · intro u d x
      split <;> exact ⟨rfl, rfl⟩
    · intro u d
      exact congrArg Option.isSome (device?_isValid s user device token now u d)
  | revokeAll user =>
    refine consistent.of_map _ ?_ (session?_revokeAll s user) fun _ _ => rfl
    intro u d x
    split <;> exact ⟨rfl, rfl⟩
  | revokeDevice user device =>
    refine consistent.of_map _ ?_ (session?_revokeDevice s user device) ?_
    · intro u d x
      split <;> exact ⟨rfl, rfl⟩
    · intro u d
      exact congrArg Option.isSome (device?_revokeDevice s user device u d)
  | listDevices user => exact consistent
  | findDevice user device => exact consistent
  | renameDevice user device name =>
    refine consistent.of_map (fun _ _ x => x) (fun _ _ _ => ⟨rfl, rfl⟩) ?_ ?_
    · intro u d
      exact (session?_renameDevice s user device name u d).trans Option.map_id'.symm
    · intro u d
      exact (congrArg Option.isSome (device?_renameDevice s user device name u d)).trans
        Option.isSome_map
  | deleteDevice user device => exact consistent_deleteDevice consistent user device

/-! ### What holds of every session -/

/-- Every session of a store has a property. -/
def All (s : SessionStore) (P : Uuid → String → Session → Prop) : Prop :=
  ∀ u d x, s.session? u d = some x → P u d x

/-- Revoking a session and using its token keep a property. -/
structure Lasting (P : Uuid → String → Session → Prop) : Prop where
  revoke : ∀ {u d x}, P u d x → P u d x.revoke
  touch : ∀ {u d x} (now : Instant), P u d x → P u d (x.touch now)

variable {P : Uuid → String → Session → Prop}

theorem all_empty : All {} P := by
  intro u d x found
  cases found

theorem All.of_map {s t : SessionStore} (all : s.All P) (f : Uuid → String → Session → Session)
    (keeps : ∀ u d x, P u d x → P u d (f u d x))
    (mapped : ∀ u d, t.session? u d = (s.session? u d).map (f u d)) : t.All P := by
  intro u d x found
  rw [mapped] at found
  obtain ⟨y, before, rfl⟩ := Option.map_eq_some_iff.mp found
  exact keeps u d y (all u d y before)

/-- A call keeps what holds of every session, if it holds of the session that the call records. -/
theorem All.answer {s : SessionStore} (all : s.All P) (lasting : Lasting P) (now : Instant)
    {call : StoreCall}
    (recorded : ∀ user hash expiresAt device, call = .create user hash expiresAt device →
      P user device.id (s.create user hash expiresAt device now).1) :
    (s.answer now call).2.All P := by
  cases call with
  | create user hash expiresAt device =>
    intro u d x found
    have known := (session?_create s user hash expiresAt device now u d).symm.trans found
    split at known
    · rename_i here
      obtain ⟨rfl, rfl⟩ := here
      rw [← Option.some.inj known]
      exact recorded _ _ _ _ rfl
    · exact all u d x known
  | isValid user device token =>
    refine all.of_map _ ?_ (session?_isValid s user device token now)
    intro u d x holds
    split
    · exact lasting.touch now holds
    · exact holds
  | revokeAll user =>
    refine all.of_map _ ?_ (session?_revokeAll s user)
    intro u d x holds
    split
    · exact lasting.revoke holds
    · exact holds
  | revokeDevice user device =>
    refine all.of_map _ ?_ (session?_revokeDevice s user device)
    intro u d x holds
    split
    · exact lasting.revoke holds
    · exact holds
  | listDevices user => exact all
  | findDevice user device => exact all
  | renameDevice user device name =>
    intro u d x found
    exact all u d x ((session?_renameDevice s user device name u d).symm.trans found)
  | deleteDevice user device =>
    intro u d x found
    have known := (session?_deleteDevice s user device u d).symm.trans found
    split at known
    · cases known
    · exact all u d x known

/-- A store that calls have led to from the empty one. -/
inductive Reachable : SessionStore → Prop where
  | empty : Reachable {}
  | answer {s} (now : Instant) (call : StoreCall) : Reachable s → Reachable (s.answer now call).2

theorem Reachable.consistent {s : SessionStore} (reachable : s.Reachable) : s.Consistent := by
  induction reachable with
  | empty => exact consistent_empty
  | answer now call _ ih => exact consistent_answer ih now call

/-- The store after calls, each at its time. -/
def after (s : SessionStore) : List (Instant × StoreCall) → SessionStore
  | [] => s
  | (now, call) :: rest => after (s.answer now call).2 rest

theorem after_append (s : SessionStore) (calls later : List (Instant × StoreCall)) :
    s.after (calls ++ later) = (s.after calls).after later := by
  induction calls generalizing s with
  | nil => rfl
  | cons c calls ih => exact ih _

/-! ### Consistent stores -/

variable {s : SessionStore}

theorem Consistent.revokeAll_store (consistent : s.Consistent) (user : Uuid) :
    (s.revokeAll user).2 = { s with
      sessions := s.sessions.mapValues fun k x => if k.1 = user then x.revoke else x } := by
  unfold revokeAll
  dsimp only
  congr 1
  apply Keyed.mapValues_congr
  rintro ⟨u, d⟩ x member
  have owner := (consistent.owner (u := u) (d := d) (Keyed.get?_eq_some_iff.mpr member)).1
  by_cases mine : u = user
  · by_cases revoked : x.revoked = true
    · simp [mine, revoked, revoke_of_revoked revoked]
    · simp [mine, owner, revoked]
  · simp [mine, owner]

theorem Consistent.session?_revokeAll (consistent : s.Consistent) (user u : Uuid) (d : String) :
    (s.revokeAll user).2.session? u d =
      (s.session? u d).map fun x => if u = user then x.revoke else x := by
  rw [consistent.revokeAll_store]
  exact Keyed.get?_mapValues _ _ _

theorem Consistent.activeCount_eq_zero (consistent : s.Consistent) {user : Uuid} {now : Instant}
    (inactive : ∀ d x, s.session? user d = some x → x.isActiveAt now = false) :
    s.activeCount user now = 0 := by
  rw [activeCount, List.length_eq_zero_iff, List.filter_eq_nil_iff]
  intro x member
  obtain ⟨⟨u, d⟩, found⟩ := Keyed.mem_values_iff.mp member
  have owner := (consistent.owner (u := u) (d := d) found).1
  by_cases mine : x.userId = user
  · have here : u = user := owner.symm.trans mine
    subst here
    simp [inactive d x found]
  · simp [mine]

theorem Consistent.activeCount_eq_one (consistent : s.Consistent) {user : Uuid} {device : String}
    {row : Session} {now : Instant} (present : s.session? user device = some row)
    (active : row.isActiveAt now = true)
    (others : ∀ d x, d ≠ device → s.session? user d = some x → x.isActiveAt now = false) :
    s.activeCount user now = 1 := by
  refine Keyed.length_filter_values_eq_one present ?_ ?_
  · simp [(consistent.owner present).1, active]
  · rintro ⟨u, d⟩ x found good
    simp only [Bool.and_eq_true, decide_eq_true_eq] at good
    have owner := (consistent.owner (u := u) (d := d) found).1
    have mine : u = user := owner.symm.trans good.1
    subst mine
    by_contra away
    have apart : d ≠ device := fun same => away (by rw [same])
    rw [others d x apart found] at good
    exact absurd good.2 (by decide)

/-- Where one session of a user is active, no other is. -/
theorem Consistent.device_eq_of_activeCount (consistent : s.Consistent) {user : Uuid} {now : Instant}
    (one : s.activeCount user now = 1) {device device' : String} {x y : Session}
    (found : s.session? user device = some x) (active : x.isActiveAt now = true)
    (found' : s.session? user device' = some y) (active' : y.isActiveAt now = true) :
    device = device' := by
  obtain ⟨z, only⟩ := List.length_eq_one_iff.mp one
  have counted : ∀ {d row}, s.session? user d = some row → row.isActiveAt now = true → row = z := by
    intro d row present live
    have member : row ∈ s.sessions.values.filter fun r => r.userId = user && r.isActiveAt now := by
      rw [List.mem_filter]
      exact ⟨Keyed.mem_values_iff.mpr ⟨_, present⟩, by simp [(consistent.owner present).1, live]⟩
    rw [only] at member
    exact List.mem_singleton.mp member
  rw [← (consistent.owner found).2, ← (consistent.owner found').2, counted found active,
    counted found' active']

/-- Calls for one user leave the sessions of the others alone. -/
theorem Consistent.session?_other (consistent : s.Consistent) (now : Instant) {call : StoreCall}
    {user : Uuid} (other : call.user ≠ user) (d : String) :
    (s.answer now call).2.session? user d = s.session? user d := by
  cases call with
  | create owner hash expiresAt device =>
    exact (session?_create s owner hash expiresAt device now user d).trans
      (if_neg fun same => other same.1.symm)
  | isValid owner device token =>
    refine (session?_isValid s owner device token now user d).trans ?_
    simp [show user ≠ owner from fun same => other same.symm]
  | revokeAll owner =>
    refine (consistent.session?_revokeAll owner user d).trans ?_
    simp [show user ≠ owner from fun same => other same.symm]
  | revokeDevice owner device =>
    refine (session?_revokeDevice s owner device user d).trans ?_
    simp [show user ≠ owner from fun same => other same.symm]
  | listDevices owner => rfl
  | findDevice owner device => rfl
  | renameDevice owner device name => exact session?_renameDevice s owner device name user d
  | deleteDevice owner device =>
    exact (session?_deleteDevice s owner device user d).trans
      (if_neg fun same => other same.1.symm)

theorem device?_other (s : SessionStore) (now : Instant) {call : StoreCall} {user : Uuid}
    (other : call.user ≠ user) (d : String) :
    (s.answer now call).2.device? user d = s.device? user d := by
  have apart : user ≠ call.user := other.symm
  cases call with
  | create owner hash expiresAt device =>
    exact (device?_create s owner hash expiresAt device now user d).trans
      (if_neg fun same => apart same.1)
  | isValid owner device token => exact device?_isValid s owner device token now user d
  | revokeAll owner => rfl
  | revokeDevice owner device => exact device?_revokeDevice s owner device user d
  | listDevices owner => rfl
  | findDevice owner device => rfl
  | renameDevice owner device name =>
    refine (device?_renameDevice s owner device name user d).trans ?_
    simp [show user ≠ owner from apart]
  | deleteDevice owner device =>
    refine (Keyed.get?_erase s.devices (owner, device) (user, d)).trans (if_neg ?_)
    exact fun same => apart (Prod.mk.inj same).1

theorem Consistent.holding?_other (consistent : s.Consistent) (now : Instant) {call : StoreCall} {user : Uuid}
    (other : call.user ≠ user) (d : String) :
    (s.answer now call).2.holding? user d = s.holding? user d :=
  congrArg (Option.map Session.holding) (consistent.session?_other now other d)

/-- The use of a token does not change what a session holds. -/
theorem holding?_isValid (s : SessionStore) (user : Uuid) (device : DeviceIdentity) (token : String)
    (now : Instant) (u : Uuid) (d : String) :
    (s.isValid user device token now).2.holding? u d = s.holding? u d := by
  unfold holding?
  rw [session?_isValid, Option.map_map]
  congr 1
  funext x
  change Session.holding (if _ then _ else _) = _
  split <;> rfl

theorem holding?_create (s : SessionStore) (user : Uuid) (hash : String) (expiresAt : Instant)
    (device : DeviceIdentity) (now : Instant) (u : Uuid) (d : String) :
    (s.create user hash expiresAt device now).2.holding? u d =
      if u = user ∧ d = device.id then some ⟨false, hash, expiresAt⟩ else s.holding? u d := by
  unfold holding?
  rw [session?_create]
  split <;> rfl

theorem Consistent.holding?_revokeAll (consistent : s.Consistent) (user : Uuid) (d : String) :
    (s.revokeAll user).2.holding? user d =
      (s.holding? user d).map fun held => { held with revoked := true } := by
  unfold holding?
  rw [consistent.session?_revokeAll, Option.map_map, Option.map_map]
  congr 1
  funext x
  change Session.holding (if user = user then _ else _) = _
  rw [if_pos rfl]
  rfl

/-- A session that is recorded after a revocation is the only active one. -/
theorem Consistent.activeCount_create (consistent : s.Consistent) (user : Uuid) (hash : String)
    {expiresAt later : Instant} (device : DeviceIdentity) (now : Instant)
    (current : later < expiresAt) :
    ((s.revokeAll user).2.create user hash expiresAt device now).2.activeCount user later = 1 := by
  have revoked : (s.revokeAll user).2.Consistent := consistent_answer consistent now (.revokeAll user)
  have recorded := consistent_create revoked user hash expiresAt device now
  have session? := session?_create (s.revokeAll user).2 user hash expiresAt device now user
  refine recorded.activeCount_eq_one ((session? device.id).trans (if_pos ⟨rfl, rfl⟩)) ?_ ?_
  · simp [create, Session.isActiveAt, current]
  · intro d x away found
    rw [session?, if_neg fun same => away same.2, consistent.session?_revokeAll] at found
    obtain ⟨y, -, rfl⟩ := Option.map_eq_some_iff.mp found
    simp [Session.isActiveAt, Session.revoke]

end SessionStore

end DeviceSessions
