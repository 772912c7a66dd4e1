import DeviceSessions.Proofs.Session.Store

/-!
# The part of a store that is a user's

Two stores can have the devices and the sessions of one user in common, the numbers of the sessions
apart, whatever else is in them. Then calls for this user are answered alike, and calls for others
change nothing about it.
-/

namespace DeviceSessions

/-- Whether a key is of a user. -/
def DeviceKey.isOf (user : Uuid) (k : DeviceKey) : Bool := decide (k.1 = user)

namespace SessionStore

/-- Every session and every device is of the user that it is kept under. -/
structure Sound (s : SessionStore) : Prop where
  consistent : s.Consistent
  housed : ∀ {u d x}, s.device? u d = some x → x.userId = u

theorem housed_answer {s : SessionStore}
    (housed : ∀ {u d x}, s.device? u d = some x → x.userId = u) (now : Instant) (call : StoreCall)
    {u : Uuid} {d : String} {x : Device} (found : (s.answer now call).2.device? u d = some x) :
    x.userId = u := by
  cases call with
  | create user hash expiresAt device =>
    have known := (device?_create s user hash expiresAt device now u d).symm.trans found
    split at known
    · rename_i here
      rw [← Option.some.inj known, here.1]
      cases before : s.device? user device.id with
      | none => rfl
      | some old =>
        have owner : old.userId = user := housed before
        exact owner
    · exact housed known
  | isValid user device token =>
    exact housed ((device?_isValid s user device token now u d).symm.trans found)
  | revokeAll user => exact housed found
  | revokeDevice user device => exact housed ((device?_revokeDevice s user device u d).symm.trans found)
  | listDevices user => exact housed found
  | findDevice user device => exact housed found
  | renameDevice user device name =>
    have known := (device?_renameDevice s user device name u d).symm.trans found
    obtain ⟨old, before, rfl⟩ := Option.map_eq_some_iff.mp known
    have owner : old.userId = u := housed before
    split <;> exact owner
  | deleteDevice user device =>
    have known := (Keyed.get?_erase s.devices (user, device) (u, d)).symm.trans found
    split at known
    · cases known
    · exact housed known

theorem sound_answer {s : SessionStore} (sound : s.Sound) (now : Instant) (call : StoreCall) :
    (s.answer now call).2.Sound :=
  ⟨consistent_answer sound.consistent now call, housed_answer sound.housed now call⟩

theorem Reachable.sound {s : SessionStore} (reachable : s.Reachable) : s.Sound := by
  induction reachable with
  | empty => exact ⟨consistent_empty, fun found => by cases found⟩
  | answer now call _ ih => exact sound_answer ih now call

/-- Two stores have the devices of a user in common, and the sessions up to their numbers. -/
structure Shares (s s' : SessionStore) (user : Uuid) : Prop where
  devices : s'.devices.restrict (DeviceKey.isOf user) = s.devices.restrict (DeviceKey.isOf user)
  sessions :
    ((s'.sessions.restrict (DeviceKey.isOf user)).mapValues fun _ => Session.unnumbered) =
      (s.sessions.restrict (DeviceKey.isOf user)).mapValues fun _ => Session.unnumbered

variable {s s' t : SessionStore} {user : Uuid}

theorem shares_refl (s : SessionStore) (user : Uuid) : s.Shares s user := ⟨rfl, rfl⟩

theorem Shares.trans (first : s.Shares s' user) (second : s'.Shares t user) : s.Shares t user :=
  ⟨second.devices.trans first.devices, second.sessions.trans first.sessions⟩

theorem Shares.symm (shares : s.Shares s' user) : s'.Shares s user :=
  ⟨shares.devices.symm, shares.sessions.symm⟩

theorem isOf_self (user : Uuid) (device : String) : DeviceKey.isOf user (user, device) = true :=
  decide_eq_true rfl

theorem isOf_other {owner : Uuid} (other : owner ≠ user) (device : String) :
    DeviceKey.isOf user (owner, device) = false :=
  decide_eq_false other

theorem Shares.device? (shares : s.Shares s' user) (device : String) :
    s'.device? user device = s.device? user device := by
  have same := congrArg (fun m => m.get? (user, device)) shares.devices
  simp only [Keyed.get?_restrict, isOf_self, if_true] at same
  exact same

theorem Shares.session? (shares : s.Shares s' user) (device : String) :
    (s'.session? user device).map Session.unnumbered =
      (s.session? user device).map Session.unnumbered := by
  have same := congrArg (fun m => m.get? (user, device)) shares.sessions
  simp only [Keyed.get?_mapValues, Keyed.get?_restrict, isOf_self, if_true] at same
  exact same

/-- There is no session of the user on a device in either store, or there are two that differ in
their numbers. -/
theorem Shares.session?_cases (shares : s.Shares s' user) (device : String) :
    s.session? user device = none ∧ s'.session? user device = none ∨
      ∃ x x', s.session? user device = some x ∧ s'.session? user device = some x' ∧
        x'.unnumbered = x.unnumbered := by
  have same := shares.session? device
  cases found : s.session? user device with
  | none =>
    rw [found, Option.map_none, Option.map_eq_none_iff] at same
    exact Or.inl ⟨rfl, same⟩
  | some x =>
    rw [found] at same
    obtain ⟨x', found', equal⟩ := Option.map_eq_some_iff.mp same
    exact Or.inr ⟨x, x', rfl, found', equal⟩

/-! ### Calls for the user -/

theorem Shares.sessions_put (shares : s.Shares s' user) (device : String) {x x' : Session}
    (equal : x'.unnumbered = x.unnumbered) :
    (((s'.sessions.put (user, device) x').restrict (DeviceKey.isOf user)).mapValues
        fun _ => Session.unnumbered) =
      ((s.sessions.put (user, device) x).restrict (DeviceKey.isOf user)).mapValues
        fun _ => Session.unnumbered := by
  rw [Keyed.restrict_put _ _ (isOf_self user device), Keyed.restrict_put _ _ (isOf_self user device),
    Keyed.mapValues_put, Keyed.mapValues_put, shares.sessions, equal]

/-- A change of sessions that numbers have no part in. -/
theorem Shares.sessions_map (shares : s.Shares s' user) {f : DeviceKey → Session → Session}
    (alike : ∀ k x, (f k x).unnumbered = f k x.unnumbered) :
    (((s'.sessions.mapValues f).restrict (DeviceKey.isOf user)).mapValues
        fun _ => Session.unnumbered) =
      ((s.sessions.mapValues f).restrict (DeviceKey.isOf user)).mapValues
        fun _ => Session.unnumbered := by
  have same := congrArg (fun m => m.mapValues f) shares.sessions
  simp only [Keyed.mapValues_mapValues, ← alike] at same
  rw [Keyed.restrict_mapValues, Keyed.restrict_mapValues, Keyed.mapValues_mapValues,
    Keyed.mapValues_mapValues]
  exact same

theorem withDevice_eq (s : SessionStore) (user : Uuid) (device : DeviceIdentity) (now : Instant) :
    s.withDevice user device now = s.devices.put (user, device.id)
      (((s.device? user device.id).map fun known => known.refresh (.ofIdentity user device now)).getD
        (.ofIdentity user device now)) := by
  unfold withDevice SessionStore.device?
  cases s.devices.get? (user, device.id) <;> rfl

theorem Shares.create (shares : s.Shares s' user) (hash : String) (expiresAt : Instant)
    (device : DeviceIdentity) (now : Instant) :
    (s'.create user hash expiresAt device now).1.unnumbered =
        (s.create user hash expiresAt device now).1.unnumbered ∧
      Shares (s.create user hash expiresAt device now).2
        (s'.create user hash expiresAt device now).2 user := by
  refine ⟨rfl, ?_, shares.sessions_put device.id rfl⟩
  change (s'.withDevice user device now).restrict _ = (s.withDevice user device now).restrict _
  rw [withDevice_eq, withDevice_eq, Keyed.restrict_put _ _ (isOf_self user device.id),
    Keyed.restrict_put _ _ (isOf_self user device.id), shares.devices, shares.device?]

theorem Shares.isValid (shares : s.Shares s' user) (device : DeviceIdentity) (token : String)
    (now : Instant) :
    (s'.isValid user device token now).1 = (s.isValid user device token now).1 ∧
      Shares (s.isValid user device token now).2 (s'.isValid user device token now).2 user := by
  unfold SessionStore.isValid
  rcases shares.session?_cases device.id with ⟨absent, absent'⟩ | ⟨x, x', found, found', equal⟩
  · rw [absent, absent']
    exact ⟨rfl, shares⟩
  · rw [found, found']
    have alike : x'.accepts token now = x.accepts token now := by
      change x'.unnumbered.accepts token now = x.unnumbered.accepts token now
      rw [equal]
    dsimp only
    rw [alike]
    cases x.accepts token now with
    | false => exact ⟨rfl, shares⟩
    | true =>
      exact ⟨rfl, shares.devices, shares.sessions_put device.id (congrArg (Session.touch · now) equal)⟩

/-- Of the sessions of a store those of the user are counted. -/
theorem revokeAll_count (consistent : s.Consistent) (user : Uuid) :
    (s.revokeAll user).1 =
      (((s.sessions.restrict (DeviceKey.isOf user)).mapValues
        fun _ => Session.unnumbered).entries.filter fun e => !e.2.revoked).length := by
  rw [Keyed.length_filter_mapValues]
  refine (Keyed.length_filter_values s.sessions _).trans ?_
  rw [Keyed.restrict, List.filter_filter]
  refine congrArg _ (List.filter_congr ?_)
  rintro ⟨⟨u, d⟩, x⟩ member
  have owner : x.userId = u := (consistent.owner (Keyed.get?_eq_some_iff.mpr member)).1
  rw [owner]
  exact Bool.and_comm _ _

theorem Shares.revokeAll (shares : s.Shares s' user) (consistent : s.Consistent)
    (consistent' : s'.Consistent) :
    (s'.revokeAll user).1 = (s.revokeAll user).1 ∧
      Shares (s.revokeAll user).2 (s'.revokeAll user).2 user := by
  refine ⟨?_, shares.devices, shares.sessions_map ?_⟩
  · rw [revokeAll_count consistent, revokeAll_count consistent', shares.sessions]
  · intro k x
    change (if _ then x.revoke else x).unnumbered =
      if x.userId = user && !x.revoked then x.unnumbered.revoke else x.unnumbered
    split <;> rfl

theorem Shares.revokeDevice (shares : s.Shares s' user) (device : String) :
    (s'.revokeDevice user device).1 = (s.revokeDevice user device).1 ∧
      Shares (s.revokeDevice user device).2 (s'.revokeDevice user device).2 user := by
  unfold SessionStore.revokeDevice
  rcases shares.session?_cases device with ⟨absent, absent'⟩ | ⟨x, x', found, found', equal⟩
  · rw [absent, absent']
    exact ⟨rfl, shares⟩
  · rw [found, found']
    have alike : x'.revoked = x.revoked := by
      change x'.unnumbered.revoked = x.unnumbered.revoked
      rw [equal]
    dsimp only
    rw [alike]
    cases x.revoked with
    | true => exact ⟨rfl, shares⟩
    | false =>
      exact ⟨rfl, shares.devices, shares.sessions_put device (congrArg Session.revoke equal)⟩

theorem Shares.listDevices (shares : s.Shares s' user) (sound : s.Sound) (sound' : s'.Sound) :
    s'.listDevices user = s.listDevices user := by
  have own : ∀ {t : SessionStore}, t.Sound → (t.devices.values.filter fun d => d.userId = user) =
      (t.devices.restrict (DeviceKey.isOf user)).values := by
    intro t sound
    refine Keyed.filter_values t.devices ?_
    rintro ⟨u, d⟩ x member
    have owner : x.userId = u := sound.housed (Keyed.get?_eq_some_iff.mpr member)
    rw [owner]
    rfl
  unfold SessionStore.listDevices
  rw [own sound, own sound', shares.devices]

theorem Shares.renameDevice (shares : s.Shares s' user) (device name : String) :
    (s'.renameDevice user device name).1 = (s.renameDevice user device name).1 ∧
      Shares (s.renameDevice user device name).2 (s'.renameDevice user device name).2 user := by
  refine ⟨?_, ?_⟩
  · rw [renameDevice_fst, renameDevice_fst, shares.device?]
  · rw [renameDevice_store, renameDevice_store]
    refine ⟨?_, shares.sessions⟩
    dsimp only [Keyed.update]
    rw [Keyed.restrict_mapValues, Keyed.restrict_mapValues, shares.devices]

theorem Shares.deleteDevice (shares : s.Shares s' user) (device : String) :
    (s'.deleteDevice user device).1 = (s.deleteDevice user device).1 ∧
      Shares (s.deleteDevice user device).2 (s'.deleteDevice user device).2 user := by
  refine ⟨congrArg Option.isSome (shares.device? device), ?_, ?_⟩
  · change (s'.devices.erase _).restrict _ = (s.devices.erase _).restrict _
    rw [Keyed.restrict_erase, Keyed.restrict_erase, shares.devices]
  · change ((s'.sessions.erase _).restrict _).mapValues _ = ((s.sessions.erase _).restrict _).mapValues _
    rw [Keyed.restrict_erase, Keyed.restrict_erase, Keyed.mapValues_erase, Keyed.mapValues_erase,
      shares.sessions]

/-- Stores that share the part of a user answer calls for this user alike, and still share it. -/
theorem Shares.answer (shares : s.Shares s' user) (sound : s.Sound) (sound' : s'.Sound)
    (now : Instant) {call : StoreCall} (mine : call.user = user) :
    call.told (s'.answer now call).1 = call.told (s.answer now call).1 ∧
      Shares (s.answer now call).2 (s'.answer now call).2 user := by
  subst mine
  cases call with
  | create owner hash expiresAt device => exact shares.create hash expiresAt device now
  | isValid owner device token => exact shares.isValid device token now
  | revokeAll owner => exact shares.revokeAll sound.consistent sound'.consistent
  | revokeDevice owner device => exact shares.revokeDevice device
  | listDevices owner => exact ⟨shares.listDevices sound sound', shares⟩
  | findDevice owner device => exact ⟨shares.device? device, shares⟩
  | renameDevice owner device name => exact shares.renameDevice device name
  | deleteDevice owner device => exact shares.deleteDevice device

/-! ### Calls for others -/

/-- A call for another user leaves the part of the user as it is. -/
theorem shares_other (consistent : s.Consistent) (now : Instant) {call : StoreCall}
    (other : call.user ≠ user) : s.Shares (s.answer now call).2 user := by
  cases call with
  | create owner hash expiresAt device =>
    refine ⟨?_, ?_⟩
    · change (s.withDevice owner device now).restrict _ = _
      rw [withDevice_eq]
      exact Keyed.restrict_put_other _ _ (isOf_other other device.id)
    · exact congrArg (Keyed.mapValues · _)
        (Keyed.restrict_put_other _ _ (isOf_other other device.id))
  | isValid owner device token =>
    change s.Shares (s.isValid owner device token now).2 user
    unfold SessionStore.isValid
    split
    · split
      · exact ⟨rfl, congrArg (Keyed.mapValues · _)
          (Keyed.restrict_put_other _ _ (isOf_other other device.id))⟩
      · exact shares_refl s user
    · exact shares_refl s user
  | revokeAll owner =>
    refine ⟨rfl, congrArg (Keyed.mapValues · _) ?_⟩
    change (s.sessions.mapValues _).restrict _ = _
    rw [Keyed.restrict_mapValues]
    apply Keyed.mapValues_eq_self
    rintro ⟨u, d⟩ x member
    obtain ⟨member, chosen⟩ := (Keyed.mem_restrict s.sessions).mp member
    have mine : x.userId = user := by
      rw [(consistent.owner (Keyed.get?_eq_some_iff.mpr member)).1]
      exact of_decide_eq_true chosen
    have apart : ¬user = owner := fun same => other same.symm
    simp [mine, apart]
  | revokeDevice owner device =>
    change s.Shares (s.revokeDevice owner device).2 user
    unfold SessionStore.revokeDevice
    split
    · split
      · exact shares_refl s user
      · exact ⟨rfl, congrArg (Keyed.mapValues · _)
          (Keyed.restrict_put_other _ _ (isOf_other other device))⟩
    · exact shares_refl s user
  | listDevices owner => exact shares_refl s user
  | findDevice owner device => exact shares_refl s user
  | renameDevice owner device name =>
    change s.Shares (s.renameDevice owner device name).2 user
    unfold SessionStore.renameDevice
    split
    · exact ⟨Keyed.restrict_put_other _ _ (isOf_other other device), rfl⟩
    · exact shares_refl s user
  | deleteDevice owner device =>
    exact ⟨Keyed.restrict_erase_other _ (isOf_other other device), congrArg (Keyed.mapValues · _)
      (Keyed.restrict_erase_other _ (isOf_other other device))⟩

end SessionStore

end DeviceSessions
