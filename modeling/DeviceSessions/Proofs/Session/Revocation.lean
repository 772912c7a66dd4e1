import DeviceSessions.Proofs.Session.Listing

/-!
# Revoking the sessions of a user

Revoking all sessions of a user at once, which looks at whose they are, and revoking them device by
device, which looks under keys, come to the same, in whatever order the devices are taken.
-/

namespace DeviceSessions

namespace SessionStore

/-- Revokes the sessions of devices one after the other; the answer is how many were not yet revoked. -/
def revokeEach (s : SessionStore) (user : Uuid) : List String → Nat × SessionStore
  | [] => (0, s)
  | device :: rest =>
    let first := s.revokeDevice user device
    let others := revokeEach first.2 user rest
    (first.1 + others.1, others.2)

/-- Whether there is a session that is not revoked, be it over or not. -/
def isOpen (s : SessionStore) (user : Uuid) (device : String) : Bool :=
  (s.session? user device).any fun x => !x.revoked

variable {s : SessionStore} {user : Uuid} {device : String} {devices : List String}

theorem isOpen_iff :
    s.isOpen user device = true ↔ ∃ x, s.session? user device = some x ∧ x.revoked = false := by
  simp [isOpen, Option.any_eq_true]

/-! ### One device after the other -/

theorem revokeDevice_count (s : SessionStore) (user : Uuid) (device : String) :
    (s.revokeDevice user device).1 = if s.isOpen user device then 1 else 0 := by
  unfold revokeDevice isOpen
  cases s.session? user device with
  | none => rfl
  | some x => cases revoked : x.revoked <;> simp [revoked]

theorem isOpen_revokeDevice_other {other : String} (apart : device ≠ other) :
    (s.revokeDevice user other).2.isOpen user device = s.isOpen user device := by
  unfold isOpen
  rw [session?_revokeDevice]
  simp [apart]

theorem revokeEach_count (distinct : devices.Nodup) :
    (s.revokeEach user devices).1 = (devices.filter (s.isOpen user)).length := by
  induction devices generalizing s with
  | nil => rfl
  | cons device rest ih =>
    obtain ⟨new, distinct'⟩ := List.nodup_cons.mp distinct
    have others : rest.filter ((s.revokeDevice user device).2.isOpen user) =
        rest.filter (s.isOpen user) := by
      apply List.filter_congr
      intro other member
      apply isOpen_revokeDevice_other
      rintro rfl
      exact new member
    change (s.revokeDevice user device).1 + ((s.revokeDevice user device).2.revokeEach user rest).1 = _
    rw [ih distinct', others, revokeDevice_count, List.filter_cons]
    split
    · rw [List.length_cons, Nat.add_comm]
    · rw [Nat.zero_add]

theorem revokeEach_store (s : SessionStore) (user : Uuid) (devices : List String) :
    (s.revokeEach user devices).2 = { s with
      sessions := s.sessions.mapValues fun k x =>
        if k.1 = user ∧ k.2 ∈ devices then x.revoke else x } := by
  induction devices generalizing s with
  | nil =>
    rw [Keyed.mapValues_eq_self fun k x _ => if_neg fun both => List.not_mem_nil both.2]
    rfl
  | cons device rest ih =>
    change ((s.revokeDevice user device).2.revokeEach user rest).2 = _
    rw [ih, revokeDevice_store]
    dsimp only
    rw [Keyed.update, Keyed.mapValues_mapValues]
    congr 2
    funext k x
    obtain ⟨u, d⟩ := k
    by_cases here : u = user <;> by_cases first : d = device <;> by_cases later : d ∈ rest <;>
      simp [here, first, later, Session.revoke]

/-! ### All at once -/

theorem Consistent.revokeAll_count (consistent : s.Consistent) (user : Uuid) :
    (s.revokeAll user).1 =
      (s.sessions.entries.filter fun e => e.1.1 = user && !e.2.revoked).length := by
  unfold revokeAll
  dsimp only
  rw [Keyed.length_filter_values]
  congr 1
  apply List.filter_congr
  rintro ⟨⟨u, d⟩, x⟩ member
  rw [(consistent.owner (u := u) (d := d) (Keyed.get?_eq_some_iff.mpr member)).1]

/-- A session is of a device that is listed. -/
theorem Reachable.listed (reachable : s.Reachable)
    (lists : devices.Perm ((s.listDevices user).map Device.id)) {x : Session}
    (found : s.session? user device = some x) : device ∈ devices := by
  rw [lists.mem_iff, reachable.mem_ids]
  exact reachable.consistent.device found

/-- The sessions that are not revoked are those of the listed devices that have one. -/
theorem Reachable.open_perm (reachable : s.Reachable)
    (lists : devices.Perm ((s.listDevices user).map Device.id)) :
    ((s.sessions.values.filter fun x => x.userId = user && !x.revoked).map Session.deviceId).Perm
      (devices.filter (s.isOpen user)) := by
  have owner : ∀ e ∈ s.sessions.entries, e.2.userId = e.1.1 ∧ e.2.deviceId = e.1.2 := by
    rintro ⟨⟨u, d⟩, x⟩ member
    exact reachable.consistent.owner (Keyed.get?_eq_some_iff.mpr member)
  have once : ((s.sessions.values.filter fun x => x.userId = user && !x.revoked).map
      Session.deviceId).Nodup := by
    apply s.sessions.nodup_map_values (a := user)
    · intro e member chosen
      rw [Bool.and_eq_true, decide_eq_true_eq] at chosen
      exact (owner e member).1.symm.trans chosen.1
    · exact fun e member => (owner e member).2
  have distinct : devices.Nodup := lists.nodup_iff.mpr (reachable.nodup_ids user)
  rw [List.perm_ext_iff_of_nodup once (distinct.filter _)]
  intro d
  rw [List.mem_map, List.mem_filter, isOpen_iff]
  constructor
  · rintro ⟨x, member, rfl⟩
    simp only [List.mem_filter, Keyed.mem_values_iff, Bool.and_eq_true, decide_eq_true_eq,
      Bool.not_eq_true'] at member
    obtain ⟨⟨⟨u, d⟩, found⟩, rfl, revoked⟩ := member
    obtain ⟨mine, here⟩ := reachable.consistent.owner (u := u) (d := d) found
    rw [mine, here]
    exact ⟨reachable.listed (mine ▸ lists) found, x, found, revoked⟩
  · rintro ⟨-, x, found, revoked⟩
    obtain ⟨mine, here⟩ := reachable.consistent.owner found
    refine ⟨x, ?_, here⟩
    simp only [List.mem_filter, Keyed.mem_values_iff, Bool.and_eq_true, decide_eq_true_eq,
      Bool.not_eq_true']
    exact ⟨⟨_, found⟩, mine, revoked⟩

theorem Reachable.revokeAll_eq_revokeEach (reachable : s.Reachable)
    (lists : devices.Perm ((s.listDevices user).map Device.id)) :
    s.revokeAll user = s.revokeEach user devices := by
  apply Prod.ext
  · have distinct : devices.Nodup := lists.nodup_iff.mpr (reachable.nodup_ids user)
    have sizes := (reachable.open_perm lists).length_eq
    rw [List.length_map] at sizes
    exact sizes.trans (revokeEach_count distinct).symm
  · rw [reachable.consistent.revokeAll_store, revokeEach_store]
    congr 1
    apply Keyed.mapValues_congr
    rintro ⟨u, d⟩ x member
    by_cases mine : u = user
    · subst mine
      have listed := reachable.listed lists (Keyed.get?_eq_some_iff.mpr member)
      simp [listed]
    · simp [mine]

/-! ### Afterwards -/

theorem revoked_of_not_open (closed : s.isOpen user device = false) {x : Session}
    (found : s.session? user device = some x) : x.revoked = true := by
  by_contra fresh
  rw [isOpen_iff.mpr ⟨x, found, Bool.not_eq_true _ ▸ fresh⟩] at closed
  cases closed

theorem revokeDevice_of_not_open (closed : s.isOpen user device = false) :
    s.revokeDevice user device = (0, s) := by
  unfold revokeDevice
  cases found : s.session? user device with
  | none => rfl
  | some x => exact if_pos (revoked_of_not_open closed found)

theorem revokeEach_of_not_open (closed : ∀ device, s.isOpen user device = false)
    (devices : List String) : s.revokeEach user devices = (0, s) := by
  induction devices with
  | nil => rfl
  | cons device rest ih =>
    simp only [revokeEach, revokeDevice_of_not_open (closed device), ih]

theorem isOpen_revokeDevice (s : SessionStore) (user : Uuid) (device : String) :
    (s.revokeDevice user device).2.isOpen user device = false := by
  unfold isOpen
  rw [session?_revokeDevice]
  cases s.session? user device with
  | none => rfl
  | some x => simp [Session.revoke]

theorem Consistent.isOpen_revokeAll (consistent : s.Consistent) (user : Uuid) (device : String) :
    (s.revokeAll user).2.isOpen user device = false := by
  unfold isOpen
  rw [consistent.session?_revokeAll]
  cases s.session? user device with
  | none => rfl
  | some x => simp [Session.revoke]

/-- A user has no session that is good for anything, and none that could be revoked. -/
structure Closed (s : SessionStore) (user : Uuid) : Prop where
  inactive : ∀ now, s.activeCount user now = 0
  invalid : ∀ device token now, s.isValid user device token now = (false, s)
  revokedAll : s.revokeAll user = (0, s)
  revoked : ∀ device, s.revokeDevice user device = (0, s)

theorem Reachable.closed (reachable : s.Reachable)
    (closed : ∀ device, s.isOpen user device = false) : s.Closed user where
  inactive now := reachable.consistent.activeCount_eq_zero fun d x found => by
    simp [Session.isActiveAt, revoked_of_not_open (closed d) found]
  invalid device token now := by
    unfold isValid
    cases found : s.session? user device.id with
    | none => rfl
    | some x =>
      simp [Session.accepts, Session.isActiveAt, revoked_of_not_open (closed device.id) found]
  revokedAll :=
    (reachable.revokeAll_eq_revokeEach (List.Perm.refl _)).trans (revokeEach_of_not_open closed _)
  revoked device := revokeDevice_of_not_open (closed device)

/-- In every store that calls have led to, revoking the sessions of a user at once comes to the same
as revoking them device by device, over the listed devices in any order: the same store, and a count
that is the sum of the counts. It is the number of the user's sessions that were not revoked, be they
over or not. Only the mark of revocation changes, and only of this user's sessions; afterwards none of
them is active or accepts a token, and revoking them again in either way changes nothing. -/
theorem revocations_agree (reachable : s.Reachable) (user : Uuid) {devices : List String}
    (lists : devices.Perm ((s.listDevices user).map Device.id)) :
    s.revokeAll user = s.revokeEach user devices ∧
    (s.revokeAll user).1 =
      (s.sessions.entries.filter fun e => e.1.1 = user && !e.2.revoked).length ∧
    (s.revokeAll user).2 = { s with
      sessions := s.sessions.mapValues fun k x =>
        if k.1 = user then { x with revoked := true } else x } ∧
    (s.revokeAll user).2.Closed user ∧
    ∀ device, (s.revokeDevice user device).2.revokeDevice user device =
      (0, (s.revokeDevice user device).2) := by
  have consistent := reachable.consistent
  refine ⟨reachable.revokeAll_eq_revokeEach lists, consistent.revokeAll_count user,
    consistent.revokeAll_store user, ?_, ?_⟩
  · exact (reachable.answer .epoch (.revokeAll user)).closed (consistent.isOpen_revokeAll user)
  · exact fun device => revokeDevice_of_not_open (isOpen_revokeDevice s user device)

def laptop : DeviceIdentity :=
  ⟨"laptop", "Firefox on Linux", .desktop, "Linux", "Firefox", "Firefox/1", "10.0.0.3"⟩

/-- A store with a session that is over and one that is not. -/
def pair : SessionStore :=
  ((SessionStore.empty.create visitor "a" (.ofSecs 1) tablet (.ofSecs 0)).2.create visitor "b"
    (.ofSecs 60) laptop (.ofSecs 2)).2

theorem revocations_agree_reversed :
    pair.revokeAll visitor =
      pair.revokeEach visitor ((pair.listDevices visitor).map Device.id).reverse ∧
    (pair.revokeAll visitor).1 = 2 ∧ (pair.revokeAll visitor).2.activeCount visitor (.ofSecs 3) = 0 ∧
    pair.activeCount visitor (.ofSecs 3) = 1 := by
  have reachable : pair.Reachable :=
    .answer (.ofSecs 2) (.create visitor "b" (.ofSecs 60) laptop)
      (.answer (.ofSecs 0) (.create visitor "a" (.ofSecs 1) tablet) .empty)
  obtain ⟨agree, count, -, closed, -⟩ :=
    revocations_agree reachable visitor (List.reverse_perm _)
  exact ⟨agree, count.trans (by decide), closed.inactive _, by decide⟩

end SessionStore

end DeviceSessions
