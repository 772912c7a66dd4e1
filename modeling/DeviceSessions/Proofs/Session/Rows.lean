import DeviceSessions.Proofs.Session.Part
import DeviceSessions.Proofs.Time

/-!
# Rows of the session store

A device and its session are kept under one key, and come and go together. The number of a session
is the key's own from the login that opens it until the device is deleted, and no key is given it
again.
-/

namespace DeviceSessions

/-- Whether a call records a session of a user on a device. -/
def StoreCall.creates (user : Uuid) (device : String) : StoreCall → Bool
  | create u _ _ d => u = user && d.id = device
  | _ => false

theorem StoreCall.creates_unique {call : StoreCall} {u u' : Uuid} {d d' : String}
    (here : call.creates u d = true) (there : call.creates u' d' = true) : u = u' ∧ d = d' := by
  cases call with
  | create user hash expiresAt device =>
    simp only [creates, Bool.and_eq_true, decide_eq_true_eq] at here there
    exact ⟨here.1.symm.trans there.1, here.2.symm.trans there.2⟩
  | _ => cases here

/-- What no call but a login changes in the record of a device. -/
structure Device.Stays (x x' : Device) : Prop where
  userId : x'.userId = x.userId
  id : x'.id = x.id
  lastActive : x'.lastActive = x.lastActive
  createdAt : x'.createdAt = x.createdAt

/-- What no call but a login changes in a session, which may be used now. -/
structure Session.Stays (now : Instant) (y y' : Session) : Prop where
  id : y'.id = y.id
  userId : y'.userId = y.userId
  deviceId : y'.deviceId = y.deviceId
  createdAt : y'.createdAt = y.createdAt
  lastUsedAt : y'.lastUsedAt = y.lastUsedAt ∨ y'.lastUsedAt = now

theorem Device.stays_refl (x : Device) : x.Stays x := ⟨rfl, rfl, rfl, rfl⟩

namespace Session

variable (now : Instant) (y : Session)

theorem stays_refl : y.Stays now y := ⟨rfl, rfl, rfl, rfl, Or.inl rfl⟩

theorem stays_revoke : y.Stays now y.revoke := ⟨rfl, rfl, rfl, rfl, Or.inl rfl⟩

theorem stays_touch : y.Stays now (y.touch now) := ⟨rfl, rfl, rfl, rfl, Or.inr rfl⟩

end Session

namespace SessionStore

/-- What a call at a time makes of the device and the session under a key. -/
inductive Turn (s t : SessionStore) (now : Instant) (call : StoreCall) (u : Uuid) (d : String) : Prop
  | deleted (deletes : call = .deleteDevice u d) (device : t.device? u d = none)
      (session : t.session? u d = none)
  | recorded (hash : String) (expiresAt : Instant) (fresh : DeviceIdentity) (named : fresh.id = d)
      (records : call = .create u hash expiresAt fresh)
      (device : t.device? u d = some (((s.device? u d).map
        fun known => known.refresh (.ofIdentity u fresh now)).getD (.ofIdentity u fresh now)))
      (session : t.session? u d = some (s.create u hash expiresAt fresh now).1)
  | kept (f : Device → Device) (g : Session → Session) (devices : ∀ x : Device, x.Stays (f x))
      (sessions : ∀ y : Session, y.Stays now (g y)) (undeleted : call ≠ .deleteDevice u d)
      (unrecorded : call.creates u d = false) (device : t.device? u d = (s.device? u d).map f)
      (session : t.session? u d = (s.session? u d).map g)

/-- Each call deletes, records or keeps what is under a key. -/
theorem turn (s : SessionStore) (now : Instant) (call : StoreCall) (u : Uuid) (d : String) :
    Turn s (s.answer now call).2 now call u d := by
  cases call with
  | create user hash expiresAt device =>
    have onDevice := device?_create s user hash expiresAt device now u d
    have onSession := session?_create s user hash expiresAt device now u d
    by_cases here : u = user ∧ d = device.id
    · obtain ⟨rfl, rfl⟩ := here
      exact .recorded hash expiresAt device rfl rfl (onDevice.trans (if_pos ⟨rfl, rfl⟩))
        (onSession.trans (if_pos ⟨rfl, rfl⟩))
    · refine .kept _ _ Device.stays_refl (Session.stays_refl now) (by simp) ?_ ?_ ?_
      · simp only [StoreCall.creates, Bool.and_eq_false_iff, decide_eq_false_iff_not]
        exact Decidable.not_and_iff_not_or_not.mp fun same => here ⟨same.1.symm, same.2.symm⟩
      · exact (onDevice.trans (if_neg here)).trans Option.map_id'.symm
      · exact (onSession.trans (if_neg here)).trans Option.map_id'.symm
  | isValid user device token =>
    refine .kept _ _ Device.stays_refl ?_ (by simp) rfl
      ((device?_isValid s user device token now u d).trans Option.map_id'.symm)
      (session?_isValid s user device token now u d)
    intro y
    split
    · exact Session.stays_touch now y
    · exact Session.stays_refl now y
  | revokeAll user =>
    refine .kept _ _ Device.stays_refl ?_ (by simp) rfl Option.map_id'.symm
      (session?_revokeAll s user u d)
    intro y
    split
    · exact Session.stays_revoke now y
    · exact Session.stays_refl now y
  | revokeDevice user device =>
    refine .kept _ _ Device.stays_refl ?_ (by simp) rfl
      ((device?_revokeDevice s user device u d).trans Option.map_id'.symm)
      (session?_revokeDevice s user device u d)
    intro y
    split
    · exact Session.stays_revoke now y
    · exact Session.stays_refl now y
  | listDevices user =>
    exact .kept _ _ Device.stays_refl (Session.stays_refl now) (by simp) rfl Option.map_id'.symm
      Option.map_id'.symm
  | findDevice user device =>
    exact .kept _ _ Device.stays_refl (Session.stays_refl now) (by simp) rfl Option.map_id'.symm
      Option.map_id'.symm
  | renameDevice user device name =>
    refine .kept _ _ ?_ (Session.stays_refl now) (by simp) rfl
      (device?_renameDevice s user device name u d)
      ((session?_renameDevice s user device name u d).trans Option.map_id'.symm)
    intro x
    split <;> exact ⟨rfl, rfl, rfl, rfl⟩
  | deleteDevice user device =>
    have onDevice : (s.deleteDevice user device).2.device? u d =
        if (u, d) = (user, device) then none else s.device? u d :=
      Keyed.get?_erase s.devices (user, device) (u, d)
    have onSession := session?_deleteDevice s user device u d
    by_cases here : u = user ∧ d = device
    · obtain ⟨rfl, rfl⟩ := here
      exact .deleted rfl (onDevice.trans (if_pos rfl)) (onSession.trans (if_pos ⟨rfl, rfl⟩))
    · refine .kept _ _ Device.stays_refl (Session.stays_refl now) ?_ rfl ?_ ?_
      · rintro same
        cases same
        exact here ⟨rfl, rfl⟩
      · exact (onDevice.trans (if_neg fun same => here (Prod.mk.inj same))).trans Option.map_id'.symm
      · exact (onSession.trans (if_neg here)).trans Option.map_id'.symm

variable {s : SessionStore} {now before : Instant} {call : StoreCall} {u u' : Uuid} {d d' : String}
  {x y : Session}

/-! ### Numbers -/

theorem numberFor_of_found (found : s.session? u d = some x) : s.numberFor u d = x.id := by
  simp [numberFor, found]

theorem numberFor_of_absent (absent : s.session? u d = none) : s.numberFor u d = s.lastId + 1 := by
  simp [numberFor, absent]

/-- The last number goes up by at most one, and only where a session is recorded under a new key. -/
theorem lastId_answer (s : SessionStore) (now : Instant) (call : StoreCall) :
    (s.answer now call).2.lastId = s.lastId ∨
      ((∃ u d, call.creates u d = true ∧ s.session? u d = none) ∧
        (s.answer now call).2.lastId = s.lastId + 1) := by
  cases call with
  | create user hash expiresAt device =>
    change (s.create user hash expiresAt device now).2.lastId = _ ∨ _
    cases known : s.session? user device.id with
    | some x => exact Or.inl (by simp [create, known])
    | none =>
      refine Or.inr ⟨⟨user, device.id, by simp [StoreCall.creates], known⟩, ?_⟩
      simp [answer, create, known, numberFor]
  -- No other call gives numbers, whichever way it ends.
  | isValid user device token =>
    left
    change (s.isValid user device token now).2.lastId = _
    unfold isValid
    split
    · split <;> rfl
    · rfl
  | revokeDevice user device =>
    left
    change (s.revokeDevice user device).2.lastId = _
    rw [revokeDevice_store]
  | renameDevice user device name =>
    left
    change (s.renameDevice user device name).2.lastId = _
    rw [renameDevice_store]
  | revokeAll user => exact Or.inl rfl
  | listDevices user => exact Or.inl rfl
  | findDevice user device => exact Or.inl rfl
  | deleteDevice user device => exact Or.inl rfl

theorem lastId_le_answer (s : SessionStore) (now : Instant) (call : StoreCall) :
    s.lastId ≤ (s.answer now call).2.lastId ∧ (s.answer now call).2.lastId ≤ s.lastId + 1 := by
  rcases lastId_answer s now call with same | ⟨-, next⟩ <;> omega

/-- The number of a session was the number under its key before, or is the next one. -/
theorem number_answer (found : (s.answer now call).2.session? u d = some y) :
    (∃ x, s.session? u d = some x ∧ y.id = x.id) ∨
      (s.session? u d = none ∧ call.creates u d = true ∧ y.id = s.lastId + 1 ∧
        (s.answer now call).2.lastId = s.lastId + 1) := by
  cases turn s now call u d with
  | deleted _ _ session =>
    rw [session] at found
    cases found
  | recorded hash expiresAt fresh named records _ session =>
    subst named records
    obtain rfl := Option.some.inj (session.symm.trans found)
    cases known : s.session? u fresh.id with
    | some x => exact Or.inl ⟨x, rfl, numberFor_of_found known⟩
    | none =>
      refine Or.inr ⟨rfl, by simp [StoreCall.creates], numberFor_of_absent known, ?_⟩
      simp [answer, create, known, numberFor]
  | kept f g _ sessions _ _ _ session =>
    rw [session] at found
    obtain ⟨x, known, rfl⟩ := Option.map_eq_some_iff.mp found
    exact Or.inl ⟨x, known, (sessions x).id⟩

theorem number_kept (now : Instant) (found : s.session? u d = some x)
    (undeleted : call ≠ .deleteDevice u d) :
    ∃ y, (s.answer now call).2.session? u d = some y ∧ y.id = x.id := by
  cases turn s now call u d with
  | deleted deletes => exact absurd deletes undeleted
  | recorded hash expiresAt fresh named records _ session =>
    subst named
    exact ⟨_, session, numberFor_of_found found⟩
  | kept f g _ sessions _ _ _ session =>
    rw [found] at session
    exact ⟨g x, session, (sessions x).id⟩

theorem session?_deleted : (s.answer now (.deleteDevice u d)).2.session? u d = none :=
  (session?_deleteDevice s u d u d).trans (if_pos ⟨rfl, rfl⟩)

/-! ### The invariant -/

/-- A device and its session as they are kept under one key. -/
structure Row (u : Uuid) (d : String) (now : Instant) (x : Device) (y : Session) : Prop where
  user : x.userId = u ∧ y.userId = u
  device : x.id = d ∧ y.deviceId = d
  active : x.lastActive = y.createdAt
  created : ¬x.lastActive < x.createdAt
  used : ¬y.lastUsedAt < y.createdAt
  past : ¬now < y.lastUsedAt

/-- What a store is like at a time: devices and sessions are under the same keys, and sessions have
numbers of their own, up to the last one given. -/
structure Represents (s : SessionStore) (now : Instant) : Prop where
  paired : ∀ u d, (s.device? u d).isSome = (s.session? u d).isSome
  row : ∀ {u d x y}, s.device? u d = some x → s.session? u d = some y → Row u d now x y
  counted : 0 ≤ s.lastId
  numbered : ∀ {u d y}, s.session? u d = some y → 1 ≤ y.id ∧ y.id ≤ s.lastId
  distinct : ∀ {u d u' d' y y'}, s.session? u d = some y → s.session? u' d' = some y' →
    y.id = y'.id → u = u' ∧ d = d'

theorem represents_empty (now : Instant) : Represents .empty now where
  paired _ _ := rfl
  row found := by cases found
  counted := Int.le_refl 0
  numbered found := by cases found
  distinct found := by cases found

theorem Represents.later (represents : s.Represents before) (later : ¬now < before) :
    s.Represents now where
  paired := represents.paired
  row device session :=
    let row := represents.row device session
    { row with past := Instant.not_lt_trans row.past later }
  counted := represents.counted
  numbered := represents.numbered
  distinct := represents.distinct

theorem Row.not_before {x : Device} (row : Row u d before x y) (later : ¬now < before) :
    ¬now < x.createdAt := by
  have used := row.used
  rw [← row.active] at used
  exact Instant.not_lt_trans row.created (Instant.not_lt_trans used
    (Instant.not_lt_trans row.past later))

theorem Row.recorded {x : Device} (row : Row u d before x y) (later : ¬now < before)
    (fresh : DeviceIdentity) (id : Int) (hash : String) (expiresAt : Instant) :
    Row u d now (x.refresh (.ofIdentity u fresh now)) ⟨id, u, d, hash, expiresAt, false, now, now⟩ where
  user := ⟨row.user.1, rfl⟩
  device := ⟨row.device.1, rfl⟩
  active := rfl
  created := row.not_before later
  used := Instant.lt_irrefl now
  past := Instant.lt_irrefl now

theorem Row.kept {x x' : Device} {y' : Session} (row : Row u d before x y) (later : ¬now < before)
    (device : x.Stays x') (session : y.Stays now y') : Row u d now x' y' where
  user := ⟨device.userId.trans row.user.1, session.userId.trans row.user.2⟩
  device := ⟨device.id.trans row.device.1, session.deviceId.trans row.device.2⟩
  active := by rw [device.lastActive, session.createdAt, row.active]
  created := by rw [device.lastActive, device.createdAt]; exact row.created
  used := by
    rw [session.createdAt]
    rcases session.lastUsedAt with same | used
    · rw [same]
      exact row.used
    · rw [used]
      exact Instant.not_lt_trans row.used (Instant.not_lt_trans row.past later)
  past := by
    rcases session.lastUsedAt with same | used
    · rw [same]
      exact Instant.not_lt_trans row.past later
    · rw [used]
      exact Instant.lt_irrefl now

theorem Represents.paired_answer (represents : s.Represents before) (now : Instant) (call : StoreCall)
    (u : Uuid) (d : String) :
    ((s.answer now call).2.device? u d).isSome = ((s.answer now call).2.session? u d).isSome := by
  cases turn s now call u d with
  | deleted _ device session => rw [device, session]; rfl
  | recorded hash expiresAt fresh _ _ device session => rw [device, session]; rfl
  | kept f g _ _ _ _ device session =>
    rw [device, session, Option.isSome_map, Option.isSome_map]
    exact represents.paired u d

theorem Represents.row_answer (represents : s.Represents before) (later : ¬now < before) {x : Device}
    (device : (s.answer now call).2.device? u d = some x)
    (session : (s.answer now call).2.session? u d = some y) : Row u d now x y := by
  cases turn s now call u d with
  | deleted _ gone =>
    rw [gone] at device
    cases device
  | recorded hash expiresAt fresh named _ device' session' =>
    subst named
    obtain rfl := Option.some.inj (session'.symm.trans session)
    obtain rfl := Option.some.inj (device'.symm.trans device)
    cases known : s.device? u fresh.id with
    | none =>
      exact ⟨⟨rfl, rfl⟩, ⟨rfl, rfl⟩, rfl, Instant.lt_irrefl now, Instant.lt_irrefl now,
        Instant.lt_irrefl now⟩
    | some x =>
      have present := represents.paired u fresh.id
      rw [known] at present
      obtain ⟨y, bound⟩ := Option.isSome_iff_exists.mp present.symm
      exact (represents.row known bound).recorded later fresh _ hash expiresAt
  | kept f g devices sessions _ _ device' session' =>
    obtain ⟨x, known, rfl⟩ := Option.map_eq_some_iff.mp (device'.symm.trans device)
    obtain ⟨y, bound, rfl⟩ := Option.map_eq_some_iff.mp (session'.symm.trans session)
    exact (represents.row known bound).kept later (devices x) (sessions y)

theorem Represents.distinct_answer (represents : s.Represents before)
    (here : (s.answer now call).2.session? u d = some x)
    (there : (s.answer now call).2.session? u' d' = some y) (same : x.id = y.id) :
    u = u' ∧ d = d' := by
  -- A number that is new is above all others; two that are new are of the one recorded session.
  rcases number_answer here with ⟨x₀, known, old⟩ | ⟨-, records, next, -⟩
  · rcases number_answer there with ⟨y₀, known', old'⟩ | ⟨-, -, next', -⟩
    · exact represents.distinct known known' (old.symm.trans (same.trans old'))
    · have bound := (represents.numbered known).2
      omega
  · rcases number_answer there with ⟨y₀, known', old'⟩ | ⟨-, records', -, -⟩
    · have bound := (represents.numbered known').2
      omega
    · exact StoreCall.creates_unique records records'

theorem Represents.answer (represents : s.Represents before) (later : ¬now < before)
    (call : StoreCall) : (s.answer now call).2.Represents now where
  paired := represents.paired_answer now call
  row := represents.row_answer later
  counted := Int.le_trans represents.counted (lastId_le_answer s now call).1
  numbered {u d y} found := by
    have grows := lastId_le_answer s now call
    rcases number_answer found with ⟨x, known, same⟩ | ⟨-, -, next, last⟩
    · have bound := represents.numbered known
      omega
    · have counted := represents.counted
      omega
  distinct := represents.distinct_answer

/-! ### Runs of calls -/

/-- Calls in the order of their times, of which none is after now. -/
structure Timely (calls : List (Instant × StoreCall)) (now : Instant) : Prop where
  ordered : calls.Pairwise fun c c' => ¬c'.1 < c.1
  past : ∀ c ∈ calls, ¬now < c.1

variable {calls : List (Instant × StoreCall)}

/-- Between two parts of a run there is a time. -/
theorem Timely.split {earlier between : List (Instant × StoreCall)}
    (timely : Timely (earlier ++ between) now) :
    ∃ time, Timely earlier time ∧ Timely between now ∧ (∀ c ∈ between, ¬c.1 < time) ∧ ¬now < time := by
  obtain ⟨first, second, apart⟩ := List.pairwise_append.mp timely.ordered
  have ends : ∀ c ∈ between, ¬now < c.1 := fun c member =>
    timely.past c (List.mem_append_right _ member)
  cases between with
  | nil =>
    exact ⟨now, ⟨first, fun c member => timely.past c (List.mem_append_left _ member)⟩,
      ⟨second, ends⟩, List.forall_mem_nil _, Instant.lt_irrefl now⟩
  | cons c between =>
    -- The time between is that of the first call of the second part.
    refine ⟨c.1, ⟨first, fun e member => apart e member c List.mem_cons_self⟩, ⟨second, ends⟩, ?_,
      ends c List.mem_cons_self⟩
    intro e member
    rcases List.mem_cons.mp member with rfl | behind
    · exact Instant.lt_irrefl _
    · exact (List.pairwise_cons.mp second).1 e behind

theorem Represents.after (represents : s.Represents before) (since : ∀ c ∈ calls, ¬c.1 < before)
    (later : ¬now < before) (timely : Timely calls now) : (s.after calls).Represents now := by
  induction calls generalizing s before with
  | nil => exact represents.later later
  | cons c calls ih =>
    have ordered := List.pairwise_cons.mp timely.ordered
    exact ih (represents.answer (since c List.mem_cons_self) c.2) ordered.1
      (timely.past c List.mem_cons_self)
      ⟨ordered.2, fun e member => timely.past e (List.mem_cons_of_mem _ member)⟩

theorem represents_after (timely : Timely calls now) :
    (SessionStore.empty.after calls).Represents now :=
  (represents_empty .earliest).after (fun c _ => c.1.not_lt_earliest) now.not_lt_earliest timely

theorem lastId_after_le (s : SessionStore) (calls : List (Instant × StoreCall)) :
    (s.after calls).lastId ≤ s.lastId + calls.length := by
  induction calls generalizing s with
  | nil => exact Int.le_of_eq (Int.add_zero _).symm
  | cons c calls ih =>
    have one := (lastId_le_answer s c.1 c.2).2
    have rest := ih (s.answer c.1 c.2).2
    change ((s.answer c.1 c.2).2.after calls).lastId ≤ _
    rw [List.length_cons]
    omega

/-- A number that was given, but is no session's any more. -/
structure Retired (s : SessionStore) (n : Int) : Prop where
  given : n ≤ s.lastId
  unused : ∀ {u d y}, s.session? u d = some y → y.id ≠ n

theorem Retired.answer {n : Int} (retired : s.Retired n) (now : Instant) (call : StoreCall) :
    (s.answer now call).2.Retired n where
  given := Int.le_trans retired.given (lastId_le_answer s now call).1
  unused found := by
    have given := retired.given
    rcases number_answer found with ⟨x, known, same⟩ | ⟨-, -, next, -⟩
    · rw [same]
      exact retired.unused known
    · omega

theorem Retired.after {n : Int} (retired : s.Retired n) (calls : List (Instant × StoreCall)) :
    (s.after calls).Retired n := by
  induction calls generalizing s with
  | nil => exact retired
  | cons c calls ih => exact ih (retired.answer c.1 c.2)

theorem Represents.retired (represents : s.Represents before) (found : s.session? u d = some x)
    (now : Instant) : (s.answer now (.deleteDevice u d)).2.Retired x.id where
  given := (represents.numbered found).2
  unused {u' d' y} found' := by
    rcases number_answer found' with ⟨z, known, same⟩ | ⟨-, records, -⟩
    · intro equal
      obtain ⟨rfl, rfl⟩ := represents.distinct known found (same.symm.trans equal)
      rw [session?_deleted] at found'
      cases found'
    · cases records

theorem number_after (found : s.session? u d = some x)
    (undeleted : ∀ c ∈ calls, c.2 ≠ .deleteDevice u d) :
    ∃ y, (s.after calls).session? u d = some y ∧ y.id = x.id := by
  induction calls generalizing s x with
  | nil => exact ⟨x, found, rfl⟩
  | cons c calls ih =>
    obtain ⟨y, next, same⟩ := number_kept c.1 found (undeleted c List.mem_cons_self)
    obtain ⟨z, last, same'⟩ := ih next fun e member => undeleted e (List.mem_cons_of_mem _ member)
    exact ⟨z, last, same'.trans same⟩

theorem Represents.retired_after (represents : s.Represents before)
    (since : ∀ c ∈ calls, ¬c.1 < before) (timely : Timely calls now)
    (found : s.session? u d = some x) (deleted : ∃ c ∈ calls, c.2 = .deleteDevice u d) :
    (s.after calls).Retired x.id := by
  induction calls generalizing s before x with
  | nil =>
    obtain ⟨c, member, -⟩ := deleted
    cases member
  | cons c calls ih =>
    obtain ⟨time, call⟩ := c
    have ordered := List.pairwise_cons.mp timely.ordered
    by_cases here : call = .deleteDevice u d
    · subst here
      exact (represents.retired found time).after calls
    -- Until the deletion the session keeps its number, by which the induction goes on.
    · obtain ⟨y, next, same⟩ := number_kept time found here
      rw [← same]
      refine ih (represents.answer (since _ List.mem_cons_self) call) ordered.1
        ⟨ordered.2, fun e member => timely.past e (List.mem_cons_of_mem _ member)⟩ next ?_
      obtain ⟨e, member, deletes⟩ := deleted
      rcases List.mem_cons.mp member with rfl | behind
      · exact absurd deletes here
      · exact ⟨e, behind, deletes⟩

/-- A number is found again under the key it was given to, and only as long as that is not deleted. -/
theorem Represents.number_iff (represents : s.Represents before)
    (since : ∀ c ∈ calls, ¬c.1 < before) (later : ¬now < before) (timely : Timely calls now)
    (found : s.session? u d = some x) (found' : (s.after calls).session? u' d' = some y) :
    y.id = x.id ↔ (u' = u ∧ d' = d) ∧ ∀ c ∈ calls, c.2 ≠ .deleteDevice u d := by
  have afterwards := represents.after since later timely
  by_cases undeleted : ∀ c ∈ calls, c.2 ≠ .deleteDevice u d
  · obtain ⟨z, last, same⟩ := number_after found undeleted
    constructor
    · exact fun equal => ⟨afterwards.distinct found' last (equal.trans same.symm), undeleted⟩
    · rintro ⟨⟨rfl, rfl⟩, -⟩
      rw [← same, Option.some.inj (found'.symm.trans last)]
  · have deleted : ∃ c ∈ calls, c.2 = .deleteDevice u d := by
      simpa only [not_forall, not_not, exists_prop] using undeleted
    have retired := represents.retired_after since timely found deleted
    exact ⟨fun equal => absurd equal (retired.unused found'), fun both => absurd both.2 undeleted⟩

/-- When the device under a key was first seen follows from what is done under that key: a login
opens it where it is not there, and its deletion removes it. -/
theorem createdAt_answer (s : SessionStore) (now : Instant) (call : StoreCall) (u : Uuid) (d : String) :
    ((s.answer now call).2.device? u d).map Device.createdAt =
      if call = .deleteDevice u d then none
      else if call.creates u d = true ∧ s.device? u d = none then some now
      else (s.device? u d).map Device.createdAt := by
  cases turn s now call u d with
  | deleted deletes device =>
    rw [device, if_pos deletes]
    rfl
  | recorded hash expiresAt fresh named records device _ =>
    subst named records
    have recording : (StoreCall.create u hash expiresAt fresh).creates u fresh.id = true := by
      simp [StoreCall.creates]
    rw [device, if_neg (by simp)]
    cases known : s.device? u fresh.id with
    | none => simp [recording, Device.ofIdentity]
    | some x => simp [Device.refresh]
  | kept f g devices _ undeleted unrecorded device _ =>
    rw [device, if_neg undeleted, if_neg (by simp [unrecorded]), Option.map_map]
    congr 1
    funext x
    exact (devices x).createdAt

/-- After any calls, in the order of their times, devices and sessions stand in pairs under the same
keys with numbers of their own, as `Represents` says, and no more numbers were given than calls were
made. The number that a session had at any time is a session's later if and only if it is found
under the same key and that was not deleted in between. And whatever call comes next, rows come only
by a login under a new key, go only by their deletion, and all others keep the time of their first
login. -/
theorem rows_represented (timely : Timely calls now) :
    (SessionStore.empty.after calls).Represents now ∧
    (SessionStore.empty.after calls).lastId ≤ calls.length ∧
    (∀ earlier between, calls = earlier ++ between → ∀ u d x u' d' y,
      (SessionStore.empty.after earlier).session? u d = some x →
      (SessionStore.empty.after calls).session? u' d' = some y →
      (y.id = x.id ↔ (u' = u ∧ d' = d) ∧ ∀ c ∈ between, c.2 ≠ .deleteDevice u d)) ∧
    ∀ call u d,
      (((SessionStore.empty.after calls).answer now call).2.session? u d).isSome =
        (((SessionStore.empty.after calls).answer now call).2.device? u d).isSome ∧
      (((SessionStore.empty.after calls).answer now call).2.device? u d).map Device.createdAt =
        if call = .deleteDevice u d then none
        else if call.creates u d = true ∧ (SessionStore.empty.after calls).device? u d = none then
          some now
        else ((SessionStore.empty.after calls).device? u d).map Device.createdAt := by
  have represents := represents_after timely
  refine ⟨represents, ?_, ?_, fun call u d =>
    ⟨(represents.paired_answer now call u d).symm, createdAt_answer _ now call u d⟩⟩
  · have given := lastId_after_le .empty calls
    rwa [show SessionStore.empty.lastId = 0 from rfl, Int.zero_add] at given
  · rintro earlier between rfl u d x u' d' y found found'
    rw [after_append] at found'
    obtain ⟨meanwhile, first, second, since, later⟩ := timely.split
    exact (represents_after first).number_iff since later second found found'

/-- A user and a device of a small store. -/
def visitor : Uuid := ⟨List.replicate 16 5, rfl⟩

def tablet : DeviceIdentity :=
  ⟨"tablet", "Safari on iOS", .tablet, "iOS", "Safari", "Safari/1", "10.0.0.2"⟩

/-- A login, the deletion of the device, and a login on it again. -/
def returning : List (Instant × StoreCall) :=
  [(.epoch, .create visitor "a" (.ofSecs 60) tablet), (.ofSecs 1, .deleteDevice visitor "tablet"),
    (.ofSecs 2, .create visitor "b" (.ofSecs 60) tablet)]

/-- After a deletion the same device gets another number. -/
theorem rows_represented_returning :
    (SessionStore.empty.after returning).Represents (.ofSecs 2) ∧
    ∃ x y, (SessionStore.empty.after (returning.take 1)).session? visitor "tablet" = some x ∧
      (SessionStore.empty.after returning).session? visitor "tablet" = some y ∧ y.id ≠ x.id := by
  have timely : Timely returning (.ofSecs 2) := ⟨by decide, by decide⟩
  obtain ⟨represents, -, numbers, -⟩ := rows_represented timely
  refine ⟨represents, _, _, rfl, rfl, fun same => ?_⟩
  have kept := (numbers (returning.take 1) (returning.drop 1) rfl visitor "tablet" _ visitor "tablet"
    _ rfl rfl).mp same
  exact kept.2 (.ofSecs 1, .deleteDevice visitor "tablet") List.mem_cons_self rfl

end SessionStore

end DeviceSessions
