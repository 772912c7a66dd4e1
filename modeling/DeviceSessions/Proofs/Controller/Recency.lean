import DeviceSessions.Proofs.Controller.Naming
import DeviceSessions.Proofs.Session.Listing

/-!
# Devices by last use

The list of a user's devices stands in the order in which the user last logged in or refreshed from
them. Nothing else that is asked of a controller moves a device in it.
-/

namespace DeviceSessions

/-! ### Marks of use -/

/-- What a request can leave behind: a device was used, or it is to be forgotten. -/
inductive Mark where
  | used (device : String)
  | forgotten (device : String)
  deriving DecidableEq, Repr

namespace Mark

/-- The device of a mark. -/
def device : Mark → String
  | used d | forgotten d => d

/-- When a device was last used, after one more mark at a time or none. -/
def time (now : Instant) (d : String) (before : Option Instant) : Option Mark → Option Instant
  | some (used e) => if d = e then some now else before
  | some (forgotten e) => if d = e then none else before
  | none => before

/-- The mark at a place is the last one of a device, which was used at that time. -/
structure Last (marks : List (Instant × Mark)) (d : String) (t : Instant) (place : Nat) : Prop where
  here : marks[place]? = some (t, used d)
  none_since : ∀ later m, place < later → marks[later]? = some m → m.2.device ≠ d

variable {marks : List (Instant × Mark)} {m : Instant × Mark} {d d' : String} {t t' now : Instant}
  {n n' : Nat}

theorem Last.lt (last : Last marks d t n) : n < marks.length :=
  (List.getElem?_eq_some_iff.mp last.here).1

/-- One more mark is the last of its device, and changes nothing about the other devices. -/
theorem last_append_iff : Last (marks ++ [m]) d t n ↔
    (m = (t, used d) ∧ n = marks.length) ∨ (m.2.device ≠ d ∧ Last marks d t n) := by
  have newest : (marks ++ [m])[marks.length]? = some m := List.getElem?_concat_length
  have older : ∀ k, k < marks.length → (marks ++ [m])[k]? = marks[k]? := fun k before =>
    List.getElem?_append_left before
  constructor
  · intro last
    have bound := last.lt
    rw [List.length_append, List.length_singleton] at bound
    by_cases before : n < marks.length
    · refine Or.inr ⟨last.none_since _ _ before newest, (older n before).symm.trans last.here, ?_⟩
      intro later e behind found
      have inside := (List.getElem?_eq_some_iff.mp found).1
      exact last.none_since later e behind ((older later inside).trans found)
    · obtain rfl : n = marks.length := by omega
      exact Or.inl ⟨Option.some.inj (newest.symm.trans last.here), rfl⟩
  · rintro (⟨rfl, rfl⟩ | ⟨other, last⟩)
    · refine ⟨newest, fun later e behind found => ?_⟩
      have inside := (List.getElem?_eq_some_iff.mp found).1
      rw [List.length_append, List.length_singleton] at inside
      omega
    · refine ⟨(older n last.lt).trans last.here, fun later e behind found => ?_⟩
      by_cases before : later < marks.length
      · exact last.none_since later e behind ((older later before).symm.trans found)
      · have inside := (List.getElem?_eq_some_iff.mp found).1
        rw [List.length_append, List.length_singleton] at inside
        obtain rfl : later = marks.length := by omega
        rwa [← Option.some.inj (newest.symm.trans found)]

/-- Of two devices the one that was used later has the later last mark, where time goes on from mark
to mark. -/
theorem Last.lt_of_not_lt (advances : (marks.map Prod.fst).Pairwise (· < ·)) (apart : d ≠ d')
    (first : Last marks d t n) (second : Last marks d' t' n') (order : ¬t < t') : n' < n := by
  rcases Nat.lt_trichotomy n n' with before | rfl | behind
  · obtain ⟨inside, here⟩ := List.getElem?_eq_some_iff.mp first.here
    obtain ⟨inside', here'⟩ := List.getElem?_eq_some_iff.mp second.here
    have times :=
      List.pairwise_iff_getElem.mp (List.pairwise_map.mp advances) n n' inside inside' before
    rw [here, here'] at times
    exact absurd times order
  · have same := Option.some.inj (first.here.symm.trans second.here)
    injection same with _ same
    injection same with same
    exact absurd same apart
  · exact behind

/-- Marks tell when a device was last used, and still do with one more mark. -/
theorem time_eq_some_iff {before : Option Instant}
    (tracked : ∀ t, before = some t ↔ ∃ n, Last marks d t n) (now t : Instant) (mark : Option Mark) :
    time now d before mark = some t ↔
      ∃ n, Last (marks ++ (mark.map (Prod.mk now)).toList) d t n := by
  cases mark with
  | none => simpa [time] using tracked t
  | some mark =>
    simp only [Option.map_some, Option.toList_some, last_append_iff]
    cases mark with
    | used e =>
      by_cases here : d = e
      · simp [time, here, device]
      · simp [time, here, device, Ne.symm here, tracked]
    | forgotten e =>
      by_cases here : d = e
      · simp [time, here, device]
      · simp [time, here, device, Ne.symm here, tracked]

/-- The devices that were used and not forgotten since, in the reverse order of their last uses. -/
structure Listed (marks : List (Instant × Mark)) (ids : List String) : Prop where
  once : ids.Nodup
  used : ∀ d, d ∈ ids ↔ ∃ t n, Last marks d t n
  latest : ids.Pairwise fun d d' => ∀ t n t' n', Last marks d t n → Last marks d' t' n' → n' < n

end Mark

/-- Whether a call of the store can change when a device was last active. -/
def StoreCall.movesDevices : StoreCall → Bool
  | create .. | deleteDevice .. => true
  | _ => false

namespace SessionStore

variable (s : SessionStore) (user owner : Uuid) (device : String) (now : Instant)

theorem lastActive?_follow {calls : List StoreCall}
    (still : ∀ call ∈ calls, call.movesDevices = false) (user : Uuid) (device : String) :
    (s.follow now calls).lastActive? user device = s.lastActive? user device := by
  induction calls generalizing s with
  | nil => rfl
  | cons call calls ih =>
    have first : (s.answer now call).2.lastActive? user device = s.lastActive? user device := by
      rw [lastActive?_answer]
      have quiet := still call List.mem_cons_self
      cases call <;> first | rfl | cases quiet
    exact (ih _ fun c member => still c (List.mem_cons_of_mem _ member)).trans first

theorem Reachable.follow {s : SessionStore} (reachable : s.Reachable) (now : Instant)
    (calls : List StoreCall) : (s.follow now calls).Reachable :=
  follow_keeps (P := Reachable) (fun call holds => holds.answer now call) reachable calls

theorem lastActive?_recording (pair : TokenPair) (identity : DeviceIdentity) :
    (s.answer now (Controller.recording owner pair identity)).2.lastActive? user device =
      Mark.time now device (s.lastActive? user device)
        (if owner = user then some (.used identity.id) else none) := by
  rw [lastActive?_answer]
  by_cases mine : owner = user
  · by_cases here : device = identity.id <;>
      simp [Controller.recording, StoreCall.creates, Mark.time, mine, here, eq_comm]
  · simp [Controller.recording, StoreCall.creates, Mark.time, mine]

end SessionStore

/-! ### The marks of a history -/

namespace World

/-- The user and the device that a login or a refresh is for. -/
def opens? (w : World Memory) : Operation → Option (Uuid × String)
  | .login credentials origin =>
    match w.state.directory.find? credentials.email, origin.resolve with
    | some account, .ok device => some (account.id, device.id)
    | _, _ => none
  | .refresh token origin =>
    match subject? token, origin.resolve with
    | some user, .ok device => some (user, device.id)
    | _, _ => none
  | _ => none

/-- What a request and its answer leave behind about the devices of a user: a login or a refresh that
is granted uses a device, a deletion that is granted forgets one, and nothing else leaves a mark. -/
def mark? (w : World Memory) (user : Uuid) : Told → Option Mark
  | (_, .error _) => none
  | (.deleteDevice owner device, .ok _) => if owner = user then some (.forgotten device) else none
  | (r, .ok _) =>
    match w.opens? r with
    | some (owner, device) => if owner = user then some (.used device) else none
    | none => none

/-- The marks that a history leaves about the devices of a user, each with its time. -/
def marks (c : Controller) (user : Uuid) : World Memory → List Happening → List (Instant × Mark)
  | _, [] => []
  | w, .serve r :: steps =>
    ((w.mark? user (r, (w.serve c r).1)).map (Prod.mk w.now)).toList ++
      marks c user (w.step c (.serve r)) steps
  | w, s :: steps => marks c user (w.step c s) steps

/-- The times at which the requests of a history are served. -/
def times (c : Controller) : World Memory → List Happening → List Instant
  | _, [] => []
  | w, .serve r :: steps => w.now :: times c (w.step c (.serve r)) steps
  | w, s :: steps => times c (w.step c s) steps

variable {w w' : World Memory} {c : Controller} {r : Operation} {result : Result Response}
  {calls : List StoreCall} {user : Uuid} {device : String} {steps : List Happening}

theorem Opens.opens? (opens : w.Opens r user device) : w.opens? r = some (user, device) := by
  cases opens with
  | login known resolved => simp [World.opens?, known, resolved]
  | refresh subject resolved => simp [World.opens?, subject, resolved]

theorem mark?_of_opens {owner : Uuid} (opens : w.Opens r owner device) (user : Uuid)
    (answer : Response) :
    w.mark? user (r, .ok answer) = if owner = user then some (.used device) else none := by
  have known := opens.opens?
  cases opens <;> simp only [mark?, known]

/-- What serving a request does to the time at which a device was last used is what its mark says. -/
theorem Served.lastActive? (served : w.Served r result calls w') (user : Uuid) (device : String) :
    (w.state.store.follow w.now calls).lastActive? user device =
      Mark.time w.now device (w.state.store.lastActive? user device) (w.mark? user (r, result)) := by
  have still {calls : List StoreCall} (still : ∀ call ∈ calls, call.movesDevices = false) :=
    w.state.store.lastActive?_follow w.now still user device
  cases served with
  | refused => rfl
  | queried query reads =>
    rw [SessionStore.follow_queries reads]
    cases r <;> cases result <;> first | rfl | cases query
  | @loggedIn credentials origin account identity pair _ known resolved issued =>
    rw [mark?_of_opens (.login known resolved)]
    exact SessionStore.lastActive?_recording _ _ _ _ _ _ _
  | superseded => exact still (by simp [StoreCall.movesDevices])
  | checked => exact still (by simp [StoreCall.movesDevices])
  | dropped => exact still (by simp [StoreCall.movesDevices])
  | @rotated token origin owner identity pair _ presents valid issued =>
    have before : (w.state.store.follow w.now [.isValid owner identity token,
        .revokeAll owner]).lastActive? user device = w.state.store.lastActive? user device :=
      still (by simp [StoreCall.movesDevices])
    rw [mark?_of_opens (.refresh presents.subject presents.resolved), ← before]
    exact SessionStore.lastActive?_recording _ _ _ _ _ _ _
  | loggedOut => exact still (by simp [StoreCall.movesDevices])
  | renamed => exact still (by simp [StoreCall.movesDevices])
  | unnamed => exact still (by simp [StoreCall.movesDevices])
  | revoked => exact still (by simp [StoreCall.movesDevices])
  | @deleted owner other =>
    refine (SessionStore.lastActive?_answer _ _ _ _ _).trans ?_
    by_cases mine : owner = user
    · by_cases here : device = other <;>
        simp [mark?, Mark.time, StoreCall.creates, mine, here, eq_comm]
    · simp [mark?, Mark.time, StoreCall.creates, mine]
  | @missing owner other _ absent =>
    refine (SessionStore.lastActive?_answer _ _ _ _ _).trans ?_
    split
    · rename_i deletes
      cases deletes
      exact (congrArg (Option.map Device.lastActive) absent).symm
    · rfl

/-! ### Histories -/

theorem after_reachable (clean : w.Clean) (reachable : w.state.store.Reachable) (c : Controller)
    (steps : List Happening) : (w.after c steps).Clean ∧ (w.after c steps).state.store.Reachable :=
  after_keeps (P := SessionStore.Reachable) (fun now call holds => holds.answer now call) clean
    reachable c steps

theorem marks_append (c : Controller) (user : Uuid) (w : World Memory)
    (first second : List Happening) :
    w.marks c user (first ++ second) =
      w.marks c user first ++ (w.after c first).marks c user second := by
  induction first generalizing w with
  | nil => rfl
  | cons s first ih =>
    have rest := ih (w.step c s)
    cases s with
    | serve r =>
      rw [List.cons_append, marks, marks, rest, List.append_assoc]
      rfl
    | wait time => exact rest
    | enroll account => exact rest
    | fail target delay failure => exact rest
    | heal target => exact rest

theorem marks_idle (c : Controller) (user : Uuid) {s : Happening} (idle : ∀ r, s ≠ .serve r) :
    w.marks c user [s] = [] := by
  cases s with
  | serve r => exact absurd rfl (idle r)
  | wait time => rfl
  | enroll account => rfl
  | fail target delay failure => rfl
  | heal target => rfl

/-- Marks are left at times at which requests are served. -/
theorem marks_times (c : Controller) (user : Uuid) (w : World Memory) (steps : List Happening) :
    ((w.marks c user steps).map Prod.fst).Sublist (w.times c steps) := by
  induction steps generalizing w with
  | nil => exact .slnil
  | cons s steps ih =>
    have rest := ih (w.step c s)
    cases s with
    | serve r =>
      unfold marks times
      rw [List.map_append]
      cases w.mark? user (r, (w.serve c r).1) with
      | none => exact rest.cons _
      | some mark => exact rest.cons_cons _
    | wait time => exact rest
    | enroll account => exact rest
    | fail target delay failure => exact rest
    | heal target => exact rest

/-- When a device was last active is the time of its last mark, if that is of its use. -/
theorem after_lastActive? (clean : w.Clean) (noSessions : w.state.store = {}) (c : Controller)
    (steps : List Happening) (user : Uuid) (device : String) (t : Instant) :
    (w.after c steps).state.store.lastActive? user device = some t ↔
      ∃ n, Mark.Last (w.marks c user steps) device t n := by
  have reachable : w.state.store.Reachable := noSessions ▸ .empty
  -- On the last event, which leaves at most one more mark.
  induction steps using List.reverseRecOn generalizing t with
  | nil =>
    rw [show (w.after c []).state.store = {} from noSessions]
    constructor
    · intro found
      cases found
    · rintro ⟨n, last⟩
      cases last.here
  | append_singleton steps s ih =>
    rw [show w.after c (steps ++ [s]) = (w.after c steps).step c s from after_append c w steps [s],
      marks_append]
    by_cases request : ∃ r, s = .serve r
    · obtain ⟨r, rfl⟩ := request
      have clean' := (after_reachable clean reachable c steps).1
      obtain ⟨calls, runs, served⟩ := serve_cases clean' c r
      change ((w.after c steps).serve c r).2.state.store.lastActive? user device = _ ↔ _
      rw [runs.store clean', served.lastActive?, Mark.time_eq_some_iff ih]
      simp [marks]
    · have idle : ∀ r, s ≠ .serve r := fun r same => request ⟨r, same⟩
      rw [step_store c idle, marks_idle c user idle, List.append_nil]
      exact ih t

theorem after_listed (clean : w.Clean) (noSessions : w.state.store = {}) (c : Controller)
    (steps : List Happening) (advances : (w.times c steps).Pairwise (· < ·)) (user : Uuid) :
    Mark.Listed (w.marks c user steps)
      (((w.after c steps).state.store.listDevices user).map Device.id) := by
  have tracked := after_lastActive? clean noSessions c steps user
  have reachable := (after_reachable clean (noSessions ▸ .empty) c steps).2
  have advances' := advances.sublist (marks_times c user w steps)
  refine ⟨reachable.nodup_ids user, fun d => ?_, ?_⟩
  · rw [reachable.mem_ids, ← Option.isSome_map (f := Device.lastActive), Option.isSome_iff_exists]
    exact exists_congr (tracked d)
  · refine ((reachable.precedes_ids user).and (reachable.nodup_ids user)).imp ?_
    rintro d d' ⟨precedes, apart⟩ t n t' n' last last'
    refine last.lt_of_not_lt advances' apart last' ?_
    rcases precedes t t' ((tracked d t).mpr ⟨n, last⟩) ((tracked d' t').mpr ⟨n', last'⟩) with
      before | ⟨same, -⟩
    · exact Instant.lt_asymm before
    · rw [same]
      exact Instant.lt_irrefl t

/-- A request that leaves no mark moves no device. -/
theorem serve_still (clean : w.Clean) (reachable : w.state.store.Reachable)
    (unmarked : w.mark? user (r, (w.serve c r).1) = none) :
    ((w.serve c r).2.state.store.listDevices user).map Device.id =
      (w.state.store.listDevices user).map Device.id := by
  obtain ⟨calls, runs, served⟩ := serve_cases clean c r
  rw [runs.store clean]
  refine reachable.ids_eq (reachable.follow w.now calls) fun device => ?_
  rw [served.lastActive?, unmarked]
  rfl

theorem serve_listDevices (clean : w.Clean) (spared : w.faults .listDevices = none) (c : Controller)
    (user : Uuid) :
    (w.serve c (.listDevices user)).1 = .ok (.devices (w.state.store.listDevices user)) :=
  serve_of_comes (P := fun result _ => result = _) (.map
    ⟨_, _, _, useStore_spared clean c "list_devices" spared, rfl⟩)

theorem serve_findDevice (clean : w.Clean) (spared : w.faults .findDevice = none) (c : Controller)
    (user : Uuid) (device : String) :
    (w.serve c (.findDevice user device)).1 =
      match w.state.store.device? user device with
      | some x => .ok (.device x)
      | none => .error Controller.noDevice := by
  have asking : w.Runs (c.useStore "get_device" (.findDevice user device)) _ _ _ :=
    useStore_spared clean c "get_device" spared
  refine serve_of_comes (P := fun result _ => result = _) (.map (.after asking ?_))
  change World.Comes _ (match w.state.store.device? user device with | some d => _ | none => _) _
  cases w.state.store.device? user device with
  | none => exact ⟨_, _, _, runs_throw _ _, rfl⟩
  | some x => exact ⟨_, _, _, runs_pure _ x, rfl⟩

/-- In every store that calls have led to, the list of a user's devices is what `Lists` says: complete,
without repetition, none in front of one that was active later, and in agreement with the lookup of
each. In every history from an empty store on in which time goes on from request to request, the list
stands in the reverse order of the last granted login or refresh from each device that was not
deleted since, both readers of a controller answer from it, and a request that is neither of these nor
a granted deletion leaves it as it was. -/
theorem devices_by_last_use (c : Controller) {w : World Memory} (clean : w.Clean)
    (noSessions : w.state.store = {}) (steps : List Happening)
    (advances : (w.times c steps).Pairwise (· < ·)) (user : Uuid) :
    (∀ s : SessionStore, s.Reachable → s.Lists user (s.listDevices user)) ∧
    Mark.Listed (w.marks c user steps)
      (((w.after c steps).state.store.listDevices user).map Device.id) ∧
    ((w.after c steps).faults .listDevices = none →
      ((w.after c steps).serve c (.listDevices user)).1 =
        .ok (.devices ((w.after c steps).state.store.listDevices user))) ∧
    ((w.after c steps).faults .findDevice = none → ∀ device,
      ((w.after c steps).serve c (.findDevice user device)).1 =
        match ((w.after c steps).state.store.listDevices user).find? fun x => x.id = device with
        | some x => .ok (.device x)
        | none => .error Controller.noDevice) ∧
    ∀ r, (w.after c steps).mark? user (r, ((w.after c steps).serve c r).1) = none →
      (((w.after c steps).serve c r).2.state.store.listDevices user).map Device.id =
        ((w.after c steps).state.store.listDevices user).map Device.id := by
  obtain ⟨clean', reachable⟩ := after_reachable clean (noSessions ▸ .empty) c steps
  refine ⟨fun s reachable => reachable.lists user, after_listed clean noSessions c steps advances user,
    fun spared => serve_listDevices clean' spared c user, fun spared device => ?_,
    fun r unmarked => serve_still clean' reachable unmarked⟩
  rw [← (reachable.lists user).agrees device]
  exact serve_findDevice clean' spared c user device

theorem now_waitUntil {time : Instant} (later : ¬time < w.now) : (w.waitUntil time).now = time := by
  rw [waitUntil, if_neg later]

/-- A login, and later a logout. -/
def visit : List Happening :=
  [.serve (.login soleCredentials soleOrigin), .wait (.ofSecs 2000), .serve (.logout soleUser.id)]

theorem times_visit (clean : w.Clean) (before : ¬Instant.ofSecs 2000 < w.now) :
    w.times c visit = [w.now, .ofSecs 2000] := by
  have kept := serve_kept clean c (.login soleCredentials soleOrigin)
  rw [← kept.now] at before
  simp only [visit, times, step, now_waitUntil before]

theorem marks_visit {response : Response}
    (opens : w.Opens (.login soleCredentials soleOrigin) soleUser.id device)
    (answered : (w.serve c (.login soleCredentials soleOrigin)).1 = .ok response) :
    w.marks c soleUser.id visit = [(w.now, .used device)] := by
  have quiet : ∀ (w : World Memory) result,
      w.mark? soleUser.id (.logout soleUser.id, result) = none := by
    intro w result
    cases result <;> rfl
  simp only [visit, marks, quiet, answered, mark?_of_opens opens, Option.map_some, Option.map_none,
    Option.toList_some, Option.toList_none, if_true, List.append_nil]

/-- A logout does not take the device off the list. -/
theorem devices_by_last_use_visit : ∃ device,
    (((small (.ofSecs 1000)).after ⟨⟨0⟩⟩ visit).state.store.listDevices soleUser.id).map Device.id =
      [device] := by
  have smooth := small_smooth (.ofSecs 1000)
  have canIssue : (small (.ofSecs 1000)).CanIssue :=
    canIssue_of_early (by decide) fun kind => by cases kind <;> decide
  obtain ⟨identity, admits⟩ := small_admits (.ofSecs 1000)
  obtain ⟨pair, answered, -⟩ := smooth.login_accepts canIssue ⟨⟨0⟩⟩ admits
  have advances : ((small (.ofSecs 1000)).times ⟨⟨0⟩⟩ visit).Pairwise (· < ·) := by
    rw [times_visit smooth.clean (by decide)]
    decide
  have marks := marks_visit (.login admits.known admits.resolved) answered
  obtain ⟨-, listed, -⟩ := devices_by_last_use ⟨⟨0⟩⟩ smooth.clean rfl visit advances soleUser.id
  rw [marks] at listed
  refine ⟨identity.id, List.perm_singleton.mp ?_⟩
  rw [List.perm_ext_iff_of_nodup listed.once (List.nodup_singleton _)]
  intro d
  rw [listed.used, List.mem_singleton]
  constructor
  · rintro ⟨t, n, last⟩
    have here := List.mem_singleton.mp (List.mem_of_getElem? last.here)
    cases here
    rfl
  · rintro rfl
    refine ⟨.ofSecs 1000, 0, rfl, fun later m behind found => ?_⟩
    have bound := (List.getElem?_eq_some_iff.mp found).1
    rw [List.length_singleton] at bound
    omega

end World

end DeviceSessions
