import DeviceSessions.Proofs.Concurrency.Clearance
import DeviceSessions.Proofs.Controller.History

/-!
# A refresh fails closed

Whatever fails on the way, a refresh ends in one of three ways: with a pair that is the only one of
its user, with an error and every session as it was, or with an error and every session of the user
revoked. The last is the way only of a recording that fails after the revocation.
-/

namespace DeviceSessions

/-- A call of the store that failed or came late, with the error that a controller makes of it. -/
def Exchange.failure? (c : Controller) : Exchange → Option (StoreCall × Error)
  | ⟨.store call, reply⟩ =>
    match c.bounded call.operation reply with
    | .ok _ => none
    | .error e => some (call, e)
  | _ => none

/-- Whether an exchange was a call of the store that was not answered. -/
def Exchange.isFailure (e : Exchange) : Bool := e.call.store?.isSome && e.made?.isNone

theorem Exchange.failure?_of_isFailure {e : Exchange} (c : Controller) (failure : e.isFailure = true) :
    (e.failure? c).isSome = true := by
  obtain ⟨call, reply⟩ := e
  cases call with
  | store call =>
    cases outcome : c.bounded call.operation reply with
    | ok a =>
      obtain rfl := World.bounded_ok outcome
      cases failure
    | error e => simp [Exchange.failure?, outcome]
  | _ => cases failure

theorem Exchange.failure?_eq_some {e : Exchange} {c : Controller} {call : StoreCall} {err : Error}
    (failed : e.failure? c = some (call, err)) :
    ∃ reply, e = ⟨.store call, reply⟩ ∧ c.bounded call.operation reply = .error err := by
  unfold Exchange.failure? at failed
  split at failed
  · split at failed
    · cases failed
    · obtain ⟨rfl, rfl⟩ := Prod.mk.inj (Option.some.inj failed)
      exact ⟨_, rfl, ‹_›⟩
  · cases failed

/-- What a refresh has been told so far: whether sessions were revoked, and which call of the store
was the first to fail. -/
structure Progress where
  revoked : Bool := false
  failed : Option (StoreCall × Error) := none

/-- Whether a call revokes all sessions of a user. -/
def StoreCall.revokesAll : StoreCall → Bool
  | .revokeAll _ => true
  | _ => false

/-- Whether a call records a session. -/
def StoreCall.isCreate : StoreCall → Bool
  | .create .. => true
  | _ => false

/-- After a call of the store that failed no other is made. -/
def halting (c : Controller) : Protocol Progress where
  next s e := ⟨s.revoked || e.made?.any StoreCall.revokesAll, s.failed.or (e.failure? c)⟩
  asks s call := ∀ asked, call.store? = some asked → s.failed = none
  tells _ := True
  asks_log s event asked same := nomatch same
  next_log s event answer := by simp [Exchange.made?, Exchange.failure?]

/-- How a refresh ends after what it has been told: a failure is shown, and after a revocation only
the failure to record is in the way of a pair. -/
structure Progress.Closes {α : Type} (s : Progress) (r : Result α) : Prop where
  shown : ∀ call e, s.failed = some (call, e) → r = .error e.surface
  recording : s.revoked = true → ∀ e, r = .error e →
    ∃ call e, s.failed = some (call, e) ∧ call.isCreate = true

section Halting

variable {α : Type} {c : Controller} {s : Progress}

theorem Progress.closes_ok (quiet : s.failed = none) (a : α) : s.Closes (.ok a) where
  shown call e failed := by
    rw [quiet] at failed
    cases failed
  recording _ e error := by cases error

theorem Progress.closes_early (quiet : s.failed = none) (early : s.revoked = false) (r : Result α) :
    s.Closes r where
  shown call e failed := by
    rw [quiet] at failed
    cases failed
  recording revoked := by
    rw [early] at revoked
    cases revoked

theorem Progress.closes_failed {revoked : Bool} {call : StoreCall} (e : Error)
    (only : revoked = true → call.isCreate = true) :
    Progress.Closes (α := α) ⟨revoked, some (call, e)⟩ (.error e.surface) where
  shown call' e' failed := by
    obtain ⟨rfl, rfl⟩ := Prod.mk.inj (Option.some.inj failed)
    rfl
  recording revoked e' error := ⟨call, e, rfl, only revoked⟩

theorem halting_asks {call : Call} (quiet : s.failed = none) : (halting c).asks s call :=
  fun _ _ => quiet

theorem next_issue (kind : TokenKind) (user : Uuid) (answer : Result IssuedToken) :
    (halting c).next s ⟨.issue kind user, answer⟩ = s := by
  simp [halting, Exchange.made?, Exchange.failure?]

theorem next_parse (token : String) (answer : Result Claims) :
    (halting c).next s ⟨.parse token, answer⟩ = s := by
  simp [halting, Exchange.made?, Exchange.failure?]

theorem next_answered {call : StoreCall} (a : call.Answer) :
    (halting c).next s ⟨.store call, .answered (.ok a)⟩ =
      ⟨s.revoked || call.revokesAll, s.failed⟩ := by
  simp [halting, Exchange.made?, Exchange.failure?, Controller.bounded]

theorem next_failed {call : StoreCall} {reply : Reply call.Answer} {e : Error}
    (failed : c.bounded call.operation reply = .error e) (quiet : s.failed = none) :
    (halting c).next s ⟨.store call, reply⟩ = ⟨s.revoked, some (call, e)⟩ := by
  have unmade : Exchange.made? ⟨.store call, reply⟩ = none := by
    refine World.made?_eq_none ?_
    rintro a rfl
    cases failed
  simp [halting, unmade, Exchange.failure?, failed, quiet]

namespace Action

/-- Before the revocation a failed call of the store closes a refresh. -/
theorem keeps_useStore_halting {operation : String} {call : StoreCall} {β : Type}
    {f : call.Answer → Action β} (quiet : s.failed = none) (early : s.revoked = false)
    (rest : ∀ a, (f a).Keeps (halting c) Progress.Closes ⟨call.revokesAll, none⟩) :
    (c.useStore operation call >>= f).Keeps (halting c) Progress.Closes s := by
  refine Keeps.bind (keeps_useStore_told (halting_asks quiet) (fun a _ => ?_) ?_)
  · rw [next_answered, quiet, early]
    exact rest a
  · intro reply e _ failed
    rw [next_failed failed quiet, early]
    exact Progress.closes_failed e fun revoked => nomatch revoked

theorem rotate_halts (user : Uuid) (device : DeviceIdentity) :
    (c.rotate user device).Keeps (halting c) Progress.Closes {} := by
  unfold Controller.rotate
  refine Keeps.bind (keeps_issueFor (halting_asks rfl) (fun _ => halting_asks rfl) ?_ ?_ ?_)
  · intro access refresh _ _
    rw [next_issue, next_issue]
    refine keeps_useStore_halting rfl rfl fun revoked => ?_
    refine Keeps.bind (keeps_askStore_told (halting_asks rfl) fun reply _ => ?_)
    dsimp only
    cases outcome : c.bounded (Controller.recording user _ device).operation reply with
    | ok a =>
      obtain rfl := World.bounded_ok outcome
      rw [next_answered]
      refine Keeps.bind (keeps_log ?_ _ _ _)
      exact keeps_pure (Progress.closes_ok rfl _)
    | error e =>
      rw [next_failed outcome rfl]
      refine Keeps.bind (keeps_log ?_ _ _ _)
      exact keeps_surface (Progress.closes_failed e fun _ => rfl)
  · intro e _ e'
    rw [next_issue]
    exact Progress.closes_early rfl rfl _
  · intro access e _ e'
    rw [next_issue, next_issue]
    exact Progress.closes_early rfl rfl _

theorem refresh_halts (token : String) (origin : DeviceMetadata) :
    (c.refresh token origin).Keeps (halting c) Progress.Closes {} := by
  unfold Controller.refresh
  refine Keeps.bind (keeps_refreshUser (halting_asks rfl) (fun claims _ _ => ?_) fun r _ _ => ?_)
  · rw [next_parse]
    refine Keeps.bind (keeps_ofResult ?_)
    cases origin.resolve with
    | error e => exact Progress.closes_early rfl rfl _
    | ok device =>
      refine keeps_useStore_halting rfl rfl fun valid => ?_
      cases valid with
      | false =>
        refine Keeps.bind (keeps_log ?_ _ _ _)
        exact Keeps.bind (keeps_throw (Progress.closes_early rfl rfl _))
      | true => exact rotate_halts claims.subject device
  · rw [next_parse]
    exact Progress.closes_early rfl rfl _

end Action

theorem fold_failed (past : List Exchange) (s : Progress) :
    (past.foldl (halting c).next s).failed = s.failed.or (past.findSome? (Exchange.failure? c)) := by
  induction past generalizing s with
  | nil => simp
  | cons e past ih =>
    rw [List.foldl_cons, ih, List.findSome?_cons]
    change (s.failed.or (e.failure? c)).or _ = _
    cases s.failed with
    | some found => rfl
    | none => cases e.failure? c <;> rfl

theorem fold_revokedAny (past : List Exchange) (s : Progress) :
    (past.foldl (halting c).next s).revoked =
      (s.revoked || past.any fun e => e.made?.any StoreCall.revokesAll) := by
  induction past generalizing s with
  | nil => simp
  | cons e past ih =>
    rw [List.foldl_cons, ih, List.any_cons, ← Bool.or_assoc]
    rfl

end Halting

/-! ### How a refresh ends -/

/-- The three ways of a refresh. -/
inductive Ending where
  | rotated
  | rejected
  | dropped
  deriving DecidableEq, Repr

namespace World

/-- The calls of the store that were answered in a run. -/
def callsMade {α : Type} (w : World Memory) (x : Action α) : List StoreCall :=
  (w.trace x).filterMap Exchange.made?

/-- The pair is the only one of the user, on the device, and the record of the device is new. -/
structure RotatedTo (w w' : World Memory) (user : Uuid) (device : DeviceIdentity) (pair : TokenPair) :
    Prop where
  current : ∃ row, w'.state.store.session? user device.id = some row ∧ row.revoked = false ∧
    row.tokenHash = hashToken pair.refreshToken ∧ row.expiresAt = pair.refreshExpiresAt
  others : ∀ d row, d ≠ device.id → w'.state.store.session? user d = some row → row.revoked = true
  device : ∃ row, w'.state.store.device? user device.id = some row ∧ row.kind = device.kind ∧
    row.os = device.os ∧ row.browser = device.browser ∧ row.userAgent = device.userAgent ∧
    row.ip = device.ip ∧ row.lastActive = w.now

/-- No device has changed and no session, but for the time at which a good token was used. -/
def LeftAlone (w w' : World Memory) (token : String) (origin : DeviceMetadata) : Prop :=
  w'.state.store = w.state.store ∨
    ∃ user device, w.Presents token origin user device ∧ w.accepts user device token = true ∧
      (∀ u d, w'.state.store.device? u d = w.state.store.device? u d) ∧
      ∀ u d, w'.state.store.session? u d = (w.state.store.session? u d).map fun x =>
        if u = user ∧ d = device.id then x.touch w.now else x

/-- Every session of the user is revoked, and no device has changed. -/
structure LoggedOut (w w' : World Memory) (user : Uuid) : Prop where
  sessions : ∀ d, w'.state.store.holding? user d =
    (w.state.store.holding? user d).map fun held => { held with revoked := true }
  devices : ∀ u d, w'.state.store.device? u d = w.state.store.device? u d

/-- The refresh of a token ends in one of the three ways; `shown` is what becomes of the error of a
recording that fails. -/
def EndsAs (w : World Memory) (c : Controller) (token : String) (origin : DeviceMetadata)
    (shown : Error → Error) : Ending → Prop
  | .rotated => ∃ pair user device, w.Presents token origin user device ∧
    (w.run Memory.backend (c.refresh token origin)).1 = .ok pair ∧
    w.RotatedTo (w.run Memory.backend (c.refresh token origin)).2 user device pair
  | .rejected => ∃ e, (w.run Memory.backend (c.refresh token origin)).1 = .error e ∧
    (∀ user, .revokeAll user ∉ w.callsMade (c.refresh token origin)) ∧
    w.LeftAlone (w.run Memory.backend (c.refresh token origin)).2 token origin
  | .dropped => ∃ user device call reply e, w.Presents token origin user device ∧
    w.accepts user device token = true ∧ .revokeAll user ∈ w.callsMade (c.refresh token origin) ∧
    call.isCreate = true ∧ ⟨.store call, reply⟩ ∈ w.trace (c.refresh token origin) ∧
    c.bounded call.operation reply = .error e ∧
    (w.run Memory.backend (c.refresh token origin)).1 = .error (shown e) ∧
    w.LoggedOut (w.run Memory.backend (c.refresh token origin)).2 user

variable {w : World Memory} {c : Controller} {token : String} {origin : DeviceMetadata}

/-- No two ways are the same. -/
theorem EndsAs.unique {shown : Error → Error} {ending ending' : Ending}
    (first : w.EndsAs c token origin shown ending) (second : w.EndsAs c token origin shown ending') :
    ending = ending' := by
  cases ending with
  | rotated =>
    obtain ⟨pair, -, -, -, answered, -⟩ := first
    cases ending' with
    | rotated => rfl
    | rejected =>
      obtain ⟨e, failed, -⟩ := second
      cases answered.symm.trans failed
    | dropped =>
      obtain ⟨-, -, -, -, e, -, -, -, -, -, -, failed, -⟩ := second
      cases answered.symm.trans failed
  | rejected =>
    obtain ⟨e, failed, unmade, -⟩ := first
    cases ending' with
    | rotated =>
      obtain ⟨pair, -, -, -, answered, -⟩ := second
      cases answered.symm.trans failed
    | rejected => rfl
    | dropped =>
      obtain ⟨user, -, -, -, -, -, -, revoked, -⟩ := second
      exact absurd revoked (unmade user)
  | dropped =>
    obtain ⟨user, -, -, -, e, -, -, revoked, -, -, -, failed, -⟩ := first
    cases ending' with
    | rotated =>
      obtain ⟨pair, -, -, -, answered, -⟩ := second
      cases answered.symm.trans failed
    | rejected =>
      obtain ⟨-, -, unmade, -⟩ := second
      exact absurd revoked (unmade user)
    | dropped => rfl

/-- After a call of the store that failed, a refresh makes no other. -/
theorem refresh_stops (w : World Memory) (c : Controller) (token : String) (origin : DeviceMetadata)
    {before after : List Exchange} {e : Exchange}
    (cut : w.trace (c.refresh token origin) = before ++ e :: after) (failed : e.isFailure = true) :
    ∀ e' ∈ after, e'.call.store? = none := by
  intro e' member
  obtain ⟨first, rest, rfl⟩ := List.append_of_mem member
  have halts := Action.refresh_halts (c := c) token origin
  have cut' : Program.trace (answer Memory.backend) (c.refresh token origin).run w =
      (before ++ e :: first) ++ e' :: rest := by
    rw [List.append_assoc, List.cons_append]
    exact cut
  have asks := halts.asks_trace (fun _ _ => trivial) cut'
  cases asked : e'.call.store? with
  | none => rfl
  | some call =>
    have quiet := asks call asked
    rw [fold_failed] at quiet
    have found : ((before ++ e :: first).findSome? (Exchange.failure? c)).isSome = true := by
      rw [List.findSome?_isSome_iff]
      exact ⟨e, by simp, Exchange.failure?_of_isFailure c failed⟩
    rw [show ((before ++ e :: first).findSome? (Exchange.failure? c)) = none by simpa using quiet] at found
    cases found

/-! ### The store after each way -/

variable {w' : World Memory} {user : Uuid} {device : DeviceIdentity} {pair : TokenPair}

theorem rotated_store (consistent : w.state.store.Consistent)
    (store : w'.state.store = w.state.store.follow w.now
      [.isValid user device token, .revokeAll user, Controller.recording user pair device]) :
    w.RotatedTo w' user device pair := by
  have checked := SessionStore.consistent_answer consistent w.now (.isValid user device token)
  have recorded := SessionStore.session?_create
    ((w.state.store.isValid user device token w.now).2.revokeAll user).2 user
    (hashToken pair.refreshToken) pair.refreshExpiresAt device w.now user
  have known := SessionStore.device?_create
    ((w.state.store.isValid user device token w.now).2.revokeAll user).2 user
    (hashToken pair.refreshToken) pair.refreshExpiresAt device w.now user device.id
  rw [if_pos ⟨rfl, rfl⟩] at known
  constructor
  · rw [store]
    exact ⟨_, (recorded device.id).trans (if_pos ⟨rfl, rfl⟩), rfl, rfl, rfl⟩
  · intro d row away found
    rw [store] at found
    have kept := (recorded d).trans (if_neg fun same => away same.2)
    have revoked := SessionStore.Consistent.session?_revokeAll checked user user d
    obtain ⟨before, -, rfl⟩ := Option.map_eq_some_iff.mp ((kept.trans revoked).symm.trans found)
    rw [if_pos rfl]
    rfl
  · rw [store]
    refine ⟨_, known, ?_⟩
    cases ((w.state.store.isValid user device token w.now).2.revokeAll user).2.device? user
      device.id with
    | none => exact ⟨rfl, rfl, rfl, rfl, rfl, rfl⟩
    | some old => exact ⟨rfl, rfl, rfl, rfl, rfl, rfl⟩

theorem checked_store (presents : w.Presents token origin user device)
    (valid : w.accepts user device token = true)
    (store : w'.state.store = w.state.store.follow w.now [.isValid user device token]) :
    w.LeftAlone w' token origin := by
  obtain ⟨x, found, accepted⟩ := SessionStore.isValid_iff.mp valid
  refine Or.inr ⟨user, device, presents, valid, fun u d => ?_, fun u d => ?_⟩
  · rw [store]
    exact SessionStore.device?_isValid _ user device token w.now u d
  · rw [store]
    refine (SessionStore.session?_isValid _ user device token w.now u d).trans ?_
    by_cases here : u = user ∧ d = device.id
    · obtain ⟨rfl, rfl⟩ := here
      rw [found]
      simp [accepted]
    · simp [← and_assoc, here]

theorem superseded_store (stale : w.accepts user device token = false)
    (store : w'.state.store = w.state.store.follow w.now [.isValid user device token]) :
    w'.state.store = w.state.store := by
  rw [store]
  change (w.state.store.isValid user device token w.now).2 = w.state.store
  unfold accepts SessionStore.isValid at stale
  unfold SessionStore.isValid
  cases found : w.state.store.session? user device.id with
  | none => rfl
  | some x =>
    cases accepted : x.accepts token w.now with
    | false => simp [accepted]
    | true => simp [found, accepted] at stale

theorem dropped_store (consistent : w.state.store.Consistent)
    (store : w'.state.store = w.state.store.follow w.now
      [.isValid user device token, .revokeAll user]) : w.LoggedOut w' user := by
  have checked := SessionStore.consistent_answer consistent w.now (.isValid user device token)
  constructor
  · intro d
    rw [store]
    refine (SessionStore.Consistent.holding?_revokeAll checked user d).trans ?_
    exact congrArg _ (SessionStore.holding?_isValid _ user device token w.now user d)
  · intro u d
    rw [store]
    exact SessionStore.device?_isValid _ user device token w.now u d

/-- A refresh that has revoked and comes to nothing shows why the recording failed. -/
theorem dropped_error {result : Result TokenPair} {e : Error}
    (ran : w.run Memory.backend (c.refresh token origin) = (result, w'))
    (failed : result = .error e) (revoked : .revokeAll user ∈ w.callsMade (c.refresh token origin)) :
    ∃ call reply err, call.isCreate = true ∧
      (⟨.store call, reply⟩ : Exchange) ∈ w.trace (c.refresh token origin) ∧
      c.bounded call.operation reply = .error err ∧ result = .error err.surface := by
  have closes : Progress.Closes _ (w.run Memory.backend (c.refresh token origin)).1 :=
    (Action.refresh_halts (c := c) token origin).ends_run (fun _ _ => trivial)
  rw [ran] at closes
  obtain ⟨e', member, called⟩ := List.mem_filterMap.mp revoked
  have any := fold_revokedAny (c := c) (w.trace (c.refresh token origin)) {}
  rw [Bool.false_or, List.any_eq_true.mpr ⟨e', member, by rw [called]; rfl⟩] at any
  obtain ⟨call, err, found, create⟩ := closes.recording any e failed
  have shown := closes.shown call err found
  rw [show Program.trace (answer Memory.backend) (c.refresh token origin).run w =
    w.trace (c.refresh token origin) from rfl, fold_failed, Option.none_or] at found
  obtain ⟨exchange, present, failure⟩ := List.exists_of_findSome?_eq_some found
  obtain ⟨reply, rfl, bounded⟩ := Exchange.failure?_eq_some failure
  exact ⟨call, reply, err, create, present, bounded, shown⟩

/-- A refresh ends in one of the three ways. -/
theorem refresh_ends (clean : w.Clean) (reachable : w.state.store.Reachable) (c : Controller)
    (token : String) (origin : DeviceMetadata) :
    ∃ ending, w.EndsAs c token origin Error.surface ending := by
  obtain ⟨result, calls, w', runs, served⟩ := refresh_comes clean c token origin
  have store := runs.store clean
  have ran := runs.run
  have made : w.callsMade (c.refresh token origin) = calls := runs.calls
  have rejected : ∀ e, result = .error e → (∀ user, .revokeAll user ∉ calls) →
      w.LeftAlone w' token origin → ∃ ending, w.EndsAs c token origin Error.surface ending := by
    intro e failed unmade alone
    refine ⟨.rejected, e, ?_, ?_, ?_⟩
    · rw [ran, failed]
    · rw [made]
      exact unmade
    · rw [ran]
      exact alone
  cases result with
  | error e =>
    change w.Served _ (.error e) _ _ at served
    cases served with
    | refused => exact rejected e rfl (fun _ => List.not_mem_nil) (Or.inl store)
    | queried query => cases query
    | superseded presents stale =>
      exact rejected _ rfl (by simp) (Or.inl (superseded_store stale store))
    | checked presents valid =>
      exact rejected e rfl (by simp) (checked_store presents valid store)
    | @dropped _ _ user device _ _ presents valid =>
      have revoked : .revokeAll user ∈ w.callsMade (c.refresh token origin) := by simp [made]
      obtain ⟨call, reply, err, create, member, bounded, shown⟩ := dropped_error ran rfl revoked
      refine ⟨.dropped, user, device, call, reply, err, presents, valid, revoked, create, member,
        bounded, ?_, ?_⟩
      · rw [ran, shown]
      · rw [ran]
        exact dropped_store reachable.consistent store
  | ok pair =>
    change w.Served _ (.ok (.pair pair)) _ _ at served
    cases served with
    | queried query => cases query
    | @rotated _ _ user device _ _ presents valid issued =>
      refine ⟨.rotated, pair, user, device, presents, ?_, ?_⟩
      · rw [ran]
      · rw [ran]
        exact rotated_store reachable.consistent store

/-- The rows of the users whose token it is not stay as they are. -/
theorem refresh_others (clean : w.Clean) (reachable : w.state.store.Reachable) (c : Controller)
    (token : String) (origin : DeviceMetadata) {u : Uuid} (other : subject? token ≠ some u)
    (d : String) :
    (w.run Memory.backend (c.refresh token origin)).2.state.store.session? u d =
        w.state.store.session? u d ∧
      (w.run Memory.backend (c.refresh token origin)).2.state.store.device? u d =
        w.state.store.device? u d := by
  obtain ⟨result, calls, w', runs, served⟩ := refresh_comes clean c token origin
  rw [runs.run, runs.store clean]
  exact served.others reachable.consistent other d

/-- A refresh fails closed, whatever calls of the store fail or come late and whatever the issuer
does: it ends in exactly one of three ways, makes no call of the store after one that failed, and
leaves the rows of other users alone. -/
theorem refresh_fail_closed (clean : w.Clean) (reachable : w.state.store.Reachable) (c : Controller)
    (token : String) (origin : DeviceMetadata) :
    (∃! ending, w.EndsAs c token origin Error.surface ending) ∧
    (∀ before e after, w.trace (c.refresh token origin) = before ++ e :: after →
      e.isFailure = true → ∀ e' ∈ after, e'.call.store? = none) ∧
    ∀ u, subject? token ≠ some u → ∀ d,
      (w.run Memory.backend (c.refresh token origin)).2.state.store.session? u d =
          w.state.store.session? u d ∧
        (w.run Memory.backend (c.refresh token origin)).2.state.store.device? u d =
          w.state.store.device? u d := by
  refine ⟨?_, ?_, ?_⟩
  · obtain ⟨ending, ends⟩ := refresh_ends clean reachable c token origin
    exact ⟨ending, ends, fun ending' ends' => ends'.unique ends⟩
  · intro before e after cut failed
    exact refresh_stops w c token origin cut failed
  · intro u other d
    exact refresh_others clean reachable c token origin other d

/-! ### A recording that fails -/

theorem askStore_fails {f : Fault} {e : Error} {call : StoreCall} (c : Controller)
    (fault : w.faults call.target = some f) (before : f.after = false)
    (inTime : f.delay ≤ w.deadline) (failure : f.failure = some e) :
    w.Runs (c.askStore call) (.ok (.error (e.context call.operation))) [] w := by
  have asked := runs_call w (.store call)
  have failed : answer Memory.backend (.store call) w = (.answered (.error e), w) := by
    change w.make call.target _ = _
    unfold World.make
    simp only [fault, Fault.apply, before, inTime, failure, if_true, Bool.false_eq_true, if_false]
    rfl
  rw [failed] at asked
  unfold Controller.askStore
  exact asked.bind (runs_pure w _)

/-- Where only the recording of sessions fails, a good refresh token is lost: its user is logged out
and sees what may be seen of the failure. -/
theorem refresh_drops (clean : w.Clean) (spared : ∀ target, target ≠ .create → w.faults target = none)
    (canIssue : w.CanIssue) {f : Fault} {e : Error} (fault : w.faults .create = some f)
    (inTime : f.delay ≤ w.deadline) (failure : f.failure = some e) (c : Controller)
    (presents : w.Presents token origin user device) (valid : w.accepts user device token = true) :
    (w.run Memory.backend (c.refresh token origin)).1 =
        .error (e.context "session_store.create").surface ∧
      .revokeAll user ∈ w.callsMade (c.refresh token origin) := by
  have entered := enter_spared clean (spared _ nofun) (spared _ nofun) c presents valid
  have kept₁ := entered.kept
  have spared₁ : ∀ kind, (w.afterCall (.isValid user device token)).faults (.issue kind) = none :=
    fun kind => spared _ nofun
  obtain ⟨pair, issuing, -⟩ := issueFor_spared spared₁ (canIssue.of_kept kept₁) "refresh" user
  have kept₂ := kept₁.trans issuing.kept
  have revoking := useStore_spared (clean.of_kept kept₂) c "refresh"
    (show (w.afterCall (.isValid user device token)).drawn.drawn.faults
      (StoreCall.revokeAll user).target = none from spared _ nofun)
  have kept₃ := kept₂.trans revoking.kept
  have fault₃ := (congrFun kept₃.faults _).trans fault
  have failing : World.Runs _ (c.askStore (Controller.recording user pair device)) _ _ _ :=
    askStore_fails c fault₃ (clean _ f fault) (by rw [kept₃.deadline]; exact inTime) failure
  have comes : w.Comes (c.refresh token origin) fun r calls _ =>
      r = .error (e.context "session_store.create").surface ∧ .revokeAll user ∈ calls := by
    rw [Controller.refresh_eq]
    refine .after entered ?_
    unfold Controller.rotate
    refine .after issuing (.after revoking (.after failing (.after (runs_log _ _ _ _) ?_)))
    obtain ⟨log, shown⟩ := runs_surface (α := TokenPair) _ "refresh" _
    exact ⟨_, _, _, shown, rfl, by simp⟩
  obtain ⟨r, calls, w', runs, rfl, revoked⟩ := comes
  refine ⟨congrArg Prod.fst runs.run, ?_⟩
  rw [callsMade, runs.calls]
  exact revoked

/-- A small world where the one user has logged in and the next recording fails. -/
def crowded (device : DeviceIdentity) (e : Error) : World Memory :=
  ((small (.ofSecs 1000)).opened soleUser.id device (.ofSecs 2000) soleUser.id).setFault .create
    (some { failure := some e })

/-- The refresh token of that user. -/
def crowdedToken : String := (small (.ofSecs 1000)).mint soleUser.id (.ofSecs 2000) soleUser.id

theorem crowded_clean (device : DeviceIdentity) (e : Error) : (crowded device e).Clean := by
  have clean : ((small (.ofSecs 1000)).opened soleUser.id device (.ofSecs 2000) soleUser.id).Clean :=
    (small_smooth (.ofSecs 1000)).clean
  exact step_clean (c := ⟨⟨0⟩⟩) clean (.fail .create ⟨0⟩ (some e))

theorem crowded_reachable (device : DeviceIdentity) (e : Error) :
    (crowded device e).state.store.Reachable := .answer _ _ .empty

theorem crowded_drops (resolved : soleOrigin.resolve = .ok device) (e : Error) (c : Controller) :
    ((crowded device e).run Memory.backend (c.refresh crowdedToken soleOrigin)).1 =
        .error (e.context "session_store.create").surface ∧
      .revokeAll soleUser.id ∈ (crowded device e).callsMade (c.refresh crowdedToken soleOrigin) := by
  have ready := small_ready resolved (.ofSecs 2000) (by decide) soleUser.id
  have spared : ∀ target, target ≠ .create → (crowded device e).faults target = none :=
    fun target other => if_neg other
  have fault : (crowded device e).faults .create = some { failure := some e } := by
    simp [crowded, setFault]
  have presents : (crowded device e).Presents crowdedToken soleOrigin soleUser.id device :=
    ⟨ready.presents.parsed, ready.presents.resolved⟩
  exact refresh_drops (crowded_clean device e) spared ready.canIssue fault (Nat.zero_le _) rfl c presents
    ready.accepts

/-- A store that says that the database is gone leaves the user logged out behind a hidden error. -/
theorem refresh_fail_closed_crowded : ∃ device, soleOrigin.resolve = .ok device ∧
    ((crowded device ⟨.database, "gone", true⟩).run Memory.backend
      (Controller.refresh ⟨⟨5000000000⟩⟩ crowdedToken soleOrigin)).1 = .error .hidden ∧
    (∃! ending, (crowded device ⟨.database, "gone", true⟩).EndsAs ⟨⟨5000000000⟩⟩ crowdedToken soleOrigin
      Error.surface ending) ∧
    ∀ before e after, (crowded device ⟨.database, "gone", true⟩).trace
        (Controller.refresh ⟨⟨5000000000⟩⟩ crowdedToken soleOrigin) = before ++ e :: after →
      e.isFailure = true → ∀ e' ∈ after, e'.call.store? = none := by
  obtain ⟨device, resolved⟩ := soleOrigin_resolves
  obtain ⟨ends, stops, -⟩ := refresh_fail_closed (crowded_clean device ⟨.database, "gone", true⟩)
    (crowded_reachable device _) ⟨⟨5000000000⟩⟩ crowdedToken soleOrigin
  exact ⟨device, resolved, (crowded_drops resolved _ _).1, ends, stops⟩

/-- The error is not always the hidden one: that of a store which rejects what it should record is
shown. -/
theorem refresh_shows_rejection : ¬∀ (c : Controller) (w : World Memory) (token : String)
    (origin : DeviceMetadata), w.Clean → w.state.store.Reachable →
      ∃! ending, w.EndsAs c token origin (fun _ => .hidden) ending := by
  intro claim
  obtain ⟨device, resolved⟩ := soleOrigin_resolves
  obtain ⟨failed, revoked⟩ := crowded_drops resolved ⟨.validation, "no", false⟩ ⟨⟨5000000000⟩⟩
  obtain ⟨ending, ends, -⟩ := claim ⟨⟨5000000000⟩⟩ (crowded device ⟨.validation, "no", false⟩)
    crowdedToken soleOrigin (crowded_clean device _) (crowded_reachable device _)
  cases ending with
  | rotated =>
    obtain ⟨pair, -, -, -, answered, -⟩ := ends
    cases failed.symm.trans answered
  | rejected =>
    obtain ⟨e, -, unmade, -⟩ := ends
    exact unmade _ revoked
  | dropped =>
    obtain ⟨-, -, -, -, e, -, -, -, -, -, -, hidden, -⟩ := ends
    cases failed.symm.trans hidden

end World

end DeviceSessions
