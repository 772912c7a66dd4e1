import DeviceSessions.Proofs.Controller.History
import DeviceSessions.Proofs.Token.RoundTrip

/-!
# The ledger of current tokens

An abstract machine that knows, for each user and device, at most one refresh token and its end, and
follows the answers of a controller. It decides what the controller over a store in memory accepts:
a refresh succeeds exactly where the token presented is the one in the ledger and has not ended.
-/

namespace DeviceSessions

/-- The current refresh token of each user on each device, with its end. -/
abbrev Ledger := Uuid → String → Option IssuedToken

namespace Ledger

/-- No current tokens. -/
def empty : Ledger := fun _ _ => none

/-- The ledger with a current token on a device. -/
def set (l : Ledger) (user : Uuid) (device : String) (entry : IssuedToken) : Ledger :=
  fun u d => if u = user ∧ d = device then some entry else l u d

/-- The ledger without a current token on a device. -/
def remove (l : Ledger) (user : Uuid) (device : String) : Ledger :=
  fun u d => if u = user ∧ d = device then none else l u d

/-- The ledger without current tokens of a user. -/
def clear (l : Ledger) (user : Uuid) : Ledger := fun u d => if u = user then none else l u d

/-- The entry for the refresh token of a pair. -/
def entry (pair : TokenPair) : IssuedToken := ⟨pair.refreshToken, pair.refreshExpiresAt⟩

/-- The ledger after the answer to a request. A login is of the user that the directory has under
its email address, and a refresh of the subject of its token. A failed request changes nothing. -/
def next (l : Ledger) (directory : Directory) : Operation → Result Response → Ledger
  | .login credentials origin, .ok (.pair pair) =>
    match directory.find? credentials.email, origin.resolve with
    | some user, .ok device => l.set user.id device.id (entry pair)
    | _, _ => l
  | .refresh token origin, .ok (.pair pair) =>
    match subject? token, origin.resolve with
    | some user, .ok device => (l.clear user).set user device.id (entry pair)
    | _, _ => l
  | .logout user, .ok _ => l.clear user
  | .revokeDevice user device, .ok _ => l.remove user device
  | .deleteDevice user device, .ok _ => l.remove user device
  | _, _ => l

/-- Whether a token is the current one of its subject on a device, and has not ended. -/
def Current (l : Ledger) (token device : String) (now : Instant) : Prop :=
  ∃ user expiresAt, subject? token = some user ∧ l user device = some ⟨token, expiresAt⟩ ∧
    now < expiresAt

/-- Whether a token can be told from every current one by its digest. -/
def Distinguishes (l : Ledger) (token : String) : Prop :=
  ∀ user device e, l user device = some e → hashToken e.token = hashToken token → e.token = token

/-- A world and the ledger beside it after one thing. -/
def step (c : Controller) (s : World Memory × Ledger) (happens : Happening) : World Memory × Ledger :=
  (s.1.step c happens,
    match happens with
    | .serve r => s.2.next s.1.state.directory r (s.1.serve c r).1
    | _ => s.2)

/-- A world and the ledger beside it after several things, from the empty ledger on. -/
def run (c : Controller) (w : World Memory) (steps : List Happening) : World Memory × Ledger :=
  steps.foldl (step c) (w, empty)

/-! ### Entries and sessions -/

/-- An entry of the ledger agrees with a session: no entry with a revoked one or none, and an entry
with one that is not revoked and holds the digest and the end of the token. -/
def Backs (a : Issuer) (user : Uuid) : Option IssuedToken → Option Session → Prop
  | none, row => ∀ x, row = some x → x.revoked = true
  | some e, row =>
    (∃ now id, e.token = a.sign (a.claims .refresh user now e.expiresAt id)) ∧
      ∃ x, row = some x ∧ x.revoked = false ∧ x.tokenHash = hashToken e.token ∧
        x.expiresAt = e.expiresAt

/-- The ledger says what the sessions of a store say. -/
structure Mirrors (l : Ledger) (a : Issuer) (s : SessionStore) : Prop where
  consistent : s.Consistent
  backs : ∀ u d, Backs a u (l u d) (s.session? u d)

variable {l : Ledger} {a : Issuer} {s : SessionStore} {user : Uuid} {device : String}
  {held : Option IssuedToken} {row : Option Session}

theorem backs_revoke (row : Option Session) : Backs a user none (row.map Session.revoke) := by
  intro x found
  obtain ⟨y, -, rfl⟩ := Option.map_eq_some_iff.mp found
  rfl

/-- A change that keeps the token and whether it is revoked keeps the agreement. -/
theorem Backs.map (backs : Backs a user held row) {f : Session → Session}
    (revoked : ∀ x, (f x).revoked = x.revoked) (hash : ∀ x, (f x).tokenHash = x.tokenHash)
    (expires : ∀ x, (f x).expiresAt = x.expiresAt) : Backs a user held (row.map f) := by
  cases held with
  | none =>
    intro x found
    obtain ⟨y, before, rfl⟩ := Option.map_eq_some_iff.mp found
    rw [revoked]
    exact backs y before
  | some e =>
    obtain ⟨signed, x, rfl, live, hashed, ends⟩ := backs
    refine ⟨signed, f x, rfl, ?_, ?_, ?_⟩
    · rw [revoked, live]
    · rw [hash, hashed]
    · rw [expires, ends]

/-! ### The calls of the store -/

theorem mirrors_empty : Mirrors empty a {} where
  consistent := SessionStore.consistent_empty
  backs u d := by
    intro x found
    cases found

theorem Mirrors.isValid (mirrors : Mirrors l a s) (user : Uuid) (device : DeviceIdentity)
    (token : String) (now : Instant) : Mirrors l a (s.isValid user device token now).2 where
  consistent := SessionStore.consistent_answer mirrors.consistent now (.isValid user device token)
  backs u d := by
    rw [SessionStore.session?_isValid]
    refine (mirrors.backs u d).map ?_ ?_ ?_ <;> intro x <;> split <;> rfl

theorem Mirrors.renameDevice (mirrors : Mirrors l a s) (user : Uuid) (device name : String)
    (now : Instant) : Mirrors l a (s.renameDevice user device name).2 where
  consistent := SessionStore.consistent_answer mirrors.consistent now (.renameDevice user device name)
  backs u d := by
    rw [SessionStore.session?_renameDevice]
    exact mirrors.backs u d

theorem Mirrors.revokeAll (mirrors : Mirrors l a s) (user : Uuid) (now : Instant) :
    Mirrors (l.clear user) a (s.revokeAll user).2 where
  consistent := SessionStore.consistent_answer mirrors.consistent now (.revokeAll user)
  backs u d := by
    rw [mirrors.consistent.session?_revokeAll]
    unfold clear
    by_cases same : u = user
    · simp only [same, if_true]
      exact backs_revoke _
    · simp only [same, if_false, Option.map_id']
      exact mirrors.backs u d

theorem Mirrors.revokeDevice (mirrors : Mirrors l a s) (user : Uuid) (device : String)
    (now : Instant) : Mirrors (l.remove user device) a (s.revokeDevice user device).2 where
  consistent := SessionStore.consistent_answer mirrors.consistent now (.revokeDevice user device)
  backs u d := by
    rw [SessionStore.session?_revokeDevice]
    unfold remove
    by_cases same : u = user ∧ d = device
    · simp only [same, and_self, if_true]
      exact backs_revoke _
    · simp only [same, if_false, Option.map_id']
      exact mirrors.backs u d

theorem Mirrors.deleteDevice (mirrors : Mirrors l a s) (user : Uuid) (device : String) :
    Mirrors (l.remove user device) a (s.deleteDevice user device).2 where
  consistent := SessionStore.consistent_deleteDevice mirrors.consistent user device
  backs u d := by
    rw [SessionStore.session?_deleteDevice]
    unfold remove
    by_cases same : u = user ∧ d = device
    · simp only [same, and_self, if_true]
      intro x found
      cases found
    · simp only [same, if_false]
      exact mirrors.backs u d

/-- A device that is not there has no current token. -/
theorem Mirrors.remove_absent (mirrors : Mirrors l a s) (absent : s.device? user device = none) :
    l.remove user device = l := by
  funext u d
  unfold remove
  split
  · rename_i same
    obtain ⟨rfl, rfl⟩ := same
    have backs := mirrors.backs u d
    cases known : l u d with
    | none => rfl
    | some e =>
      rw [known] at backs
      obtain ⟨-, x, found, -⟩ := backs
      have present := mirrors.consistent.device found
      rw [absent] at present
      cases present
  · rfl

theorem Mirrors.create (mirrors : Mirrors l a s) {user : Uuid} {e : IssuedToken}
    {device : DeviceIdentity} {now : Instant}
    (signed : ∃ now id, e.token = a.sign (a.claims .refresh user now e.expiresAt id)) :
    Mirrors (l.set user device.id e) a
      (s.create user (hashToken e.token) e.expiresAt device now).2 where
  consistent := SessionStore.consistent_create mirrors.consistent user _ _ device now
  backs u d := by
    rw [SessionStore.session?_create]
    unfold set
    by_cases same : u = user ∧ d = device.id
    · obtain ⟨rfl, rfl⟩ := same
      simp only [and_self, if_true]
      exact ⟨signed, _, rfl, rfl, rfl, rfl⟩
    · simp only [same, if_false]
      exact mirrors.backs u d

/-! ### Operations -/

variable {w w' : World Memory} {c : Controller} {r : Operation} {result : Result Response}
  {calls : List StoreCall}

theorem signed_of_issued {pair : TokenPair} (issued : w.Issued w' user pair) :
    ∃ now id, (Ledger.entry pair).token =
      w.issuer.sign (w.issuer.claims .refresh user now (Ledger.entry pair).expiresAt id) := by
  obtain ⟨-, -, n, -, -, -, refresh⟩ := issued
  exact ⟨w.now, _, refresh⟩

theorem next_error (l : Ledger) (directory : Directory) (r : Operation) (e : Error) :
    l.next directory r (.error e) = l := by
  cases r <;> rfl

theorem next_query (l : Ledger) (directory : Directory) (query : r.isQuery = true)
    (result : Result Response) : l.next directory r result = l := by
  cases r <;> first | rfl | cases query

/-- Serving a request keeps the ledger true. -/
theorem Mirrors.next (mirrors : Mirrors l w.issuer w.state.store) (smooth : w.Smooth)
    (served : w.Served r result calls w') :
    Mirrors (l.next w.state.directory r result) w.issuer (w.state.store.follow w.now calls) := by
  cases served with
  | refused =>
    rw [next_error]
    exact mirrors
  | queried query reads =>
    rw [next_query l _ query, SessionStore.follow_queries reads]
    exact mirrors
  | loggedIn known resolved issued =>
    simp only [Ledger.next, known, resolved]
    exact mirrors.create (signed_of_issued issued)
  | superseded presents stale => exact mirrors.isValid _ _ _ _
  | checked presents valid => exact mirrors.isValid _ _ _ _
  | dropped presents valid fault => exact absurd (smooth _) fault
  | rotated presents valid issued =>
    obtain ⟨claims, checked, kind, rfl⟩ := presents.parsed
    simp only [Ledger.next, subject?_of_check checked, presents.resolved]
    exact ((mirrors.isValid _ _ _ _).revokeAll _ w.now).create (signed_of_issued issued)
  | loggedOut => exact mirrors.revokeAll _ w.now
  | renamed named present => exact mirrors.renameDevice _ _ _ w.now
  | unnamed named absent => exact mirrors.renameDevice _ _ _ w.now
  | deleted present => exact mirrors.deleteDevice _ _
  | @missing user device w' absent =>
    have deleted := mirrors.deleteDevice user device
    rw [mirrors.remove_absent absent] at deleted
    exact deleted
  | revoked => exact mirrors.revokeDevice _ _ w.now

/-! ### Histories -/

theorem step_mirrors {s : World Memory × Ledger} (mirrors : Mirrors s.2 s.1.issuer s.1.state.store)
    (smooth : s.1.Smooth) {happens : Happening} (noFault : happens.isFault = false) :
    Mirrors (step c s happens).2 (step c s happens).1.issuer (step c s happens).1.state.store := by
  obtain ⟨w, l⟩ := s
  cases happens with
  | wait time =>
    change Mirrors l (w.waitUntil time).issuer (w.waitUntil time).state.store
    rcases World.waitUntil_cases w time with same | ⟨-, same⟩ <;> rw [same] <;> exact mirrors
  | enroll user => exact mirrors
  | fail target delay failure => cases noFault
  | heal target => exact mirrors
  | serve r =>
    obtain ⟨calls, runs, served⟩ := World.serve_cases smooth.clean c r
    have next := mirrors.next smooth served
    rw [← runs.store smooth.clean, ← runs.kept.issuer] at next
    exact next

theorem run_fst (c : Controller) (w : World Memory) (l : Ledger) (steps : List Happening) :
    (steps.foldl (step c) (w, l)).1 = w.after c steps := by
  induction steps generalizing w l with
  | nil => rfl
  | cons s steps ih => exact ih _ _

theorem run_mirrors {steps : List Happening} (noFault : ∀ s ∈ steps, s.isFault = false)
    (smooth : w.Smooth) (mirrors : Mirrors l w.issuer w.state.store) :
    Mirrors (steps.foldl (step c) (w, l)).2 (steps.foldl (step c) (w, l)).1.issuer
      (steps.foldl (step c) (w, l)).1.state.store := by
  induction steps generalizing w l with
  | nil => exact mirrors
  | cons s steps ih =>
    have first := noFault s List.mem_cons_self
    exact ih (fun t member => noFault t (List.mem_cons_of_mem _ member))
      (World.step_smooth smooth first) (step_mirrors mirrors smooth first)

/-! ### What a refresh decides -/

/-- The current token of its subject on the device it comes from is accepted, and no other, as long
as no token stands for another one under the digest. -/
theorem Mirrors.accepts_iff (mirrors : Mirrors l w.issuer w.state.store) (late : 5 ≤ w.now.secs)
    {token : String} {origin : DeviceMetadata} {identity : DeviceIdentity}
    (resolved : origin.resolve = .ok identity)
    (distinct : l.Distinguishes token) :
    (∃ user, w.Presents token origin user identity ∧ w.accepts user identity token = true) ↔
      l.Current token identity.id w.now := by
  constructor
  · rintro ⟨user, presents, valid⟩
    obtain ⟨claims, checked, -, rfl⟩ := presents.parsed
    obtain ⟨x, found, accepted⟩ := SessionStore.isValid_iff.mp valid
    obtain ⟨live, current, digest⟩ := SessionStore.accepts_iff.mp accepted
    have backs := mirrors.backs claims.subject identity.id
    cases known : l claims.subject identity.id with
    | none =>
      rw [known] at backs
      rw [backs x found] at live
      cases live
    | some e =>
      rw [known] at backs
      obtain ⟨-, y, found', -, hashed, ends⟩ := backs
      obtain rfl : x = y := Option.some.inj (found.symm.trans found')
      have same : e.token = token := distinct _ _ e known (hashed.symm.trans digest)
      refine ⟨claims.subject, e.expiresAt, subject?_of_check checked, ?_, ?_⟩
      · rw [← same]
        exact known
      · rw [← ends]
        exact current
  · rintro ⟨user, expiresAt, -, known, current⟩
    have backs := mirrors.backs user identity.id
    rw [known] at backs
    obtain ⟨⟨issued, id, signed⟩, x, found, live, hashed, ends⟩ := backs
    dsimp only at signed hashed ends
    have checked := w.issuer.check_claims .refresh user issued id late
      (Instant.secs_le_of_lt current)
    rw [← signed] at checked
    refine ⟨user, ⟨⟨_, checked, rfl, rfl⟩, resolved⟩, SessionStore.isValid_iff.mpr ⟨x, found, ?_⟩⟩
    rw [← ends] at current
    exact SessionStore.accepts_iff.mpr ⟨live, current, hashed⟩

/-- A refresh is answered with a pair exactly where its token is accepted and a pair can be
issued. -/
theorem refresh_iff_accepts (smooth : w.Smooth) (c : Controller) (token : String)
    (origin : DeviceMetadata) {identity : DeviceIdentity} (resolved : origin.resolve = .ok identity) :
    (∃ pair, (w.serve c (.refresh token origin)).1 = .ok (.pair pair)) ↔
      (∃ user, w.Presents token origin user identity ∧ w.accepts user identity token = true) ∧
        w.CanIssue := by
  constructor
  · rintro ⟨pair, answered⟩
    obtain ⟨calls, -, served⟩ := World.serve_cases smooth.clean c (.refresh token origin)
    rw [answered] at served
    cases served with
    | queried query => cases query
    | @rotated _ _ user device _ _ presents valid issued =>
      obtain rfl : device = identity := Except.ok.inj (presents.resolved.symm.trans resolved)
      refine ⟨⟨user, presents, valid⟩, fun kind => ?_⟩
      cases kind with
      | access => exact ⟨_, issued.access⟩
      | refresh => exact ⟨_, issued.refresh⟩
  · rintro ⟨⟨user, presents, valid⟩, canIssue⟩
    exact smooth.refresh_accepts canIssue c presents valid

/-! ### One login -/

theorem set_distinguishes (user : Uuid) (device : String) (e : IssuedToken) :
    (empty.set user device e).Distinguishes e.token := by
  intro u d other known _
  unfold set at known
  split at known
  · rw [Option.some.inj known]
  · cases known

theorem run_serve_wait (c : Controller) (w : World Memory) (r : Operation) (time : Instant) :
    (run c w [.serve r, .wait time]).2 = empty.next w.state.directory r (w.serve c r).1 := rfl

theorem after_serve_wait (c : Controller) (w : World Memory) (r : Operation) (time : Instant) :
    w.after c [.serve r, .wait time] = (w.serve c r).2.waitUntil time := rfl

/-- A login makes the refresh token that it returns current, until its end. -/
theorem login_current (smooth : w.Smooth) (canIssue : w.CanIssue) (c : Controller)
    {credentials : Credentials} {origin : DeviceMetadata} {user : User} {device : DeviceIdentity}
    (admits : w.Admits credentials origin user device) (time : Instant) (later : ¬time < w.now)
    (early : ∀ e, w.issuer.expiry .refresh w.now = .ok e → time < e) :
    ∃ token, (run c w [.serve (.login credentials origin), .wait time]).2.Distinguishes token ∧
      (run c w [.serve (.login credentials origin), .wait time]).2.Current token device.id
        (w.after c [.serve (.login credentials origin), .wait time]).now ∧
      (w.after c [.serve (.login credentials origin), .wait time]).now = time := by
  obtain ⟨pair, answered, -⟩ := smooth.login_accepts canIssue c admits
  obtain ⟨calls, runs, served⟩ := World.serve_cases smooth.clean c (.login credentials origin)
  obtain ⟨known, -, -, resolved⟩ := admits
  have follows : (run c w [.serve (.login credentials origin), .wait time]).2 =
      empty.set user.id device.id (entry pair) := by
    rw [run_serve_wait, answered]
    simp only [next, known, resolved]
  have waited : (w.after c [.serve (.login credentials origin), .wait time]).now = time := by
    rw [after_serve_wait]
    unfold World.waitUntil
    rw [runs.kept.now, if_neg later]
  rw [answered] at served
  cases served with
  | queried query => cases query
  | @loggedIn _ _ found _ _ _ there _ issued =>
    obtain rfl : found = user := Option.some.inj (there.symm.trans known)
    obtain ⟨-, expiry, n, -, -, -, signed⟩ := issued
    refine ⟨pair.refreshToken, ?_, ?_, waited⟩
    · rw [follows]
      exact set_distinguishes _ _ (entry pair)
    · refine ⟨found.id, pair.refreshExpiresAt, ?_, ?_, ?_⟩
      · rw [signed, subject?_sign]
        rfl
      · rw [follows]
        simp [set, entry]
      · rw [waited]
        exact early _ expiry

/-- After every history without faults from an empty store on, a refresh is answered with a pair
exactly where its token is the current one of its subject on its device, and a pair can be issued:
neither token may end after the last time there is. -/
theorem refresh_ok_iff_current (c : Controller) {w : World Memory} (smooth : w.Smooth)
    (noSessions : w.state.store = {}) (late : 5 ≤ w.now.secs) {steps : List Happening}
    (noFault : ∀ s ∈ steps, s.isFault = false) {token : String} {origin : DeviceMetadata}
    {identity : DeviceIdentity} (resolved : origin.resolve = .ok identity)
    (distinct : (run c w steps).2.Distinguishes token) :
    (∃ pair, ((w.after c steps).serve c (.refresh token origin)).1 = .ok (.pair pair)) ↔
      (run c w steps).2.Current token identity.id (w.after c steps).now ∧
        (w.after c steps).CanIssue := by
  have mirrors : Mirrors empty w.issuer w.state.store := by
    rw [noSessions]
    exact mirrors_empty
  have smooth' := World.after_smooth (c := c) smooth noFault
  have mirrors' := run_mirrors (c := c) noFault smooth mirrors
  rw [run_fst] at mirrors'
  have later := Instant.secs_le_of_not_lt (World.after_past (c := c) smooth.clean steps).now
  have accepts := mirrors'.accepts_iff (by omega) resolved distinct
  rw [refresh_iff_accepts smooth' c token origin resolved, accepts]
  rfl

theorem refresh_ok_after_login :
    ∃ (token : String) (device : DeviceIdentity) (steps : List Happening),
      soleOrigin.resolve = .ok device ∧
      (run ⟨⟨0⟩⟩ (.small (.ofSecs 1000)) steps).2.Distinguishes token ∧
      ∃ pair, (((World.small (.ofSecs 1000)).after ⟨⟨0⟩⟩ steps).serve ⟨⟨0⟩⟩
        (.refresh token soleOrigin)).1 = .ok (.pair pair) := by
  have smooth := World.small_smooth (.ofSecs 1000)
  have canIssue : (World.small (.ofSecs 1000)).CanIssue :=
    World.canIssue_of_early (by decide) fun kind => by cases kind <;> decide
  have early : ∀ e, (World.small (.ofSecs 1000)).issuer.expiry .refresh (.ofSecs 1000) = .ok e →
      Instant.ofSecs 2000 < e := by
    intro e expiry
    rw [Instant.lt_iff, (World.expiry_ok expiry).1]
    exact Or.inl (by decide)
  obtain ⟨device, admits⟩ := World.small_admits (.ofSecs 1000)
  obtain ⟨token, distinct, current, now⟩ :=
    login_current smooth canIssue ⟨⟨0⟩⟩ admits (.ofSecs 2000) (by decide) early
  have past := World.after_past (c := ⟨⟨0⟩⟩) smooth.clean
    [.serve (.login soleCredentials soleOrigin), .wait (.ofSecs 2000)]
  refine ⟨token, device, _, admits.resolved, distinct, ?_⟩
  refine (refresh_ok_iff_current ⟨⟨0⟩⟩ smooth rfl (by decide) (by simp [Happening.isFault])
    admits.resolved distinct).mpr ⟨current, World.canIssue_of_early ?_ ?_⟩
  · rw [now]
    decide
  · rw [now, past.issuer]
    intro kind
    cases kind <;> decide

/-- A current token is not enough: where time ends before a new token would, it is refused. -/
theorem current_not_enough :
    ¬∀ (c : Controller) (w : World Memory), w.Smooth → w.state.store = {} → 5 ≤ w.now.secs →
      ∀ steps : List Happening, (∀ s ∈ steps, s.isFault = false) →
      ∀ (token : String) (origin : DeviceMetadata) (identity : DeviceIdentity),
        origin.resolve = .ok identity → (run c w steps).2.Distinguishes token →
        ((∃ pair, ((w.after c steps).serve c (.refresh token origin)).1 = .ok (.pair pair)) ↔
          (run c w steps).2.Current token identity.id (w.after c steps).now) := by
  intro claimed
  have smooth := World.small_smooth (.ofSecs 8210266271999)
  have canIssue : (World.small (.ofSecs 8210266271999)).CanIssue :=
    World.canIssue_of_early (by decide) fun kind => by cases kind <;> decide
  have early : ∀ e, (World.small (.ofSecs 8210266271999)).issuer.expiry .refresh
      (.ofSecs 8210266271999) = .ok e → Instant.ofSecs 8210266272000 < e := by
    intro e expiry
    rw [Instant.lt_iff, (World.expiry_ok expiry).1]
    exact Or.inl (by decide)
  obtain ⟨device, admits⟩ := World.small_admits (.ofSecs 8210266271999)
  obtain ⟨token, distinct, current, now⟩ :=
    login_current smooth canIssue ⟨⟨0⟩⟩ admits (.ofSecs 8210266272000) (by decide) early
  have noFault : ∀ s ∈ [Happening.serve (.login soleCredentials soleOrigin),
      .wait (.ofSecs 8210266272000)], s.isFault = false := by simp [Happening.isFault]
  have accepted := (claimed ⟨⟨0⟩⟩ _ smooth rfl (by decide) _ noFault token _ device admits.resolved
    distinct).mpr current
  have issues := ((refresh_iff_accepts (World.after_smooth smooth noFault) ⟨⟨0⟩⟩ token soleOrigin
    admits.resolved).mp accepted).2
  obtain ⟨expiresAt, expiry⟩ := issues .refresh
  rw [now, (World.after_past (c := ⟨⟨0⟩⟩) smooth.clean _).issuer] at expiry
  have latest := expiresAt.le_latest
  rw [(World.expiry_ok expiry).1] at latest
  exact absurd latest (by decide)

end Ledger

end DeviceSessions
