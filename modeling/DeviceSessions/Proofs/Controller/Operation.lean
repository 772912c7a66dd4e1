import DeviceSessions.Proofs.Controller.Run
import DeviceSessions.Proofs.Session.Store

/-!
# Operations

The operations of a controller as data, and `serve_cases`: everything that serving one request can
come to, in a world whose failing calls are not made.
-/

namespace DeviceSessions

/-- What a client can ask of a controller. -/
inductive Operation where
  | login (credentials : Credentials) (origin : DeviceMetadata)
  | refresh (token : String) (origin : DeviceMetadata)
  | logout (user : Uuid)
  | authenticate (token : String)
  | listDevices (user : Uuid)
  | findDevice (user : Uuid) (device : String)
  | renameDevice (user : Uuid) (device text : String)
  | deleteDevice (user : Uuid) (device : String)
  | revokeDevice (user : Uuid) (device : String)
  deriving DecidableEq, Repr

/-- What a request is answered with. -/
inductive Response where
  | pair (pair : TokenPair)
  | caller (context : AuthContext)
  | devices (devices : List Device)
  | device (device : Device)
  | done
  deriving DecidableEq, Repr

namespace Controller

/-- The operation that a request asks for. -/
def serve (c : Controller) : Operation → Action Response
  | .login credentials origin => do return .pair (← c.login credentials origin)
  | .refresh token origin => do return .pair (← c.refresh token origin)
  | .logout user => do let _ ← c.logout user; return .done
  | .authenticate token => do return .caller (← authenticate token)
  | .listDevices user => do return .devices (← c.listDevices user)
  | .findDevice user device => do return .device (← c.device user device)
  | .renameDevice user device text => do let _ ← c.renameDevice user device text; return .done
  | .deleteDevice user device => do let _ ← c.deleteDevice user device; return .done
  | .revokeDevice user device => do let _ ← c.revokeDevice user device; return .done

/-- The part of a refresh before the rotation. -/
def enter (c : Controller) (token : String) (origin : DeviceMetadata) :
    Action (Uuid × DeviceIdentity) := do
  let user ← refreshUser token
  let device ← Action.ofResult origin.resolve
  let valid : Bool ← c.useStore "refresh" (.isValid user device token)
  if valid = false then
    Action.log .warn "Refresh rejected: token revoked, superseded, or from another device"
      [userField user, deviceField device.id]
    throw tokenRevoked
  return (user, device)

/-- The part of a refresh from the rotation on. -/
def conclude (c : Controller) (user : Uuid) (device : DeviceIdentity) : Action Response := do
  return .pair (← c.rotate user device)

theorem refresh_eq (c : Controller) (token : String) (origin : DeviceMetadata) :
    c.refresh token origin = c.enter token origin >>= fun (user, device) => c.rotate user device := by
  unfold refresh enter
  simp only [bind_assoc]
  refine bind_congr fun user => bind_congr fun device => ?_
  refine Eq.trans ?_ (bind_assoc _ _ _).symm
  refine bind_congr fun valid => ?_
  cases valid with
  | false => rfl
  | true => rfl

theorem serve_refresh (c : Controller) (token : String) (origin : DeviceMetadata) :
    c.serve (.refresh token origin) =
      c.enter token origin >>= fun (user, device) => c.conclude user device := by
  change c.refresh token origin >>= _ = _
  rw [refresh_eq, bind_assoc]
  rfl

/-- The part of a rotation that leaves a user without sessions. -/
def prepare (c : Controller) (user : Uuid) : Action (TokenPair × Nat) := do
  let pair ← issueFor "refresh" user
  let revoked : Nat ← c.useStore "refresh" (.revokeAll user)
  return (pair, revoked)

/-- The part of a rotation that opens a session. -/
def record (c : Controller) (user : Uuid) (device : DeviceIdentity) (pair : TokenPair)
    (revoked : Nat) : Action TokenPair := do
  match ← c.askStore (recording user pair device) with
  | .error e =>
    Action.log .error "Rotation failed after revocation; user is logged out" [userField user]
    surface "refresh" e
  | .ok _ =>
    Action.log .info "Refresh token rotated"
      [userField user, deviceField device.id, revokedField revoked]
    return pair

theorem rotate_eq (c : Controller) (user : Uuid) (device : DeviceIdentity) :
    c.rotate user device =
      c.prepare user >>= fun (pair, revoked) => c.record user device pair revoked := by
  unfold prepare rotate
  rw [bind_assoc]
  refine bind_congr fun pair => Eq.trans ?_ (bind_assoc _ _ _).symm
  rfl

theorem conclude_eq (c : Controller) (user : Uuid) (device : DeviceIdentity) :
    c.conclude user device = c.prepare user >>= fun (pair, revoked) =>
      c.record user device pair revoked >>= fun pair => pure (.pair pair) := by
  unfold conclude
  rw [rotate_eq, bind_assoc]

end Controller

/-- Whether a request only asks. -/
def Operation.isQuery : Operation → Bool
  | .authenticate _ | .listDevices _ | .findDevice .. => true
  | _ => false

/-- Whether a request is a login. -/
def Operation.isLogin : Operation → Bool
  | .login .. => true
  | _ => false

/-- Calls that only ask leave the store as it is. -/
theorem SessionStore.follow_queries {s : SessionStore} {now : Instant} {calls : List StoreCall}
    (reads : ∀ call ∈ calls, call.isQuery = true) : s.follow now calls = s := by
  induction calls with
  | nil => rfl
  | cons call calls ih =>
    change (s.answer now call).2.follow now calls = s
    rw [answer_query s now (reads call List.mem_cons_self)]
    exact ih fun c member => reads c (List.mem_cons_of_mem _ member)

namespace World

/-- Serves a request. -/
def serve (c : Controller) (w : World Memory) (r : Operation) : Result Response × World Memory :=
  w.run Memory.backend (c.serve r)

/-- A pair was issued for a user between two worlds, with identifiers that were drawn there. -/
structure Issued (w w' : World Memory) (user : Uuid) (pair : TokenPair) : Prop where
  access : w.issuer.expiry .access w.now = .ok pair.accessExpiresAt
  refresh : w.issuer.expiry .refresh w.now = .ok pair.refreshExpiresAt
  drawn : ∃ n, w.idsDrawn ≤ n ∧ n + 1 < w'.idsDrawn ∧
    pair.accessToken =
      w.issuer.sign (w.issuer.claims .access user w.now pair.accessExpiresAt (w.ids n)) ∧
    pair.refreshToken =
      w.issuer.sign (w.issuer.claims .refresh user w.now pair.refreshExpiresAt (w.ids (n + 1)))

/-- A refresh token of a user is presented from a device. -/
structure Presents (w : World Memory) (token : String) (origin : DeviceMetadata) (user : Uuid)
    (device : DeviceIdentity) : Prop where
  parsed : ∃ claims, w.issuer.check token w.now = .ok claims ∧ claims.kind = .refresh ∧
    claims.subject = user
  resolved : origin.resolve = .ok device

/-- Whether a refresh token is the one that is good now. -/
def accepts (w : World Memory) (user : Uuid) (device : DeviceIdentity) (token : String) : Bool :=
  (w.state.store.isValid user device token w.now).1

variable {w w' w₁ w₂ : World Memory}

/-- Everything that serving a request can come to: the answer, the calls that the store has
answered, and the world after it. -/
inductive Served (w : World Memory) :
    Operation → Result Response → List StoreCall → World Memory → Prop where
  | refused {r e w'} : Served w r (.error e) [] w'
  | queried {r answer calls w'} (query : r.isQuery = true)
      (reads : ∀ call ∈ calls, call.isQuery = true) : Served w r answer calls w'
  | loggedIn {credentials origin user device pair w'}
      (known : w.state.directory.find? credentials.email = some user)
      (resolved : origin.resolve = .ok device) (issued : w.Issued w' user.id pair) :
      Served w (.login credentials origin) (.ok (.pair pair))
        [Controller.recording user.id pair device] w'
  | superseded {token origin user device w'} (presents : w.Presents token origin user device)
      (stale : w.accepts user device token = false) :
      Served w (.refresh token origin) (.error Controller.tokenRevoked)
        [.isValid user device token] w'
  /-- A rotation that ends after the check of the token and before the revocation. -/
  | checked {token origin user device e w'} (presents : w.Presents token origin user device)
      (valid : w.accepts user device token = true) :
      Served w (.refresh token origin) (.error e) [.isValid user device token] w'
  /-- A rotation that ends after the revocation, without a new session. -/
  | dropped {token origin user device e w'} (presents : w.Presents token origin user device)
      (valid : w.accepts user device token = true) (fault : w.faults .create ≠ none) :
      Served w (.refresh token origin) (.error e)
        [.isValid user device token, .revokeAll user] w'
  | rotated {token origin user device pair w'} (presents : w.Presents token origin user device)
      (valid : w.accepts user device token = true) (issued : w.Issued w' user pair) :
      Served w (.refresh token origin) (.ok (.pair pair))
        [.isValid user device token, .revokeAll user, Controller.recording user pair device] w'
  | loggedOut {user w'} : Served w (.logout user) (.ok .done) [.revokeAll user] w'
  | renamed {user device text name w'} (named : Controller.deviceName text = .ok name)
      (present : (w.state.store.device? user device).isSome) :
      Served w (.renameDevice user device text) (.ok .done) [.renameDevice user device name] w'
  | unnamed {user device text name w'} (named : Controller.deviceName text = .ok name)
      (absent : w.state.store.device? user device = none) :
      Served w (.renameDevice user device text) (.error Controller.noDevice)
        [.renameDevice user device name] w'
  | deleted {user device w'} (present : (w.state.store.device? user device).isSome) :
      Served w (.deleteDevice user device) (.ok .done) [.deleteDevice user device] w'
  | missing {user device w'} (absent : w.state.store.device? user device = none) :
      Served w (.deleteDevice user device) (.error Controller.noDevice)
        [.deleteDevice user device] w'
  | revoked {user device w'} :
      Served w (.revokeDevice user device) (.ok .done) [.revokeDevice user device] w'

/-! ### What an action comes to -/

section Outcomes

variable {α β : Type} {x : Action α} {f : α → Action β} {a : α} {calls : List StoreCall}

/-- What an action comes to here, with the calls that the store has answered, is of some kind. -/
def Comes (w : World Memory) (x : Action α)
    (P : Result α → List StoreCall → World Memory → Prop) : Prop :=
  ∃ r calls w', w.Runs x r calls w' ∧ P r calls w'

/-- An action that fails here before the store has answered a call. -/
def Refuses (w : World Memory) (x : Action α) : Prop := ∃ e w', w.Runs x (.error e) [] w'

theorem Comes.after {P : Result β → List StoreCall → World Memory → Prop}
    (first : w.Runs x (.ok a) calls w₁)
    (comes : w₁.Comes (f a) fun r calls' => P r (calls ++ calls')) : w.Comes (x >>= f) P := by
  obtain ⟨r, calls', w', runs, holds⟩ := comes
  exact ⟨r, calls ++ calls', w', first.bind runs, holds⟩

theorem Comes.map {g : α → β} {P : Result β → List StoreCall → World Memory → Prop}
    (comes : w.Comes x fun r => P (r.map g)) : w.Comes (x >>= fun a => pure (g a)) P := by
  obtain ⟨r, calls, w', runs, holds⟩ := comes
  cases r with
  | error e => exact ⟨_, calls, w', runs.bind_error, holds⟩
  | ok a =>
    refine ⟨_, calls, w', ?_, holds⟩
    have ends : w.Runs (x >>= fun a => pure (g a)) (.ok (g a)) (calls ++ []) w' :=
      runs.bind (runs_pure w' (g a))
    rw [List.append_nil] at ends
    exact ends

theorem Refuses.comes {P : Result α → List StoreCall → World Memory → Prop}
    (refuses : w.Refuses x) (holds : ∀ e w', P (.error e) [] w') : w.Comes x P := by
  obtain ⟨e, w', runs⟩ := refuses
  exact ⟨_, _, w', runs, holds e w'⟩

theorem refuses_throw (w : World Memory) (e : Error) : w.Refuses (throw e : Action α) :=
  ⟨e, w, runs_throw w e⟩

theorem refuses_surface (w : World Memory) (operation : String) (e : Error) :
    w.Refuses (Controller.surface operation e : Action α) := by
  obtain ⟨log, shown⟩ := runs_surface (α := α) w operation e
  exact ⟨_, _, shown⟩

theorem Refuses.bind (refuses : w.Refuses x) (f : α → Action β) : w.Refuses (x >>= f) := by
  obtain ⟨e, w', failed⟩ := refuses
  exact ⟨e, w', failed.bind_error⟩

theorem Refuses.after (first : w.Runs x (.ok a) [] w₁) (refuses : w₁.Refuses (f a)) :
    w.Refuses (x >>= f) := by
  obtain ⟨e, w', failed⟩ := refuses
  exact ⟨e, w', first.bind failed⟩

theorem Refuses.after_log {f : Unit → Action β} {level : Level} {message : String}
    {fields : List (String × FieldValue)} (refuses : ∀ w' : World Memory, w'.Refuses (f ())) :
    w.Refuses (Action.log level message fields >>= f) :=
  .after (runs_log w _ _ _) (refuses _)

end Outcomes

/-! ### Issuing -/

/-- The token that is issued next. -/
def nextToken (w : World Memory) (kind : TokenKind) (user : Uuid) (expiresAt : Instant) :
    IssuedToken :=
  ⟨w.issuer.sign (w.issuer.claims kind user w.now expiresAt (w.ids w.idsDrawn)), expiresAt⟩

/-- The world after an identifier was drawn. -/
def drawn (w : World Memory) : World Memory := { w with idsDrawn := w.idsDrawn + 1 }

theorem issue_ok {kind : TokenKind} (unfailed : w.failure? (.issue kind) = none)
    {expiresAt : Instant} (expiry : w.issuer.expiry kind w.now = .ok expiresAt) (user : Uuid) :
    w.issue kind user = (.ok (w.nextToken kind user expiresAt), w.drawn) := by
  unfold issue
  rw [unfailed]
  simp only [drawId, Issuer.issue, expiry]
  rfl

theorem issue_failed {kind : TokenKind} {e : Error} (failed : w.failure? (.issue kind) = some e)
    (user : Uuid) : w.issue kind user = (.error e, w) := by
  unfold issue
  rw [failed]

theorem issue_refused {kind : TokenKind} (unfailed : w.failure? (.issue kind) = none) {e : Error}
    (expiry : w.issuer.expiry kind w.now = .error e) (user : Uuid) :
    w.issue kind user = (.error e, w) := by
  unfold issue
  rw [unfailed, expiry]

theorem issue_cases (w : World Memory) (kind : TokenKind) (user : Uuid) :
    (∃ expiresAt, w.issuer.expiry kind w.now = .ok expiresAt ∧
      w.issue kind user = (.ok (w.nextToken kind user expiresAt), w.drawn)) ∨
      ∃ e, w.issue kind user = (.error e, w) := by
  cases failure : w.failure? (.issue kind) with
  | some e => exact Or.inr ⟨e, issue_failed failure user⟩
  | none =>
    cases expiry : w.issuer.expiry kind w.now with
    | error e => exact Or.inr ⟨e, issue_refused failure expiry user⟩
    | ok expiresAt => exact Or.inl ⟨expiresAt, rfl, issue_ok failure expiry user⟩

/-- Issuing makes no call of the store. -/
theorem runs_issue (w : World Memory) (kind : TokenKind) (user : Uuid) :
    w.Runs (Action.call (.issue kind user)) (.ok (w.issue kind user).1) [] (w.issue kind user).2 :=
  runs_call w (.issue kind user)

theorem issuePair_cases (w : World Memory) (user : Uuid) :
    (∃ pair w', w.Runs (Controller.issuePair user) (.ok (.ok pair)) [] w' ∧
      w.Issued w' user pair) ∨
      ∃ e w', w.Runs (Controller.issuePair user) (.ok (.error e)) [] w' := by
  unfold Controller.issuePair
  have first := runs_issue w .access user
  rcases issue_cases w .access user with ⟨accessEnds, accessExpiry, access⟩ | ⟨e, access⟩
  · rw [access] at first
    have second := runs_issue w.drawn .refresh user
    rcases issue_cases w.drawn .refresh user with ⟨refreshEnds, refreshExpiry, refresh⟩ | ⟨e, refresh⟩
    · left
      rw [refresh] at second
      refine ⟨_, w.drawn.drawn, first.bind (second.bind (runs_pure _ _)), accessExpiry, refreshExpiry,
        w.idsDrawn, Nat.le_refl _, Nat.lt_succ_self _, rfl, rfl⟩
    · right
      rw [refresh] at second
      exact ⟨e, w.drawn, first.bind (second.bind (runs_pure _ _))⟩
  · right
    rw [access] at first
    exact ⟨e, w, first.bind (runs_pure _ _)⟩

theorem issueFor_cases (w : World Memory) (operation : String) (user : Uuid) :
    (∃ pair w', w.Runs (Controller.issueFor operation user) (.ok pair) [] w' ∧
      w.Issued w' user pair) ∨ w.Refuses (Controller.issueFor operation user) := by
  unfold Controller.issueFor
  rcases issuePair_cases w user with ⟨pair, w', paired, issued⟩ | ⟨e, w', failed⟩
  · exact Or.inl ⟨pair, w', paired.bind (runs_pure _ _), issued⟩
  · exact Or.inr (.after failed (refuses_surface w' _ _))

theorem Issued.earlier {user : Uuid} {pair : TokenPair} (issued : w₁.Issued w' user pair)
    (kept : w.Kept w₁) : w.Issued w' user pair := by
  obtain ⟨access, refresh, n, low, high, accessToken, refreshToken⟩ := issued
  rw [kept.issuer, kept.now] at access refresh accessToken refreshToken
  rw [kept.ids] at accessToken refreshToken
  exact ⟨access, refresh, n, Nat.le_trans kept.idsDrawn low, high, accessToken, refreshToken⟩

theorem Issued.later {user : Uuid} {pair : TokenPair} (issued : w.Issued w₁ user pair)
    (kept : w₁.Kept w') : w.Issued w' user pair := by
  obtain ⟨access, refresh, n, low, high, tokens⟩ := issued
  exact ⟨access, refresh, n, low, Nat.lt_of_lt_of_le high kept.idsDrawn, tokens⟩

/-! ### Logging in -/

theorem findUser_cases (clean : w.Clean) (c : Controller) (email : String) :
    ∃ reply, w.Runs (Action.call (.findUser email)) (.ok reply) [] w ∧
      ∀ found, c.bounded "user_directory.find_by_email" reply = .ok found →
        w.state.directory.find? email = found := by
  have asked := runs_call w (.findUser email)
  rcases make_cases clean .findUser (Memory.backend.findUser email) with
    made | ⟨-, reply, made, failed⟩
  · rw [show answer Memory.backend (.findUser email) w = _ from made] at asked
    refine ⟨_, asked, fun found bound => ?_⟩
    cases bound
    rfl
  · rw [show answer Memory.backend (.findUser email) w = _ from made] at asked
    exact ⟨reply, asked, fun found bound => (failed found (bounded_ok bound)).elim⟩

theorem runs_compare (w : World Memory) (hash password : String) :
    w.Runs (Action.call (.compare hash password)) (.ok (w.compare hash password).1) []
      (w.compare hash password).2 :=
  runs_call w (.compare hash password)

theorem compareDecoy_runs (w : World Memory) (password : String) :
    ∃ w', w.Runs (Controller.compareDecoy password) (.ok ()) [] w' ∧ w'.state = w.state ∧
      w'.idsDrawn = w.idsDrawn := by
  unfold Controller.compareDecoy
  have asked : w.Runs (Action.call .decoy) (.ok w.askDecoy.1) [] w.askDecoy.2 := runs_call w .decoy
  have state := (askDecoy_still w).2
  have drawn := idsDrawn_askDecoy w
  cases kept : w.askDecoy.1 with
  | none =>
    rw [kept] at asked
    exact ⟨_, asked.bind (runs_pure _ _), state, drawn⟩
  | some hash =>
    rw [kept] at asked
    exact ⟨_, asked.bind ((runs_compare _ hash password).bind (runs_pure _ _)),
      (compare_still _ hash password).2.trans state, (idsDrawn_compare _ hash password).trans drawn⟩

/-- A login that is let in issues a pair and records it. -/
theorem opening_comes (clean : w.Clean) (c : Controller) (user : Uuid) (device : DeviceIdentity)
    {f : TokenPair → Action TokenPair}
    {P : Result TokenPair → List StoreCall → World Memory → Prop}
    (logs : ∀ pair (v : World Memory), ∃ v', v.Runs (f pair) (.ok pair) [] v')
    (refused : ∀ e w', P (.error e) [] w')
    (opened : ∀ pair w', w.Issued w' user pair →
      P (.ok pair) [Controller.recording user pair device] w') :
    w.Comes (do
      let pair ← Controller.issueFor "login" user
      let _ ← c.useStore "login" (Controller.recording user pair device)
      f pair) P := by
  rcases issueFor_cases w "login" user with ⟨pair, w₁, issuing, issued⟩ | refuses
  · refine .after issuing ?_
    rcases useStore_cases (clean.of_kept issuing.kept) c "login"
      (Controller.recording user pair device) with recording | ⟨-, e, w₂, failed⟩
    · obtain ⟨w₂, logging⟩ := logs pair (w₁.afterCall (Controller.recording user pair device))
      have ends := recording.bind (f := fun _ => f pair) logging
      exact ⟨_, _, w₂, ends, opened pair w₂ (issued.later ends.kept)⟩
    · exact ⟨_, _, w₂, failed.bind_error, refused e w₂⟩
  · exact (refuses.bind _).comes refused

theorem login_comes (clean : w.Clean) (c : Controller) (credentials : Credentials)
    (origin : DeviceMetadata) :
    w.Comes (c.login credentials origin)
      fun r => w.Served (.login credentials origin) (r.map .pair) := by
  unfold Controller.login
  cases resolved : origin.resolve with
  | error e => exact ⟨_, [], w, (runs_ofResult w _).bind_error, .refused⟩
  | ok device =>
    refine .after (runs_ofResult w _) ?_
    obtain ⟨reply, asked, found⟩ := findUser_cases clean c credentials.email
    refine .after asked ?_
    cases bound : c.bounded "user_directory.find_by_email" reply with
    | error e => exact (refuses_surface w "login" e).comes fun _ _ => .refused
    | ok answer =>
      have known := found answer bound
      cases answer with
      | none =>
        obtain ⟨w₁, spent, -⟩ := compareDecoy_runs w credentials.password
        refine Refuses.comes (.after spent ?_) fun _ _ => .refused
        exact .after_log fun w' => refuses_throw w' _
      | some user =>
        cases active : user.isActive with
        | false =>
          simp only [active, Bool.not_false, if_true]
          obtain ⟨w₁, spent, -⟩ := compareDecoy_runs w credentials.password
          refine Refuses.comes (.after spent ?_) fun _ _ => .refused
          exact .after_log fun w' => refuses_throw w' _
        | true =>
          simp only [active, Bool.not_true, Bool.false_eq_true, if_false]
          have compared := runs_compare w user.passwordHash credentials.password
          refine .after compared ?_
          cases verdict : (w.compare user.passwordHash credentials.password).1 with
          | error e =>
            dsimp only
            refine Refuses.comes ?_ fun _ _ => .refused
            split <;> exact .after_log fun w' => refuses_throw w' _
          | ok _ =>
            refine opening_comes (clean.of_kept compared.kept) c user.id device ?_
              (fun _ _ => .refused) fun pair w' issued =>
                .loggedIn known resolved (issued.earlier compared.kept)
            exact fun pair v => ⟨_, (runs_log v _ _ _).bind (runs_pure _ pair)⟩

/-! ### Refreshing -/

theorem check_of_parse {token : String} {claims : Claims} (parsed : w.parse token = .ok claims) :
    w.issuer.check token w.now = .ok claims := by
  unfold parse at parsed
  split at parsed
  · cases parsed
  · exact Issuer.check_of_parse parsed

theorem refreshUser_cases (w : World Memory) (token : String) :
    (∃ claims, w.issuer.check token w.now = .ok claims ∧ claims.kind = .refresh ∧
      w.Runs (Controller.refreshUser token) (.ok claims.subject) [] w) ∨
      w.Refuses (Controller.refreshUser token) := by
  unfold Controller.refreshUser
  have asked : w.Runs (Action.call (.parse token)) (.ok (w.parse token)) [] w :=
    runs_call w (.parse token)
  cases parsed : w.parse token with
  | error e =>
    rw [parsed] at asked
    exact Or.inr (.after asked (.after_log fun w' => refuses_throw w' _))
  | ok claims =>
    rw [parsed] at asked
    have checked := check_of_parse parsed
    cases kind : claims.kind with
    | access =>
      refine Or.inr (.after asked ?_)
      simp only [kind]
      exact .after_log fun w' => refuses_throw w' _
    | refresh =>
      refine Or.inl ⟨claims, checked, kind, asked.bind ?_⟩
      simp only [kind]
      exact runs_pure w _

/-- A rotation revokes before it records, and issues before both. -/
theorem rotate_comes (clean : w.Clean) (c : Controller) (user : Uuid) (device : DeviceIdentity)
    {P : Result TokenPair → List StoreCall → World Memory → Prop}
    (refused : ∀ e w', P (.error e) [] w')
    (dropped : w.faults .create ≠ none → ∀ e w', P (.error e) [.revokeAll user] w')
    (rotated : ∀ pair w', w.Issued w' user pair →
      P (.ok pair) [.revokeAll user, Controller.recording user pair device] w') :
    w.Comes (c.rotate user device) P := by
  unfold Controller.rotate
  rcases issueFor_cases w "refresh" user with ⟨pair, w₁, issuing, issued⟩ | refuses
  · refine .after issuing ?_
    have clean₁ := clean.of_kept issuing.kept
    rcases useStore_cases clean₁ c "refresh" (.revokeAll user) with revoking | ⟨-, e, w₂, failed⟩
    · refine .after revoking ?_
      rcases askStore_cases (clean₁.of_kept revoking.kept) c
        (Controller.recording user pair device) with recording | ⟨fault, e, failed⟩
      · refine .after recording ⟨_, _, _, (runs_log _ _ _ _).bind (runs_pure _ pair), ?_⟩
        exact rotated pair _ (issued.later
          ((revoking.kept.trans recording.kept).trans (kept_log _ _)))
      · refine .after failed (Refuses.comes (.after_log fun w' => refuses_surface w' _ _) ?_)
        refine dropped ?_
        rw [issuing.kept.faults.symm.trans revoking.kept.faults.symm]
        exact fault
    · exact ⟨_, _, w₂, failed.bind_error, refused e w₂⟩
  · exact (refuses.bind _).comes refused

theorem refresh_comes (clean : w.Clean) (c : Controller) (token : String)
    (origin : DeviceMetadata) :
    w.Comes (c.refresh token origin)
      fun r => w.Served (.refresh token origin) (r.map .pair) := by
  unfold Controller.refresh
  rcases refreshUser_cases w token with ⟨claims, checked, kind, found⟩ | refuses
  · refine .after found ?_
    cases resolved : origin.resolve with
    | error e => exact ⟨_, [], w, (runs_ofResult w _).bind_error, .refused⟩
    | ok device =>
      refine .after (runs_ofResult w _) ?_
      have presents : w.Presents token origin claims.subject device :=
        ⟨⟨claims, checked, kind, rfl⟩, resolved⟩
      rcases useStore_cases clean c "refresh" (.isValid claims.subject device token) with
        checking | ⟨-, e, w', failed⟩
      · refine .after checking ?_
        cases valid : w.accepts claims.subject device token with
        | false =>
          rw [show (w.state.store.answer w.now (.isValid claims.subject device token)).1 = false
            from valid]
          refine ⟨_, _, _, (runs_log _ _ _ _).bind (.bind_error (runs_throw _ _)), ?_⟩
          exact .superseded presents valid
        | true =>
          rw [show (w.state.store.answer w.now (.isValid claims.subject device token)).1 = true
            from valid]
          refine rotate_comes (clean.of_kept checking.kept) c claims.subject device ?_ ?_ ?_
          · exact fun _ _ => .checked presents valid
          · exact fun fault _ _ => .dropped presents valid (by rwa [checking.kept.faults] at fault)
          · exact fun pair w' issued => .rotated presents valid (issued.earlier checking.kept)
      · exact ⟨_, _, w', failed.bind_error, .refused⟩
  · exact (refuses.bind _).comes fun _ _ => .refused

/-! ### The other operations -/

theorem logout_comes (clean : w.Clean) (c : Controller) (user : Uuid) :
    w.Comes (c.logout user) fun r => w.Served (.logout user) (r.map fun _ => .done) := by
  unfold Controller.logout
  rcases useStore_cases clean c "logout" (.revokeAll user) with revoking | ⟨-, e, w', failed⟩
  · exact .after revoking ⟨_, _, _, runs_log _ _ _ _, .loggedOut⟩
  · exact ⟨_, _, w', failed.bind_error, .refused⟩

theorem authenticate_comes (w : World Memory) (token : String) :
    w.Comes (Controller.authenticate token)
      fun r => w.Served (.authenticate token) (r.map .caller) := by
  unfold Controller.authenticate
  have asked : w.Runs (Action.call (.parse token)) (.ok (w.parse token)) [] w :=
    runs_call w (.parse token)
  refine .after asked ?_
  cases w.parse token with
  | error e =>
    exact Refuses.comes (.after_log fun w' => refuses_throw w' _) fun _ _ => .refused
  | ok claims =>
    dsimp only
    cases claims.kind with
    | access => exact ⟨_, _, w, runs_pure w _, .queried rfl (by simp)⟩
    | refresh => exact (refuses_throw w _).comes fun _ _ => .refused

theorem listDevices_comes (clean : w.Clean) (c : Controller) (user : Uuid) :
    w.Comes (c.listDevices user) fun r => w.Served (.listDevices user) (r.map .devices) := by
  unfold Controller.listDevices
  rcases useStore_cases clean c "list_devices" (.listDevices user) with asking | ⟨-, e, w', failed⟩
  · exact ⟨_, _, _, asking, .queried rfl (by simp [StoreCall.isQuery])⟩
  · exact ⟨_, _, w', failed, .refused⟩

theorem findDevice_comes (clean : w.Clean) (c : Controller) (user : Uuid) (device : String) :
    w.Comes (c.device user device) fun r => w.Served (.findDevice user device) (r.map .device) := by
  unfold Controller.device
  rcases useStore_cases clean c "get_device" (.findDevice user device) with asking | ⟨-, e, w', failed⟩
  · refine .after asking ?_
    have reads : ∀ call ∈ [StoreCall.findDevice user device], call.isQuery = true := by
      simp [StoreCall.isQuery]
    cases found : (w.state.store.answer w.now (.findDevice user device)).1 with
    | none => exact ⟨_, _, _, runs_throw _ _, .queried rfl reads⟩
    | some d => exact ⟨_, _, _, runs_pure _ d, .queried rfl reads⟩
  · exact ⟨_, _, w', failed.bind_error, .refused⟩

theorem renameDevice_comes (clean : w.Clean) (c : Controller) (user : Uuid)
    (device text : String) :
    w.Comes (c.renameDevice user device text)
      fun r => w.Served (.renameDevice user device text) (r.map fun _ => .done) := by
  unfold Controller.renameDevice
  cases named : Controller.deviceName text with
  | error e => exact ⟨_, _, w, (runs_ofResult w _).bind_error, .refused⟩
  | ok name =>
    refine .after (runs_ofResult w _) ?_
    rcases useStore_cases clean c "rename_device" (.renameDevice user device name) with
      naming | ⟨-, e, w', failed⟩
    · refine .after naming ?_
      have answered : (w.state.store.answer w.now (.renameDevice user device name)).1 =
          (w.state.store.device? user device).isSome :=
        SessionStore.renameDevice_fst _ _ _ _
      rw [answered]
      cases found : w.state.store.device? user device with
      | none =>
        exact ⟨_, _, _, .bind_error (runs_throw _ _), .unnamed named found⟩
      | some d => exact ⟨_, _, _, runs_log _ _ _ _, .renamed named (by rw [found]; rfl)⟩
    · exact ⟨_, _, w', failed.bind_error, .refused⟩

theorem deleteDevice_comes (clean : w.Clean) (c : Controller) (user : Uuid) (device : String) :
    w.Comes (c.deleteDevice user device)
      fun r => w.Served (.deleteDevice user device) (r.map fun _ => .done) := by
  unfold Controller.deleteDevice
  rcases useStore_cases clean c "delete_device" (.deleteDevice user device) with
    deleting | ⟨-, e, w', failed⟩
  · refine .after deleting ?_
    rw [show (w.state.store.answer w.now (.deleteDevice user device)).1 =
      (w.state.store.device? user device).isSome from rfl]
    cases found : w.state.store.device? user device with
    | none => exact ⟨_, _, _, .bind_error (runs_throw _ _), .missing found⟩
    | some d => exact ⟨_, _, _, runs_log _ _ _ _, .deleted (by rw [found]; rfl)⟩
  · exact ⟨_, _, w', failed.bind_error, .refused⟩

theorem revokeDevice_comes (clean : w.Clean) (c : Controller) (user : Uuid) (device : String) :
    w.Comes (c.revokeDevice user device)
      fun r => w.Served (.revokeDevice user device) (r.map fun _ => .done) := by
  unfold Controller.revokeDevice
  rcases useStore_cases clean c "revoke_device" (.revokeDevice user device) with
    revoking | ⟨-, e, w', failed⟩
  · exact .after revoking ⟨_, _, _, runs_log _ _ _ _, .revoked⟩
  · exact ⟨_, _, w', failed.bind_error, .refused⟩

/-- Everything that serving a request can come to. -/
theorem serve_cases (clean : w.Clean) (c : Controller) (r : Operation) :
    ∃ calls, w.Runs (c.serve r) (w.serve c r).1 calls (w.serve c r).2 ∧
      w.Served r (w.serve c r).1 calls (w.serve c r).2 := by
  have comes : w.Comes (c.serve r) (w.Served r) := by
    cases r with
    | login credentials origin => exact (login_comes clean c credentials origin).map
    | refresh token origin => exact (refresh_comes clean c token origin).map
    | logout user => exact (logout_comes clean c user).map
    | authenticate token => exact (authenticate_comes w token).map
    | listDevices user => exact (listDevices_comes clean c user).map
    | findDevice user device => exact (findDevice_comes clean c user device).map
    | renameDevice user device text => exact (renameDevice_comes clean c user device text).map
    | deleteDevice user device => exact (deleteDevice_comes clean c user device).map
    | revokeDevice user device => exact (revokeDevice_comes clean c user device).map
  obtain ⟨result, calls, w', runs, served⟩ := comes
  have same : w.serve c r = (result, w') := runs.run
  rw [same]
  exact ⟨calls, runs, served⟩

/-! ### Without faults

What a call does whose target is spared, whatever happens to the others.
-/

theorem failure?_spared {target : Target} (spared : w.faults target = none) :
    w.failure? target = none := by
  unfold World.failure?
  rw [spared]
  rfl

theorem issue_spared {kind : TokenKind} (spared : w.faults (.issue kind) = none)
    {expiresAt : Instant} (expiry : w.issuer.expiry kind w.now = .ok expiresAt) (user : Uuid) :
    w.issue kind user = (.ok (w.nextToken kind user expiresAt), w.drawn) :=
  issue_ok (failure?_spared spared) expiry user

theorem askStore_spared (clean : w.Clean) (c : Controller) {call : StoreCall}
    (spared : w.faults call.target = none) :
    w.Runs (c.askStore call) (.ok (.ok (w.state.store.answer w.now call).1)) [call]
      (w.afterCall call) := by
  rcases askStore_cases clean c call with made | ⟨fault, -⟩
  · exact made
  · exact absurd spared fault

theorem useStore_spared (clean : w.Clean) (c : Controller) (operation : String) {call : StoreCall}
    (spared : w.faults call.target = none) :
    w.Runs (c.useStore operation call) (.ok (w.state.store.answer w.now call).1) [call]
      (w.afterCall call) := by
  rcases useStore_cases clean c operation call with made | ⟨fault, -⟩
  · exact made
  · exact absurd spared fault

/-- Both tokens of a pair issued now would end at a time that can be told. -/
def CanIssue (w : World Memory) : Prop := ∀ kind, ∃ expiresAt, w.issuer.expiry kind w.now = .ok expiresAt

theorem CanIssue.of_kept (canIssue : w.CanIssue) (kept : w.Kept w') : w'.CanIssue := by
  intro kind
  rw [kept.issuer, kept.now]
  exact canIssue kind

theorem issueFor_spared (spared : ∀ kind, w.faults (.issue kind) = none) (canIssue : w.CanIssue)
    (operation : String) (user : Uuid) :
    ∃ pair, w.Runs (Controller.issueFor operation user) (.ok pair) [] w.drawn.drawn ∧
      w.Issued w.drawn.drawn user pair := by
  obtain ⟨accessEnds, accessExpiry⟩ := canIssue .access
  obtain ⟨refreshEnds, refreshExpiry⟩ := canIssue .refresh
  have first := runs_issue w .access user
  rw [issue_spared (spared .access) accessExpiry] at first
  have second := runs_issue w.drawn .refresh user
  have spared₁ : w.drawn.faults (.issue .refresh) = none := spared .refresh
  rw [issue_spared spared₁ refreshExpiry] at second
  have paired : w.Runs (Controller.issuePair user) (.ok (.ok (.of (w.nextToken .access user accessEnds)
      (w.drawn.nextToken .refresh user refreshEnds)))) [] w.drawn.drawn := by
    unfold Controller.issuePair
    exact first.bind (second.bind (runs_pure _ _))
  unfold Controller.issueFor
  exact ⟨_, paired.bind (runs_pure _ _), accessExpiry, refreshExpiry, w.idsDrawn, Nat.le_refl _,
    Nat.lt_succ_self _, rfl, rfl⟩

theorem refreshUser_spared (spared : w.faults .parse = none) {token : String} {claims : Claims}
    (checked : w.issuer.check token w.now = .ok claims) (kind : claims.kind = .refresh) :
    w.Runs (Controller.refreshUser token) (.ok claims.subject) [] w := by
  have parsed : w.parse token = .ok claims := by
    unfold parse
    rw [failure?_spared spared]
    exact Issuer.parse_of_check checked
  have asked : w.Runs (Action.call (.parse token)) (.ok (w.parse token)) [] w :=
    runs_call w (.parse token)
  rw [parsed] at asked
  unfold Controller.refreshUser
  refine asked.bind ?_
  simp only [kind]
  exact runs_pure w _

/-- A refresh with a good token gets as far as its rotation. -/
theorem enter_spared (clean : w.Clean) (parse : w.faults .parse = none)
    (isValid : w.faults .isValid = none) (c : Controller) {token : String} {origin : DeviceMetadata}
    {user : Uuid} {device : DeviceIdentity} (presents : w.Presents token origin user device)
    (valid : w.accepts user device token = true) :
    w.Runs (c.enter token origin) (.ok (user, device)) [.isValid user device token]
      (w.afterCall (.isValid user device token)) := by
  obtain ⟨⟨claims, checked, kind, rfl⟩, resolved⟩ := presents
  have checking : w.Runs (c.useStore "refresh" (.isValid claims.subject device token)) _ _ _ :=
    useStore_spared clean c "refresh" isValid
  rw [show (w.state.store.answer w.now (.isValid claims.subject device token)).1 = true from valid]
    at checking
  unfold Controller.enter
  rw [resolved]
  exact (refreshUser_spared parse checked kind).bind ((runs_ofResult w _).bind
    (checking.bind (runs_pure _ (claims.subject, device))))

/-- No call waits or fails. -/
def Smooth (w : World Memory) : Prop := ∀ target, w.faults target = none

theorem Smooth.clean (smooth : w.Smooth) : w.Clean := by
  intro target f fault
  rw [smooth target] at fault
  cases fault

theorem Smooth.of_kept (smooth : w.Smooth) (kept : w.Kept w') : w'.Smooth := by
  intro target
  rw [kept.faults]
  exact smooth target

theorem Smooth.failure? (smooth : w.Smooth) (target : Target) : w.failure? target = none :=
  failure?_spared (smooth target)

theorem Smooth.issue (smooth : w.Smooth) {kind : TokenKind} {expiresAt : Instant}
    (expiry : w.issuer.expiry kind w.now = .ok expiresAt) (user : Uuid) :
    w.issue kind user = (.ok (w.nextToken kind user expiresAt), w.drawn) :=
  issue_spared (smooth _) expiry user

theorem Smooth.askStore (smooth : w.Smooth) (c : Controller) (call : StoreCall) :
    w.Runs (c.askStore call) (.ok (.ok (w.state.store.answer w.now call).1)) [call]
      (w.afterCall call) :=
  askStore_spared smooth.clean c (smooth _)

theorem Smooth.useStore (smooth : w.Smooth) (c : Controller) (operation : String)
    (call : StoreCall) :
    w.Runs (c.useStore operation call) (.ok (w.state.store.answer w.now call).1) [call]
      (w.afterCall call) :=
  useStore_spared smooth.clean c operation (smooth _)

theorem Smooth.issueFor (smooth : w.Smooth) (canIssue : w.CanIssue) (operation : String)
    (user : Uuid) :
    ∃ pair, w.Runs (Controller.issueFor operation user) (.ok pair) [] w.drawn.drawn ∧
      w.Issued w.drawn.drawn user pair :=
  issueFor_spared (fun _ => smooth _) canIssue operation user

/-- Where the refresh token would end out of range, the access token has been issued in vain. -/
theorem Smooth.issueFor_fails (smooth : w.Smooth) {accessEnds : Instant} {e : Error}
    (access : w.issuer.expiry .access w.now = .ok accessEnds)
    (refresh : w.issuer.expiry .refresh w.now = .error e) (operation : String) (user : Uuid) :
    ∃ e' w', w.Runs (Controller.issueFor operation user) (.error e') [] w' ∧
      w'.idsDrawn = w.idsDrawn + 1 := by
  have first := runs_issue w .access user
  rw [smooth.issue access] at first
  have second := runs_issue w.drawn .refresh user
  have fails : w.drawn.issue .refresh user = (.error e, w.drawn) :=
    issue_refused (Smooth.failure? (w := w.drawn) smooth _) refresh user
  rw [fails] at second
  have paired : w.Runs (Controller.issuePair user) (.ok (.error e)) [] w.drawn := by
    unfold Controller.issuePair
    exact first.bind (second.bind (runs_pure _ _))
  obtain ⟨log, shown⟩ := runs_surface (α := TokenPair) w.drawn operation
    (e.context "token_issuer.issue_pair")
  unfold Controller.issueFor
  exact ⟨_, _, paired.bind shown, rfl⟩

theorem Smooth.refreshUser (smooth : w.Smooth) {token : String} {claims : Claims}
    (checked : w.issuer.check token w.now = .ok claims) (kind : claims.kind = .refresh) :
    w.Runs (Controller.refreshUser token) (.ok claims.subject) [] w :=
  refreshUser_spared (smooth _) checked kind

theorem serve_of_comes {c : Controller} {r : Operation} {P : Result Response → World Memory → Prop}
    (comes : w.Comes (c.serve r) fun result _ => P result) : P (w.serve c r).1 (w.serve c r).2 := by
  obtain ⟨result, calls, w', runs, holds⟩ := comes
  rw [show w.serve c r = (result, w') from runs.run]
  exact holds

/-- An active user comes from a device with the right password. -/
structure Admits (w : World Memory) (credentials : Credentials) (origin : DeviceMetadata)
    (user : User) (device : DeviceIdentity) : Prop where
  known : w.state.directory.find? credentials.email = some user
  active : user.isActive = true
  agrees : Verifier.compare user.passwordHash credentials.password = .ok ()
  resolved : origin.resolve = .ok device

/-- Who is admitted is let in, and two identifiers are drawn for that. -/
theorem Smooth.login_accepts (smooth : w.Smooth) (canIssue : w.CanIssue) (c : Controller)
    {credentials : Credentials} {origin : DeviceMetadata} {user : User} {device : DeviceIdentity}
    (admits : w.Admits credentials origin user device) :
    ∃ pair, (w.serve c (.login credentials origin)).1 = .ok (.pair pair) ∧
      (w.serve c (.login credentials origin)).2.idsDrawn = w.idsDrawn + 2 := by
  obtain ⟨known, active, agrees, resolved⟩ := admits
  have asked : w.Runs (Action.call (.findUser credentials.email)) (.ok (.answered (.ok (some user))))
      [] w := by
    have asked := runs_call w (.findUser credentials.email)
    have made : answer Memory.backend (.findUser credentials.email) w =
        (.answered (.ok (some user)), w) := by
      change w.make .findUser _ = _
      unfold World.make
      rw [smooth, ← known]
      rfl
    rw [made] at asked
    exact asked
  have compared := runs_compare w user.passwordHash credentials.password
  have agreed : (w.compare user.passwordHash credentials.password).1 = .ok () := by
    unfold World.compare
    dsimp only
    rw [Smooth.failure? (w := { w with compares := w.compares + 1 }) smooth]
    exact agrees
  have kept := (compare_still w user.passwordHash credentials.password).1
  have drawn := idsDrawn_compare w user.passwordHash credentials.password
  have smooth₁ := smooth.of_kept kept
  obtain ⟨pair, issuing, -⟩ := smooth₁.issueFor (canIssue.of_kept kept) "login" user.id
  have recording := (smooth₁.of_kept issuing.kept).useStore c "login"
    (Controller.recording user.id pair device)
  refine serve_of_comes (P := fun result w' => ∃ pair, result = .ok (.pair pair) ∧
    w'.idsDrawn = w.idsDrawn + 2) (Comes.map ?_)
  unfold Controller.login
  rw [resolved]
  refine .after (runs_ofResult w _) (.after asked ?_)
  simp only [Controller.bounded, active, Bool.not_true, Bool.false_eq_true, if_false]
  refine .after compared ?_
  rw [agreed]
  refine .after issuing (.after recording ?_)
  refine ⟨_, _, _, (runs_log _ _ _ _).bind (runs_pure _ pair), pair, rfl, ?_⟩
  rw [← drawn]
  rfl

/-- A logout succeeds, and draws no identifiers. -/
theorem Smooth.logout_accepts (smooth : w.Smooth) (c : Controller) (user : Uuid) :
    (w.serve c (.logout user)).1 = .ok .done ∧
      (w.serve c (.logout user)).2.idsDrawn = w.idsDrawn := by
  have revoking := smooth.useStore c "logout" (.revokeAll user)
  refine serve_of_comes (P := fun result w' => result = .ok .done ∧ w'.idsDrawn = w.idsDrawn)
    (Comes.map (g := fun _ => Response.done) ?_)
  unfold Controller.logout
  exact .after revoking ⟨_, _, _, runs_log _ _ _ _, rfl, rfl⟩

theorem Smooth.enter (smooth : w.Smooth) (c : Controller) {token : String} {origin : DeviceMetadata}
    {user : Uuid} {device : DeviceIdentity} (presents : w.Presents token origin user device)
    (valid : w.accepts user device token = true) :
    w.Runs (c.enter token origin) (.ok (user, device)) [.isValid user device token]
      (w.afterCall (.isValid user device token)) :=
  enter_spared smooth.clean (smooth _) (smooth _) c presents valid

/-- A pair is issued, and then all sessions of the user are revoked. -/
theorem Smooth.prepare (smooth : w.Smooth) (canIssue : w.CanIssue) (c : Controller) (user : Uuid) :
    ∃ pair revoked, w.Runs (c.prepare user) (.ok (pair, revoked)) [.revokeAll user]
        (w.drawn.drawn.afterCall (.revokeAll user)) ∧
      w.Issued (w.drawn.drawn.afterCall (.revokeAll user)) user pair := by
  obtain ⟨pair, issuing, issued⟩ := smooth.issueFor canIssue "refresh" user
  have revoking := (smooth.of_kept issuing.kept).useStore c "refresh" (.revokeAll user)
  unfold Controller.prepare
  exact ⟨pair, _, issuing.bind (revoking.bind (runs_pure _ _)), issued.later revoking.kept⟩

/-- A session is recorded for a pair that was issued. -/
theorem Smooth.record (smooth : w.Smooth) (c : Controller) (user : Uuid) (device : DeviceIdentity)
    (pair : TokenPair) (revoked : Nat) :
    ∃ w', w.Runs (c.record user device pair revoked) (.ok pair)
      [Controller.recording user pair device] w' ∧ w'.idsDrawn = w.idsDrawn := by
  have recording := smooth.askStore c (Controller.recording user pair device)
  unfold Controller.record
  exact ⟨_, recording.bind ((runs_log _ _ _ _).bind (runs_pure _ pair)), rfl⟩

theorem Smooth.rotate (smooth : w.Smooth) (canIssue : w.CanIssue) (c : Controller) (user : Uuid)
    (device : DeviceIdentity) :
    ∃ pair w', w.Runs (c.rotate user device) (.ok pair)
      [.revokeAll user, Controller.recording user pair device] w' ∧ w.Issued w' user pair ∧
        w'.idsDrawn = w.idsDrawn + 2 := by
  obtain ⟨pair, revoked, preparing, issued⟩ := smooth.prepare canIssue c user
  obtain ⟨w', recording, drawn⟩ :=
    (smooth.of_kept preparing.kept).record c user device pair revoked
  rw [Controller.rotate_eq]
  exact ⟨pair, w', preparing.bind recording, issued.later recording.kept, drawn⟩

/-- A refresh token that is good is traded for a pair. -/
theorem Smooth.refresh_accepts (smooth : w.Smooth) (canIssue : w.CanIssue) (c : Controller)
    {token : String} {origin : DeviceMetadata} {user : Uuid} {device : DeviceIdentity}
    (presents : w.Presents token origin user device) (valid : w.accepts user device token = true) :
    ∃ pair, (w.serve c (.refresh token origin)).1 = .ok (.pair pair) := by
  have entered := smooth.enter c presents valid
  obtain ⟨pair, w', rotating, -⟩ := (smooth.of_kept entered.kept).rotate
    (canIssue.of_kept entered.kept) c user device
  refine serve_of_comes (P := fun result _ => ∃ pair, result = .ok (.pair pair)) (Comes.map ?_)
  rw [Controller.refresh_eq]
  exact .after entered ⟨_, _, _, rotating, pair, rfl⟩

/-- What is no refresh token is refused, with the one error for that. -/
theorem refresh_denies (c : Controller) {token : String} {origin : DeviceMetadata}
    (fails : ∀ claims, w.issuer.check token w.now = .ok claims → claims.kind ≠ .refresh) :
    (w.serve c (.refresh token origin)).1 = .error Controller.tokenRevoked := by
  have asked : w.Runs (Action.call (.parse token)) (.ok (w.parse token)) [] w :=
    runs_call w (.parse token)
  have denied : ∃ w', w.Runs (Controller.refreshUser token) (.error Controller.tokenRevoked) [] w' := by
    unfold Controller.refreshUser
    cases parsed : w.parse token with
    | error e =>
      rw [parsed] at asked
      exact ⟨_, asked.bind ((runs_log _ _ _ _).bind (runs_throw _ _))⟩
    | ok claims =>
      rw [parsed] at asked
      have other := fails claims (check_of_parse parsed)
      obtain ⟨subject, issuer, issued, expires, id, kind⟩ := claims
      cases kind with
      | access => exact ⟨_, asked.bind ((runs_log _ _ _ _).bind (runs_throw _ _))⟩
      | refresh => exact absurd rfl other
  obtain ⟨w', denied⟩ := denied
  refine serve_of_comes (P := fun result _ => result = .error Controller.tokenRevoked) (Comes.map ?_)
  unfold Controller.refresh
  exact ⟨_, _, _, denied.bind_error, rfl⟩

/-- A refresh token that is not good is refused, with the one error for that. -/
theorem Smooth.refresh_rejects (smooth : w.Smooth) (c : Controller) {token : String}
    {origin : DeviceMetadata} {user : Uuid} {device : DeviceIdentity}
    (presents : w.Presents token origin user device)
    (stale : w.accepts user device token = false) :
    (w.serve c (.refresh token origin)).1 = .error Controller.tokenRevoked := by
  obtain ⟨⟨claims, checked, kind, rfl⟩, resolved⟩ := presents
  have checking := smooth.useStore c "refresh" (.isValid claims.subject device token)
  rw [show (w.state.store.answer w.now (.isValid claims.subject device token)).1 = false from stale]
    at checking
  refine serve_of_comes (P := fun result _ => result = .error Controller.tokenRevoked) (Comes.map ?_)
  unfold Controller.refresh
  rw [resolved]
  refine .after (smooth.refreshUser checked kind) (.after (runs_ofResult w _) (.after checking ?_))
  exact ⟨_, _, _, (runs_log _ _ _ _).bind (.bind_error (runs_throw _ _)), rfl⟩

end World

end DeviceSessions
