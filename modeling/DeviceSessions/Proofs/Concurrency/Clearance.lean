import DeviceSessions.Proofs.Concurrency.Protocol
import DeviceSessions.Proofs.Token.RoundTrip

/-!
# What requests ask of the store

A request makes calls of the store for one user only: whom it names, whom the directory knows under
its email, or whom its token names. A login records a session, and so does a refresh, but only after
its token was found good.
-/

namespace DeviceSessions

namespace Exchange

variable {user : Uuid} {e : Exchange}

/-- A token of a user was found good. -/
def clears (user : Uuid) : Exchange → Bool
  | ⟨.store (.isValid owner _ _), .answered (.ok true)⟩ => decide (owner = user)
  | _ => false

/-- All sessions of a user were revoked. -/
def revokes (user : Uuid) (e : Exchange) : Bool := decide (e.made? = some (.revokeAll user))

/-- A session of a user was recorded. -/
def opens (user : Uuid) (e : Exchange) : Bool :=
  match e.made? with
  | some (.create owner _ _ _) => decide (owner = user)
  | _ => false

theorem clears_made (good : e.clears user = true) :
    ∃ device token, e = ⟨.store (.isValid user device token), .answered (.ok true)⟩ := by
  unfold clears at good
  split at good
  · rename_i owner device token
    rw [of_decide_eq_true good]
    exact ⟨device, token, rfl⟩
  · cases good

theorem not_clears_of_revokes (revokes : e.revokes user = true) : ¬e.clears user = true := by
  intro good
  obtain ⟨device, token, rfl⟩ := clears_made good
  simp [Exchange.revokes, made?] at revokes

theorem made?_eq_some {call : StoreCall} (made : e.made? = some call) :
    ∃ a, e = ⟨.store call, .answered (.ok a)⟩ := by
  unfold made? at made
  split at made
  · cases made
    exact ⟨_, rfl⟩
  · cases made

/-- The store has one answer to a call. -/
theorem answered_inj {s : SessionStore} {now : Instant} {call call' : StoreCall} {a : call'.Answer}
    (same : (⟨.store call, .answered (.ok (s.answer now call).1)⟩ : Exchange) =
      ⟨.store call', .answered (.ok a)⟩) : call = call' ∧ (s.answer now call').1 = a := by
  obtain ⟨calls, answers⟩ := Exchange.mk.inj same
  cases Call.store.inj calls
  exact ⟨rfl, Except.ok.inj (Reply.answered.inj (eq_of_heq answers))⟩

theorem made?_of_opens (opened : e.opens user = true) : ∃ hash expiresAt device,
    e.made? = some (.create user hash expiresAt device) := by
  unfold opens at opened
  split at opened
  · rename_i owner hash expiresAt device made
    rw [of_decide_eq_true opened] at made
    exact ⟨hash, expiresAt, device, made⟩
  · cases opened

end Exchange

/-- The call of the store that a call is. -/
def Call.store? : Call → Option StoreCall
  | .store call => some call
  | _ => none

/-- A call records a session of a user. -/
def StoreCall.records (user : Uuid) : StoreCall → Bool
  | create owner _ _ _ => decide (owner = user)
  | _ => false

namespace World

/-- The user whom a request is for. -/
def owner? (w : World Memory) : Operation → Option Uuid
  | .login credentials _ => (w.state.directory.find? credentials.email).map User.id
  | .refresh token _ => subject? token
  | .authenticate _ => none
  | .logout user | .listDevices user | .findDevice user _ | .renameDevice user _ _
  | .deleteDevice user _ | .revokeDevice user _ => some user

/-- A token that is presented is read as one of the user. -/
theorem Presents.subject {w : World Memory} {token : String} {origin : DeviceMetadata} {user : Uuid}
    {identity : DeviceIdentity} (presents : w.Presents token origin user identity) :
    subject? token = some user := by
  obtain ⟨claims, checked, -, rfl⟩ := presents.parsed
  exact subject?_of_check checked

/-- A request that is not for a user makes no call of the store for this user. -/
theorem Served.users {w w' : World Memory} {r : Operation} {result : Result Response}
    {calls : List StoreCall} (served : w.Served r result calls w') {u : Uuid}
    (other : w.owner? r ≠ some u) : ∀ call ∈ calls, call.isQuery = true ∨ call.user ≠ u := by
  have mine : ∀ owner, w.owner? r = some owner → (∀ call ∈ calls, call.user = owner) →
      ∀ call ∈ calls, call.isQuery = true ∨ call.user ≠ u := by
    intro owner owned users call member
    refine Or.inr fun same => other ?_
    rw [owned, ← users call member, same]
  cases served with
  | refused => exact fun _ member => nomatch member
  | queried query reads => exact fun call member => Or.inl (reads call member)
  | @loggedIn credentials origin user device pair _ known resolved issued =>
    refine mine user.id ?_ (by simp [Controller.recording, StoreCall.user])
    rw [owner?, known]
    rfl
  | superseded presents stale => exact mine _ presents.subject (by simp [StoreCall.user])
  | checked presents valid => exact mine _ presents.subject (by simp [StoreCall.user])
  | dropped presents valid fault => exact mine _ presents.subject (by simp [StoreCall.user])
  | rotated presents valid issued =>
    exact mine _ presents.subject (by simp [Controller.recording, StoreCall.user])
  | loggedOut => exact mine _ rfl (by simp [StoreCall.user])
  | renamed named present => exact mine _ rfl (by simp [StoreCall.user])
  | unnamed named absent => exact mine _ rfl (by simp [StoreCall.user])
  | deleted present => exact mine _ rfl (by simp [StoreCall.user])
  | missing absent => exact mine _ rfl (by simp [StoreCall.user])
  | revoked => exact mine _ rfl (by simp [StoreCall.user])

/-- A request leaves the rows of the other users as they are. -/
theorem Served.others {w w' : World Memory} {r : Operation} {result : Result Response}
    {calls : List StoreCall} (served : w.Served r result calls w')
    (consistent : w.state.store.Consistent) {u : Uuid} (other : w.owner? r ≠ some u) (d : String) :
    (w.state.store.follow w.now calls).session? u d = w.state.store.session? u d ∧
      (w.state.store.follow w.now calls).device? u d = w.state.store.device? u d :=
  consistent.follow_other w.now (served.users other) d

/-- A request is a login of a user. -/
def LoginOf (w : World Memory) (user : Uuid) (r : Operation) : Prop :=
  (∃ credentials origin, r = .login credentials origin) ∧ w.owner? r = some user

/-- The directory answers with what it holds, and only tokens that can be read are accepted. -/
structure Tells (w : World Memory) (e : Exchange) : Prop where
  user : ∀ {email found}, e = ⟨.findUser email, .answered (.ok found)⟩ →
    w.state.directory.find? email = found
  subject : ∀ {token claims}, e = ⟨.parse token, .ok claims⟩ → subject? token = some claims.subject

theorem tells_answer {w v : World Memory} (clean : v.Clean)
    (directory : v.state.directory = w.state.directory) (call : Call) :
    w.Tells ⟨call, (answer Memory.backend call v).1⟩ := by
  constructor
  · intro email found same
    cases call with
    | findUser asked =>
      rcases make_cases clean .findUser (Memory.backend.findUser asked) with
        made | ⟨-, reply, made, failed⟩
      · rw [show answer Memory.backend (.findUser asked) v = _ from made] at same
        cases same
        rw [← directory]
      · rw [show answer Memory.backend (.findUser asked) v = _ from made] at same
        cases same
        exact absurd rfl (failed found)
    | _ => cases same
  · intro token claims same
    cases call with
    | parse asked =>
      obtain ⟨calls, answers⟩ := Exchange.mk.inj same
      obtain rfl : asked = token := Call.parse.inj calls
      exact subject?_of_check (check_of_parse (eq_of_heq answers))
    | _ => cases same

end World

/-- What a thread has been told about a user. -/
structure Clearance where
  cleared : Bool := false
  revoked : Bool := false

/-- A request asks the store for its user only, and only a login records a session of a user without
a token of the user that was found good. -/
def clearance (user : Uuid) (w : World Memory) (r : Operation) : Protocol Clearance where
  next s e := ⟨s.cleared || e.clears user, s.revoked || e.revokes user⟩
  asks s call := ∀ asked, call.store? = some asked → w.owner? r = some asked.user ∧
    (asked.records user = true → w.LoginOf user r ∨ s.cleared = true)
  tells := w.Tells
  asks_log s event asked same := nomatch same
  next_log s event answer := by simp [Exchange.clears, Exchange.revokes, Exchange.made?]

section Clearance

variable {user v : Uuid} {w : World Memory} {r : Operation} {s : Clearance} {c : Controller}
  {α : Type} {x : Action α}

theorem asks_idle {call : Call} (idle : call.store? = none) :
    (clearance user w r).asks s call := by
  intro asked same
  rw [idle] at same
  cases same

theorem asks_store {call : StoreCall} (mine : w.owner? r = some call.user)
    (records : call.records user = true → w.LoginOf user r ∨ s.cleared = true) :
    (clearance user w r).asks s (.store call) := by
  intro asked same
  obtain rfl : call = asked := Option.some.inj same
  exact ⟨mine, records⟩

theorem asks_other {call : StoreCall} (mine : w.owner? r = some call.user)
    (idle : call.records user = false) : (clearance user w r).asks s (.store call) := by
  refine asks_store mine fun records => ?_
  rw [idle] at records
  cases records

namespace Action

/-- A program that records sessions of a user only where it may. -/
def Minds (user : Uuid) (w : World Memory) (r : Operation) (x : Action α) (s : Clearance) : Prop :=
  x.Keeps (clearance user w r) (fun _ _ => True) s

theorem minds_throw (e : Error) : (throw e : Action α).Minds user w r s := keeps_throw trivial

theorem minds_surface (operation : String) (e : Error) :
    (Controller.surface operation e : Action α).Minds user w r s :=
  keeps_surface trivial

theorem minds_log (level : Level) (message : String) (fields : List (String × FieldValue)) :
    (log level message fields).Minds user w r s :=
  keeps_log trivial level message fields

theorem minds_map {β : Type} {g : α → β} (minds : x.Minds user w r s) :
    (x >>= fun a => pure (g a)).Minds user w r s := by
  refine Keeps.bind (Program.Keeps.imp minds fun s r _ => ?_)
  cases r with
  | ok a => exact keeps_pure trivial
  | error e => trivial

/-- After a part that minds, the rest has to mind. -/
theorem Minds.bind {β : Type} {f : α → Action β} (minds : x.Minds user w r s)
    (rest : ∀ a s, (f a).Minds user w r s) : (x >>= f).Minds user w r s := by
  refine Keeps.bind (Program.Keeps.imp minds fun s r _ => ?_)
  cases r with
  | ok a => exact rest a s
  | error e => trivial

theorem minds_useStore {operation : String} {call : StoreCall} (mine : w.owner? r = some call.user)
    (idle : call.records user = false) : (c.useStore operation call).Minds user w r s :=
  keeps_useStore (asks_other mine idle) (fun _ _ => trivial) fun _ _ _ _ => trivial

theorem minds_issueFor (operation : String) :
    (Controller.issueFor operation v).Minds user w r s :=
  keeps_issueFor (asks_idle rfl) (fun _ => asks_idle rfl) (fun _ _ _ _ => trivial)
    (fun _ _ _ => trivial) fun _ _ _ _ => trivial

theorem minds_compareDecoy (password : String) :
    (Controller.compareDecoy password).Minds user w r s := by
  unfold Controller.compareDecoy
  refine Keeps.bind (keeps_call (asks_idle rfl) fun hash _ => ?_)
  cases hash with
  | none => exact keeps_pure trivial
  | some hash => exact Keeps.bind (keeps_call (asks_idle rfl) fun _ _ => keeps_pure trivial)

theorem login_minds (credentials : Credentials) (origin : DeviceMetadata) :
    (c.login credentials origin).Minds user w (.login credentials origin) s := by
  unfold Controller.login
  refine Keeps.bind (keeps_ofResult ?_)
  cases origin.resolve with
  | error e => trivial
  | ok device =>
    refine Keeps.bind (keeps_call (asks_idle rfl) fun reply told => ?_)
    dsimp only
    cases bound : c.bounded "user_directory.find_by_email" reply with
    | error e => exact minds_surface _ _
    | ok answer =>
      have known := told.user (by rw [World.bounded_ok bound])
      cases answer with
      | none =>
        exact (minds_compareDecoy _).bind fun _ _ => (minds_log _ _ _).bind fun _ _ => minds_throw _
      | some found =>
        cases active : found.isActive with
        | false =>
          simp only [active, Bool.not_false, if_true]
          exact (minds_compareDecoy _).bind fun _ _ =>
            (minds_log _ _ _).bind fun _ _ => minds_throw _
        | true =>
          simp only [active, Bool.not_true, Bool.false_eq_true, if_false]
          refine Keeps.bind (keeps_call (asks_idle rfl) fun verdict _ => ?_)
          cases verdict with
          | error e =>
            dsimp only
            split <;> exact (minds_log _ _ _).bind fun _ _ => minds_throw _
          | ok _ =>
            refine (minds_issueFor _).bind fun pair s => ?_
            have mine : w.owner? (.login credentials origin) = some found.id := by
              change (w.state.directory.find? credentials.email).map User.id = _
              rw [known]
              rfl
            refine Minds.bind (keeps_useStore (asks_store mine fun records => ?_)
              (fun _ _ => trivial) fun _ _ _ _ => trivial) ?_
            · rw [of_decide_eq_true records] at mine
              exact Or.inl ⟨⟨credentials, origin, rfl⟩, mine⟩
            · exact fun _ _ => (minds_log _ _ _).bind fun _ _ => keeps_pure trivial

/-- A rotation records what it has been cleared for. -/
theorem rotate_minds (device : DeviceIdentity) (mine : w.owner? r = some v) (cleared : v = user → s.cleared = true) :
    (c.rotate v device).Minds user w r s := by
  unfold Controller.rotate
  refine Keeps.bind (keeps_issueFor (asks_idle rfl) (fun _ => asks_idle rfl) ?_
    (fun _ _ _ => trivial) fun _ _ _ _ => trivial)
  intro access refresh _ _
  refine Keeps.bind (keeps_useStore (asks_other mine rfl) ?_ fun _ _ _ _ => trivial)
  intro revoked _
  refine Minds.bind (keeps_askStore (asks_store mine fun records => ?_) (fun _ _ => trivial)
    fun _ _ _ _ => trivial) ?_
  · right
    simp [clearance, cleared (of_decide_eq_true records)]
  · intro recorded s
    cases recorded with
    | error e => exact (minds_log _ _ _).bind fun _ _ => minds_surface _ _
    | ok _ => exact (minds_log _ _ _).bind fun _ _ => keeps_pure trivial

theorem refresh_minds (token : String) (origin : DeviceMetadata) :
    (c.refresh token origin).Minds user w (.refresh token origin) s := by
  unfold Controller.refresh
  refine Keeps.bind (keeps_refreshUser (asks_idle rfl) (fun claims told _ => ?_)
    fun _ _ _ => trivial)
  have mine : w.owner? (.refresh token origin) = some claims.subject := told.subject rfl
  refine Keeps.bind (keeps_ofResult ?_)
  cases origin.resolve with
  | error e => trivial
  | ok device =>
    refine Keeps.bind (keeps_useStore (asks_other mine rfl) ?_ fun _ _ _ _ => trivial)
    intro valid _
    cases valid with
    | false => exact (minds_log _ _ _).bind fun _ _ => minds_throw _
    | true =>
      refine rotate_minds device mine fun same => ?_
      simp [clearance, Exchange.clears, same]

theorem authenticate_minds (token : String) :
    (Controller.authenticate token).Minds user w r s := by
  unfold Controller.authenticate
  refine Keeps.bind (keeps_call (asks_idle rfl) fun parsed _ => ?_)
  cases parsed with
  | error e => exact (minds_log _ _ _).bind fun _ _ => minds_throw _
  | ok claims =>
    dsimp only
    cases claims.kind with
    | access => exact keeps_pure trivial
    | refresh => exact minds_throw _

theorem findDevice_minds (owner : Uuid) (device : String) :
    (c.device owner device).Minds user w (.findDevice owner device) s := by
  unfold Controller.device
  refine Minds.bind (minds_useStore rfl rfl) fun found s => ?_
  cases found with
  | none => exact minds_throw _
  | some d => exact keeps_pure trivial

theorem renameDevice_minds (owner : Uuid) (device text : String) :
    (c.renameDevice owner device text).Minds user w (.renameDevice owner device text) s := by
  unfold Controller.renameDevice
  refine Keeps.bind (keeps_ofResult ?_)
  cases Controller.deviceName text with
  | error e => trivial
  | ok name =>
    refine Minds.bind (minds_useStore rfl rfl) fun renamed s => ?_
    cases renamed with
    | false => exact minds_throw _
    | true => exact minds_log _ _ _

theorem deleteDevice_minds (owner : Uuid) (device : String) :
    (c.deleteDevice owner device).Minds user w (.deleteDevice owner device) s := by
  unfold Controller.deleteDevice
  refine Minds.bind (minds_useStore rfl rfl) fun deleted s => ?_
  cases deleted with
  | false => exact minds_throw _
  | true => exact minds_log _ _ _

theorem serve_minds (r : Operation) : (c.serve r).Minds user w r s := by
  cases r with
  | login credentials origin =>
    exact minds_map (login_minds credentials origin)
  | refresh token origin => exact minds_map (refresh_minds token origin)
  | logout owner =>
    exact minds_map ((minds_useStore rfl rfl).bind fun _ _ => minds_log _ _ _)
  | authenticate token => exact minds_map (authenticate_minds token)
  | listDevices owner => exact minds_map (minds_useStore rfl rfl)
  | findDevice owner device => exact minds_map (findDevice_minds owner device)
  | renameDevice owner device text => exact minds_map (renameDevice_minds owner device text)
  | deleteDevice owner device => exact minds_map (deleteDevice_minds owner device)
  | revokeDevice owner device =>
    exact minds_map ((minds_useStore rfl rfl).bind fun _ _ => minds_log _ _ _)

/-- A logout that succeeds has revoked. -/
theorem logout_keeps :
    (c.serve (.logout user)).Keeps (clearance user w (.logout user))
      (fun s result => result = .ok .done → s.revoked = true) s := by
  refine Keeps.bind (Keeps.bind (keeps_useStore (asks_other rfl rfl) ?_ ?_))
  · intro n _
    refine keeps_log ?_ _ _ _
    refine keeps_pure fun _ => ?_
    simp [clearance, Exchange.revokes, Exchange.made?]
  · intro reply _ _ e failed
    cases failed

end Action

theorem fold_cleared (past : List Exchange) (s : Clearance) :
    (past.foldl (clearance user w r).next s).cleared =
      (s.cleared || past.any (Exchange.clears user)) := by
  induction past generalizing s with
  | nil => simp
  | cons e past ih => rw [List.foldl_cons, ih, List.any_cons, ← Bool.or_assoc]; rfl

theorem fold_revoked (past : List Exchange) (s : Clearance) :
    (past.foldl (clearance user w r).next s).revoked =
      (s.revoked || past.any (Exchange.revokes user)) := by
  induction past generalizing s with
  | nil => simp
  | cons e past ih => rw [List.foldl_cons, ih, List.any_cons, ← Bool.or_assoc]; rfl

end Clearance

end DeviceSessions
