import DeviceSessions.Database.Connection
import DeviceSessions.Proofs.Controller.History
import DeviceSessions.Proofs.Controller.Opaque
import DeviceSessions.Proofs.Database.Request

/-!
# Failed logins

A login that the directory answers costs one comparison and fails with one error, whether there is no
such user, the user is not active, or the password is wrong. A tally of what the verifier has done is
kept through any history: the decoy is hashed once, for the first login without an active user.
-/

namespace DeviceSessions

namespace Controller

/-- What a login does for a user whose password is right. -/
def welcome (c : Controller) (user : User) (device : DeviceIdentity) : Action TokenPair := do
  let pair ← issueFor "login" user.id
  let _ ← c.useStore "login" (recording user.id pair device)
  Action.log .info "User logged in" [userField user.id, deviceField device.id]
  return pair

/-- What a login does once the directory has answered. -/
def judge (c : Controller) (credentials : Credentials) (device : DeviceIdentity) :
    Option User → Action TokenPair
  | none => do
    compareDecoy credentials.password
    Action.log .info "Login failed: unknown email" [deviceField device.id]
    throw invalidCredentials
  | some user =>
    if user.isActive then do
      match ← Action.call (.compare user.passwordHash credentials.password) with
      | .error e =>
        if e.kind = .hashing then
          Action.log .error "Stored password hash is unusable" [userField user.id, errorField e]
        else
          Action.log .info "Login failed: wrong password" [userField user.id, deviceField device.id]
        throw invalidCredentials
      | .ok () => c.welcome user device
    else do
      compareDecoy credentials.password
      Action.log .warn "Login attempt on inactive account" [userField user.id]
      throw invalidCredentials

theorem login_eq (c : Controller) (credentials : Credentials) (origin : DeviceMetadata) :
    c.login credentials origin =
      Action.ofResult origin.resolve >>= fun device =>
        Action.call (.findUser credentials.email) >>= fun reply =>
          match c.bounded "user_directory.find_by_email" reply with
          | .error e => surface "login" e
          | .ok found => c.judge credentials device found := by
  unfold login
  refine bind_congr fun device => bind_congr fun reply => ?_
  cases c.bounded "user_directory.find_by_email" reply with
  | error e => rfl
  | ok found =>
    cases found with
    | none => rfl
    | some user =>
      unfold judge
      cases active : user.isActive with
      | false => simp [active]
      | true =>
        simp only [active, Bool.not_true, Bool.false_eq_true, if_false, if_true]
        rfl

end Controller

/-- Whether no active user was found. -/
def stranger : Option User → Bool
  | none => true
  | some user => !user.isActive

/-- What the verifier of a controller has done: the decoy that is kept, the passwords that were
hashed, and the comparisons. -/
structure Tally where
  decoy : Option (Option String)
  hashes : Nat
  compares : Nat

namespace World

variable {σ τ : Type}

/-- What the verifier has done. -/
def tally (w : World σ) : Tally := ⟨w.decoy, w.hashes, w.compares⟩

/-- What the directory answers to a login that gets so far. -/
def meets (b : Backend σ) (w : World σ) (credentials : Credentials) (origin : DeviceMetadata) :
    Option (Option User) :=
  match origin.resolve, (w.make .findUser (b.findUser credentials.email)).1 with
  | .ok _, .answered (.ok found) => some found
  | _, _ => none

/-- What the verifier has done after a login that met this. -/
def spend (w : World σ) : Option (Option User) → Tally
  | none => w.tally
  | some found =>
    if stranger found then
      ⟨some w.askDecoy.1, w.hashes + if w.decoy.isNone then 1 else 0,
        w.compares + if w.askDecoy.1.isSome then 1 else 0⟩
    else ⟨w.decoy, w.hashes, w.compares + 1⟩

/-- From one world to another the verifier has done nothing, and works as before. -/
structure Rests (w w' : World σ) : Prop where
  tally : w'.tally = w.tally
  verifier : w'.verifier = w.verifier
  salts : w'.salts = w.salts
  saltsDrawn : w'.saltsDrawn = w.saltsDrawn
  faults : w'.faults = w.faults

variable {b : Backend σ} {w w' w₁ w₂ : World σ} {c : Controller} {credentials : Credentials}
  {origin : DeviceMetadata} {device : DeviceIdentity}

theorem rests_refl (w : World σ) : w.Rests w := ⟨rfl, rfl, rfl, rfl, rfl⟩

theorem Rests.trans (first : w.Rests w₁) (second : w₁.Rests w₂) : w.Rests w₂ :=
  ⟨second.tally.trans first.tally, second.verifier.trans first.verifier,
    second.salts.trans first.salts, second.saltsDrawn.trans first.saltsDrawn,
    second.faults.trans first.faults⟩

theorem rests_make {α : Type} (w : World σ) (target : Target) (call : σ → Result α × σ) :
    w.Rests (w.make target call).2 := by
  unfold make
  split <;> exact ⟨rfl, rfl, rfl, rfl, rfl⟩

theorem rests_answer (b : Backend σ) (w : World σ) {call : Call} (quiet : call.verifies = false) :
    w.Rests (answer b call w).2 := by
  cases call with
  | findUser email => exact rests_make w _ _
  | store call => exact rests_make w _ _
  | decoy => cases quiet
  | compare hash password => cases quiet
  | issue kind user =>
    unfold answer issue
    dsimp only
    split
    · exact rests_refl w
    · split
      · exact rests_refl w
      · exact ⟨rfl, rfl, rfl, rfl, rfl⟩
  | parse token => exact rests_refl w
  | log event => exact ⟨rfl, rfl, rfl, rfl, rfl⟩

theorem rests_program {α : Type} {ends : Unit → α → Prop} {p : Program α}
    (keeps : p.Keeps (hearing true fun _ => True) ends ()) (w : World σ) :
    w.Rests (p.run (answer b) w).2 := by
  induction p generalizing w with
  | done a => exact rests_refl w
  | ask call next ih =>
    obtain ⟨quiet, rest⟩ := keeps
    exact (rests_answer b w (quiet rfl)).trans (ih _ (rest _ (Exchange.tells_true _)) _)

/-- Where a program leaves the verifier alone, it rests. -/
theorem rests_run {α : Type} {kinds : List ErrorKind} {x : Action α}
    (guarded : x.Guarded true (fun _ => True) kinds) (w : World σ) :
    w.Rests (x.run.run (answer b) w).2 :=
  rests_program guarded.keeps w

/-! ### One login -/

/-- The world after the work of a comparison where there is no hash to compare with. -/
def afterDecoy (w : World σ) (password : String) : World σ :=
  match w.askDecoy with
  | (some hash, asked) => (asked.compare hash password).2
  | (none, asked) => asked

theorem run_compareDecoy (b : Backend σ) (w : World σ) (password : String) :
    (Controller.compareDecoy password).run.run (answer b) w = (.ok (), w.afterDecoy password) := by
  unfold Controller.compareDecoy afterDecoy
  rw [Action.run_bind, Action.run_call, show answer b .decoy w = w.askDecoy from rfl]
  obtain ⟨_ | hash, asked⟩ := w.askDecoy
  · rfl
  · rfl

theorem tally_compare (w : World σ) (hash password : String) :
    (w.compare hash password).2.tally = { w.tally with compares := w.compares + 1 } := by
  unfold compare
  dsimp only
  split <;> rfl

theorem tally_askDecoy (w : World σ) : w.askDecoy.2.tally =
    ⟨some w.askDecoy.1, w.hashes + if w.decoy.isNone then 1 else 0, w.compares⟩ := by
  unfold askDecoy hash
  cases kept : w.decoy with
  | some decoy =>
    rw [show w.tally = ⟨w.decoy, w.hashes, w.compares⟩ from rfl, kept]
    rfl
  | none =>
    dsimp only
    split <;> rfl

theorem tally_afterDecoy (w : World σ) (password : String) : (w.afterDecoy password).tally =
    ⟨some w.askDecoy.1, w.hashes + if w.decoy.isNone then 1 else 0,
      w.compares + if w.askDecoy.1.isSome then 1 else 0⟩ := by
  have asked := tally_askDecoy w
  unfold afterDecoy
  cases came : w.askDecoy with
  | mk decoy v =>
    rw [came] at asked
    cases decoy with
    | none => exact asked
    | some hash =>
      have counted : v.compares = w.compares := congrArg Tally.compares asked
      change (v.compare hash password).2.tally = _
      rw [tally_compare, asked, counted]
      rfl

theorem Rests.askDecoy (rests : w.Rests w') : w'.askDecoy.1 = w.askDecoy.1 := by
  have decoy : w'.decoy = w.decoy := congrArg Tally.decoy rests.tally
  unfold World.askDecoy hash failure?
  rw [decoy, rests.verifier, rests.salts, rests.saltsDrawn, rests.faults]
  cases w.decoy with
  | some kept => rfl
  | none =>
    dsimp only
    split <;> rfl

theorem Rests.spend (rests : w.Rests w') (met : Option (Option User)) : w'.spend met = w.spend met := by
  have decoy : w'.decoy = w.decoy := congrArg Tally.decoy rests.tally
  have hashes : w'.hashes = w.hashes := congrArg Tally.hashes rests.tally
  have compares : w'.compares = w.compares := congrArg Tally.compares rests.tally
  unfold World.spend
  rw [rests.askDecoy, rests.tally, decoy, hashes, compares]

theorem Rests.verdict (rests : w.Rests w') (hash password : String) :
    (w'.compare hash password).1 = (w.compare hash password).1 := by
  unfold compare failure?
  dsimp only
  rw [rests.faults]
  split <;> rfl

/-- The world once the directory was asked. -/
def lookedUp (b : Backend σ) (w : World σ) (email : String) : World σ :=
  (w.make .findUser (b.findUser email)).2

theorem run_login (resolved : origin.resolve = .ok device) :
    (c.login credentials origin).run.run (answer b) w =
      match c.bounded "user_directory.find_by_email"
        (w.make .findUser (b.findUser credentials.email)).1 with
      | .error e => (Controller.surface "login" e).run.run (answer b) (w.lookedUp b credentials.email)
      | .ok found =>
        (c.judge credentials device found).run.run (answer b) (w.lookedUp b credentials.email) := by
  rw [Controller.login_eq, resolved, Action.run_bind]
  change (Action.call (.findUser credentials.email) >>= _).run.run (answer b) w = _
  rw [Action.run_bind, Action.run_call]
  unfold lookedUp
  rw [show answer b (.findUser credentials.email) w =
    w.make .findUser (b.findUser credentials.email) from rfl]
  dsimp only
  cases c.bounded "user_directory.find_by_email"
    (w.make .findUser (b.findUser credentials.email)).1 with
  | error e => rfl
  | ok found => rfl

theorem judge_stranger (b : Backend σ) (w : World σ) (c : Controller) (credentials : Credentials)
    (device : DeviceIdentity) {found : Option User} (unknown : stranger found = true) :
    ∃ log, (c.judge credentials device found).run.run (answer b) w =
      (.error Controller.invalidCredentials, { w.afterDecoy credentials.password with log }) := by
  cases found with
  | none =>
    unfold Controller.judge
    rw [Action.run_bind, run_compareDecoy]
    exact ⟨_, rfl⟩
  | some user =>
    have inactive : user.isActive = false := by simpa [stranger] using unknown
    unfold Controller.judge
    dsimp only
    rw [inactive, if_neg Bool.false_ne_true, Action.run_bind, run_compareDecoy]
    exact ⟨_, rfl⟩

theorem judge_wrong (b : Backend σ) (w : World σ) (c : Controller) (credentials : Credentials)
    (device : DeviceIdentity) {user : User} (active : user.isActive = true) {e : Error}
    (verdict : (w.compare user.passwordHash credentials.password).1 = .error e) :
    ∃ log, (c.judge credentials device (some user)).run.run (answer b) w =
      (.error Controller.invalidCredentials,
        { (w.compare user.passwordHash credentials.password).2 with log }) := by
  unfold Controller.judge
  dsimp only
  rw [if_pos active, Action.run_bind, Action.run_call,
    show answer b (.compare user.passwordHash credentials.password) w =
      w.compare user.passwordHash credentials.password from rfl, verdict]
  dsimp only
  split
  · exact ⟨_, rfl⟩
  · exact ⟨_, rfl⟩

theorem judge_right {user : User} (active : user.isActive = true)
    (verdict : (w.compare user.passwordHash credentials.password).1 = .ok ()) :
    (c.judge credentials device (some user)).run.run (answer b) w =
      (c.welcome user device).run.run (answer b)
        (w.compare user.passwordHash credentials.password).2 := by
  unfold Controller.judge
  dsimp only
  rw [if_pos active, Action.run_bind, Action.run_call,
    show answer b (.compare user.passwordHash credentials.password) w =
      w.compare user.passwordHash credentials.password from rfl, verdict]

theorem welcome_guarded (c : Controller) (user : User) (device : DeviceIdentity) :
    (c.welcome user device).Guarded true (fun _ => True) [.internal] := by
  unfold Controller.welcome
  refine (Action.guarded_issueFor _ _ (by decide)).bind fun pair => ?_
  refine (Action.guarded_useStore _ _ (by decide)).bind fun _ => ?_
  exact (Action.guarded_log _ _ _).bind fun _ => Action.guarded_pure _

theorem tally_judge (b : Backend σ) (w : World σ) (c : Controller) (credentials : Credentials)
    (device : DeviceIdentity) (found : Option User) :
    ((c.judge credentials device found).run.run (answer b) w).2.tally = w.spend (some found) := by
  unfold spend
  dsimp only
  cases unknown : stranger found with
  | true =>
    obtain ⟨log, ran⟩ := judge_stranger b w c credentials device unknown
    rw [ran, if_pos rfl]
    exact tally_afterDecoy w credentials.password
  | false =>
    cases found with
    | none => cases unknown
    | some user =>
      have active : user.isActive = true := by simpa [stranger] using unknown
      have counted := tally_compare w user.passwordHash credentials.password
      rw [if_neg Bool.false_ne_true]
      cases verdict : (w.compare user.passwordHash credentials.password).1 with
      | error e =>
        obtain ⟨log, ran⟩ := judge_wrong b w c credentials device active verdict
        rw [ran]
        exact counted
      | ok right =>
        rw [judge_right active verdict, (rests_run (welcome_guarded c user device) _).tally]
        exact counted

/-- What a login does to the tally follows from what it meets. -/
theorem tally_login (b : Backend σ) (w : World σ) (c : Controller) (credentials : Credentials)
    (origin : DeviceMetadata) :
    ((c.login credentials origin).run.run (answer b) w).2.tally =
      w.spend (w.meets b credentials origin) := by
  have rests : w.Rests (w.lookedUp b credentials.email) := rests_make w _ _
  unfold meets
  cases resolved : origin.resolve with
  | error e =>
    rw [Controller.login_eq, resolved]
    rfl
  | ok device =>
    rw [run_login resolved]
    have surfaced : ∀ e : Error, ((Controller.surface "login" e : Action TokenPair).run.run (answer b)
        (w.lookedUp b credentials.email)).2.tally = w.tally := by
      intro e
      have keeps : (Controller.surface "login" e : Action TokenPair).Keeps (hearing true fun _ => True)
          (fun _ _ => True) () := Action.keeps_surface trivial
      exact (rests.trans (rests_program keeps _)).tally
    rcases (w.make .findUser (b.findUser credentials.email)).1 with ⟨e | found⟩ | _
    · exact surfaced _
    · exact (tally_judge b _ c credentials device found).trans (rests.spend _)
    · exact surfaced _

theorem meets_some {found : Option User} (met : w.meets b credentials origin = some found) :
    ∃ device, origin.resolve = .ok device ∧
      (w.make .findUser (b.findUser credentials.email)).1 = .answered (.ok found) := by
  unfold meets at met
  split at met
  · rename_i device answered resolved came
    rw [← Option.some.inj met]
    exact ⟨device, resolved, came⟩
  · cases met

/-- Without an active user whose hash the password matches, a login fails with the one error. -/
theorem login_refused {found : Option User} (met : w.meets b credentials origin = some found)
    (bad : stranger found = true ∨ ∃ user e, found = some user ∧
      (w.compare user.passwordHash credentials.password).1 = .error e) :
    (w.run b (c.login credentials origin)).1 = .error Controller.invalidCredentials := by
  unfold run
  obtain ⟨device, resolved, came⟩ := meets_some met
  have rests : w.Rests (w.lookedUp b credentials.email) := rests_make w _ _
  rw [run_login resolved, came]
  change ((c.judge credentials device found).run.run (answer b) (w.lookedUp b credentials.email)).1 = _
  cases unknown : stranger found with
  | true =>
    obtain ⟨log, ran⟩ := judge_stranger b (w.lookedUp b credentials.email) c credentials device unknown
    rw [ran]
  | false =>
    rcases bad with missing | ⟨user, e, rfl, verdict⟩
    · rw [unknown] at missing
      cases missing
    · rw [← rests.verdict] at verdict
      have active : user.isActive = true := by simpa [stranger] using unknown
      obtain ⟨log, ran⟩ := judge_wrong b (w.lookedUp b credentials.email) c credentials device active
        verdict
      rw [ran]

end World

/-! ### What a failed login leaves -/

/-- Whether a call goes to the store or the directory. -/
def Call.isOutside : Call → Bool
  | .findUser _ | .store _ => true
  | _ => false

/-- The protocol of a program that asks neither the store nor the directory. -/
def aside : Protocol Unit where
  next _ _ := ()
  asks _ call := call.isOutside = false
  tells _ := True
  asks_log _ _ := rfl
  next_log _ _ _ := rfl

/-- A backend where a record that fails leaves no trace in what is looked at, and looking up a user
never does. -/
structure Backend.Harmless {σ τ : Type} (b : Backend σ) (view : σ → τ) : Prop where
  create : ∀ user hash expiresAt device now s e,
    (b.store (.create user hash expiresAt device) now s).1 = .error e →
      view (b.store (.create user hash expiresAt device) now s).2 = view s
  findUser : ∀ email s, view (b.findUser email s).2 = view s

theorem Memory.backend_harmless : Memory.backend.Harmless Memory.store :=
  ⟨fun _ _ _ _ _ _ _ failed => (nomatch failed), fun _ _ => rfl⟩

theorem Database.backend_harmless :
    Database.backend.Harmless fun db => (db.tables.devices, db.tables.sessions) where
  create _ _ _ _ _ db _ failed := Request.on_atomically_kept _ db failed
  findUser email db := by
    rw [show (Database.backend.findUser email db).2 = db from Request.on_findUser_kept email db]

namespace World

variable {σ τ : Type} {b : Backend σ} {view : σ → τ} {w w' : World σ} {c : Controller}
  {credentials : Credentials} {origin : DeviceMetadata}

theorem state_answer (b : Backend σ) (w : World σ) (call : Call) (inside : call.isOutside = false) :
    (answer b call w).2.state = w.state := by
  cases call with
  | findUser email => cases inside
  | store call => cases inside
  | decoy =>
    unfold answer askDecoy hash
    dsimp only
    split
    · rfl
    · split <;> rfl
  | compare hash password => unfold answer compare; dsimp only; split <;> rfl
  | issue kind user =>
    unfold answer issue
    dsimp only
    split
    · rfl
    · split <;> rfl
  | parse token => rfl
  | log event => rfl

theorem state_run {α : Type} {ends : Unit → α → Prop} {p : Program α} (keeps : p.Keeps aside ends ())
    (w : World σ) : (p.run (answer b) w).2.state = w.state := by
  induction p generalizing w with
  | done a => rfl
  | ask call next ih =>
    obtain ⟨inside, rest⟩ := keeps
    exact (ih _ (rest _ trivial) _).trans (state_answer b w _ inside)

theorem state_afterDecoy (b : Backend σ) (w : World σ) (password : String) :
    (w.afterDecoy password).state = w.state := by
  have keeps : (Controller.compareDecoy password).Keeps aside (fun _ _ => True) () := by
    unfold Controller.compareDecoy
    refine .bind (Action.keeps_call rfl fun decoy _ => ?_)
    cases decoy with
    | none => exact Action.keeps_pure trivial
    | some hash => exact .bind (Action.keeps_call rfl fun _ _ => Action.keeps_pure trivial)
  have state := state_run (b := b) keeps w
  rw [run_compareDecoy] at state
  exact state

theorem view_lookedUp (harmless : b.Harmless view) (w : World σ) (email : String) :
    view (w.lookedUp b email).state = view w.state := by
  unfold lookedUp
  rcases w.state_make .findUser (b.findUser email) with made | spared
  · rw [made]
    exact harmless.findUser email w.state
  · rw [spared]

theorem run_surface (b : Backend σ) (w : World σ) {α : Type} (operation : String) (e : Error) :
    ∃ v, (Controller.surface operation e : Action α).run.run (answer b) w = (.error e.surface, v) ∧
      v.state = w.state := by
  have keeps : (Controller.surface operation e : Action α).Keeps aside (fun _ _ => True) () :=
    Action.keeps_surface trivial
  exact ⟨_, Prod.ext (Action.run_surface _ operation e w) rfl, state_run keeps w⟩

/-- A call that is not answered leaves no trace in what is looked at, if failing leaves none. -/
theorem view_make (view : σ → τ) {α : Type} {target : Target} (call : σ → Result α × σ)
    (spared : ∀ f, w.faults target = some f → f.after = false)
    (harmless : ∀ e, (call w.state).1 = .error e → view (call w.state).2 = view w.state) :
    (∃ a v, w.make target call = (.answered (.ok a), v)) ∨
      ∃ reply v, w.make target call = (reply, v) ∧ (∀ a, reply ≠ .answered (.ok a)) ∧
        view v.state = view w.state := by
  rcases make_spared spared call with made | ⟨-, reply, refused, failed⟩
  · cases came : (call w.state).1 with
    | ok a =>
      rw [came] at made
      exact Or.inl ⟨a, _, made⟩
    | error e =>
      rw [came] at made
      exact Or.inr ⟨_, _, made, fun a same => (nomatch same), harmless e came⟩
  · exact Or.inr ⟨reply, w, refused, failed, rfl⟩

/-- A record that fails leaves no trace in what is looked at. -/
theorem view_recording (harmless : b.Harmless view)
    (spared : ∀ f, w.faults .create = some f → f.after = false) (operation : String) (user : Uuid)
    (pair : TokenPair) (device : DeviceIdentity) :
    (∃ session v, (c.useStore operation (Controller.recording user pair device)).run.run (answer b) w =
      (.ok session, v)) ∨
      ∃ e v, (c.useStore operation (Controller.recording user pair device)).run.run (answer b) w =
        (.error e, v) ∧ view v.state = view w.state := by
  unfold Controller.useStore Controller.askStore
  rw [bind_assoc, Action.run_bind, Action.run_call,
    show answer b (.store (Controller.recording user pair device)) w =
      w.make .create (b.store (Controller.recording user pair device) w.now) from rfl]
  rcases view_make view (b.store (Controller.recording user pair device) w.now) spared
    (harmless.create _ _ _ _ _ _) with ⟨session, v, made⟩ | ⟨reply, v, made, failed, kept⟩
  · rw [made]
    exact Or.inl ⟨session, v, rfl⟩
  · rw [made]
    have refused : ∃ e, c.bounded (Controller.recording user pair device).operation reply = .error e := by
      cases outcome : c.bounded (Controller.recording user pair device).operation reply with
      | ok a => exact absurd (bounded_ok outcome) (failed a)
      | error e => exact ⟨e, rfl⟩
    obtain ⟨e, refused⟩ := refused
    obtain ⟨v', surfaced, state⟩ := run_surface b v (α := Session) operation e
    refine Or.inr ⟨e.surface, v', ?_, (congrArg view state).trans kept⟩
    refine Eq.trans ?_ surfaced
    change (pure (c.bounded (Controller.recording user pair device).operation reply) >>= _ :
      Action Session).run.run (answer b) v = _
    rw [refused]
    rfl

theorem view_welcome (harmless : b.Harmless view)
    (spared : ∀ f, w.faults .create = some f → f.after = false) (user : User)
    (device : DeviceIdentity) {e : Error}
    (failed : ((c.welcome user device).run.run (answer b) w).1 = .error e) :
    view ((c.welcome user device).run.run (answer b) w).2.state = view w.state := by
  have aside : (Controller.issueFor "login" user.id).Keeps aside (fun _ _ => True) () :=
    Action.keeps_issueFor rfl (fun _ => rfl) (fun _ _ _ _ => trivial) (fun _ _ _ => trivial)
      fun _ _ _ _ => trivial
  have quiet : (Controller.issueFor "login" user.id).Guarded true (fun _ => True) [.internal] :=
    Action.guarded_issueFor _ _ (by decide)
  have state := state_run (b := b) aside w
  have rests := rests_run (b := b) quiet w
  unfold Controller.welcome at failed ⊢
  rw [Action.run_bind] at failed ⊢
  cases issued : (Controller.issueFor "login" user.id).run.run (answer b) w with
  | mk outcome v =>
    rw [issued] at failed state rests
    cases outcome with
    | error e => exact congrArg view state
    | ok pair =>
      rw [← show view v.state = view w.state from congrArg view state]
      dsimp only at failed ⊢
      rw [Action.run_bind] at failed ⊢
      have spared' : ∀ f, v.faults .create = some f → f.after = false := by
        rw [show v.faults = w.faults from rests.faults]
        exact spared
      rcases view_recording (c := c) harmless spared' "login" user.id pair device with
        ⟨session, v', ran⟩ | ⟨e, v', ran, kept⟩
      · rw [ran] at failed
        cases failed
      · rw [ran]
        exact kept

theorem view_judge (harmless : b.Harmless view)
    (spared : ∀ f, w.faults .create = some f → f.after = false) (device : DeviceIdentity)
    (found : Option User) {e : Error}
    (failed : ((c.judge credentials device found).run.run (answer b) w).1 = .error e) :
    view ((c.judge credentials device found).run.run (answer b) w).2.state = view w.state := by
  cases unknown : stranger found with
  | true =>
    obtain ⟨log, ran⟩ := judge_stranger b w c credentials device unknown
    rw [ran]
    exact congrArg view (state_afterDecoy b w credentials.password)
  | false =>
    cases found with
    | none => cases unknown
    | some user =>
      have active : user.isActive = true := by simpa [stranger] using unknown
      have compared := state_answer b w (.compare user.passwordHash credentials.password) rfl
      cases verdict : (w.compare user.passwordHash credentials.password).1 with
      | error e =>
        obtain ⟨log, ran⟩ := judge_wrong b w c credentials device active verdict
        rw [ran]
        exact congrArg view compared
      | ok right =>
        rw [judge_right active verdict] at failed ⊢
        refine (view_welcome harmless ?_ user device failed).trans (congrArg view compared)
        rw [show (w.compare user.passwordHash credentials.password).2.faults = w.faults from
          faults_answer b (.compare user.passwordHash credentials.password) w]
        exact spared

/-- A login that fails leaves no trace in what is looked at. -/
theorem view_login (harmless : b.Harmless view)
    (spared : ∀ f, w.faults .create = some f → f.after = false) {e : Error}
    (failed : (w.run b (c.login credentials origin)).1 = .error e) :
    view (w.run b (c.login credentials origin)).2.state = view w.state := by
  unfold run at failed ⊢
  have found := view_lookedUp harmless w credentials.email
  have rests : w.Rests (w.lookedUp b credentials.email) := rests_make w _ _
  cases resolved : origin.resolve with
  | error e =>
    rw [Controller.login_eq, resolved]
    rfl
  | ok device =>
    rw [run_login resolved] at failed ⊢
    rw [← found]
    cases outcome : c.bounded "user_directory.find_by_email"
      (w.make .findUser (b.findUser credentials.email)).1 with
    | error e =>
      obtain ⟨v, surfaced, state⟩ := run_surface b (w.lookedUp b credentials.email) (α := TokenPair)
        "login" e
      dsimp only
      rw [surfaced]
      exact congrArg view state
    | ok found =>
      rw [outcome] at failed
      exact view_judge harmless (by rw [rests.faults]; exact spared) device found failed

/-! ### Histories -/

section Histories

variable {w : World Memory}

/-- What the directory answers, where this is a login that gets so far. -/
def met (w : World Memory) : Happening → Option (Option User)
  | .serve (.login credentials origin) => w.meets Memory.backend credentials origin
  | _ => none

/-- The logins in a history that get past the directory. -/
def checks (c : Controller) : World Memory → List Happening → Nat
  | _, [] => 0
  | w, s :: steps => (if (w.met s).isSome then 1 else 0) + checks c (w.step c s) steps

/-- The logins in a history for which the directory has no active user. -/
def strangers (c : Controller) : World Memory → List Happening → Nat
  | _, [] => 0
  | w, s :: steps => (if (w.met s).any stranger then 1 else 0) + strangers c (w.step c s) steps

theorem checks_cons (c : Controller) (w : World Memory) (s : Happening) (steps : List Happening) :
    w.checks c (s :: steps) = (if (w.met s).isSome then 1 else 0) + (w.step c s).checks c steps := rfl

theorem strangers_cons (c : Controller) (w : World Memory) (s : Happening) (steps : List Happening) :
    w.strangers c (s :: steps) =
      (if (w.met s).any stranger then 1 else 0) + (w.step c s).strangers c steps := rfl

theorem rests_serve (c : Controller) (w : World Memory) {r : Operation} (other : r.isLogin = false) :
    w.Rests (w.serve c r).2 := by
  have guarded : (c.serve r).Guarded (!r.isLogin) (fun _ => True) r.kinds := Action.serve_guarded r
  rw [other] at guarded
  exact rests_run guarded w

/-- What a thing that happens does to the tally follows from what it meets. -/
theorem tally_step (c : Controller) (w : World Memory) (s : Happening) :
    (w.step c s).tally = w.spend (w.met s) := by
  cases s with
  | wait time =>
    rcases waitUntil_cases w time with same | ⟨-, same⟩
    · rw [step, same]
      rfl
    · rw [step, same]
      rfl
  | enroll user => rfl
  | fail target delay failure => rfl
  | heal target => rfl
  | serve r =>
    cases login : r.isLogin with
    | false =>
      have unmet : w.met (.serve r) = none := by
        cases r with
        | login credentials origin => cases login
        | _ => rfl
      rw [unmet]
      exact (rests_serve c w login).tally
    | true =>
      cases r with
      | login credentials origin =>
        refine Eq.trans ?_ (tally_login Memory.backend w c credentials origin)
        change (((c.login credentials origin) >>= fun pair => pure (Response.pair pair)).run.run
          (answer Memory.backend) w).2.tally = _
        rw [Action.run_bind]
        rcases (c.login credentials origin).run.run (answer Memory.backend) w with ⟨_ | pair, v⟩
        · rfl
        · rfl
      | _ => cases login

theorem after_cons (c : Controller) (w : World Memory) (s : Happening) (steps : List Happening) :
    w.after c (s :: steps) = (w.step c s).after c steps := rfl

theorem decoy_spend (c : Controller) (w : World Memory) (s : Happening) :
    (w.step c s).decoy = (w.spend (w.met s)).decoy :=
  congrArg Tally.decoy (tally_step c w s)

theorem verifier_answer {σ : Type} (b : Backend σ) (call : Call) (w : World σ) :
    (answer b call w).2.verifier = w.verifier := by
  cases call with
  | decoy =>
    unfold answer askDecoy hash
    dsimp only
    split
    · rfl
    · split <;> rfl
  | compare hash password => unfold answer compare; dsimp only; split <;> rfl
  | _ => exact (rests_answer b w rfl).verifier

theorem verifier_step (c : Controller) (w : World Memory) (s : Happening) :
    (w.step c s).verifier = w.verifier := by
  have program : ∀ {α : Type} (p : Program α) (w : World Memory),
      (p.run (answer Memory.backend) w).2.verifier = w.verifier := by
    intro α p
    induction p with
    | done a => exact fun w => rfl
    | ask call next ih => exact fun w => (ih _ _).trans (verifier_answer _ call w)
  cases s with
  | wait time =>
    rcases waitUntil_cases w time with same | ⟨-, same⟩
    · rw [step, same]
    · rw [step, same]
  | serve r => exact program _ w
  | _ => rfl

/-- The decoy, where there is one, is a hash of the decoy password. -/
def KeepsDecoy (w : World Memory) : Prop :=
  ∀ h, w.decoy = some (some h) → ∃ salt, h = w.verifier.hash decoyPassword salt

theorem KeepsDecoy.asked (keeps : w.KeepsDecoy) {h : String} (asked : w.askDecoy.1 = some h) :
    ∃ salt, h = w.verifier.hash decoyPassword salt := by
  unfold askDecoy hash at asked
  cases kept : w.decoy with
  | some decoy =>
    rw [kept] at asked
    exact keeps h (kept.trans (congrArg some asked))
  | none =>
    rw [kept] at asked
    dsimp only at asked
    split at asked
    · cases asked
    · exact ⟨_, (Option.some.inj asked).symm⟩

theorem KeepsDecoy.step (keeps : w.KeepsDecoy) (c : Controller) (s : Happening) :
    (w.step c s).KeepsDecoy := by
  have decoy := decoy_spend c w s
  intro h kept
  rw [verifier_step]
  rw [kept] at decoy
  unfold spend at decoy
  split at decoy
  · exact keeps h decoy.symm
  · split at decoy
    · exact keeps.asked (Option.some.inj decoy.symm)
    · exact keeps h decoy.symm

theorem KeepsDecoy.after (keeps : w.KeepsDecoy) (c : Controller) (steps : List Happening) :
    ∀ h, (w.after c steps).decoy = some (some h) → ∃ salt, h = w.verifier.hash decoyPassword salt := by
  induction steps generalizing w with
  | nil => exact keeps
  | cons s steps ih =>
    have later := ih (keeps.step c s)
    rw [verifier_step] at later
    exact later

/-- A decoy that is kept is kept for good. -/
theorem decoy_step {decoy : Option String} (kept : w.decoy = some decoy) (c : Controller)
    (s : Happening) : (w.step c s).decoy = some decoy := by
  have same : w.askDecoy.1 = decoy := by
    unfold askDecoy
    rw [kept]
  rw [decoy_spend]
  unfold spend
  split
  · exact kept
  · split
    · exact congrArg some same
    · exact kept

theorem decoy_after {decoy : Option String} (kept : w.decoy = some decoy) (c : Controller)
    (steps : List Happening) : (w.after c steps).decoy = some decoy := by
  induction steps generalizing w with
  | nil => exact kept
  | cons s steps ih => exact ih (decoy_step kept c s)

/-- Once there is a decoy no password is hashed, and before that one is for the first login without
an active user. -/
theorem hashes_after (c : Controller) (w : World Memory) (steps : List Happening) :
    (w.after c steps).hashes =
      w.hashes + if w.decoy.isNone then min 1 (w.strangers c steps) else 0 := by
  induction steps generalizing w with
  | nil => simp [after, strangers]
  | cons s steps ih =>
    have hashes : (w.step c s).hashes = (w.spend (w.met s)).hashes :=
      congrArg Tally.hashes (tally_step c w s)
    have decoy := decoy_spend c w s
    rw [after_cons, ih, hashes, decoy, strangers_cons]
    unfold spend
    cases met : w.met s with
    | none => simp [tally]
    | some found =>
      cases unknown : stranger found with
      | false => simp [unknown]
      | true => simp [unknown]

/-- Every login that gets past the directory costs one comparison, unless the decoy could not be
hashed. -/
theorem compares_after (c : Controller) (w : World Memory) (steps : List Happening)
    (hashed : (w.after c steps).decoy ≠ some none) :
    (w.after c steps).compares = w.compares + w.checks c steps := by
  induction steps generalizing w with
  | nil => rfl
  | cons s steps ih =>
    have compares : (w.step c s).compares = (w.spend (w.met s)).compares :=
      congrArg Tally.compares (tally_step c w s)
    have decoy := decoy_spend c w s
    rw [after_cons, ih _ hashed, compares, checks_cons]
    unfold spend
    cases met : w.met s with
    | none => simp [tally]
    | some found =>
      cases unknown : stranger found with
      | false => simp [unknown]; omega
      | true =>
        have present : w.askDecoy.1.isSome = true := by
          cases asked : w.askDecoy.1 with
          | some hash => rfl
          | none =>
            unfold spend at decoy
            rw [met] at decoy
            simp only [unknown, if_true, asked] at decoy
            exact absurd (decoy_after decoy c steps) hashed
        simp [unknown, present]
        omega

end Histories

end World

/-- Failed logins look alike, leave no trace and cost one comparison. If the directory has no active
user for a login, or the comparison with the user's hash fails, the error is always the same. A
login that fails, for whatever reason, leaves devices and sessions as they are, in either backend.
Along any history every login that gets past the directory makes one comparison, if the decoy can be
hashed, and from a new controller on one password is hashed at most: that of the decoy, for the first
login for which the directory has no active user. -/
theorem failed_logins_alike (c : Controller) :
    (∀ (σ : Type) (b : Backend σ) (w : World σ) (credentials : Credentials) (origin : DeviceMetadata)
      (found : Option User), w.meets b credentials origin = some found →
        (stranger found = true ∨ ∃ user e, found = some user ∧
          (w.compare user.passwordHash credentials.password).1 = .error e) →
        (w.run b (c.login credentials origin)).1 =
          .error ⟨.invalidCredentials, "Invalid email or password", false⟩) ∧
    (∀ (σ τ : Type) (b : Backend σ) (view : σ → τ), b.Harmless view →
      ∀ (w : World σ) (credentials : Credentials) (origin : DeviceMetadata) (e : Error),
        (∀ f, w.faults .create = some f → f.after = false) →
        (w.run b (c.login credentials origin)).1 = .error e →
        view (w.run b (c.login credentials origin)).2.state = view w.state) ∧
    Memory.backend.Harmless Memory.store ∧
    Database.backend.Harmless (fun db => (db.tables.devices, db.tables.sessions)) ∧
    (∀ (w : World Memory) (steps : List Happening), (w.after c steps).decoy ≠ some none →
      (w.after c steps).compares = w.compares + w.checks c steps) ∧
    ∀ (w : World Memory) (steps : List Happening), w.decoy = none →
      (w.after c steps).hashes = w.hashes + min 1 (w.strangers c steps) ∧
        ∀ h, (w.after c steps).decoy = some (some h) →
          ∃ salt, h = w.verifier.hash World.decoyPassword salt := by
  refine ⟨fun σ b w credentials origin found met bad => World.login_refused met bad,
    fun σ τ b view harmless w credentials origin e spared failed =>
      World.view_login harmless spared failed,
    Memory.backend_harmless, Database.backend_harmless,
    fun w steps hashed => World.compares_after c w steps hashed, fun w steps fresh => ⟨?_, ?_⟩⟩
  · rw [World.hashes_after, fresh]
    rfl
  · have keeps : w.KeepsDecoy := by
      intro h kept
      rw [fresh] at kept
      cases kept
    exact keeps.after c steps

/-- What nobody can log in with in a small world. -/
def strangeCredentials : Credentials := ⟨"eve@example.com", "engine"⟩

theorem World.small_meets_stranger (now : Instant) :
    (World.small now).meets Memory.backend strangeCredentials soleOrigin = some none := by
  obtain ⟨device, resolved⟩ := World.soleOrigin_resolves
  have unknown : (World.small now).state.directory.find? strangeCredentials.email = none := by
    have name : Text.lower (Text.trim strangeCredentials.email) = "eve@example.com" := by decide +kernel
    have kept : Text.lower soleUser.email = "ada@example.com" := by decide +kernel
    unfold World.small
    rw [Directory.find?_insert, kept, name, if_neg (by decide)]
    rfl
  have came : ((World.small now).make .findUser
      (Memory.backend.findUser strangeCredentials.email)).1 = .answered (.ok none) :=
    congrArg (fun found => Reply.answered (.ok found)) unknown
  unfold World.meets
  rw [resolved, came]

/-- A stranger in a small world is refused, leaves nothing behind, and costs the hash of the decoy
and a comparison. -/
theorem failed_logins_alike_stranger :
    let c : Controller := ⟨⟨5000000000⟩⟩
    let w := World.small .epoch
    let login := Operation.login strangeCredentials soleOrigin
    ((w.run Memory.backend (c.login strangeCredentials soleOrigin)).1 =
        .error ⟨.invalidCredentials, "Invalid email or password", false⟩ ∧
      (w.run Memory.backend (c.login strangeCredentials soleOrigin)).2.state.store = w.state.store) ∧
      (w.after c [.serve login]).compares = 1 ∧ (w.after c [.serve login]).hashes = 1 := by
  intro c w login
  obtain ⟨alike, harmless, memory, -, compares, hashes⟩ := failed_logins_alike c
  have met : w.met (.serve login) = some none := World.small_meets_stranger .epoch
  have failed := alike Memory Memory.backend w strangeCredentials soleOrigin none met (Or.inl rfl)
  have silent : w.faults .create = none := rfl
  have untouched := harmless Memory _ Memory.backend _ memory w _ _ _
    (fun f fault => nomatch silent.symm.trans fault) failed
  have decoy : (w.after c [.serve login]).decoy ≠ some none := by
    rw [World.after_cons, show (w.step c (.serve login)).after c [] = w.step c (.serve login) from rfl,
      World.decoy_spend, met]
    exact fun none => nomatch none
  refine ⟨⟨failed, untouched⟩, ?_, ?_⟩
  · rw [compares w _ decoy, World.checks_cons, met]
    rfl
  · rw [(hashes w [.serve login] rfl).1, World.strangers_cons, met]
    rfl

end DeviceSessions
