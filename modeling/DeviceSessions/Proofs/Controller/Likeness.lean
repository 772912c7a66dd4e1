import DeviceSessions.Proofs.Concurrency.Clearance
import DeviceSessions.Proofs.Session.Part

/-!
# One action in two worlds

Two worlds can agree on a user while they differ in everything that is another user's. What is asked
for this user then comes to the same in both, if the identifiers that are drawn are the same.
-/

namespace DeviceSessions

section Alike

variable {α : Type} {R : α → α → Prop}

/-- Two results are the same error, or values that are related. -/
inductive Alike (R : α → α → Prop) : Result α → Result α → Prop where
  | ok {a a' : α} (related : R a a') : Alike R (.ok a) (.ok a')
  | error (e : Error) : Alike R (.error e) (.error e)

/-- Two calls both come late, or are answered with results that are alike. -/
inductive AlikeReply (R : α → α → Prop) : Reply α → Reply α → Prop where
  | answered {r r' : Result α} (alike : Alike R r r') : AlikeReply R (.answered r) (.answered r')
  | late : AlikeReply R .late .late

theorem Alike.eq {r r' : Result α} (alike : Alike Eq r r') : r' = r := by
  cases alike with
  | ok related => rw [related]
  | error e => rfl

theorem alike_refl (r : Result α) : Alike Eq r r := by
  cases r with
  | ok a => exact .ok rfl
  | error e => exact .error e

theorem AlikeReply.bounded {reply reply' : Reply α} (alike : AlikeReply R reply reply')
    (c : Controller) (name : String) : Alike R (c.bounded name reply) (c.bounded name reply') := by
  cases alike with
  | answered alike =>
    cases alike with
    | ok related => exact .ok related
    | error e => exact .error (e.context name)
  | late => exact .error _

end Alike

namespace World

/-- What two worlds have in common for a user: all but the store is the same, as far as it shows. -/
structure Agrees (v v' : World Memory) (user : Uuid) : Prop where
  now : v'.now = v.now
  deadline : v'.deadline = v.deadline
  issuer : v'.issuer = v.issuer
  faults : v'.faults = v.faults
  directory : v'.state.directory = v.state.directory
  shares : v.state.store.Shares v'.state.store user
  sound : v.state.store.Sound
  sound' : v'.state.store.Sound

/-- The identifiers that are drawn from one world to another are those that come next in a third. -/
def Feeds (v w v' : World Memory) : Prop :=
  ∀ k, v.idsDrawn + k < w.idsDrawn → v'.ids (v'.idsDrawn + k) = v.ids (v.idsDrawn + k)

/-- What two runs have in common at their ends. -/
structure EndsAlike {α : Type} (v v' : World Memory) (user : Uuid) (R : α → α → Prop)
    (e e' : Result α × World Memory) : Prop where
  results : Alike R e.1 e'.1
  agrees : e.2.Agrees e'.2 user
  drawn : e'.2.idsDrawn + v.idsDrawn = e.2.idsDrawn + v'.idsDrawn

/-- Two actions come to the same, where they draw the same identifiers. -/
def Same {α : Type} (v v' : World Memory) (user : Uuid) (R : α → α → Prop) (x x' : Action α) : Prop :=
  v.Feeds (v.run Memory.backend x).2 v' →
    EndsAlike v v' user R (v.run Memory.backend x) (v'.run Memory.backend x')

variable {v v' w w' : World Memory} {user : Uuid} {α β : Type} {R : α → α → Prop}
  {S : β → β → Prop} {x x' : Action α} {f f' : α → Action β}

theorem Agrees.moved (agrees : v.Agrees v' user) (kept : v.Kept w) (kept' : v'.Kept w')
    (shares : w.state.store.Shares w'.state.store user) (sound : w.state.store.Sound)
    (sound' : w'.state.store.Sound) : w.Agrees w' user where
  now := by rw [kept'.now, kept.now, agrees.now]
  deadline := by rw [kept'.deadline, kept.deadline, agrees.deadline]
  issuer := by rw [kept'.issuer, kept.issuer, agrees.issuer]
  faults := by rw [kept'.faults, kept.faults, agrees.faults]
  directory := by rw [kept'.directory, kept.directory, agrees.directory]
  shares
  sound
  sound'

theorem Agrees.still (agrees : v.Agrees v' user) (kept : v.Kept w) (kept' : v'.Kept w')
    (store : w.state.store = v.state.store) (store' : w'.state.store = v'.state.store) :
    w.Agrees w' user := by
  refine agrees.moved kept kept' ?_ ?_ ?_
  · rw [store, store']
    exact agrees.shares
  · rw [store]
    exact agrees.sound
  · rw [store']
    exact agrees.sound'

theorem kept_action (v : World Memory) (x : Action α) : v.Kept (v.run Memory.backend x).2 :=
  kept_run x.run v

theorem run_bind_ok {a : α} (ran : v.run Memory.backend x = (.ok a, w)) (f : α → Action β) :
    v.run Memory.backend (x >>= f) = w.run Memory.backend (f a) :=
  ((Runs.mk ran rfl).bind (Runs.mk rfl rfl)).run

theorem run_bind_error {e : Error} (ran : v.run Memory.backend x = (.error e, w))
    (f : α → Action β) : v.run Memory.backend (x >>= f) = (.error e, w) :=
  (Runs.mk ran rfl).bind_error.run

theorem Feeds.first {u : World Memory} (feeds : v.Feeds u v') (kept : w.Kept u) : v.Feeds w v' :=
  fun k low => feeds k (Nat.lt_of_lt_of_le low kept.idsDrawn)

theorem Feeds.rest {u : World Memory} (feeds : v.Feeds u v') (kept : v.Kept w) (kept' : v'.Kept w')
    (drawn : w'.idsDrawn + v.idsDrawn = w.idsDrawn + v'.idsDrawn) : w.Feeds u w' := by
  intro k low
  have before := kept.idsDrawn
  have fed := feeds (w.idsDrawn - v.idsDrawn + k) (by omega)
  have here : v.idsDrawn + (w.idsDrawn - v.idsDrawn + k) = w.idsDrawn + k := by omega
  have here' : v'.idsDrawn + (w.idsDrawn - v.idsDrawn + k) = w'.idsDrawn + k := by omega
  rw [here, here', ← kept.ids, ← kept'.ids] at fed
  exact fed

/-- An action goes on alike with values that are related. -/
theorem Same.bind (first : v.Same v' user R x x')
    (rest : ∀ a a' w w', R a a' → w.Agrees w' user → v.Kept w → w.Same w' user S (f a) (f' a')) :
    v.Same v' user S (x >>= f) (x' >>= f') := by
  intro feeds
  have kept := kept_action v x
  have kept' := kept_action v' x'
  unfold Same at first
  generalize ran : v.run Memory.backend x = e at first kept
  generalize ran' : v'.run Memory.backend x' = e' at first kept'
  obtain ⟨r, w⟩ := e
  obtain ⟨r', w'⟩ := e'
  cases r with
  | error e =>
    rw [run_bind_error ran] at feeds ⊢
    obtain ⟨results, agrees, drawn⟩ := first feeds
    cases results with
    | error e =>
      rw [run_bind_error ran']
      exact ⟨.error e, agrees, drawn⟩
  | ok a =>
    rw [run_bind_ok ran] at feeds ⊢
    obtain ⟨results, agrees, drawn⟩ := first (feeds.first (kept_action w (f a)))
    cases results with
    | ok related =>
      rename_i a'
      rw [run_bind_ok ran']
      obtain ⟨results, agrees', drawn'⟩ :=
        rest a a' w w' related agrees kept (feeds.rest kept kept' drawn)
      dsimp only at drawn
      exact ⟨results, agrees', by omega⟩

theorem same_pure (agrees : v.Agrees v' user) {a a' : α} (related : R a a') :
    v.Same v' user R (pure a) (pure a') :=
  fun _ => ⟨.ok related, agrees, Nat.add_comm _ _⟩

theorem same_throw (agrees : v.Agrees v' user) (e : Error) :
    v.Same v' user R (throw e) (throw e) :=
  fun _ => ⟨.error e, agrees, Nat.add_comm _ _⟩

theorem same_ofResult (agrees : v.Agrees v' user) {r r' : Result α} (alike : Alike R r r') :
    v.Same v' user R (Action.ofResult r) (Action.ofResult r') :=
  fun _ => ⟨alike, agrees, Nat.add_comm _ _⟩

/-! ### Calls -/

/-- A fault makes or does not make a call, whatever the state. -/
theorem apply_alike (f : Fault) (deadline : Span) {call : Memory → Result α × Memory} {m m' : Memory}
    (alike : Alike R (call m).1 (call m').1) :
    AlikeReply R (f.apply deadline call m).1 (f.apply deadline call m').1 ∧
      ((f.apply deadline call m).2 = (call m).2 ∧ (f.apply deadline call m').2 = (call m').2 ∨
        (f.apply deadline call m).2 = m ∧ (f.apply deadline call m').2 = m') := by
  constructor
  · rw [f.apply_fst, f.apply_fst]
    unfold Fault.close
    split
    · cases f.failure with
      | none => exact .answered alike
      | some e => exact .answered (.error e)
    · exact .late
  · rw [f.apply_snd, f.apply_snd]
    split
    · exact Or.inl ⟨rfl, rfl⟩
    · exact Or.inr ⟨rfl, rfl⟩

theorem make_alike (agrees : v.Agrees v' user) (target : Target)
    {call : Memory → Result α × Memory} (alike : Alike R (call v.state).1 (call v'.state).1) :
    AlikeReply R (v.make target call).1 (v'.make target call).1 ∧
      ((v.make target call).2.state = (call v.state).2 ∧
          (v'.make target call).2.state = (call v'.state).2 ∨
        (v.make target call).2.state = v.state ∧ (v'.make target call).2.state = v'.state) := by
  unfold make
  rw [agrees.faults, agrees.deadline]
  cases v.faults target with
  | none => exact ⟨.answered alike, Or.inl ⟨rfl, rfl⟩⟩
  | some f => exact apply_alike f v.deadline alike

theorem idsDrawn_make (w : World Memory) (target : Target) (call : Memory → Result α × Memory) :
    (w.make target call).2.idsDrawn = w.idsDrawn := by
  unfold make
  split <;> rfl

/-- What a call comes to that neither goes to the store nor draws an identifier. -/
theorem same_still (agrees : v.Agrees v' user) {call : Call} {R : call.Answer → call.Answer → Prop}
    (related : R (answer Memory.backend call v).1 (answer Memory.backend call v').1)
    (still : ∀ u : World Memory, (answer Memory.backend call u).2.state.store = u.state.store ∧
      (answer Memory.backend call u).2.idsDrawn = u.idsDrawn) :
    v.Same v' user R (Action.call call) (Action.call call) := by
  intro _
  obtain ⟨store, drawn⟩ := still v
  obtain ⟨store', drawn'⟩ := still v'
  refine ⟨.ok related, agrees.still (kept_answer v call) (kept_answer v' call) store store', ?_⟩
  change (answer Memory.backend call v').2.idsDrawn + _ = (answer Memory.backend call v).2.idsDrawn + _
  rw [drawn, drawn', Nat.add_comm]

theorem still_findUser (w : World Memory) (email : String) :
    (answer Memory.backend (.findUser email) w).2.state.store = w.state.store ∧
      (answer Memory.backend (.findUser email) w).2.idsDrawn = w.idsDrawn := by
  refine ⟨?_, idsDrawn_make w _ _⟩
  rcases w.state_make .findUser (Memory.backend.findUser email) with made | spared
  · exact congrArg Memory.store made
  · exact congrArg Memory.store spared

theorem same_findUser (agrees : v.Agrees v' user) (email : String) :
    v.Same v' user (AlikeReply fun found found' =>
      found = found' ∧ found = v.state.directory.find? email)
      (Action.call (.findUser email)) (Action.call (.findUser email)) := by
  refine same_still agrees (make_alike agrees .findUser (.ok ⟨?_, rfl⟩)).1 (still_findUser · email)
  rw [agrees.directory]

theorem same_log (agrees : v.Agrees v' user) (level : Level) (message : String)
    (fields : List (String × FieldValue)) :
    v.Same v' user Eq (Action.log level message fields) (Action.log level message fields) :=
  same_still agrees rfl fun _ => ⟨rfl, rfl⟩

theorem same_surface (agrees : v.Agrees v' user) (operation : String) (e : Error) :
    v.Same v' user R (Controller.surface operation e) (Controller.surface operation e) := by
  unfold Controller.surface
  cases e.kind.isInfrastructure with
  | true => exact (same_log agrees _ _ _).bind fun _ _ _ _ _ agrees _ => same_throw agrees _
  | false => exact same_throw agrees _

theorem parse_eq (agrees : v.Agrees v' user) (token : String) : v'.parse token = v.parse token := by
  unfold parse failure?
  rw [agrees.faults, agrees.issuer, agrees.now]

theorem same_parse (agrees : v.Agrees v' user) (token : String) :
    v.Same v' user (fun r r' => r = r' ∧ r = v.parse token) (Action.call (.parse token))
      (Action.call (.parse token)) :=
  same_still agrees ⟨(parse_eq agrees token).symm, rfl⟩ fun _ => ⟨rfl, rfl⟩

theorem same_compare (agrees : v.Agrees v' user) (hash password : String) :
    v.Same v' user Eq (Action.call (.compare hash password))
      (Action.call (.compare hash password)) := by
  refine same_still agrees ?_ fun u =>
    ⟨congrArg Memory.store (compare_still u hash password).2, idsDrawn_compare u hash password⟩
  change (v.compare hash password).1 = (v'.compare hash password).1
  unfold compare failure?
  dsimp only
  rw [agrees.faults]
  split <;> rfl

/-- What is kept of the decoy differs, but nothing comes of it. -/
theorem same_compareDecoy (agrees : v.Agrees v' user) (password : String) :
    v.Same v' user Eq (Controller.compareDecoy password) (Controller.compareDecoy password) := by
  obtain ⟨w, runs, state, drawn⟩ := compareDecoy_runs v password
  obtain ⟨w', runs', state', drawn'⟩ := compareDecoy_runs v' password
  intro _
  rw [runs.run, runs'.run]
  refine ⟨.ok rfl, agrees.still runs.kept runs'.kept (congrArg _ state) (congrArg _ state'), ?_⟩
  dsimp only
  rw [drawn, drawn', Nat.add_comm]

theorem same_issue (agrees : v.Agrees v' user) (kind : TokenKind) (owner : Uuid) :
    v.Same v' user Eq (Action.call (.issue kind owner)) (Action.call (.issue kind owner)) := by
  intro feeds
  change v.Feeds (v.issue kind owner).2 v' at feeds
  change EndsAlike v v' user Eq (.ok (v.issue kind owner).1, (v.issue kind owner).2)
    (.ok (v'.issue kind owner).1, (v'.issue kind owner).2)
  have failure : v'.failure? (.issue kind) = v.failure? (.issue kind) := by
    unfold failure?
    rw [agrees.faults]
  have expiry : v'.issuer.expiry kind v'.now = v.issuer.expiry kind v.now := by
    rw [agrees.issuer, agrees.now]
  cases failed : v.failure? (.issue kind) with
  | some e =>
    rw [issue_failed failed, issue_failed (failure.trans failed)]
    exact ⟨.ok rfl, agrees, Nat.add_comm _ _⟩
  | none =>
    have unfailed := failure.trans failed
    cases ends : v.issuer.expiry kind v.now with
    | error e =>
      rw [issue_refused failed ends, issue_refused unfailed (expiry.trans ends)]
      exact ⟨.ok rfl, agrees, Nat.add_comm _ _⟩
    | ok expiresAt =>
      rw [issue_ok failed ends] at feeds ⊢
      rw [issue_ok unfailed (expiry.trans ends)]
      have next : v'.ids v'.idsDrawn = v.ids v.idsDrawn := feeds 0 (Nat.lt_succ_self _)
      have token : v'.nextToken kind owner expiresAt = v.nextToken kind owner expiresAt := by
        unfold nextToken
        rw [agrees.issuer, agrees.now, next]
      refine ⟨.ok (congrArg Except.ok token.symm), agrees.still ?_ ?_ rfl rfl, ?_⟩
      · exact ⟨rfl, rfl, rfl, rfl, rfl, rfl, Nat.le_succ _⟩
      · exact ⟨rfl, rfl, rfl, rfl, rfl, rfl, Nat.le_succ _⟩
      · change v'.idsDrawn + 1 + v.idsDrawn = v.idsDrawn + 1 + v'.idsDrawn
        omega

theorem same_store (agrees : v.Agrees v' user) {call : StoreCall} (mine : call.user = user) :
    v.Same v' user (AlikeReply fun a a' => call.told a = call.told a')
      (Action.call (.store call)) (Action.call (.store call)) := by
  intro _
  have kept := kept_answer v (.store call)
  have kept' := kept_answer v' (.store call)
  change EndsAlike v v' user _ (.ok (answer Memory.backend (.store call) v).1,
    (answer Memory.backend (.store call) v).2) (.ok (answer Memory.backend (.store call) v').1,
    (answer Memory.backend (.store call) v').2)
  have here' : answer Memory.backend (.store call) v' =
      v'.make call.target (Memory.backend.store call v.now) := by
    rw [← agrees.now]
    rfl
  rw [here'] at kept' ⊢
  obtain ⟨told, shares⟩ := agrees.shares.answer agrees.sound agrees.sound' v.now mine
  have answers : Alike (fun a a' => call.told a = call.told a')
      (Memory.backend.store call v.now v.state).1 (Memory.backend.store call v.now v'.state).1 :=
    .ok told.symm
  obtain ⟨replies, states⟩ := make_alike agrees call.target answers
  refine ⟨.ok replies, ?_, ?_⟩
  · rcases states with ⟨made, made'⟩ | ⟨unmade, unmade'⟩
    · refine agrees.moved kept kept' ?_ ?_ ?_
      · rw [show (answer Memory.backend (.store call) v).2.state = _ from made, made']
        exact shares
      · rw [show (answer Memory.backend (.store call) v).2.state = _ from made]
        exact SessionStore.sound_answer agrees.sound v.now call
      · rw [made']
        exact SessionStore.sound_answer agrees.sound' v.now call
    · exact agrees.still kept kept' (congrArg Memory.store unmade) (congrArg Memory.store unmade')
  · change (v'.make _ _).2.idsDrawn + _ = (v.make _ _).2.idsDrawn + _
    rw [idsDrawn_make, idsDrawn_make, Nat.add_comm]

/-! ### Operations -/

variable {c : Controller}

theorem same_askStore (agrees : v.Agrees v' user) (call : StoreCall) (mine : call.user = user) :
    v.Same v' user (Alike fun a a' => call.told a = call.told a') (c.askStore call)
      (c.askStore call) := by
  unfold Controller.askStore
  refine (same_store agrees mine).bind fun reply reply' w w' replies agrees _ => ?_
  exact same_pure agrees (replies.bounded c call.operation)

theorem same_useStore (agrees : v.Agrees v' user) (call : StoreCall) (mine : call.user = user)
    (operation : String) :
    v.Same v' user (fun a a' => call.told a = call.told a') (c.useStore operation call)
      (c.useStore operation call) := by
  unfold Controller.useStore
  refine (same_askStore agrees call mine).bind fun r r' w w' alike agrees _ => ?_
  cases alike with
  | ok told => exact same_pure agrees told
  | error e => exact same_surface agrees operation e

theorem same_issueFor (agrees : v.Agrees v' user) (operation : String) (owner : Uuid) :
    v.Same v' user Eq (Controller.issueFor operation owner) (Controller.issueFor operation owner) := by
  unfold Controller.issueFor Controller.issuePair
  refine Same.bind (R := Eq) ((same_issue agrees .access owner).bind ?_) ?_
  · rintro access _ w w' rfl agrees -
    cases access with
    | error e => exact same_pure agrees rfl
    | ok access =>
      refine (same_issue agrees .refresh owner).bind ?_
      rintro refresh _ w w' rfl agrees -
      cases refresh with
      | error e => exact same_pure agrees rfl
      | ok refresh => exact same_pure agrees rfl
  · rintro issued _ w w' rfl agrees -
    cases issued with
    | error e => exact same_surface agrees operation _
    | ok pair => exact same_pure agrees rfl

theorem same_log_bind {level : Level} {message : String} {fields : List (String × FieldValue)}
    {f f' : Unit → Action β} (agrees : v.Agrees v' user)
    (rest : ∀ w w', World.Agrees w w' user → w.Same w' user S (f ()) (f' ())) :
    v.Same v' user S (Action.log level message fields >>= f)
      (Action.log level message fields >>= f') :=
  (same_log agrees level message fields).bind fun _ _ w w' _ agrees _ => rest w w' agrees

theorem login_same {credentials : Credentials} {origin : DeviceMetadata} (agrees : v.Agrees v' user)
    (mine : v.owner? (.login credentials origin) = some user) :
    v.Same v' user Eq (c.login credentials origin) (c.login credentials origin) := by
  unfold Controller.login
  refine (same_ofResult agrees (alike_refl origin.resolve)).bind ?_
  rintro device _ w w' rfl agrees kept
  refine (same_findUser agrees credentials.email).bind ?_
  rintro reply reply' w₁ w₁' replies agrees -
  have alike := replies.bounded c "user_directory.find_by_email"
  dsimp only
  generalize c.bounded "user_directory.find_by_email" reply = r at alike ⊢
  generalize c.bounded "user_directory.find_by_email" reply' = r' at alike ⊢
  cases alike with
  | error e => exact same_surface agrees "login" e
  | ok related =>
    obtain ⟨rfl, known⟩ := related
    rename_i found
    cases found with
    | none =>
      refine (same_compareDecoy agrees _).bind fun _ _ _ _ _ agrees _ => ?_
      exact same_log_bind agrees fun _ _ agrees => same_throw agrees _
    | some owner =>
      have own : owner.id = user := by
        change (v.state.directory.find? credentials.email).map User.id = some user at mine
        rw [← kept.directory, ← known] at mine
        exact Option.some.inj mine
      cases active : owner.isActive with
      | false =>
        simp only [active, Bool.not_false, if_true]
        refine (same_compareDecoy agrees _).bind fun _ _ _ _ _ agrees _ => ?_
        exact same_log_bind agrees fun _ _ agrees => same_throw agrees _
      | true =>
        simp only [active, Bool.not_true, Bool.false_eq_true, if_false]
        refine (same_compare agrees owner.passwordHash credentials.password).bind ?_
        rintro verdict _ w₂ w₂' rfl agrees -
        cases verdict with
        | error e =>
          dsimp only
          split <;> exact same_log_bind agrees fun _ _ agrees => same_throw agrees _
        | ok _ =>
          refine (same_issueFor agrees "login" owner.id).bind ?_
          rintro pair _ w₃ w₃' rfl agrees -
          refine (same_useStore agrees (Controller.recording owner.id pair device) own
            "login").bind fun _ _ _ _ _ agrees _ => ?_
          exact same_log_bind agrees fun _ _ agrees => same_pure agrees rfl

theorem rotate_same (agrees : v.Agrees v' user) (device : DeviceIdentity) :
    v.Same v' user Eq (c.rotate user device) (c.rotate user device) := by
  unfold Controller.rotate
  refine (same_issueFor agrees "refresh" user).bind ?_
  rintro pair _ w w' rfl agrees -
  refine (same_useStore agrees (.revokeAll user) rfl "refresh").bind ?_
  rintro revoked revoked' w₁ w₁' same agrees -
  obtain rfl : revoked = revoked' := same
  refine (same_askStore agrees (Controller.recording user pair device) rfl).bind ?_
  rintro r r' w₂ w₂' alike agrees -
  cases alike with
  | error e => exact same_log_bind agrees fun _ _ agrees => same_surface agrees "refresh" e
  | ok told => exact same_log_bind agrees fun _ _ agrees => same_pure agrees rfl

theorem refreshUser_same (agrees : v.Agrees v' user) (token : String) :
    v.Same v' user (fun subject subject' => subject = subject' ∧ subject? token = some subject)
      (Controller.refreshUser token) (Controller.refreshUser token) := by
  unfold Controller.refreshUser
  refine (same_parse agrees token).bind ?_
  rintro parsed _ w w' ⟨rfl, is⟩ agrees -
  cases parsed with
  | error e => exact same_log_bind agrees fun _ _ agrees => same_throw agrees _
  | ok claims =>
    dsimp only
    cases claims.kind with
    | access => exact same_log_bind agrees fun _ _ agrees => same_throw agrees _
    | refresh => exact same_pure agrees ⟨rfl, subject?_of_check (check_of_parse is.symm)⟩

theorem refresh_same {token : String} {origin : DeviceMetadata} (agrees : v.Agrees v' user)
    (mine : ∀ owner, subject? token = some owner → owner = user) :
    v.Same v' user Eq (c.refresh token origin) (c.refresh token origin) := by
  unfold Controller.refresh
  refine (refreshUser_same agrees token).bind ?_
  rintro owner _ w w' ⟨rfl, subject⟩ agrees -
  obtain rfl := mine owner subject
  refine (same_ofResult agrees (alike_refl origin.resolve)).bind ?_
  rintro device _ w₁ w₁' rfl agrees -
  refine (same_useStore agrees (.isValid owner device token) rfl "refresh").bind ?_
  rintro valid valid' w₂ w₂' same agrees -
  obtain rfl : valid = valid' := same
  cases valid with
  | false => exact same_log_bind agrees fun _ _ agrees => same_throw agrees _
  | true => exact rotate_same agrees device

theorem authenticate_same (agrees : v.Agrees v' user) (token : String) :
    v.Same v' user Eq (Controller.authenticate token) (Controller.authenticate token) := by
  unfold Controller.authenticate
  refine (same_parse agrees token).bind ?_
  rintro parsed _ w w' ⟨rfl, -⟩ agrees -
  cases parsed with
  | error e => exact same_log_bind agrees fun _ _ agrees => same_throw agrees _
  | ok claims =>
    dsimp only
    cases claims.kind with
    | access => exact same_pure agrees rfl
    | refresh => exact same_throw agrees _

theorem logout_same (agrees : v.Agrees v' user) :
    v.Same v' user Eq (c.logout user) (c.logout user) := by
  unfold Controller.logout
  refine (same_useStore agrees (.revokeAll user) rfl "logout").bind ?_
  rintro revoked revoked' w w' same agrees -
  obtain rfl : revoked = revoked' := same
  exact same_log agrees _ _ _

theorem listDevices_same (agrees : v.Agrees v' user) :
    v.Same v' user Eq (c.listDevices user) (c.listDevices user) :=
  same_useStore agrees (.listDevices user) rfl "list_devices"

theorem findDevice_same (agrees : v.Agrees v' user) (device : String) :
    v.Same v' user Eq (c.device user device) (c.device user device) := by
  unfold Controller.device
  refine (same_useStore agrees (.findDevice user device) rfl "get_device").bind ?_
  rintro found found' w w' same agrees -
  obtain rfl : found = found' := same
  cases found with
  | none => exact same_throw agrees _
  | some d => exact same_pure agrees rfl

theorem renameDevice_same (agrees : v.Agrees v' user) (device text : String) :
    v.Same v' user Eq (c.renameDevice user device text) (c.renameDevice user device text) := by
  unfold Controller.renameDevice
  refine (same_ofResult agrees (alike_refl (Controller.deviceName text))).bind ?_
  rintro name _ w w' rfl agrees -
  refine (same_useStore agrees (.renameDevice user device name) rfl "rename_device").bind ?_
  rintro renamed renamed' w₁ w₁' same agrees -
  obtain rfl : renamed = renamed' := same
  cases renamed with
  | false => exact same_throw agrees _
  | true => exact same_log agrees _ _ _

theorem deleteDevice_same (agrees : v.Agrees v' user) (device : String) :
    v.Same v' user Eq (c.deleteDevice user device) (c.deleteDevice user device) := by
  unfold Controller.deleteDevice
  refine (same_useStore agrees (.deleteDevice user device) rfl "delete_device").bind ?_
  rintro deleted deleted' w w' same agrees -
  obtain rfl : deleted = deleted' := same
  cases deleted with
  | false => exact same_throw agrees _
  | true => exact same_log agrees _ _ _

theorem revokeDevice_same (agrees : v.Agrees v' user) (device : String) :
    v.Same v' user Eq (c.revokeDevice user device) (c.revokeDevice user device) := by
  unfold Controller.revokeDevice
  refine (same_useStore agrees (.revokeDevice user device) rfl "revoke_device").bind ?_
  rintro revoked revoked' w w' same agrees -
  obtain rfl : revoked = revoked' := same
  exact same_log agrees _ _ _

theorem same_map (same : v.Same v' user Eq x x') (g : α → β) :
    v.Same v' user Eq (x >>= fun a => pure (g a)) (x' >>= fun a => pure (g a)) := by
  refine same.bind ?_
  rintro a _ w w' rfl agrees -
  exact same_pure agrees rfl

/-- A request of the user comes to the same, and so does one that is nobody's and no login. -/
theorem serve_same {r : Operation} (agrees : v.Agrees v' user)
    (mine : ∀ owner, v.owner? r = some owner → owner = user)
    (login : ∀ credentials origin, r = .login credentials origin → v.owner? r = some user) :
    v.Same v' user Eq (c.serve r) (c.serve r) := by
  cases r with
  | login credentials origin => exact same_map (login_same agrees (login _ _ rfl)) _
  | refresh token origin => exact same_map (refresh_same agrees mine) _
  | logout owner =>
    obtain rfl := mine owner rfl
    exact same_map (logout_same agrees) _
  | authenticate token => exact same_map (authenticate_same agrees token) _
  | listDevices owner =>
    obtain rfl := mine owner rfl
    exact same_map (listDevices_same agrees) _
  | findDevice owner device =>
    obtain rfl := mine owner rfl
    exact same_map (findDevice_same agrees device) _
  | renameDevice owner device text =>
    obtain rfl := mine owner rfl
    exact same_map (renameDevice_same agrees device text) _
  | deleteDevice owner device =>
    obtain rfl := mine owner rfl
    exact same_map (deleteDevice_same agrees device) _
  | revokeDevice owner device =>
    obtain rfl := mine owner rfl
    exact same_map (revokeDevice_same agrees device) _

end World

end DeviceSessions
