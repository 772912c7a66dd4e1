import DeviceSessions.Proofs.Controller.Likeness
import DeviceSessions.Proofs.Controller.Opaque

/-!
# Those a controller works with

A verifier, an issuer, a store and a directory can do anything: answer, fail with any error, or come
late. What a caller sees does not tell one failure of the machinery from another.
-/

namespace DeviceSessions

/-- A verifier, an issuer, a store and a directory, whatever they do. -/
structure Collaborators (σ : Type) where
  findUser : String → σ → Reply (Option User) × σ
  store : (call : StoreCall) → σ → Reply call.Answer × σ
  hash : String → σ → Result String × σ
  compare : String → String → σ → Result Unit × σ
  issue : TokenKind → Uuid → σ → Result IssuedToken × σ
  parse : String → σ → Result Claims × σ

/-- How things stand with a controller and those it works with: their state, and the decoy that the
controller keeps once it was asked for. -/
structure Scene (σ : Type) where
  state : σ
  decoy : Option (Option String) := none

namespace Collaborators

variable {σ τ : Type}

/-- The answer to a call, and the scene after it. The decoy is hashed when it is first asked for. -/
def answer (k : Collaborators σ) : (call : Call) → Scene σ → call.Answer × Scene σ
  | .findUser email, s => ((k.findUser email s.state).1, { s with state := (k.findUser email s.state).2 })
  | .store call, s => ((k.store call s.state).1, { s with state := (k.store call s.state).2 })
  | .decoy, s =>
    match s.decoy with
    | some kept => (kept, s)
    | none =>
      ((k.hash World.decoyPassword s.state).1.toOption,
        ⟨(k.hash World.decoyPassword s.state).2, some (k.hash World.decoyPassword s.state).1.toOption⟩)
  | .compare hash password, s =>
    ((k.compare hash password s.state).1, { s with state := (k.compare hash password s.state).2 })
  | .issue kind user, s =>
    ((k.issue kind user s.state).1, { s with state := (k.issue kind user s.state).2 })
  | .parse token, s => ((k.parse token s.state).1, { s with state := (k.parse token s.state).2 })
  | .log _, s => ((), s)

/-- Serves a request. -/
def serve (k : Collaborators σ) (c : Controller) (r : Operation) (s : Scene σ) :
    Result Response × Scene σ :=
  Program.run k.answer (c.serve r).run s

end Collaborators

/-! ### Failures that look the same -/

/-- A result that is a failure of the machinery. -/
def Broken {α : Type} (r : Result α) : Prop := ∃ e, r = .error e ∧ e.kind.isInfrastructure = true

/-- A call that comes to a failure of the machinery, or to no answer in time. -/
def Reply.Broken {α : Type} : Reply α → Prop
  | .answered r => DeviceSessions.Broken r
  | .late => True

/-- Two results are the same, or both are failures of the machinery. -/
def SameOrBroken {α : Type} (r r' : Result α) : Prop := r = r' ∨ Broken r ∧ Broken r'

/-- Two calls come to the same, or both come to failures of the machinery. -/
def Reply.SameOrBroken {α : Type} (r r' : Reply α) : Prop := r = r' ∨ r.Broken ∧ r'.Broken

/-- Two answers are the same, or both are failures of the machinery. -/
def Call.Like : (call : Call) → call.Answer → call.Answer → Prop
  | .findUser _, r, r' => Reply.SameOrBroken r r'
  | .store _, r, r' => Reply.SameOrBroken r r'
  | .decoy, r, r' => r = r'
  | .compare .., r, r' => SameOrBroken r r'
  | .issue .., r, r' => SameOrBroken r r'
  | .parse _, r, r' => SameOrBroken r r'
  | .log _, _, _ => True

/-- Two programs that make the same calls and end alike as long as their answers are alike. What
they log may differ. -/
inductive Program.Level {α : Type} (R : α → α → Prop) : Program α → Program α → Prop where
  | done {a a' : α} (related : R a a') : Level R (.done a) (.done a')
  | ask {call : Call} {next next' : call.Answer → Program α}
      (rest : ∀ x x', call.Like x x' → Level R (next x) (next' x')) :
      Level R (.ask call next) (.ask call next')
  | log {event event' : Event} {next : (Call.log event).Answer → Program α}
      {next' : (Call.log event').Answer → Program α} (rest : Level R (next ()) (next' ())) :
      Level R (.ask (.log event) next) (.ask (.log event') next')

section Level

variable {α β : Type} {R : α → α → Prop} {S : β → β → Prop}

theorem Program.Level.bind {p p' : Program α} {f f' : α → Program β} (level : p.Level R p')
    (rest : ∀ a a', R a a' → (f a).Level S (f' a')) : (p >>= f).Level S (p' >>= f') := by
  induction level with
  | done related => exact rest _ _ related
  | ask _ ih => exact .ask fun x x' like => ih x x' like
  | log _ ih => exact .log ih

/-- Level programs end alike, where they are given answers that are alike. -/
theorem Program.Level.run {σ τ : Type} {answer : (c : Call) → σ → c.Answer × σ}
    {answer' : (c : Call) → τ → c.Answer × τ} {T : σ → τ → Prop}
    (answers : ∀ c s t, T s t → c.Like (answer c s).1 (answer' c t).1 ∧ T (answer c s).2 (answer' c t).2)
    (logs : ∀ event event' s t, T s t → T (answer (.log event) s).2 (answer' (.log event') t).2)
    {p p' : Program α} (level : p.Level R p') {s : σ} {t : τ} (related : T s t) :
    R (p.run answer s).1 (p'.run answer' t).1 ∧ T (p.run answer s).2 (p'.run answer' t).2 := by
  induction level generalizing s t with
  | done same => exact ⟨same, related⟩
  | @ask call next next' rest ih =>
    obtain ⟨like, after⟩ := answers call s t related
    exact ih _ _ like after
  | @log event event' next next' rest ih => exact ih (logs event event' s t related)

namespace Action

/-- Two actions that make the same calls and end alike as long as their answers are alike. -/
structure Level (R : α → α → Prop) (x x' : Action α) : Prop where
  level : x.run.Level (Alike R) x'.run

variable {x x' : Action α} {f f' : α → Action β} {c : Controller}

theorem Level.bind (level : x.Level R x') (rest : ∀ a a', R a a' → (f a).Level S (f' a')) :
    (x >>= f).Level S (x' >>= f') := by
  refine ⟨level.level.bind fun r r' alike => ?_⟩
  cases alike with
  | ok related => exact (rest _ _ related).level
  | error e => exact .done (.error e)

theorem level_pure {a a' : α} (related : R a a') : (pure a : Action α).Level R (pure a') :=
  ⟨.done (.ok related)⟩

theorem level_throw (e : Error) : (throw e : Action α).Level R (throw e) := ⟨.done (.error e)⟩

theorem level_ofResult (r : Result α) : (ofResult r).Level Eq (ofResult r) :=
  ⟨.done (alike_refl r)⟩

theorem level_call (call : Call) : (Action.call call).Level call.Like (Action.call call) :=
  ⟨.ask fun _ _ like => .done (.ok like)⟩

theorem level_log (level level' : DeviceSessions.Level) (message message' : String)
    (fields fields' : List (String × FieldValue)) :
    (log level message fields).Level Eq (log level' message' fields') :=
  ⟨.log (.done (.ok rfl))⟩

/-- After a part that comes to the same, the rest has to be level with itself. -/
theorem Level.bind_eq (level : x.Level Eq x') (rest : ∀ a, (f a).Level S (f' a)) :
    (x >>= f).Level S (x' >>= f') :=
  level.bind fun a _ same => same ▸ rest a

theorem level_complaint (level level' : DeviceSessions.Level) (message message' : String)
    (fields fields' : List (String × FieldValue)) (e : Error) :
    (log level message fields >>= fun _ => throw e : Action α).Level R
      (log level' message' fields' >>= fun _ => throw e) :=
  (level_log _ _ _ _ _ _).bind fun _ _ _ => level_throw e

theorem level_surface (operation : String) {e e' : Error}
    (like : e = e' ∨ e.kind.isInfrastructure = true ∧ e'.kind.isInfrastructure = true) :
    (Controller.surface operation e : Action α).Level R (Controller.surface operation e') := by
  have hides : ∀ e : Error, e.kind.isInfrastructure = true →
      (Controller.surface operation e : Action α) =
        (log .error "Session operation failed"
          [("op", .text operation), ("kind", .text e.kind.code), Controller.errorField e] >>=
            fun _ => throw Error.hidden) := by
    intro e inner
    unfold Controller.surface Error.surface
    simp only [inner, if_true]
  rcases like with rfl | ⟨inner, inner'⟩
  · cases inner : e.kind.isInfrastructure with
    | true =>
      rw [hides e inner]
      exact level_complaint _ _ _ _ _ _ _
    | false =>
      unfold Controller.surface
      simp only [inner]
      exact level_throw _
  · rw [hides e inner, hides e' inner']
    exact level_complaint _ _ _ _ _ _ _

theorem bounded_broken (name : String) {reply : Reply α} (broken : reply.Broken) :
    DeviceSessions.Broken (c.bounded name reply) := by
  cases reply with
  | late => exact ⟨_, rfl, rfl⟩
  | answered r =>
    obtain ⟨e, rfl, inner⟩ := broken
    exact ⟨_, rfl, inner⟩

theorem bounded_like (name : String) {reply reply' : Reply α} (like : reply.SameOrBroken reply') :
    SameOrBroken (c.bounded name reply) (c.bounded name reply') := by
  rcases like with rfl | ⟨first, second⟩
  · exact Or.inl rfl
  · exact Or.inr ⟨bounded_broken name first, bounded_broken name second⟩

theorem like_cases {r r' : Result α} (like : SameOrBroken r r') :
    (∃ a, r = .ok a ∧ r' = .ok a) ∨ ∃ e e', r = .error e ∧ r' = .error e' ∧
      (e = e' ∨ e.kind.isInfrastructure = true ∧ e'.kind.isInfrastructure = true) := by
  rcases like with rfl | ⟨⟨e, rfl, inner⟩, e', rfl, inner'⟩
  · cases r with
    | ok a => exact Or.inl ⟨a, rfl, rfl⟩
    | error e => exact Or.inr ⟨e, e, rfl, rfl, Or.inl rfl⟩
  · exact Or.inr ⟨e, e', rfl, rfl, Or.inr ⟨inner, inner'⟩⟩

theorem level_askStore (call : StoreCall) :
    (c.askStore call).Level SameOrBroken (c.askStore call) := by
  unfold Controller.askStore
  exact (level_call _).bind fun _ _ like => level_pure (bounded_like _ like)

theorem level_useStore (operation : String) (call : StoreCall) :
    (c.useStore operation call).Level Eq (c.useStore operation call) := by
  unfold Controller.useStore
  refine (level_askStore call).bind fun r r' like => ?_
  rcases like_cases like with ⟨a, rfl, rfl⟩ | ⟨e, e', rfl, rfl, same⟩
  · exact level_pure rfl
  · exact level_surface _ same

theorem level_issueFor (operation : String) (user : Uuid) :
    (Controller.issueFor operation user).Level Eq (Controller.issueFor operation user) := by
  have context : ∀ (e e' : Error) (name : String),
      (e = e' ∨ e.kind.isInfrastructure = true ∧ e'.kind.isInfrastructure = true) →
        e.context name = e'.context name ∨
          (e.context name).kind.isInfrastructure = true ∧
            (e'.context name).kind.isInfrastructure = true := by
    rintro e e' name (rfl | both)
    · exact Or.inl rfl
    · exact Or.inr both
  unfold Controller.issueFor Controller.issuePair
  rw [bind_assoc]
  refine (level_call _).bind fun access access' like => ?_
  rcases like_cases like with ⟨a, rfl, rfl⟩ | ⟨e, e', rfl, rfl, same⟩
  · dsimp only
    rw [bind_assoc]
    refine (level_call _).bind fun refresh refresh' like => ?_
    rcases like_cases like with ⟨b, rfl, rfl⟩ | ⟨e, e', rfl, rfl, same⟩
    · exact level_pure rfl
    · exact level_surface _ (context e e' _ same)
  · exact level_surface _ (context e e' _ same)

theorem level_compareDecoy (password : String) :
    (Controller.compareDecoy password).Level Eq (Controller.compareDecoy password) := by
  unfold Controller.compareDecoy
  refine (level_call .decoy).bind fun decoy decoy' same => ?_
  obtain rfl : decoy = decoy' := same
  cases decoy with
  | none => exact level_pure rfl
  | some hash => exact (level_call _).bind fun _ _ _ => level_pure rfl

theorem level_login (credentials : Credentials) (origin : DeviceMetadata) :
    (c.login credentials origin).Level Eq (c.login credentials origin) := by
  unfold Controller.login
  refine (level_ofResult _).bind_eq fun device => ?_
  refine (level_call _).bind fun reply reply' like => ?_
  rcases like_cases (bounded_like _ like) with ⟨found, bound, bound'⟩ | ⟨e, e', bound, bound', same⟩
  · rw [bound, bound']
    cases found with
    | none => exact (level_compareDecoy _).bind_eq fun _ => level_complaint _ _ _ _ _ _ _
    | some user =>
      cases active : user.isActive with
      | false =>
        simp only [active, Bool.not_false, if_true]
        exact (level_compareDecoy _).bind_eq fun _ => level_complaint _ _ _ _ _ _ _
      | true =>
        simp only [active, Bool.not_true, Bool.false_eq_true, if_false]
        refine (level_call _).bind fun verdict verdict' like => ?_
        rcases like_cases like with ⟨_, rfl, rfl⟩ | ⟨e, e', rfl, rfl, -⟩
        · refine (level_issueFor _ _).bind_eq fun pair => ?_
          refine (level_useStore _ _).bind_eq fun _ => ?_
          exact (level_log _ _ _ _ _ _).bind_eq fun _ => level_pure rfl
        · dsimp only
          split <;> split <;> exact level_complaint _ _ _ _ _ _ _
  · rw [bound, bound']
    exact level_surface _ same

theorem level_refresh (token : String) (origin : DeviceMetadata) :
    (c.refresh token origin).Level Eq (c.refresh token origin) := by
  unfold Controller.refresh Controller.refreshUser
  refine Level.bind_eq ((level_call _).bind fun parsed parsed' like => ?_) fun user => ?_
  · rcases like_cases like with ⟨claims, rfl, rfl⟩ | ⟨e, e', rfl, rfl, -⟩
    · dsimp only
      cases claims.kind with
      | access => exact level_complaint _ _ _ _ _ _ _
      | refresh => exact level_pure rfl
    · exact level_complaint _ _ _ _ _ _ _
  · refine (level_ofResult _).bind_eq fun device => ?_
    refine (level_useStore _ _).bind_eq fun valid => ?_
    cases valid with
    | false => exact level_complaint _ _ _ _ _ _ _
    | true =>
      unfold Controller.rotate
      refine (level_issueFor _ _).bind_eq fun pair => ?_
      refine (level_useStore _ _).bind_eq fun revoked => ?_
      refine (level_askStore _).bind fun recorded recorded' like => ?_
      rcases like_cases like with ⟨_, rfl, rfl⟩ | ⟨e, e', rfl, rfl, same⟩
      · exact (level_log _ _ _ _ _ _).bind_eq fun _ => level_pure rfl
      · exact (level_log _ _ _ _ _ _).bind_eq fun _ => level_surface _ same

theorem level_authenticate (token : String) :
    (Controller.authenticate token).Level Eq (Controller.authenticate token) := by
  unfold Controller.authenticate
  refine (level_call _).bind fun parsed parsed' like => ?_
  rcases like_cases like with ⟨claims, rfl, rfl⟩ | ⟨e, e', rfl, rfl, -⟩
  · dsimp only
    cases claims.kind with
    | access => exact level_pure rfl
    | refresh => exact level_throw _
  · exact level_complaint _ _ _ _ _ _ _

theorem level_findDevice (user : Uuid) (device : String) :
    (c.device user device).Level Eq (c.device user device) := by
  unfold Controller.device
  refine (level_useStore _ _).bind_eq fun found => ?_
  cases found with
  | none => exact level_throw _
  | some d => exact level_pure rfl

theorem level_renameDevice (user : Uuid) (device text : String) :
    (c.renameDevice user device text).Level Eq (c.renameDevice user device text) := by
  unfold Controller.renameDevice
  refine (level_ofResult _).bind_eq fun name => ?_
  refine (level_useStore _ _).bind_eq fun renamed => ?_
  cases renamed with
  | false => exact level_throw _
  | true => exact level_log _ _ _ _ _ _

theorem level_deleteDevice (user : Uuid) (device : String) :
    (c.deleteDevice user device).Level Eq (c.deleteDevice user device) := by
  unfold Controller.deleteDevice
  refine (level_useStore _ _).bind_eq fun deleted => ?_
  cases deleted with
  | false => exact level_throw _
  | true => exact level_log _ _ _ _ _ _

theorem level_serve (r : Operation) : (c.serve r).Level Eq (c.serve r) := by
  cases r with
  | login credentials origin => exact (level_login _ _).bind_eq fun _ => level_pure rfl
  | refresh token origin => exact (level_refresh _ _).bind_eq fun _ => level_pure rfl
  | logout user =>
    exact ((level_useStore _ _).bind_eq fun _ => level_log _ _ _ _ _ _).bind_eq
      fun _ => level_pure rfl
  | authenticate token => exact (level_authenticate _).bind_eq fun _ => level_pure rfl
  | listDevices user => exact (level_useStore _ _).bind_eq fun _ => level_pure rfl
  | findDevice user device => exact (level_findDevice _ _).bind_eq fun _ => level_pure rfl
  | renameDevice user device text => exact (level_renameDevice _ _ _).bind_eq fun _ => level_pure rfl
  | deleteDevice user device => exact (level_deleteDevice _ _).bind_eq fun _ => level_pure rfl
  | revokeDevice user device =>
    exact ((level_useStore _ _).bind_eq fun _ => level_log _ _ _ _ _ _).bind_eq
      fun _ => level_pure rfl

end Action

end Level

namespace Collaborators

variable {σ τ : Type}

/-- From related states on, those that two controllers work with come to the same, but for which
failure of the machinery it is. -/
structure Like (k : Collaborators σ) (k' : Collaborators τ) (T : σ → τ → Prop) : Prop where
  findUser : ∀ email s t, T s t →
    (k.findUser email s).1.SameOrBroken (k'.findUser email t).1 ∧
      T (k.findUser email s).2 (k'.findUser email t).2
  store : ∀ call s t, T s t →
    (k.store call s).1.SameOrBroken (k'.store call t).1 ∧ T (k.store call s).2 (k'.store call t).2
  hash : ∀ password s t, T s t →
    SameOrBroken (k.hash password s).1 (k'.hash password t).1 ∧
      T (k.hash password s).2 (k'.hash password t).2
  compare : ∀ hash password s t, T s t →
    SameOrBroken (k.compare hash password s).1 (k'.compare hash password t).1 ∧
      T (k.compare hash password s).2 (k'.compare hash password t).2
  issue : ∀ kind user s t, T s t →
    SameOrBroken (k.issue kind user s).1 (k'.issue kind user t).1 ∧
      T (k.issue kind user s).2 (k'.issue kind user t).2
  parse : ∀ token s t, T s t →
    SameOrBroken (k.parse token s).1 (k'.parse token t).1 ∧
      T (k.parse token s).2 (k'.parse token t).2

variable {k : Collaborators σ} {k' : Collaborators τ} {T : σ → τ → Prop}

theorem toOption_like {α : Type} {r r' : Result α} (like : SameOrBroken r r') :
    r.toOption = r'.toOption := by
  rcases like with rfl | ⟨⟨e, rfl, -⟩, e', rfl, -⟩
  · rfl
  · rfl

theorem Like.answer (like : k.Like k' T) (call : Call) (s : Scene σ) (t : Scene τ)
    (related : T s.state t.state ∧ s.decoy = t.decoy) :
    call.Like (k.answer call s).1 (k'.answer call t).1 ∧
      T (k.answer call s).2.state (k'.answer call t).2.state ∧
        (k.answer call s).2.decoy = (k'.answer call t).2.decoy := by
  obtain ⟨s, decoy⟩ := s
  obtain ⟨t, decoy'⟩ := t
  obtain ⟨states, decoys⟩ := related
  cases decoys
  cases call with
  | findUser email =>
    obtain ⟨same, after⟩ := like.findUser email _ _ states
    exact ⟨same, after, rfl⟩
  | store call =>
    obtain ⟨same, after⟩ := like.store call _ _ states
    exact ⟨same, after, rfl⟩
  | decoy =>
    obtain ⟨same, after⟩ := like.hash World.decoyPassword _ _ states
    cases decoy with
    | some kept => exact ⟨rfl, states, rfl⟩
    | none => exact ⟨toOption_like same, after, congrArg some (toOption_like same)⟩
  | compare hash password =>
    obtain ⟨same, after⟩ := like.compare hash password _ _ states
    exact ⟨same, after, rfl⟩
  | issue kind user =>
    obtain ⟨same, after⟩ := like.issue kind user _ _ states
    exact ⟨same, after, rfl⟩
  | parse token =>
    obtain ⟨same, after⟩ := like.parse token _ _ states
    exact ⟨same, after, rfl⟩
  | log event => exact ⟨trivial, states, rfl⟩

theorem Like.serve (like : k.Like k' T) (c : Controller) (r : Operation) {s : Scene σ} {t : Scene τ}
    (states : T s.state t.state) (decoys : s.decoy = t.decoy) :
    (k.serve c r s).1 = (k'.serve c r t).1 :=
  ((Action.level_serve r).level.run like.answer (fun _ _ _ _ related => related)
    ⟨states, decoys⟩).1.eq.symm

end Collaborators

end DeviceSessions
