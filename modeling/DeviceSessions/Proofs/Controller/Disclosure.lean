import DeviceSessions.Database.Connection
import DeviceSessions.Proofs.Controller.Collaborators
import DeviceSessions.Proofs.Controller.History
import DeviceSessions.Proofs.Database.Request

/-!
# What callers see of failures

Whatever happens behind a controller, callers see errors of their own requests, and of everything
else one and the same error. A world is one case of those a controller works with.
-/

namespace DeviceSessions

namespace World

variable {σ : Type}

/-- Those a controller works with in a world. -/
def collaborators (b : Backend σ) : Collaborators (World σ) where
  findUser email w := w.make .findUser (b.findUser email)
  store call w := w.make call.target (b.store call w.now)
  hash password w := w.hash password
  compare hash password w := w.compare hash password
  issue kind user w := w.issue kind user
  parse token w := (w.parse token, w)

/-- A world is a scene with its log, and keeps the decoy itself. -/
def Depicts (w : World σ) (s : Scene (World σ)) : Prop :=
  ∃ log, w = { s.state with decoy := s.decoy, log }

theorem depicts_answer (b : Backend σ) (call : Call) (w : World σ) (s : Scene (World σ))
    (depicts : w.Depicts s) :
    (answer b call w).1 = ((collaborators b).answer call s).1 ∧
      (answer b call w).2.Depicts ((collaborators b).answer call s).2 := by
  obtain ⟨log, rfl⟩ := depicts
  cases call with
  | findUser email =>
    unfold answer Collaborators.answer collaborators make
    dsimp only
    split <;> exact ⟨rfl, log, rfl⟩
  | store call =>
    unfold answer Collaborators.answer collaborators make
    dsimp only
    split <;> exact ⟨rfl, log, rfl⟩
  | decoy =>
    obtain ⟨state, decoy⟩ := s
    cases decoy with
    | some kept => exact ⟨rfl, log, rfl⟩
    | none =>
      unfold answer Collaborators.answer askDecoy collaborators hash failure?
      dsimp only
      split <;> exact ⟨rfl, log, rfl⟩
  | compare hash password =>
    unfold answer Collaborators.answer collaborators compare failure?
    dsimp only
    split <;> exact ⟨rfl, log, rfl⟩
  | issue kind user =>
    unfold answer Collaborators.answer collaborators issue failure?
    dsimp only
    split
    · exact ⟨rfl, log, rfl⟩
    · split <;> exact ⟨rfl, log, rfl⟩
  | parse token => exact ⟨rfl, log, rfl⟩
  | log event => exact ⟨rfl, _, rfl⟩

/-- A controller in a world comes to what it comes to with those it works with there. -/
theorem run_collaborators (b : Backend σ) (w : World σ) (c : Controller) (r : Operation) :
    (w.run b (c.serve r)).1 = ((collaborators b).serve c r ⟨w, w.decoy⟩).1 := by
  have like : ∀ (call : Call) (x : call.Answer), call.Like x x := by
    intro call x
    cases call with
    | log event => trivial
    | decoy => exact rfl
    | _ => exact Or.inl rfl
  have depicts : w.Depicts ⟨w, w.decoy⟩ := ⟨w.log, rfl⟩
  refine ((Action.level_serve r).level.run (fun call w s depicts => ?_)
    (fun event event' w s depicts => ?_) depicts).1.eq.symm
  · obtain ⟨same, after⟩ := depicts_answer b call w s depicts
    exact ⟨same ▸ like call _, after⟩
  · obtain ⟨log, rfl⟩ := depicts
    exact ⟨_, rfl⟩

/-- Calls that are made to fail do so with failures of the machinery. -/
def FailsInside (w : World σ) : Prop :=
  ∀ target f e, w.faults target = some f → f.failure = some e → e.kind.isInfrastructure = true

end World

/-- A backend that fails with nothing but failures of the machinery. -/
structure Backend.FailsInside {σ : Type} (b : Backend σ) : Prop where
  store : ∀ call now s e, (b.store call now s).1 = .error e → e.kind.isInfrastructure = true
  findUser : ∀ email s e, (b.findUser email s).1 = .error e → e.kind.isInfrastructure = true

theorem Memory.backend_failsInside : Memory.backend.FailsInside :=
  ⟨fun _ _ _ _ failed => (nomatch failed), fun _ _ _ failed => (nomatch failed)⟩

theorem Database.backend_failsInside : Database.backend.FailsInside := by
  constructor
  · intro call now db e failed
    rw [Request.failsInside_request now call db e failed]
    rfl
  · intro email db e failed
    rw [Request.failsInside_send _ _ _ db e failed]
    rfl

namespace World

variable {σ : Type} {b : Backend σ} {w : World σ}

theorem make_tells {α : Type} (inside : w.FailsInside) {target : Target} {call : σ → Result α × σ}
    (fails : ∀ e, (call w.state).1 = .error e → e.kind.isInfrastructure = true) {e : Error}
    (failed : (w.make target call).1 = .answered (.error e)) : e.kind.isInfrastructure = true := by
  unfold make at failed
  cases fault : w.faults target with
  | none =>
    rw [fault] at failed
    exact fails e (Reply.answered.inj failed)
  | some f =>
    rw [fault] at failed
    replace failed := (f.apply_fst w.deadline call w.state).symm.trans failed
    unfold Fault.close at failed
    split at failed
    · split at failed
      · rename_i failure
        cases failed
        exact inside target f _ fault failure
      · exact fails e (Reply.answered.inj failed)
    · cases failed

theorem issue_tells (inside : w.FailsInside) {kind : TokenKind} {user : Uuid} {e : Error}
    (failed : (w.issue kind user).1 = .error e) : e.kind.isInfrastructure = true := by
  unfold issue at failed
  split at failed
  · rename_i failure
    cases failed
    obtain ⟨f, fault, fails⟩ := Option.bind_eq_some_iff.mp failure
    exact inside _ f _ fault fails
  · split at failed
    · rename_i expiry
      cases failed
      unfold Issuer.expiry at expiry
      split at expiry
      · cases expiry
      · cases expiry
        rfl
    · rename_i expiry
      unfold Issuer.issue at failed
      rw [expiry] at failed
      cases failed

/-- In a world where only the machinery fails, only its failures are told. -/
theorem answer_tells (fails : b.FailsInside) (inside : w.FailsInside) (call : Call) :
    Exchange.Tells (fun e => e.kind.isInfrastructure = true) ⟨call, (answer b call w).1⟩ := by
  cases call with
  | findUser email =>
    change Exchange.Tells _ ⟨.findUser email, (w.make .findUser (b.findUser email)).1⟩
    cases came : (w.make .findUser (b.findUser email)).1 with
    | late => trivial
    | answered r =>
      cases r with
      | ok found => trivial
      | error e => exact make_tells inside (fails.findUser email w.state) came
  | store call =>
    change Exchange.Tells _ ⟨.store call, (w.make call.target (b.store call w.now)).1⟩
    cases came : (w.make call.target (b.store call w.now)).1 with
    | late => trivial
    | answered r =>
      cases r with
      | ok a => trivial
      | error e => exact make_tells inside (fails.store call w.now w.state) came
  | issue kind user =>
    change Exchange.Tells _ ⟨.issue kind user, (w.issue kind user).1⟩
    cases came : (w.issue kind user).1 with
    | ok issued => trivial
    | error e => exact issue_tells inside came
  | decoy => trivial
  | compare hash password => trivial
  | parse token => trivial
  | log event => trivial

theorem trace_tells {α : Type} (fails : b.FailsInside) (inside : w.FailsInside) (p : Program α) :
    ∀ e ∈ p.trace (answer b) w, e.Tells fun e => e.kind.isInfrastructure = true := by
  induction p generalizing w with
  | done a => exact fun e none => nomatch none
  | ask call next ih =>
    intro e member
    rcases List.mem_cons.mp member with rfl | later
    · exact answer_tells fails inside call
    · refine ih _ (w := (answer b call w).2) ?_ e later
      unfold FailsInside
      rw [faults_answer]
      exact inside

end World

/-- No error of the machinery crosses the boundary of a controller, whatever those it works with do:
what is not hidden is none of theirs, and which of their failures it was makes no difference to the
result. With a backend that fails inside only, each operation shows errors of its own kinds, and both
backends are such. A world is one case of those a controller works with. -/
theorem only_hidden_failures (c : Controller) (r : Operation) :
    (∀ (σ : Type) (k : Collaborators σ) (s : Scene σ) (e : Error),
      (k.serve c r s).1 = .error e →
        e.kind ∉ [.hashing, .database, .timeout, .configuration, .serialization] ∧
          (e.kind = .internal → e.message = Error.opaqueMessage ∧ e.hasSource = false)) ∧
    (∀ (σ τ : Type) (k : Collaborators σ) (k' : Collaborators τ) (T : σ → τ → Prop), k.Like k' T →
      ∀ (s : Scene σ) (t : Scene τ), T s.state t.state → s.decoy = t.decoy →
        (k.serve c r s).1 = (k'.serve c r t).1) ∧
    (∀ (σ : Type) (b : Backend σ), b.FailsInside → ∀ w : World σ, w.FailsInside → ∀ e : Error,
      (w.run b (c.serve r)).1 = .error e → e.kind ∈ r.kinds) ∧
    Memory.backend.FailsInside ∧ Database.backend.FailsInside ∧
    ∀ (σ : Type) (b : Backend σ) (w : World σ),
      (w.run b (c.serve r)).1 = ((World.collaborators b).serve c r ⟨w, w.decoy⟩).1 := by
  refine ⟨?_, ?_, ?_, Memory.backend_failsInside, Database.backend_failsInside,
    fun σ b w => World.run_collaborators b w c r⟩
  · intro σ k s e failed
    have shown : Shown (fun _ => True) r.kinds e :=
      (Action.serve_guarded r).shown (fun e _ => e.tells_true) failed
    have hides := shown.opaque
    constructor
    · intro inner
      have infrastructure : e.kind.isInfrastructure = true := by
        simp only [List.mem_cons, List.not_mem_nil, or_false] at inner
        rcases inner with kind | kind | kind | kind | kind <;> rw [kind] <;> rfl
      rw [hides infrastructure] at inner
      exact absurd inner (by decide)
    · intro internal
      rw [hides (by rw [internal]; rfl)]
      exact ⟨rfl, rfl⟩
  · intro σ τ k k' T like s t states decoys
    exact like.serve c r states decoys
  · intro σ b fails w inside e failed
    exact ((Action.serve_guarded r).shown (World.trace_tells fails inside _) failed).kind_mem

/-- Collaborators that fail at everything with one error. -/
def Collaborators.failing (e : Error) : Collaborators Unit where
  findUser _ _ := (.answered (.error e), ())
  store _ _ := (.answered (.error e), ())
  hash _ _ := (.error e, ())
  compare _ _ _ := (.error e, ())
  issue _ _ _ := (.error e, ())
  parse _ _ := (.error e, ())

theorem Collaborators.failing_like {e e' : Error} (inner : e.kind.isInfrastructure = true)
    (inner' : e'.kind.isInfrastructure = true) :
    (Collaborators.failing e).Like (.failing e') fun _ _ => True where
  findUser _ _ _ _ := ⟨Or.inr ⟨⟨e, rfl, inner⟩, e', rfl, inner'⟩, trivial⟩
  store _ _ _ _ := ⟨Or.inr ⟨⟨e, rfl, inner⟩, e', rfl, inner'⟩, trivial⟩
  hash _ _ _ _ := ⟨Or.inr ⟨⟨e, rfl, inner⟩, e', rfl, inner'⟩, trivial⟩
  compare _ _ _ _ _ := ⟨Or.inr ⟨⟨e, rfl, inner⟩, e', rfl, inner'⟩, trivial⟩
  issue _ _ _ _ _ := ⟨Or.inr ⟨⟨e, rfl, inner⟩, e', rfl, inner'⟩, trivial⟩
  parse _ _ _ _ := ⟨Or.inr ⟨⟨e, rfl, inner⟩, e', rfl, inner'⟩, trivial⟩

/-- What a login comes to where the directory cannot be used. -/
theorem run_login_unserved {σ : Type} {answer : (call : Call) → σ → call.Answer × σ} {s : σ}
    {origin : DeviceMetadata} {device : DeviceIdentity} (resolved : origin.resolve = .ok device)
    {credentials : Credentials}
    (broken : Reply.Broken (answer (.findUser credentials.email) s).1) (c : Controller) :
    (Program.run answer (c.serve (.login credentials origin)).run s).1 = .error Error.hidden := by
  obtain ⟨e, bound, inner⟩ : Broken (c.bounded "user_directory.find_by_email"
      (answer (.findUser credentials.email) s).1) := Action.bounded_broken _ broken
  have surfaced : ((c.login credentials origin).run.run answer s).1 = .error e.surface := by
    unfold Controller.login
    rw [resolved, Action.run_bind]
    change (Program.run answer (ExceptT.run (Action.call _ >>= _)) s).1 = _
    rw [Action.run_bind, Action.run_call]
    dsimp only
    rw [bound]
    exact Action.run_surface answer "login" e _
  unfold Controller.serve
  rw [Action.run_bind]
  rw [show (c.login credentials origin).run.run answer s = (.error e.surface, _) from
    Prod.ext surfaced rfl, Error.surface, if_pos inner]

/-- A failure of a database in its own words. -/
def missingTable : Error := ⟨.database, "relation \"users\" does not exist", true⟩

/-- A failure to get at a database in time. -/
def slowPool : Error := ⟨.timeout, "pool timed out", false⟩

/-- A small world whose directory cannot be used. -/
def World.unserved : World Memory :=
  (World.small .epoch).setFault .findUser (some ⟨⟨0⟩, some missingTable, false⟩)

theorem World.unserved_failsInside : World.unserved.FailsInside := by
  intro target f e fault failure
  simp only [World.unserved, World.setFault] at fault
  split at fault
  · cases fault
    cases failure
    rfl
  · cases fault

/-- A database that fails in its own words and one that is too slow look the same from a login, and
like a world with such a directory. -/
theorem only_hidden_failures_login :
    ∃ e : Error,
      ((Collaborators.failing missingTable).serve ⟨⟨5000000000⟩⟩ (.login soleCredentials soleOrigin)
        ⟨(), none⟩).1 = .error e ∧
      (e.kind ∉ [.hashing, .database, .timeout, .configuration, .serialization] ∧
        (e.kind = .internal → e.message = Error.opaqueMessage ∧ e.hasSource = false)) ∧
      ((Collaborators.failing slowPool).serve ⟨⟨5000000000⟩⟩ (.login soleCredentials soleOrigin)
        ⟨(), none⟩).1 = .error e ∧
      (World.unserved.run Memory.backend
        (Controller.serve ⟨⟨5000000000⟩⟩ (.login soleCredentials soleOrigin))).1 = .error e ∧
      e.kind ∈ [.incorrectDevice, .invalidCredentials, .internal] := by
  obtain ⟨device, resolved⟩ := World.soleOrigin_resolves
  obtain ⟨hides, same, kinds, -⟩ :=
    only_hidden_failures ⟨⟨5000000000⟩⟩ (.login soleCredentials soleOrigin)
  have broken : Reply.Broken (.answered (.error missingTable) : Reply (Option User)) :=
    ⟨missingTable, rfl, rfl⟩
  have failed : ((Collaborators.failing missingTable).serve ⟨⟨5000000000⟩⟩
      (.login soleCredentials soleOrigin) ⟨(), none⟩).1 = .error Error.hidden :=
    run_login_unserved resolved broken _
  have unserved : (World.unserved.run Memory.backend
      (Controller.serve ⟨⟨5000000000⟩⟩ (.login soleCredentials soleOrigin))).1 =
        .error Error.hidden :=
    run_login_unserved resolved broken _
  have like : (Collaborators.failing missingTable).Like (Collaborators.failing slowPool)
      fun _ _ => True := Collaborators.failing_like rfl rfl
  refine ⟨_, failed, hides Unit _ _ _ failed, ?_, unserved,
    kinds Memory Memory.backend Memory.backend_failsInside _ World.unserved_failsInside _ unserved⟩
  rw [← same Unit Unit _ _ _ like ⟨(), none⟩ ⟨(), none⟩ trivial rfl]
  exact failed

end DeviceSessions
