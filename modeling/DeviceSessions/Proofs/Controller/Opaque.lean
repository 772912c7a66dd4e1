import DeviceSessions.Database.Requests
import DeviceSessions.Proofs.Concurrency.Protocol

/-!
# What errors show

Whatever a controller is told by those it works with, an operation ends with an error of its own, or
with the hidden error, or with an error that it was told and that is none of the machinery. All
operations are walked once, and only a login is found to ask for the decoy or a comparison.
-/

namespace DeviceSessions

/-- The kinds of the errors that an operation may end with. -/
def Operation.kinds : Operation → List ErrorKind
  | .login .. => [.incorrectDevice, .invalidCredentials, .internal]
  | .refresh .. => [.tokenRevoked, .incorrectDevice, .internal]
  | .authenticate _ => [.invalidToken]
  | .logout _ | .listDevices _ | .revokeDevice .. => [.internal]
  | .findDevice .. | .deleteDevice .. => [.notFound, .internal]
  | .renameDevice .. => [.validation, .notFound, .internal]

/-- Whether a call makes the verifier work. -/
def Call.verifies : Call → Bool
  | .decoy | .compare .. => true
  | _ => false

/-- If a call of the store, the directory or the issuer ended with an error, it is one of these. -/
def Exchange.Tells (Told : Error → Prop) : Exchange → Prop
  | ⟨.findUser _, .answered (.error e)⟩ => Told e
  | ⟨.store _, .answered (.error e)⟩ => Told e
  | ⟨.issue .., .error e⟩ => Told e
  | _ => True

theorem Exchange.tells_true (e : Exchange) : e.Tells fun _ => True := by
  unfold Exchange.Tells
  split <;> trivial

/-- What an operation shows that has been told some errors. -/
inductive Shown (Told : Error → Prop) (kinds : List ErrorKind) : Error → Prop where
  | own {e : Error} (listed : e.kind ∈ kinds) (outer : e.kind.isInfrastructure = false) :
      Shown Told kinds e
  | hidden (listed : .internal ∈ kinds) : Shown Told kinds Error.hidden
  | told {e : Error} (told : Told e) (outer : e.kind.isInfrastructure = false) (name : String) :
      Shown Told kinds (e.context name)

/-- An error that a call came to: one of the machinery, or one that was told. -/
inductive Heard (Told : Error → Prop) : Error → Prop where
  | inner {e : Error} (inner : e.kind.isInfrastructure = true) : Heard Told e
  | told {e : Error} (told : Told e) (name : String) : Heard Told (e.context name)

section Shown

variable {Told : Error → Prop} {kinds : List ErrorKind} {e : Error}

/-- Whatever was told, an error that is shown says nothing about the machinery. -/
theorem Shown.opaque (shown : Shown Told kinds e) :
    e.kind.isInfrastructure = true → e = Error.hidden := by
  intro inner
  cases shown with
  | own listed outer => exact absurd inner (by simp [outer])
  | hidden listed => rfl
  | told told outer name => exact absurd inner (by simp [Error.context, outer])

/-- Where only errors of the machinery are told, an operation shows errors of its kinds. -/
theorem Shown.kind_mem (shown : Shown (fun e => e.kind.isInfrastructure = true) kinds e) :
    e.kind ∈ kinds := by
  cases shown with
  | own listed outer => exact listed
  | hidden listed => exact listed
  | told told outer name => exact absurd told (by simp [outer])

theorem Heard.surface (heard : Heard Told e) (listed : .internal ∈ kinds) :
    Shown Told kinds e.surface := by
  unfold Error.surface
  cases heard with
  | inner inner =>
    rw [if_pos inner]
    exact .hidden listed
  | @told e told name =>
    split
    · exact .hidden listed
    · rename_i outer
      exact .told told (Bool.eq_false_iff.mpr outer) name

theorem heard_bounded {α : Type} {c : Controller} {name : String} {reply : Reply α}
    (told : ∀ e, reply = .answered (.error e) → Told e)
    (failed : c.bounded name reply = .error e) : Heard Told e := by
  unfold Controller.bounded at failed
  split at failed
  · cases failed
  · cases failed
    exact .told (told _ rfl) name
  · cases failed
    exact .inner rfl

end Shown

/-- The protocol of a program that is told some errors, and leaves the verifier alone if it has to
be quiet. -/
def hearing (quiet : Bool) (Told : Error → Prop) : Protocol Unit where
  next _ _ := ()
  asks _ call := quiet = true → call.verifies = false
  tells := Exchange.Tells Told
  asks_log _ _ _ := rfl
  next_log _ _ _ := rfl

namespace Action

variable {quiet : Bool} {Told : Error → Prop} {kinds : List ErrorKind} {α β : Type} {x : Action α}
  {f : α → Action β} {c : Controller} {e : Error}

/-- Whatever a program is told, it ends with an error that may be shown or with none. -/
structure Guarded (quiet : Bool) (Told : Error → Prop) (kinds : List ErrorKind) (x : Action α) :
    Prop where
  keeps : x.Keeps (hearing quiet Told) (fun _ r => ∀ e, r = .error e → Shown Told kinds e) ()

theorem guarded_pure (a : α) : (pure a : Action α).Guarded quiet Told kinds :=
  ⟨keeps_pure fun _ failed => nomatch failed⟩

theorem guarded_throw (shown : Shown Told kinds e) :
    (throw e : Action α).Guarded quiet Told kinds :=
  ⟨keeps_throw fun _ failed => Except.error.inj failed ▸ shown⟩

theorem guarded_own (listed : e.kind ∈ kinds) (outer : e.kind.isInfrastructure = false) :
    (throw e : Action α).Guarded quiet Told kinds :=
  guarded_throw (.own listed outer)

theorem guarded_log (level : Level) (message : String) (fields : List (String × FieldValue)) :
    (log level message fields).Guarded quiet Told kinds :=
  ⟨keeps_log (fun _ failed => nomatch failed) _ _ _⟩

theorem guarded_surface (operation : String) (heard : Heard Told e) (listed : .internal ∈ kinds) :
    (Controller.surface operation e : Action α).Guarded quiet Told kinds :=
  ⟨keeps_surface fun _ failed => Except.error.inj failed ▸ heard.surface listed⟩

theorem Guarded.bind (guarded : x.Guarded quiet Told kinds)
    (rest : ∀ a, (f a).Guarded quiet Told kinds) : (x >>= f).Guarded quiet Told kinds := by
  refine ⟨Keeps.bind (Program.Keeps.imp guarded.keeps fun _ r shown => ?_)⟩
  cases r with
  | ok a => exact (rest a).keeps
  | error e => exact fun e' same => shown e' (congrArg Except.error (Except.error.inj same))

theorem guarded_ofResult_bind {r : Result α}
    (shown : ∀ e, r = .error e → Shown Told kinds e)
    (rest : ∀ a, (f a).Guarded quiet Told kinds) :
    (ofResult r >>= f).Guarded quiet Told kinds :=
  Guarded.bind ⟨keeps_ofResult shown⟩ rest

/-- After a call a program goes on with an answer that tells what may be told. -/
theorem guarded_call_bind {call : Call} {f : call.Answer → Action β}
    (asks : quiet = true → call.verifies = false)
    (rest : ∀ answer, Exchange.Tells Told ⟨call, answer⟩ → (f answer).Guarded quiet Told kinds) :
    (Action.call call >>= f).Guarded quiet Told kinds :=
  ⟨Keeps.bind (keeps_call asks fun answer tells => (rest answer tells).keeps)⟩

theorem guarded_askStore_bind {call : StoreCall} {f : Result call.Answer → Action β}
    (rest : ∀ r, (∀ e, r = .error e → Heard Told e) → (f r).Guarded quiet Told kinds) :
    (c.askStore call >>= f).Guarded quiet Told kinds := by
  refine ⟨Keeps.bind (keeps_askStore_told (fun _ => rfl) fun reply tells => ?_)⟩
  refine (rest _ fun e failed => heard_bounded (fun e same => ?_) failed).keeps
  subst same
  exact tells

theorem guarded_useStore (operation : String) (call : StoreCall) (listed : .internal ∈ kinds) :
    (c.useStore operation call).Guarded quiet Told kinds := by
  unfold Controller.useStore
  refine guarded_askStore_bind fun r heard => ?_
  cases r with
  | ok a => exact guarded_pure a
  | error e => exact guarded_surface _ (heard e rfl) listed

theorem guarded_issueFor (operation : String) (user : Uuid) (listed : .internal ∈ kinds) :
    (Controller.issueFor operation user).Guarded quiet Told kinds := by
  unfold Controller.issueFor Controller.issuePair
  rw [bind_assoc]
  refine guarded_call_bind (fun _ => rfl) fun access tells => ?_
  cases access with
  | error e => exact guarded_surface _ (.told tells _) listed
  | ok access =>
    dsimp only
    rw [bind_assoc]
    refine guarded_call_bind (fun _ => rfl) fun refresh tells => ?_
    cases refresh with
    | error e => exact guarded_surface _ (.told tells _) listed
    | ok refresh => exact guarded_pure _

theorem guarded_compareDecoy (password : String) :
    (Controller.compareDecoy password).Guarded false Told kinds := by
  unfold Controller.compareDecoy
  refine guarded_call_bind (fun loud => nomatch loud) fun decoy _ => ?_
  cases decoy with
  | none => exact guarded_pure ()
  | some hash => exact guarded_call_bind (fun loud => nomatch loud) fun _ _ => guarded_pure ()

/-- Tells something to the log and fails. -/
theorem guarded_complaint (level : Level) (message : String) (fields : List (String × FieldValue))
    (shown : Shown Told kinds e) :
    (log level message fields >>= fun _ => throw e : Action α).Guarded quiet Told kinds :=
  (guarded_log _ _ _).bind fun _ => guarded_throw shown

end Action

theorem DeviceMetadata.resolve_error {origin : DeviceMetadata} {e : Error}
    (failed : origin.resolve = .error e) : e.kind = .incorrectDevice := by
  unfold DeviceMetadata.resolve at failed
  dsimp only at failed
  split at failed
  · cases failed; rfl
  · split at failed
    · cases failed; rfl
    · split at failed
      · cases failed; rfl
      · cases failed

theorem Controller.deviceName_error {text : String} {e : Error}
    (failed : Controller.deviceName text = .error e) : e.kind = .validation := by
  unfold Controller.deviceName at failed
  dsimp only at failed
  split at failed
  · cases failed; rfl
  · split at failed
    · cases failed; rfl
    · cases failed

namespace Action

variable {Told : Error → Prop} {c : Controller}

theorem guarded_resolve_bind {quiet : Bool} {kinds : List ErrorKind} {β : Type}
    {f : DeviceIdentity → Action β} (origin : DeviceMetadata) (listed : .incorrectDevice ∈ kinds)
    (rest : ∀ device, (f device).Guarded quiet Told kinds) :
    (ofResult origin.resolve >>= f).Guarded quiet Told kinds := by
  refine guarded_ofResult_bind (fun e failed => ?_) rest
  have kind := DeviceMetadata.resolve_error failed
  exact .own (by rw [kind]; exact listed) (by rw [kind]; rfl)

theorem login_guarded (credentials : Credentials) (origin : DeviceMetadata) :
    (c.login credentials origin).Guarded false Told (Operation.login credentials origin).kinds := by
  have refused : Shown Told (Operation.login credentials origin).kinds
      Controller.invalidCredentials :=
    .own (by simp [Operation.kinds, Controller.invalidCredentials]) rfl
  have listed : .internal ∈ (Operation.login credentials origin).kinds := by simp [Operation.kinds]
  unfold Controller.login
  refine guarded_resolve_bind origin (by simp [Operation.kinds]) fun device => ?_
  refine guarded_call_bind (fun loud => nomatch loud) fun reply tells => ?_
  cases bound : c.bounded "user_directory.find_by_email" reply with
  | error e =>
    refine guarded_surface _ (heard_bounded (fun e same => ?_) bound) listed
    subst same
    exact tells
  | ok found =>
    cases found with
    | none => exact (guarded_compareDecoy _).bind fun _ => guarded_complaint _ _ _ refused
    | some user =>
      cases active : user.isActive with
      | false =>
        simp only [active, Bool.not_false, if_true]
        exact (guarded_compareDecoy _).bind fun _ => guarded_complaint _ _ _ refused
      | true =>
        simp only [active, Bool.not_true, Bool.false_eq_true, if_false]
        refine guarded_call_bind (fun loud => nomatch loud) fun verdict _ => ?_
        cases verdict with
        | error e =>
          dsimp only
          split <;> exact guarded_complaint _ _ _ refused
        | ok _ =>
          refine (guarded_issueFor _ _ listed).bind fun pair => ?_
          refine (guarded_useStore _ _ listed).bind fun _ => ?_
          exact (guarded_log _ _ _).bind fun _ => guarded_pure _

theorem refresh_guarded (token : String) (origin : DeviceMetadata) :
    (c.refresh token origin).Guarded true Told (Operation.refresh token origin).kinds := by
  have refused : Shown Told (Operation.refresh token origin).kinds Controller.tokenRevoked :=
    .own (by simp [Operation.kinds, Controller.tokenRevoked]) rfl
  have listed : .internal ∈ (Operation.refresh token origin).kinds := by simp [Operation.kinds]
  unfold Controller.refresh Controller.refreshUser
  refine Guarded.bind (guarded_call_bind (fun _ => rfl) fun parsed _ => ?_) fun user => ?_
  · cases parsed with
    | error e => exact guarded_complaint _ _ _ refused
    | ok claims =>
      dsimp only
      cases claims.kind with
      | access => exact guarded_complaint _ _ _ refused
      | refresh => exact guarded_pure _
  · refine guarded_resolve_bind origin (by simp [Operation.kinds]) fun device => ?_
    refine (guarded_useStore _ _ listed).bind fun valid => ?_
    cases valid with
    | false => exact guarded_complaint _ _ _ refused
    | true =>
      unfold Controller.rotate
      refine (guarded_issueFor _ _ listed).bind fun pair => ?_
      refine (guarded_useStore _ _ listed).bind fun revoked => ?_
      refine guarded_askStore_bind fun recorded heard => ?_
      cases recorded with
      | error e => exact (guarded_log _ _ _).bind fun _ => guarded_surface _ (heard e rfl) listed
      | ok _ => exact (guarded_log _ _ _).bind fun _ => guarded_pure _

theorem authenticate_guarded (token : String) :
    (Controller.authenticate token).Guarded true Told (Operation.authenticate token).kinds := by
  have refused : Shown Told (Operation.authenticate token).kinds Controller.invalidToken :=
    .own (by simp [Operation.kinds, Controller.invalidToken]) rfl
  unfold Controller.authenticate
  refine guarded_call_bind (fun _ => rfl) fun parsed _ => ?_
  cases parsed with
  | error e => exact guarded_complaint _ _ _ refused
  | ok claims =>
    dsimp only
    cases claims.kind with
    | access => exact guarded_pure _
    | refresh => exact guarded_throw refused

theorem findDevice_guarded (user : Uuid) (device : String) :
    (c.device user device).Guarded true Told (Operation.findDevice user device).kinds := by
  unfold Controller.device
  refine (guarded_useStore _ _ (by simp [Operation.kinds])).bind fun found => ?_
  cases found with
  | none => exact guarded_own (by simp [Operation.kinds, Controller.noDevice]) rfl
  | some d => exact guarded_pure _

theorem renameDevice_guarded (user : Uuid) (device text : String) :
    (c.renameDevice user device text).Guarded true Told
      (Operation.renameDevice user device text).kinds := by
  unfold Controller.renameDevice
  refine guarded_ofResult_bind (fun e failed => ?_) fun name => ?_
  · have kind := Controller.deviceName_error failed
    exact .own (by simp [kind, Operation.kinds]) (by rw [kind]; rfl)
  · refine (guarded_useStore _ _ (by simp [Operation.kinds])).bind fun renamed => ?_
    cases renamed with
    | false => exact guarded_own (by simp [Operation.kinds, Controller.noDevice]) rfl
    | true => exact guarded_log _ _ _

theorem deleteDevice_guarded (user : Uuid) (device : String) :
    (c.deleteDevice user device).Guarded true Told (Operation.deleteDevice user device).kinds := by
  unfold Controller.deleteDevice
  refine (guarded_useStore _ _ (by simp [Operation.kinds])).bind fun deleted => ?_
  cases deleted with
  | false => exact guarded_own (by simp [Operation.kinds, Controller.noDevice]) rfl
  | true => exact guarded_log _ _ _

theorem serve_guarded (r : Operation) : (c.serve r).Guarded (!r.isLogin) Told r.kinds := by
  cases r with
  | login credentials origin =>
    exact (login_guarded credentials origin).bind fun _ => guarded_pure _
  | refresh token origin => exact (refresh_guarded token origin).bind fun _ => guarded_pure _
  | logout user =>
    exact ((guarded_useStore _ _ (by simp [Operation.kinds])).bind fun _ => guarded_log _ _ _).bind
      fun _ => guarded_pure _
  | authenticate token => exact (authenticate_guarded token).bind fun _ => guarded_pure _
  | listDevices user => exact (guarded_useStore _ _ (by simp [Operation.kinds])).bind fun _ => guarded_pure _
  | findDevice user device => exact (findDevice_guarded user device).bind fun _ => guarded_pure _
  | renameDevice user device text =>
    exact (renameDevice_guarded user device text).bind fun _ => guarded_pure _
  | deleteDevice user device => exact (deleteDevice_guarded user device).bind fun _ => guarded_pure _
  | revokeDevice user device =>
    exact ((guarded_useStore _ _ (by simp [Operation.kinds])).bind fun _ => guarded_log _ _ _).bind
      fun _ => guarded_pure _

/-- What a guarded action ends with in a run may be shown, if what it is told in the run may be told. -/
theorem Guarded.shown {quiet : Bool} {kinds : List ErrorKind} {α σ : Type} {x : Action α}
    (guarded : x.Guarded quiet Told kinds) {answer : (c : Call) → σ → c.Answer × σ} {s : σ}
    (told : ∀ e ∈ Program.trace answer x.run s, e.Tells Told) {e : Error}
    (failed : (Program.run answer x.run s).1 = .error e) : Shown Told kinds e :=
  guarded.keeps.ends_run told e failed

end Action

end DeviceSessions
