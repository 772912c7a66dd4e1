import DeviceSessions.Proofs.Concurrency.Protocol

/-!
# How a refresh goes

A refresh with a good token goes through the same calls in the same order, if the calls that it makes
are answered: it checks, issues, revokes and records. `Stage` says how far it is.
-/

namespace DeviceSessions

/-- How far a refresh is: it has read the token, has found it good or not, has issued one or both
tokens of its pair, has revoked, has recorded. -/
inductive Stage where
  | arrived
  | named
  | refused
  | cleared
  | halfway (access : IssuedToken)
  | paired (pair : TokenPair)
  | emptied (pair : TokenPair)
  | recorded (pair : TokenPair)

namespace Stage

/-- The stage after an exchange. -/
def next : Stage → Exchange → Stage
  | .arrived, ⟨.parse _, _⟩ => .named
  | .named, ⟨.store (.isValid ..), .answered (.ok valid)⟩ =>
    match valid with
    | true => .cleared
    | false => .refused
  | .cleared, ⟨.issue .access _, .ok access⟩ => .halfway access
  | .halfway access, ⟨.issue .refresh _, .ok refresh⟩ => .paired (.of access refresh)
  | .paired pair, ⟨.store (.revokeAll _), .answered (.ok _)⟩ => .emptied pair
  | .emptied pair, ⟨.store (.create ..), .answered (.ok _)⟩ => .recorded pair
  | s, _ => s

/-- The call that comes next, besides reports. -/
def Awaits (token : String) (user : Uuid) (device : String) : Stage → Call → Prop
  | .arrived, call => call = .parse token
  | .named, call => ∃ identity : DeviceIdentity, identity.id = device ∧
    call = .store (.isValid user identity token)
  | .cleared, call => call = .issue .access user
  | .halfway _, call => call = .issue .refresh user
  | .paired _, call => call = .store (.revokeAll user)
  | .emptied pair, call => ∃ identity : DeviceIdentity, identity.id = device ∧
    call = .store (Controller.recording user pair identity)
  | .refused, _ => False
  | .recorded _, _ => False

/-- A refresh ends refused, or with the pair that it has recorded. -/
def Ends : Stage → Result Response → Prop
  | .refused, result => result = .error Controller.tokenRevoked
  | .recorded pair, result => result = .ok (.pair pair)
  | _, _ => False

/-- A refresh that has neither revoked nor been refused. -/
def early : Stage → Bool
  | .refused | .emptied _ | .recorded _ => false
  | _ => true

/-- The pair that was issued. -/
def pair? : Stage → Option TokenPair
  | .paired pair | .emptied pair | .recorded pair => some pair
  | _ => none

/-- A pair is complete with the refresh token that is issued, and stays as it is. -/
theorem pair?_next (s : Stage) (e : Exchange) :
    (s.next e).pair? = s.pair? ∨
      ∃ access user refresh, s = .halfway access ∧ e = ⟨.issue .refresh user, .ok refresh⟩ ∧
        (s.next e).pair? = some (.of access refresh) := by
  unfold next
  split
  · exact Or.inl rfl
  · split <;> exact Or.inl rfl
  · exact Or.inl rfl
  · exact Or.inr ⟨_, _, _, rfl, rfl, rfl⟩
  · exact Or.inl rfl
  · exact Or.inl rfl
  · exact Or.inl rfl

end Stage

/-- The token of a user is read, and calls are answered. -/
structure Answers (token : String) (user : Uuid) (e : Exchange) : Prop where
  parsed : ∀ {r}, e = ⟨.parse token, r⟩ →
    ∃ claims, r = .ok claims ∧ claims.kind = .refresh ∧ claims.subject = user
  made : ∀ {call : StoreCall} {reply}, e = ⟨.store call, reply⟩ → ∃ a, reply = .answered (.ok a)
  issued : ∀ {kind r}, e = ⟨.issue kind user, r⟩ → ∃ a, r = .ok a

/-- A refresh goes through its stages. -/
def rotation (token : String) (user : Uuid) (device : String) : Protocol Stage where
  next := Stage.next
  asks s call := (∃ event, call = .log event) ∨ s.Awaits token user device call
  tells := Answers token user
  asks_log s event := Or.inl ⟨event, rfl⟩
  next_log s event answer := by cases s <;> rfl

namespace Action

variable {token : String} {user : Uuid} {device : String} {identity : DeviceIdentity}
  {c : Controller} {origin : DeviceMetadata}

theorem rotate_goes (here : identity.id = device) :
    (c.rotate user identity).Keeps (rotation token user device)
      (fun s r => s.Ends (r.map .pair)) .cleared := by
  unfold Controller.rotate
  refine Keeps.bind (keeps_issueFor (Or.inr rfl) (fun _ => Or.inr rfl) (fun access refresh _ _ => ?_)
    (fun e told => ?_) fun _ e told => ?_)
  · refine Keeps.bind (keeps_useStore (Or.inr rfl) (fun revoked _ => ?_) fun reply told failed => ?_)
    · refine Keeps.bind (keeps_askStore (Or.inr ⟨identity, here, rfl⟩) (fun _ _ => ?_)
        fun reply told failed => ?_)
      · refine Keeps.bind (keeps_log ?_ _ _ _)
        exact keeps_pure rfl
      · obtain ⟨a, same⟩ := told.made rfl
        exact absurd same (failed a)
    · obtain ⟨a, same⟩ := told.made rfl
      exact absurd same (failed a)
  · obtain ⟨a, same⟩ := told.issued rfl
    cases same
  · obtain ⟨a, same⟩ := told.issued rfl
    cases same

/-- A refresh of a token that can be read goes through its stages. -/
theorem refresh_goes (resolved : origin.resolve = .ok identity) (here : identity.id = device) :
    (c.refresh token origin).Keeps (rotation token user device)
      (fun s r => s.Ends (r.map .pair)) .arrived := by
  unfold Controller.refresh
  refine Keeps.bind (keeps_refreshUser (Or.inr rfl) (fun claims told _ => ?_) fun r told fails => ?_)
  · obtain ⟨claims', same, -, mine⟩ := told.parsed rfl
    obtain rfl : claims = claims' := Except.ok.inj same
    subst mine
    rw [resolved]
    refine Keeps.bind (keeps_ofResult ?_)
    refine Keeps.bind (keeps_useStore (Or.inr ⟨identity, here, rfl⟩) (fun valid _ => ?_)
      fun reply told failed => ?_)
    · cases valid with
      | false =>
        refine Keeps.bind (keeps_log ?_ _ _ _)
        exact Keeps.bind (keeps_throw rfl)
      | true => exact rotate_goes here
    · obtain ⟨a, same⟩ := told.made rfl
      exact absurd same (failed a)
  · obtain ⟨claims, same, kind, -⟩ := told.parsed rfl
    exact absurd kind (fails claims same)

theorem serve_goes (resolved : origin.resolve = .ok identity) (here : identity.id = device) :
    (c.serve (.refresh token origin)).Keeps (rotation token user device) Stage.Ends .arrived := by
  refine Keeps.bind (Program.Keeps.imp (refresh_goes resolved here) fun s r ends => ?_)
  cases r with
  | ok pair => exact keeps_pure ends
  | error e => exact ends

end Action

end DeviceSessions
