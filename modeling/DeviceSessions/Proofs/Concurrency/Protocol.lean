import DeviceSessions.Proofs.Controller.Operation

/-!
# Protocols

What a program asks depends on what it was told before. A protocol is a machine over exchanges that
says which calls may come next, and which answers it relies on. A program keeps to one if it does so
under all such answers, so no more has to be known of it when its calls are mixed with those of
other programs.
-/

namespace DeviceSessions

/-- A machine over exchanges. Events can be logged at any time and make no difference. -/
structure Protocol (σ : Type) where
  next : σ → Exchange → σ
  asks : σ → Call → Prop
  tells : Exchange → Prop
  asks_log : ∀ s event, asks s (.log event)
  next_log : ∀ s event answer, next s ⟨.log event, answer⟩ = s

section Keeps

variable {σ α β : Type} {k : Protocol σ} {s : σ}

/-- From a state on, a program asks only what the protocol allows, and ends as it should. -/
def Program.Keeps (k : Protocol σ) (ends : σ → α → Prop) : Program α → σ → Prop
  | .done a, s => ends s a
  | .ask c next, s => k.asks s c ∧ ∀ answer : c.Answer, k.tells ⟨c, answer⟩ →
      (next answer).Keeps k ends (k.next s ⟨c, answer⟩)

theorem Program.Keeps.imp {p : Program α} {ends ends' : σ → α → Prop} (keeps : p.Keeps k ends s)
    (imp : ∀ s a, ends s a → ends' s a) : p.Keeps k ends' s := by
  induction p generalizing s with
  | done a => exact imp s a keeps
  | ask c next ih =>
    obtain ⟨asks, rest⟩ := keeps
    exact ⟨asks, fun answer tells => ih answer (rest answer tells)⟩

theorem Program.Keeps.bind {p : Program α} {f : α → Program β} {ends : σ → β → Prop}
    (keeps : p.Keeps k (fun s a => (f a).Keeps k ends s) s) : (p >>= f).Keeps k ends s := by
  induction p generalizing s with
  | done a => exact keeps
  | ask c next ih =>
    obtain ⟨asks, rest⟩ := keeps
    exact ⟨asks, fun answer tells => ih answer (rest answer tells)⟩

/-- What a program asks in a run, it asks as the protocol allows. -/
theorem Program.Keeps.asks_trace {τ : Type} {answer : (c : Call) → τ → c.Answer × τ} {p : Program α}
    {ends : σ → α → Prop} {w : τ} (keeps : p.Keeps k ends s)
    (told : ∀ e ∈ p.trace answer w, k.tells e) {before after : List Exchange} {e : Exchange}
    (cut : p.trace answer w = before ++ e :: after) : k.asks (before.foldl k.next s) e.call := by
  induction p generalizing s w before with
  | done a => cases before <;> cases cut
  | ask c next ih =>
    obtain ⟨asks, rest⟩ := keeps
    unfold Program.trace at told cut
    cases before with
    | nil =>
      obtain ⟨rfl, -⟩ := List.cons.inj cut
      exact asks
    | cons first before =>
      obtain ⟨rfl, cutLater⟩ := List.cons.inj cut
      exact ih _ (rest _ (told _ List.mem_cons_self))
        (fun e member => told e (List.mem_cons_of_mem _ member)) cutLater

/-- A run of a program ends as the protocol says after its exchanges. -/
theorem Program.Keeps.ends_run {τ : Type} {answer : (c : Call) → τ → c.Answer × τ} {p : Program α}
    {ends : σ → α → Prop} {w : τ} (keeps : p.Keeps k ends s)
    (told : ∀ e ∈ p.trace answer w, k.tells e) :
    ends ((p.trace answer w).foldl k.next s) (p.run answer w).1 := by
  induction p generalizing s w with
  | done a => exact keeps
  | ask c next ih =>
    obtain ⟨-, rest⟩ := keeps
    exact ih _ (rest _ (told _ List.mem_cons_self))
      fun e member => told e (List.mem_cons_of_mem _ member)

namespace Action

/-- A program that can fail keeps to a protocol. -/
def Keeps (k : Protocol σ) (ends : σ → Result α → Prop) (x : Action α) (s : σ) : Prop :=
  Program.Keeps k ends x.run s

variable {x : Action α} {f : α → Action β} {ends : σ → Result α → Prop}

theorem keeps_pure {a : α} (ok : ends s (.ok a)) : Keeps k ends (pure a) s := ok

theorem keeps_throw {e : Error} (error : ends s (.error e)) : Keeps k ends (throw e) s := error

theorem keeps_ofResult {r : Result α} (holds : ends s r) : Keeps k ends (ofResult r) s := holds

theorem keeps_call {c : Call} {ends : σ → Result c.Answer → Prop} (asks : k.asks s c)
    (told : ∀ answer, k.tells ⟨c, answer⟩ → ends (k.next s ⟨c, answer⟩) (.ok answer)) :
    Keeps k ends (call c) s :=
  ⟨asks, told⟩

theorem keeps_log {ends : σ → Result Unit → Prop} (ok : ends s (.ok ())) (level : Level)
    (message : String) (fields : List (String × FieldValue)) :
    Keeps k ends (log level message fields) s := by
  refine keeps_call (k.asks_log s _) fun answer _ => ?_
  rw [k.next_log]
  exact ok

theorem Keeps.bind {ends : σ → Result β → Prop}
    (keeps : x.Keeps k (fun s r => match r with
      | .ok a => (f a).Keeps k ends s
      | .error e => ends s (.error e)) s) : (x >>= f).Keeps k ends s := by
  refine Program.Keeps.bind (Program.Keeps.imp keeps ?_)
  intro s r holds
  cases r with
  | ok a => exact holds
  | error e => exact holds

theorem keeps_surface {operation : String} {e : Error} (error : ends s (.error e.surface)) :
    (Controller.surface operation e : Action α).Keeps k ends s := by
  unfold Controller.surface
  cases e.kind.isInfrastructure with
  | true => exact .bind (keeps_log error _ _ _)
  | false => exact error

variable {c : Controller}

/-- What comes of a call of the store follows from its reply. -/
theorem keeps_askStore_told {call : StoreCall} {ends : σ → Result (Result call.Answer) → Prop}
    (asks : k.asks s (.store call))
    (told : ∀ reply : Reply call.Answer, k.tells ⟨.store call, reply⟩ →
      ends (k.next s ⟨.store call, reply⟩) (.ok (c.bounded call.operation reply))) :
    (c.askStore call).Keeps k ends s := by
  unfold Controller.askStore
  exact .bind (keeps_call asks told)

theorem keeps_askStore {call : StoreCall} {ends : σ → Result (Result call.Answer) → Prop}
    (asks : k.asks s (.store call))
    (ok : ∀ a, k.tells ⟨.store call, .answered (.ok a)⟩ →
      ends (k.next s ⟨.store call, .answered (.ok a)⟩) (.ok (.ok a)))
    (error : ∀ reply : Reply call.Answer, k.tells ⟨.store call, reply⟩ →
      (∀ a, reply ≠ .answered (.ok a)) →
      ∀ e, ends (k.next s ⟨.store call, reply⟩) (.ok (.error e))) :
    (c.askStore call).Keeps k ends s := by
  refine keeps_askStore_told asks fun reply tells => ?_
  rcases reply with ⟨e | a⟩ | _
  · exact error _ tells (by simp) _
  · exact ok a tells
  · exact error _ tells (by simp) _

/-- A call of the store that fails ends the operation with what may be seen of its error. -/
theorem keeps_useStore_told {operation : String} {call : StoreCall}
    {ends : σ → Result call.Answer → Prop} (asks : k.asks s (.store call))
    (ok : ∀ a, k.tells ⟨.store call, .answered (.ok a)⟩ →
      ends (k.next s ⟨.store call, .answered (.ok a)⟩) (.ok a))
    (error : ∀ reply e, k.tells ⟨.store call, reply⟩ → c.bounded call.operation reply = .error e →
      ends (k.next s ⟨.store call, reply⟩) (.error e.surface)) :
    (c.useStore operation call).Keeps k ends s := by
  unfold Controller.useStore
  refine .bind (keeps_askStore_told asks fun reply tells => ?_)
  cases outcome : c.bounded call.operation reply with
  | ok a =>
    obtain rfl := World.bounded_ok outcome
    exact ok a tells
  | error e => exact keeps_surface (error reply e tells outcome)

theorem keeps_useStore {operation : String} {call : StoreCall}
    {ends : σ → Result call.Answer → Prop} (asks : k.asks s (.store call))
    (ok : ∀ a, k.tells ⟨.store call, .answered (.ok a)⟩ →
      ends (k.next s ⟨.store call, .answered (.ok a)⟩) (.ok a))
    (error : ∀ reply : Reply call.Answer, k.tells ⟨.store call, reply⟩ →
      (∀ a, reply ≠ .answered (.ok a)) → ∀ e, ends (k.next s ⟨.store call, reply⟩) (.error e)) :
    (c.useStore operation call).Keeps k ends s := by
  refine keeps_useStore_told asks ok fun reply e tells failed => error reply tells ?_ _
  rintro a rfl
  cases failed

theorem keeps_issueFor {operation : String} {user : Uuid} {ends : σ → Result TokenPair → Prop}
    (access : k.asks s (.issue .access user))
    (refresh : ∀ a, k.asks (k.next s ⟨.issue .access user, .ok a⟩) (.issue .refresh user))
    (ok : ∀ a b, k.tells ⟨.issue .access user, .ok a⟩ → k.tells ⟨.issue .refresh user, .ok b⟩ →
      ends (k.next (k.next s ⟨.issue .access user, .ok a⟩) ⟨.issue .refresh user, .ok b⟩)
        (.ok (.of a b)))
    (noAccess : ∀ e, k.tells ⟨.issue .access user, .error e⟩ → ∀ e',
      ends (k.next s ⟨.issue .access user, .error e⟩) (.error e'))
    (noRefresh : ∀ a e, k.tells ⟨.issue .refresh user, .error e⟩ → ∀ e',
      ends (k.next (k.next s ⟨.issue .access user, .ok a⟩) ⟨.issue .refresh user, .error e⟩)
        (.error e')) :
    (Controller.issueFor operation user).Keeps k ends s := by
  unfold Controller.issueFor Controller.issuePair
  refine .bind (.bind (keeps_call access fun first tells => ?_))
  cases first with
  | error e => exact keeps_surface (noAccess e tells _)
  | ok a =>
    refine .bind (keeps_call (refresh a) fun second told => ?_)
    cases second with
    | error e => exact keeps_surface (noRefresh a e told _)
    | ok b => exact ok a b tells told

theorem keeps_refreshUser {token : String} {ends : σ → Result Uuid → Prop}
    (asks : k.asks s (.parse token))
    (ok : ∀ claims, k.tells ⟨.parse token, .ok claims⟩ → claims.kind = .refresh →
      ends (k.next s ⟨.parse token, .ok claims⟩) (.ok claims.subject))
    (error : ∀ r : Result Claims, k.tells ⟨.parse token, r⟩ →
      (∀ claims, r = .ok claims → claims.kind ≠ .refresh) →
      ends (k.next s ⟨.parse token, r⟩) (.error Controller.tokenRevoked)) :
    (Controller.refreshUser token).Keeps k ends s := by
  unfold Controller.refreshUser
  refine .bind (keeps_call asks fun parsed tells => ?_)
  cases parsed with
  | error e =>
    refine .bind (keeps_log ?_ _ _ _)
    exact error _ tells fun _ none => nomatch none
  | ok claims =>
    dsimp only
    cases kind : claims.kind with
    | access =>
      refine .bind (keeps_log ?_ _ _ _)
      refine error _ tells fun claims' same => ?_
      rw [← Except.ok.inj same, kind]
      exact TokenKind.noConfusion
    | refresh => exact ok claims tells kind

end Action

end Keeps

end DeviceSessions
