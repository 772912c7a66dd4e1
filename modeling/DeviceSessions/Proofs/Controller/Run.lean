import DeviceSessions.Controller.World
import DeviceSessions.Proofs.Session.Store

/-!
# Running actions

A run of an action leaves a trace: each call with the answer that it got. Of the calls of the store
those count that were answered, because a call that fails or comes late is not made. `Runs` says in
one what an action comes to, which calls of the store were answered on the way, and in which world
it ends; the store of that world follows from the calls.
-/

namespace DeviceSessions

/-- A call with the answer that it got. -/
structure Exchange where
  call : Call
  answer : call.Answer

/-- The call of the store that an exchange was, if it was answered. -/
def Exchange.made? : Exchange → Option StoreCall
  | ⟨.store call, .answered (.ok _)⟩ => some call
  | _ => none

namespace Program

variable {α β σ : Type}

/-- The exchanges of a run. -/
def trace (answer : (c : Call) → σ → c.Answer × σ) : Program α → σ → List Exchange
  | done _, _ => []
  | ask c next, s => ⟨c, (answer c s).1⟩ :: trace answer (next (answer c s).1) (answer c s).2

theorem run_bind (answer : (c : Call) → σ → c.Answer × σ) (p : Program α) (f : α → Program β)
    (s : σ) :
    (p >>= f).run answer s = (f (p.run answer s).1).run answer (p.run answer s).2 := by
  induction p generalizing s with
  | done a => rfl
  | ask c next ih => exact ih _ _

theorem trace_bind (answer : (c : Call) → σ → c.Answer × σ) (p : Program α) (f : α → Program β)
    (s : σ) :
    (p >>= f).trace answer s =
      p.trace answer s ++ (f (p.run answer s).1).trace answer (p.run answer s).2 := by
  induction p generalizing s with
  | done a => rfl
  | ask c next ih => exact congrArg (List.cons _) (ih _ _)

theorem bind_assoc (p : Program α) {γ : Type} (f : α → Program β) (g : β → Program γ) :
    p >>= f >>= g = p >>= fun a => f a >>= g := by
  induction p with
  | done a => rfl
  | ask c next ih => exact congrArg (ask c) (funext ih)

theorem id_map (p : Program α) : id <$> p = p := by
  induction p with
  | done a => rfl
  | ask c next ih => exact congrArg (ask c) (funext ih)

instance : LawfulMonad Program :=
  LawfulMonad.mk' Program id_map (fun _ _ => rfl) fun p f g => bind_assoc p f g

end Program

/-- A run of an action goes on with its value, and stops at its error. -/
theorem Action.run_bind {α β σ : Type} (answer : (c : Call) → σ → c.Answer × σ) (x : Action α)
    (f : α → Action β) (s : σ) :
    (x >>= f).run.run answer s = match x.run.run answer s with
      | (.ok a, s') => (f a).run.run answer s'
      | (.error e, s') => (.error e, s') := by
  refine (Program.run_bind answer x.run _ s).trans ?_
  obtain ⟨_ | a, s'⟩ := x.run.run answer s
  · rfl
  · rfl

theorem Action.run_call {σ : Type} (answer : (c : Call) → σ → c.Answer × σ) (c : Call) (s : σ) :
    (Action.call c).run.run answer s = (.ok (answer c s).1, (answer c s).2) := rfl

theorem Action.run_surface {α σ : Type} (answer : (c : Call) → σ → c.Answer × σ)
    (operation : String) (e : Error) (s : σ) :
    ((Controller.surface operation e : Action α).run.run answer s).1 = .error e.surface := by
  unfold Controller.surface
  cases e.kind.isInfrastructure with
  | true => rfl
  | false => rfl

/-- The store after some calls at one time. -/
def SessionStore.follow (s : SessionStore) (now : Instant) (calls : List StoreCall) : SessionStore :=
  calls.foldl (fun s call => (s.answer now call).2) s

theorem SessionStore.follow_append (s : SessionStore) (now : Instant) (first second : List StoreCall) :
    s.follow now (first ++ second) = (s.follow now first).follow now second :=
  List.foldl_append

/-- What every call keeps is kept by calls one after another. -/
theorem SessionStore.follow_keeps {P : SessionStore → Prop} {now : Instant}
    (keeps : ∀ {s : SessionStore} call, P s → P (s.answer now call).2) {s : SessionStore} (holds : P s)
    (calls : List StoreCall) : P (s.follow now calls) := by
  induction calls generalizing s with
  | nil => exact holds
  | cons call calls ih => exact ih (keeps call holds)

theorem SessionStore.Consistent.follow {s : SessionStore} (consistent : s.Consistent) (now : Instant)
    (calls : List StoreCall) : (s.follow now calls).Consistent :=
  follow_keeps (P := Consistent) (fun call holds => consistent_answer holds now call) consistent calls

/-- Calls that only ask or are for other users leave the rows of a user as they are. -/
theorem SessionStore.Consistent.follow_other {s : SessionStore} (consistent : s.Consistent)
    (now : Instant) {calls : List StoreCall} {user : Uuid}
    (others : ∀ call ∈ calls, call.isQuery = true ∨ call.user ≠ user) (d : String) :
    (s.follow now calls).session? user d = s.session? user d ∧
      (s.follow now calls).device? user d = s.device? user d := by
  induction calls generalizing s with
  | nil => exact ⟨rfl, rfl⟩
  | cons call calls ih =>
    obtain ⟨sessions, devices⟩ := ih (SessionStore.consistent_answer consistent now call)
      fun c member => others c (List.mem_cons_of_mem _ member)
    rcases others call List.mem_cons_self with query | other
    · have same := answer_query s now query
      exact ⟨sessions.trans (congrArg (SessionStore.session? · user d) same),
        devices.trans (congrArg (SessionStore.device? · user d) same)⟩
    · exact ⟨sessions.trans (consistent.session?_other now other d),
        devices.trans (device?_other s now other d)⟩

/-- Calls keep what holds of every session, if it holds of the sessions that they record. -/
theorem SessionStore.All.follow {s : SessionStore} {P : Uuid → String → Session → Prop}
    (all : s.All P) (lasting : Lasting P) (now : Instant) {calls : List StoreCall}
    (recorded : ∀ user hash expiresAt device, .create user hash expiresAt device ∈ calls →
      ∀ t : SessionStore, P user device.id (t.create user hash expiresAt device now).1) :
    (s.follow now calls).All P := by
  induction calls generalizing s with
  | nil => exact all
  | cons call calls ih =>
    refine ih (all.answer lasting now ?_) ?_
    · intro user hash expiresAt device same
      exact recorded user hash expiresAt device (by rw [same]; exact List.mem_cons_self) s
    · intro user hash expiresAt device member
      exact recorded user hash expiresAt device (List.mem_cons_of_mem _ member)

/-! ### Calls under faults -/

section Fault

variable {α σ : Type} (f : Fault) (deadline : Span) (make : σ → Result α × σ) (s : σ)

/-- How a call ends under a fault does not depend on whether the fault comes before it or after. -/
theorem Fault.apply_fst : (f.apply deadline make s).1 = f.close deadline (make s).1 := by
  unfold apply close
  split
  · rfl
  · split
    · cases f.failure with
      | none => rfl
      | some e => rfl
    · rfl

/-- Whether a call is made under a fault does not depend on the state. -/
theorem Fault.apply_snd : (f.apply deadline make s).2 =
    if f.after = true ∨ (f.delay ≤ deadline ∧ f.failure = none) then (make s).2 else s := by
  unfold apply
  cases f.after with
  | true => rfl
  | false =>
    by_cases inTime : f.delay ≤ deadline
    · cases f.failure with
      | none => simp [inTime]
      | some e => simp [inTime]
    · simp [inTime]

end Fault

namespace World

section Make

variable {σ α : Type} (w : World σ) (target : Target) (call : σ → Result α × σ)

/-- A call of a collaborator changes nothing but the state. -/
theorem make_snd :
    (w.make target call).2 = { w with state := (w.make target call).2.state } := by
  unfold make
  split <;> rfl

/-- A call is made or it is not, however it ends. -/
theorem state_make :
    (w.make target call).2.state = (call w.state).2 ∨ (w.make target call).2.state = w.state := by
  unfold make
  cases w.faults target with
  | none => exact Or.inl rfl
  | some f =>
    dsimp only
    rw [f.apply_snd]
    split
    · exact Or.inl rfl
    · exact Or.inr rfl

end Make

/-- The trace of an action in memory. -/
def trace {α : Type} (w : World Memory) (x : Action α) : List Exchange :=
  Program.trace (answer Memory.backend) x.run w

/-- A call that fails or comes late has not been made. -/
def Clean (w : World Memory) : Prop := ∀ target f, w.faults target = some f → f.after = false

/-- From one world to another only the store, the log and the counters have moved. -/
structure Kept (w w' : World Memory) : Prop where
  directory : w'.state.directory = w.state.directory
  now : w'.now = w.now
  deadline : w'.deadline = w.deadline
  issuer : w'.issuer = w.issuer
  ids : w'.ids = w.ids
  faults : w'.faults = w.faults
  idsDrawn : w.idsDrawn ≤ w'.idsDrawn

variable {w w' w₁ w₂ : World Memory}

theorem kept_refl (w : World Memory) : w.Kept w :=
  ⟨rfl, rfl, rfl, rfl, rfl, rfl, Nat.le_refl _⟩

theorem Kept.trans (first : w.Kept w₁) (second : w₁.Kept w₂) : w.Kept w₂ :=
  ⟨second.directory.trans first.directory, second.now.trans first.now,
    second.deadline.trans first.deadline, second.issuer.trans first.issuer,
    second.ids.trans first.ids, second.faults.trans first.faults,
    Nat.le_trans first.idsDrawn second.idsDrawn⟩

theorem kept_log (w : World Memory) (log : List Event) : w.Kept { w with log } :=
  ⟨rfl, rfl, rfl, rfl, rfl, rfl, Nat.le_refl _⟩

theorem Clean.of_kept (clean : w.Clean) (kept : w.Kept w') : w'.Clean := by
  intro target f h
  rw [kept.faults] at h
  exact clean target f h

/-! ### One call -/

theorem kept_make (w : World Memory) (target : Target) {α : Type}
    (call : Memory → Result α × Memory) (same : ∀ m, (call m).2.directory = m.directory) :
    w.Kept (w.make target call).2 := by
  have directory : (w.make target call).2.state.directory = w.state.directory := by
    rcases w.state_make target call with made | spared
    · rw [made, same]
    · rw [spared]
  rw [make_snd] at directory ⊢
  exact ⟨directory, rfl, rfl, rfl, rfl, rfl, Nat.le_refl _⟩

theorem askDecoy_still (w : World Memory) :
    w.Kept w.askDecoy.2 ∧ w.askDecoy.2.state = w.state := by
  unfold askDecoy hash
  cases w.decoy with
  | some kept => exact ⟨kept_refl w, rfl⟩
  | none =>
    dsimp only
    split <;> exact ⟨⟨rfl, rfl, rfl, rfl, rfl, rfl, Nat.le_refl _⟩, rfl⟩

theorem idsDrawn_askDecoy (w : World Memory) : w.askDecoy.2.idsDrawn = w.idsDrawn := by
  unfold askDecoy hash
  cases w.decoy with
  | some kept => rfl
  | none =>
    dsimp only
    split <;> rfl

theorem idsDrawn_compare (w : World Memory) (hash password : String) :
    (w.compare hash password).2.idsDrawn = w.idsDrawn := by
  unfold compare
  dsimp only
  split <;> rfl

theorem compare_still (w : World Memory) (hash password : String) :
    w.Kept (w.compare hash password).2 ∧ (w.compare hash password).2.state = w.state := by
  unfold compare
  dsimp only
  split <;> exact ⟨⟨rfl, rfl, rfl, rfl, rfl, rfl, Nat.le_refl _⟩, rfl⟩

theorem issue_still (w : World Memory) (kind : TokenKind) (user : Uuid) :
    w.Kept (w.issue kind user).2 ∧ (w.issue kind user).2.state = w.state := by
  unfold issue
  split
  · exact ⟨kept_refl w, rfl⟩
  · split
    · exact ⟨kept_refl w, rfl⟩
    · exact ⟨⟨rfl, rfl, rfl, rfl, rfl, rfl, Nat.le_succ _⟩, rfl⟩

theorem kept_answer (w : World Memory) (c : Call) : w.Kept (answer Memory.backend c w).2 := by
  cases c with
  | findUser email => exact kept_make w _ _ fun _ => rfl
  | store call => exact kept_make w _ _ fun _ => rfl
  | decoy => exact (askDecoy_still w).1
  | compare hash password => exact (compare_still w hash password).1
  | issue kind user => exact (issue_still w kind user).1
  | parse token => exact kept_refl w
  | log event => exact kept_log w _

theorem faults_answer {σ : Type} (b : Backend σ) (call : Call) (w : World σ) :
    (answer b call w).2.faults = w.faults := by
  cases call with
  | findUser email => unfold answer make; dsimp only; split <;> rfl
  | store call => unfold answer make; dsimp only; split <;> rfl
  | decoy =>
    unfold answer askDecoy hash
    dsimp only
    split
    · rfl
    · split <;> rfl
  | compare hash password => unfold answer compare; dsimp only; split <;> rfl
  | issue kind user =>
    unfold answer issue
    dsimp only
    split
    · rfl
    · split <;> rfl
  | parse token => rfl
  | log event => rfl

/-- A call of the store or the directory that is not made before its fault is either made and
answered, or the fault makes it fail and it is not made. -/
theorem make_spared {σ α : Type} {w : World σ} {target : Target}
    (spared : ∀ f, w.faults target = some f → f.after = false) (call : σ → Result α × σ) :
    w.make target call = (.answered (call w.state).1, { w with state := (call w.state).2 }) ∨
      w.faults target ≠ none ∧
        ∃ reply : Reply α, w.make target call = (reply, w) ∧ ∀ a, reply ≠ .answered (.ok a) := by
  unfold make
  cases fault : w.faults target with
  | none => exact Or.inl rfl
  | some f =>
    have before := spared f fault
    by_cases inTime : f.delay ≤ w.deadline
    · cases failure : f.failure with
      | none => exact Or.inl (by simp [Fault.apply, before, inTime, failure])
      | some e =>
        refine Or.inr ⟨by simp, .answered (.error e), ?_, by simp⟩
        simp [Fault.apply, before, inTime, failure]
    · refine Or.inr ⟨by simp, .late, ?_, by simp⟩
      simp [Fault.apply, before, inTime]

theorem make_cases (clean : w.Clean) (target : Target) {α : Type}
    (call : Memory → Result α × Memory) :
    w.make target call = (.answered (call w.state).1, { w with state := (call w.state).2 }) ∨
      w.faults target ≠ none ∧
        ∃ reply : Reply α, w.make target call = (reply, w) ∧ ∀ a, reply ≠ .answered (.ok a) :=
  make_spared (clean target) call

/-- The world after a call of the store. -/
def afterCall (w : World Memory) (call : StoreCall) : World Memory :=
  { w with state := { w.state with store := (w.state.store.answer w.now call).2 } }

theorem kept_afterCall (w : World Memory) (call : StoreCall) : w.Kept (w.afterCall call) :=
  ⟨rfl, rfl, rfl, rfl, rfl, rfl, Nat.le_refl _⟩

theorem answer_store_cases (clean : w.Clean) (call : StoreCall) :
    answer Memory.backend (.store call) w =
        (.answered (.ok (w.state.store.answer w.now call).1), w.afterCall call) ∨
      w.faults call.target ≠ none ∧
        ∃ reply : Reply call.Answer, answer Memory.backend (.store call) w = (reply, w) ∧
          ∀ a, reply ≠ .answered (.ok a) :=
  make_cases clean call.target (Memory.backend.store call w.now)

theorem made?_eq_none {call : StoreCall} {reply : Reply call.Answer}
    (failed : ∀ a, reply ≠ .answered (.ok a)) : Exchange.made? ⟨.store call, reply⟩ = none := by
  rcases reply with ⟨_ | a⟩ | _
  · rfl
  · exact absurd rfl (failed a)
  · rfl

theorem store_answer (clean : w.Clean) (c : Call) :
    (answer Memory.backend c w).2.state.store =
      w.state.store.follow w.now
        (Exchange.made? ⟨c, (answer Memory.backend c w).1⟩).toList := by
  cases c with
  | findUser email =>
    rcases make_cases clean .findUser (Memory.backend.findUser email) with made | ⟨_, _, made, _⟩ <;>
      exact congrArg (·.2.state.store) made
  | store call =>
    rcases answer_store_cases clean call with made | ⟨-, reply, made, failed⟩
    · rw [made]
      rfl
    · rw [made, made?_eq_none failed]
      rfl
  | decoy => exact congrArg Memory.store (askDecoy_still w).2
  | compare hash password => exact congrArg Memory.store (compare_still w hash password).2
  | issue kind user => exact congrArg Memory.store (issue_still w kind user).2
  | parse token => rfl
  | log event => rfl

/-! ### Runs -/

/-- An action comes to `r` here and ends in the world `w'`, and on the way the store has answered
`calls`. -/
structure Runs {α : Type} (w : World Memory) (x : Action α) (r : Result α) (calls : List StoreCall)
    (w' : World Memory) : Prop where
  run : w.run Memory.backend x = (r, w')
  calls : (w.trace x).filterMap Exchange.made? = calls

variable {α β : Type} {x : Action α} {f : α → Action β} {a : α} {r : Result β} {e : Error}
  {calls calls' : List StoreCall}

theorem kept_run (p : Program α) (w : World Memory) :
    w.Kept (p.run (answer Memory.backend) w).2 := by
  induction p generalizing w with
  | done a => exact kept_refl w
  | ask c next ih => exact (kept_answer w c).trans (ih _ _)

theorem Runs.kept {r : Result α} (runs : w.Runs x r calls w') : w.Kept w' := by
  have kept := kept_run x.run w
  rw [show Program.run (answer Memory.backend) x.run w = (r, w') from runs.run] at kept
  exact kept

theorem store_run (p : Program α) (clean : w.Clean) :
    (p.run (answer Memory.backend) w).2.state.store =
      w.state.store.follow w.now ((p.trace (answer Memory.backend) w).filterMap Exchange.made?) := by
  induction p generalizing w with
  | done a => rfl
  | ask c next ih =>
    have kept := kept_answer w c
    have rest := ih (answer Memory.backend c w).1 (clean.of_kept kept)
    rw [store_answer clean c, kept.now] at rest
    unfold Program.run Program.trace
    rw [rest]
    cases made : Exchange.made? ⟨c, (answer Memory.backend c w).1⟩ with
    | none => rw [List.filterMap_cons_none made]; rfl
    | some call => rw [List.filterMap_cons_some made]; rfl

/-- The calls that were answered say what has become of the store. -/
theorem Runs.store {r : Result α} (runs : w.Runs x r calls w') (clean : w.Clean) :
    w'.state.store = w.state.store.follow w.now calls := by
  have store := store_run x.run clean
  rw [show Program.run (answer Memory.backend) x.run w = (r, w') from runs.run] at store
  rw [store, ← runs.calls]
  rfl

theorem runs_pure (w : World Memory) (a : α) : w.Runs (pure a) (.ok a) [] w := ⟨rfl, rfl⟩

theorem runs_throw (w : World Memory) (e : Error) : w.Runs (throw e : Action α) (.error e) [] w :=
  ⟨rfl, rfl⟩

theorem runs_ofResult (w : World Memory) (r : Result α) : w.Runs (Action.ofResult r) r [] w :=
  ⟨rfl, rfl⟩

theorem runs_call (w : World Memory) (c : Call) :
    w.Runs (Action.call c) (.ok (answer Memory.backend c w).1)
      (Exchange.made? ⟨c, (answer Memory.backend c w).1⟩).toList (answer Memory.backend c w).2 := by
  refine ⟨rfl, ?_⟩
  change List.filterMap Exchange.made? [⟨c, _⟩] = _
  cases made : Exchange.made? ⟨c, (answer Memory.backend c w).1⟩ with
  | none => exact List.filterMap_cons_none made
  | some call => exact List.filterMap_cons_some made

theorem runs_log (w : World Memory) (level : Level) (message : String)
    (fields : List (String × FieldValue)) :
    w.Runs (Action.log level message fields) (.ok ()) []
      { w with log := w.log ++ [⟨level, message, fields⟩] } := ⟨rfl, rfl⟩

/-- A run goes on with the value of its first part. -/
theorem Runs.bind (first : w.Runs x (.ok a) calls w₁) (second : w₁.Runs (f a) r calls' w₂) :
    w.Runs (x >>= f) r (calls ++ calls') w₂ := by
  have ran : Program.run (answer Memory.backend) x.run w = (.ok a, w₁) := first.run
  constructor
  · refine (Program.run_bind _ x.run _ w).trans ?_
    rw [ran]
    exact second.run
  · rw [← first.calls, ← second.calls, ← List.filterMap_append]
    refine congrArg _ ((Program.trace_bind _ x.run _ w).trans ?_)
    rw [ran]
    rfl

/-- A run stops where its first part fails. -/
theorem Runs.bind_error (first : w.Runs x (.error e) calls w₁) :
    w.Runs (x >>= f) (.error e) calls w₁ := by
  have ran : Program.run (answer Memory.backend) x.run w = (.error e, w₁) := first.run
  constructor
  · refine (Program.run_bind _ x.run _ w).trans ?_
    rw [ran]
    rfl
  · rw [← first.calls]
    refine congrArg _ ((Program.trace_bind _ x.run _ w).trans ?_)
    rw [ran]
    exact List.append_nil _

/-! ### Calls of the store -/

theorem bounded_ok {c : Controller} {name : String} {reply : Reply α} {a : α}
    (h : c.bounded name reply = .ok a) : reply = .answered (.ok a) := by
  unfold Controller.bounded at h
  split at h
  · cases h; rfl
  · cases h
  · cases h

theorem runs_surface (w : World Memory) (operation : String) (e : Error) :
    ∃ log, w.Runs (Controller.surface operation e : Action α) (.error e.surface) []
      { w with log } := by
  unfold Controller.surface
  cases e.kind.isInfrastructure with
  | true => exact ⟨_, (runs_log w _ _ _).bind (runs_throw _ _)⟩
  | false => exact ⟨w.log, runs_throw w _⟩

theorem askStore_cases (clean : w.Clean) (c : Controller) (call : StoreCall) :
    w.Runs (c.askStore call) (.ok (.ok (w.state.store.answer w.now call).1)) [call]
        (w.afterCall call) ∨
      w.faults call.target ≠ none ∧ ∃ e, w.Runs (c.askStore call) (.ok (.error e)) [] w := by
  have asked := runs_call w (.store call)
  unfold Controller.askStore
  rcases answer_store_cases clean call with made | ⟨fault, reply, made, failed⟩
  · rw [made] at asked
    exact Or.inl (asked.bind (runs_pure _ _))
  · rw [made, made?_eq_none failed] at asked
    have bound : w.Runs (c.askStore call) (.ok (c.bounded call.operation reply)) [] w :=
      asked.bind (runs_pure w _)
    cases outcome : c.bounded call.operation reply with
    | ok a => exact (failed a (bounded_ok outcome)).elim
    | error e =>
      rw [outcome] at bound
      exact Or.inr ⟨fault, e, bound⟩

theorem useStore_cases (clean : w.Clean) (c : Controller) (operation : String) (call : StoreCall) :
    w.Runs (c.useStore operation call) (.ok (w.state.store.answer w.now call).1) [call]
        (w.afterCall call) ∨
      w.faults call.target ≠ none ∧
        ∃ e w', w.Runs (c.useStore operation call) (.error e) [] w' := by
  unfold Controller.useStore
  rcases askStore_cases clean c call with made | ⟨fault, e, failed⟩
  · exact Or.inl (made.bind (runs_pure _ _))
  · obtain ⟨log, surfaced⟩ := runs_surface (α := call.Answer) w operation e
    exact Or.inr ⟨fault, e.surface, _, failed.bind surfaced⟩

end World

end DeviceSessions
