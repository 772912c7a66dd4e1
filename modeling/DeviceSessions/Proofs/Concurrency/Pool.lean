import DeviceSessions.Proofs.Concurrency.Clearance
import DeviceSessions.Proofs.Controller.History

/-!
# Requests side by side

Several requests are served in one world, call by call in any order: a step is the next call of one
of them, or time that passes. Every call is atomic. The trace says who made which call, and what the
answer was.
-/

namespace DeviceSessions

/-- Requests that are being served: what is left of each, and the calls so far with their owners. -/
structure Pool where
  world : World Memory
  threads : List (Program (Result Response))
  trace : List (Nat × Exchange) := []

/-- A step of a pool. -/
inductive Move where
  | advance (thread : Nat)
  | wait (time : Instant)
  deriving DecidableEq, Repr

namespace Pool

/-- No request has made a call. -/
def start (c : Controller) (w : World Memory) (operations : List Operation) : Pool :=
  { world := w, threads := operations.map fun r => (c.serve r).run }

/-- The exchange of a call that is made now. -/
def exchange (p : Pool) (call : Call) : Exchange :=
  ⟨call, (World.answer Memory.backend call p.world).1⟩

/-- The pool after a call of one thread. -/
def asked (p : Pool) (i : Nat) (call : Call) (next : call.Answer → Program (Result Response)) :
    Pool where
  world := (World.answer Memory.backend call p.world).2
  threads := p.threads.set i (next (World.answer Memory.backend call p.world).1)
  trace := p.trace ++ [(i, p.exchange call)]

/-- The pool at a later time. -/
def waited (p : Pool) (time : Instant) : Pool := { p with world := p.world.waitUntil time }

/-- The pool after a step. A thread that is done does not move. -/
def move (p : Pool) : Move → Pool
  | .advance i =>
    match p.threads[i]? with
    | some (.ask call next) => p.asked i call next
    | _ => p
  | .wait time => p.waited time

/-- The pool after several steps. -/
def play (p : Pool) (moves : List Move) : Pool := moves.foldl move p

/-- A request has been answered. -/
def Ended (p : Pool) (i : Nat) (result : Result Response) : Prop :=
  p.threads[i]? = some (.done result)

/-- The exchanges of one thread. -/
def past (p : Pool) (i : Nat) : List Exchange :=
  p.trace.filterMap fun (j, e) => if j = i then some e else none

variable {p : Pool} {w : World Memory} {c : Controller} {i j : Nat} {e : Exchange} {σ : Type}

theorem play_append (p : Pool) (first second : List Move) :
    p.play (first ++ second) = (p.play first).play second :=
  List.foldl_append

/-- What holds at first and outlives each step holds in the end. -/
theorem play_induction {P : Pool → Prop} (holds : P p)
    (waits : ∀ p time, P p → P (p.waited time))
    (asks : ∀ p i call next, P p → p.threads[i]? = some (.ask call next) → P (p.asked i call next))
    (moves : List Move) : P (p.play moves) := by
  induction moves generalizing p with
  | nil => exact holds
  | cons m moves ih =>
    refine ih ?_
    cases m with
    | wait time => exact waits p time holds
    | advance i =>
      unfold move
      dsimp only
      split
      · rename_i call next current
        exact asks p i call next holds current
      · exact holds

/-! ### Pasts -/

theorem mem_past : e ∈ p.past i ↔ (i, e) ∈ p.trace := by
  simp [past]

theorem past_asked (p : Pool) (i : Nat) (call : Call)
    (next : call.Answer → Program (Result Response)) (j : Nat) :
    (p.asked i call next).past j = p.past j ++ if i = j then [p.exchange call] else [] := by
  unfold past asked
  rw [List.filterMap_append]
  by_cases same : i = j <;> simp [same]

theorem threads_asked {call : Call} {next : call.Answer → Program (Result Response)}
    (current : p.threads[i]? = some (.ask call next)) (j : Nat) :
    (p.asked i call next).threads[j]? =
      if i = j then some (next (p.exchange call).answer) else p.threads[j]? := by
  have bound := (List.getElem?_eq_some_iff.mp current).1
  unfold asked
  rw [List.getElem?_set]
  by_cases same : i = j
  · subst same
    simp only [bound, if_true]
    rfl
  · simp [same]

/-- A thread keeps to a protocol from where its past has left it. -/
def Follows (p : Pool) (i : Nat) (k : Protocol σ) (ends : σ → Result Response → Prop) (init : σ) :
    Prop :=
  ∀ rest : Program (Result Response), p.threads[i]? = some rest →
    rest.Keeps k ends ((p.past i).foldl k.next init)

variable {k : Protocol σ} {ends : σ → Result Response → Prop} {init : σ}

theorem follows_start {operations : List Operation}
    (keeps : ∀ r, operations[i]? = some r → (c.serve r).Keeps k ends init) :
    (start c w operations).Follows i k ends init := by
  intro rest current
  change (operations.map fun r => (c.serve r).run)[i]? = some rest at current
  rw [List.getElem?_map] at current
  obtain ⟨r, found, rfl⟩ := Option.map_eq_some_iff.mp current
  exact keeps r found

theorem Follows.asked {call : Call} {next : call.Answer → Program (Result Response)}
    (follows : p.Follows j k ends init) (current : p.threads[i]? = some (.ask call next))
    (told : i = j → k.tells (p.exchange call)) : (p.asked i call next).Follows j k ends init := by
  intro rest found
  rw [threads_asked current] at found
  rw [past_asked, List.foldl_append]
  by_cases same : i = j
  · subst same
    rw [if_pos rfl] at found
    rw [if_pos rfl, ← Option.some.inj found]
    exact (follows _ current).2 _ (told rfl)
  · rw [if_neg same] at found
    rw [if_neg same]
    exact follows rest found

theorem Follows.asks {call : Call} {next : call.Answer → Program (Result Response)}
    (follows : p.Follows i k ends init) (current : p.threads[i]? = some (.ask call next)) :
    k.asks ((p.past i).foldl k.next init) call :=
  (follows _ current).1

theorem Follows.result {result : Result Response} (follows : p.Follows i k ends init)
    (ended : p.Ended i result) : ends ((p.past i).foldl k.next init) result :=
  follows _ ended

/-! ### What stays as it was -/

/-- What no step changes, where calls that fail are not made. -/
structure Steady (w : World Memory) (p : Pool) : Prop where
  clean : p.world.Clean
  past : w.Past p.world
  directory : p.world.state.directory = w.state.directory
  faults : p.world.faults = w.faults
  consistent : p.world.state.store.Consistent

theorem steady_start (clean : w.Clean) (consistent : w.state.store.Consistent)
    (operations : List Operation) : (start c w operations).Steady w :=
  ⟨clean, World.past_refl w, rfl, rfl, consistent⟩

theorem past_waited (p : Pool) (time : Instant) : p.world.Past (p.waited time).world := by
  unfold waited
  rcases World.waitUntil_cases p.world time with same | ⟨later, same⟩
  · rw [same]
    exact World.past_refl _
  · rw [same]
    exact ⟨later, rfl, rfl, Nat.le_refl _⟩

theorem Steady.waited (steady : p.Steady w) (time : Instant) : (p.waited time).Steady w := by
  unfold Pool.waited
  rcases World.waitUntil_cases p.world time with same | ⟨later, same⟩
  · rw [same]
    exact steady
  · rw [same]
    exact ⟨steady.clean, steady.past.trans ⟨later, rfl, rfl, Nat.le_refl _⟩, steady.directory,
      steady.faults, steady.consistent⟩

theorem Steady.asked (steady : p.Steady w) (i : Nat) (call : Call)
    (next : call.Answer → Program (Result Response)) : (p.asked i call next).Steady w := by
  have kept := World.kept_answer p.world call
  refine ⟨steady.clean.of_kept kept, steady.past.trans kept.past,
    kept.directory.trans steady.directory, kept.faults.trans steady.faults, ?_⟩
  change (World.answer Memory.backend call p.world).2.state.store.Consistent
  rw [World.store_answer steady.clean]
  exact steady.consistent.follow _ _

theorem Steady.play (steady : p.Steady w) (moves : List Move) : (p.play moves).Steady w :=
  play_induction steady (fun _ time steady => steady.waited time)
    (fun _ i call next steady _ => steady.asked i call next) moves

/-! ### What the requests ask -/

/-- The threads serve these requests, and ask of the store what requests ask. -/
structure Mindful (p : Pool) (w : World Memory) (operations : List Operation) (user : Uuid) :
    Prop where
  length : p.threads.length = operations.length
  follows : ∀ i r, operations[i]? = some r → p.Follows i (clearance user w r)
    (fun s result => r = .logout user → result = .ok .done → s.revoked = true) {}

variable {operations : List Operation} {user : Uuid}

theorem mindful_start (c : Controller) (w : World Memory) (operations : List Operation)
    (user : Uuid) : (start c w operations).Mindful w operations user := by
  refine ⟨List.length_map _, fun i r found => follows_start fun r' found' => ?_⟩
  obtain rfl : r = r' := Option.some.inj (found.symm.trans found')
  by_cases logout : r = .logout user
  · subst logout
    exact Program.Keeps.imp Action.logout_keeps fun s result ends _ => ends
  · exact Program.Keeps.imp (Action.serve_minds r) fun s result _ here => absurd here logout

theorem Mindful.waited (mindful : p.Mindful w operations user) (time : Instant) :
    (p.waited time).Mindful w operations user :=
  ⟨mindful.length, mindful.follows⟩

theorem Mindful.asked (mindful : p.Mindful w operations user) (steady : p.Steady w) {call : Call}
    {next : call.Answer → Program (Result Response)}
    (current : p.threads[i]? = some (.ask call next)) :
    (p.asked i call next).Mindful w operations user :=
  ⟨List.length_set.trans mindful.length, fun j r found => (mindful.follows j r found).asked current
    fun _ => World.tells_answer steady.clean steady.directory call⟩

theorem Mindful.operation (mindful : p.Mindful w operations user)
    {rest : Program (Result Response)} (current : p.threads[i]? = some rest) :
    ∃ r, operations[i]? = some r := by
  have bound := (List.getElem?_eq_some_iff.mp current).1
  rw [mindful.length] at bound
  exact ⟨_, List.getElem?_eq_getElem bound⟩

/-! ### What a call does to the store -/

theorem store_waited (p : Pool) (time : Instant) :
    (p.waited time).world.state.store = p.world.state.store := by
  unfold waited
  rcases World.waitUntil_cases p.world time with same | ⟨-, same⟩ <;> rw [same]

/-- A call either leaves the store alone, or it is a call of the store that is answered. -/
theorem exchange_cases (clean : p.world.Clean) (i : Nat) (call : Call)
    (next : call.Answer → Program (Result Response)) :
    ((p.exchange call).made? = none ∧
      (p.asked i call next).world.state.store = p.world.state.store) ∨
    ∃ made, p.exchange call =
        ⟨.store made, .answered (.ok (p.world.state.store.answer p.world.now made).1)⟩ ∧
      (p.asked i call next).world.state.store =
        (p.world.state.store.answer p.world.now made).2 := by
  have store := World.store_answer clean call
  cases call with
  | store made =>
    rcases World.answer_store_cases clean made with answered | ⟨-, reply, answered, failed⟩
    · right
      refine ⟨made, ?_, ?_⟩
      · unfold exchange
        rw [answered]
      · unfold asked
        rw [answered]
        rfl
    · left
      have none : (p.exchange (.store made)).made? = none := by
        unfold exchange
        rw [answered]
        exact World.made?_eq_none failed
      refine ⟨none, store.trans ?_⟩
      change p.world.state.store.follow _ (Exchange.made? (p.exchange (.store made))).toList = _
      rw [none]
      rfl
  | findUser email => exact Or.inl ⟨rfl, store⟩
  | decoy => exact Or.inl ⟨rfl, store⟩
  | compare hash password => exact Or.inl ⟨rfl, store⟩
  | issue kind user => exact Or.inl ⟨rfl, store⟩
  | parse token => exact Or.inl ⟨rfl, store⟩
  | log event => exact Or.inl ⟨rfl, store⟩

theorem store_asked_idle (clean : p.world.Clean) (i : Nat) {call : Call}
    (next : call.Answer → Program (Result Response)) (idle : call.store? = none) :
    (p.exchange call).made? = none ∧
      (p.asked i call next).world.state.store = p.world.state.store := by
  rcases exchange_cases clean i call next with same | ⟨made, same, -⟩
  · exact same
  · obtain rfl : call = .store made := congrArg Exchange.call same
    cases idle

theorem exchange_store (smooth : p.world.Smooth) (i : Nat) (made : StoreCall)
    (next : (Call.store made).Answer → Program (Result Response)) :
    p.exchange (.store made) =
        ⟨.store made, .answered (.ok (p.world.state.store.answer p.world.now made).1)⟩ ∧
      (p.asked i (.store made) next).world.state.store =
        (p.world.state.store.answer p.world.now made).2 := by
  rcases World.answer_store_cases smooth.clean made with answered | ⟨fault, -⟩
  · unfold exchange asked
    rw [answered]
    exact ⟨rfl, rfl⟩
  · exact absurd (smooth _) fault

/-- What is known of a refresh token that has just been issued. -/
theorem issued_exchange (i : Nat) {call : Call} (next : call.Answer → Program (Result Response))
    {user : Uuid} {refresh : IssuedToken} (same : p.exchange call = ⟨.issue .refresh user, .ok refresh⟩) :
    p.world.issuer.expiry .refresh p.world.now = .ok refresh.expiresAt ∧
      (p.asked i call next).world = p.world.drawn ∧
      refresh.token = p.world.issuer.sign (p.world.issuer.claims .refresh user p.world.now
        refresh.expiresAt (p.world.ids p.world.idsDrawn)) := by
  obtain rfl : call = .issue .refresh user := congrArg Exchange.call same
  have answered : (p.world.issue .refresh user).1 = .ok refresh :=
    eq_of_heq (Exchange.mk.inj same).2
  change _ ∧ (p.world.issue .refresh user).2 = _ ∧ _
  rcases World.issue_cases p.world .refresh user with ⟨expiresAt, expiry, made⟩ | ⟨e, made⟩
  · rw [made] at answered ⊢
    obtain rfl := Except.ok.inj answered
    exact ⟨expiry, rfl, rfl⟩
  · rw [made] at answered
    cases answered

theorem Steady.smooth (steady : p.Steady w) (smooth : w.Smooth) : p.world.Smooth := by
  intro target
  rw [steady.faults]
  exact smooth target

/-! ### One thread alone -/

section Alone

variable {α : Type} {x : Action α} {a : α} {calls : List StoreCall} {w' : World Memory}

theorem play_run (q : Program α) (f : α → Program (Result Response)) (p : Pool)
    (current : p.threads[i]? = some (q >>= f)) :
    ∃ moves, (p.play moves).world = (q.run (World.answer Memory.backend) p.world).2 ∧
      (p.play moves).threads =
        p.threads.set i (f (q.run (World.answer Memory.backend) p.world).1) := by
  induction q generalizing p with
  | done a =>
    obtain ⟨bound, here⟩ := List.getElem?_eq_some_iff.mp current
    refine ⟨[], rfl, ?_⟩
    change p.threads = p.threads.set i (Program.done a >>= f)
    rw [← here, List.set_getElem_self]
  | ask c next ih =>
    have next' : (p.asked i c fun answer => next answer >>= f).threads[i]? =
        some (next (World.answer Memory.backend c p.world).1 >>= f) :=
      (threads_asked current i).trans (if_pos rfl)
    obtain ⟨moves, world, threads⟩ := ih _ _ next'
    have first : p.move (.advance i) = p.asked i c fun answer => next answer >>= f := by
      unfold move
      dsimp only
      rw [current]
      rfl
    refine ⟨.advance i :: moves, ?_, ?_⟩
    · change ((p.move (.advance i)).play moves).world = _
      rw [first, world]
      rfl
    · change ((p.move (.advance i)).play moves).threads = _
      rw [first, threads]
      exact List.set_set _

/-- A thread can make its next calls with no others in between. -/
theorem play_runs {f : α → Action Response} (current : p.threads[i]? = some (x >>= f).run)
    {v : World Memory} (here : p.world = v) (runs : v.Runs x (.ok a) calls w') :
    ∃ moves, (p.play moves).world = w' ∧ (p.play moves).threads = p.threads.set i (f a).run := by
  subst here
  obtain ⟨moves, world, threads⟩ := play_run x.run (ExceptT.bindCont fun a => f a) p current
  rw [show Program.run (World.answer Memory.backend) x.run p.world = (.ok a, w') from runs.run]
    at world threads
  exact ⟨moves, world, threads⟩

theorem play_done {x : Action Response} {result : Result Response}
    (current : p.threads[i]? = some x.run) {v : World Memory} (here : p.world = v)
    (runs : v.Runs x result calls w') :
    ∃ moves, (p.play moves).world = w' ∧
      (p.play moves).threads = p.threads.set i (.done result) := by
  subst here
  rw [← bind_pure x.run] at current
  obtain ⟨moves, world, threads⟩ := play_run x.run pure p current
  rw [show Program.run (World.answer Memory.backend) x.run p.world = (result, w') from runs.run]
    at world threads
  exact ⟨moves, world, threads⟩

variable {v : World Memory} {token : String} {origin : DeviceMetadata} {user : Uuid}
  {device : DeviceIdentity}

/-- A refresh with a good token gets as far as its rotation. -/
theorem play_enter (smooth : v.Smooth) (presents : v.Presents token origin user device)
    (valid : v.accepts user device token = true) (here : p.world = v)
    (current : p.threads[i]? = some (c.serve (.refresh token origin)).run) :
    ∃ moves, (p.play moves).world = v.afterCall (.isValid user device token) ∧
      (p.play moves).threads = p.threads.set i (c.conclude user device).run := by
  rw [Controller.serve_refresh] at current
  obtain ⟨moves, world, threads⟩ := play_runs current here (smooth.enter c presents valid)
  exact ⟨moves, world, threads⟩

/-- A rotation issues a pair and revokes. -/
theorem play_prepare (smooth : v.Smooth) (canIssue : v.CanIssue) (here : p.world = v)
    (current : p.threads[i]? = some (c.conclude user device).run) :
    ∃ moves pair revoked, (p.play moves).world = v.drawn.drawn.afterCall (.revokeAll user) ∧
      (p.play moves).threads = p.threads.set i
        (c.record user device pair revoked >>= fun pair => pure (Response.pair pair)).run ∧
      v.Kept (v.drawn.drawn.afterCall (.revokeAll user)) ∧
      v.Issued (v.drawn.drawn.afterCall (.revokeAll user)) user pair := by
  obtain ⟨pair, revoked, preparing, issued⟩ := smooth.prepare canIssue c user
  rw [Controller.conclude_eq] at current
  obtain ⟨moves, world, threads⟩ := play_runs current here preparing
  exact ⟨moves, pair, revoked, world, threads, preparing.kept, issued⟩

/-- A rotation records a session and is done. -/
theorem play_record (smooth : v.Smooth) (here : p.world = v) {pair : TokenPair} {revoked : Nat}
    (current : p.threads[i]? = some
      (c.record user device pair revoked >>= fun pair => pure (Response.pair pair)).run) :
    ∃ moves w', (p.play moves).world = w' ∧
      (p.play moves).threads = p.threads.set i (.done (.ok (.pair pair))) ∧ v.Kept w' ∧
      w'.idsDrawn = v.idsDrawn ∧ w'.state.store = (v.state.store.create user
        (hashToken pair.refreshToken) pair.refreshExpiresAt device v.now).2 := by
  obtain ⟨w', recording, drawn⟩ := smooth.record c user device pair revoked
  obtain ⟨moves, world, threads⟩ := play_done current here
    (recording.bind (World.runs_pure w' (Response.pair pair)))
  exact ⟨moves, w', world, threads, recording.kept, drawn, recording.store smooth.clean⟩

/-- A rotation leaves the one session that it records. -/
theorem play_conclude (smooth : v.Smooth) (canIssue : v.CanIssue) (here : p.world = v)
    (current : p.threads[i]? = some (c.conclude user device).run) :
    ∃ moves pair w', (p.play moves).world = w' ∧
      (p.play moves).threads = p.threads.set i (.done (.ok (.pair pair))) ∧
      v.Kept w' ∧ v.Issued w' user pair ∧ w'.idsDrawn = v.idsDrawn + 2 ∧
      w'.state.store = ((v.state.store.revokeAll user).2.create user (hashToken pair.refreshToken)
        pair.refreshExpiresAt device v.now).2 := by
  have bound := (List.getElem?_eq_some_iff.mp current).1
  obtain ⟨first, pair, revoked, world₁, threads₁, kept₁, issued⟩ :=
    play_prepare smooth canIssue here current
  obtain ⟨second, w', world₂, threads₂, kept₂, drawn, store⟩ :=
    play_record (smooth.of_kept kept₁) world₁ (i := i)
      (by rw [threads₁, List.getElem?_set_self bound])
  refine ⟨first ++ second, pair, w', ?_, ?_, kept₁.trans kept₂, issued.later kept₂, drawn, store⟩
  · rw [play_append, world₂]
  · rw [play_append, threads₂, threads₁, List.set_set]

end Alone

end Pool

end DeviceSessions
