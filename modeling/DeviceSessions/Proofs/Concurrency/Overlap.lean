import DeviceSessions.Proofs.Concurrency.Logout

/-!
# Refreshes on several devices at once

A refresh revokes every session of its user and then records one of its own. On different devices the
recordings do not replace each other, so a device stays logged in if its recording comes after the
last revocation of all. The refresh that made this revocation is always among those.
-/

namespace DeviceSessions

/-- What a refresh owes its user: nothing, a session after it has revoked all of them, or nothing
any more. -/
inductive Debt where
  | clear
  | owed
  | paid
  deriving DecidableEq, Repr

/-- A session of a user on a device was recorded. -/
def Exchange.opensOn (user : Uuid) (device : String) (e : Exchange) : Bool :=
  match e.made? with
  | some (.create owner _ _ identity) => decide (owner = user ∧ identity.id = device)
  | _ => false

namespace Debt

/-- The debt after an exchange. -/
def next (user : Uuid) (s : Debt) (e : Exchange) : Debt :=
  if e.revokes user then .owed else if e.opens user ∧ s = .owed then .paid else s

/-- In the end nothing is owed, and who succeeds has paid. -/
structure Ends {α : Type} (s : Debt) (r : Result α) : Prop where
  settled : s ≠ .owed
  paid : ∀ a, r = .ok a → s = .paid

variable {user : Uuid} {s : Debt}

theorem ends_clear {α : Type} (e : Error) : clear.Ends (.error e : Result α) where
  settled := Debt.noConfusion
  paid _ ok := nomatch ok

theorem next_idle (user : Uuid) (s : Debt) (call : Call) (idle : call.store? = none)
    (answer : call.Answer) :
    s.next user ⟨call, answer⟩ = s := by
  cases call with
  | store made => cases idle
  | _ => simp [next, Exchange.revokes, Exchange.opens, Exchange.made?]

/-- Nothing is owed or paid where nothing was revoked. -/
theorem fold_clear {past : List Exchange} (unrevoked : ∀ e ∈ past, e.revokes user = false) :
    past.foldl (next user) .clear = .clear := by
  induction past with
  | nil => rfl
  | cons e past ih =>
    have first : clear.next user e = .clear := by
      simp [next, unrevoked e List.mem_cons_self]
    rw [List.foldl_cons, first]
    exact ih fun e' member => unrevoked e' (List.mem_cons_of_mem _ member)

/-- What is owed stays owed until a session is recorded. -/
theorem fold_owed {past : List Exchange} (unopened : ∀ e ∈ past, e.opens user = false) :
    past.foldl (next user) .owed = .owed := by
  induction past with
  | nil => rfl
  | cons e past ih =>
    have first : owed.next user e = .owed := by
      simp [next, unopened e List.mem_cons_self]
    rw [List.foldl_cons, first]
    exact ih fun e' member => unopened e' (List.mem_cons_of_mem _ member)

end Debt

/-- A refresh token that is issued in a world or later ends then. -/
def World.Mints (w : World Memory) (expiresAt : Instant) : Prop :=
  ∃ t, ¬t < w.now ∧ w.issuer.expiry .refresh t = .ok expiresAt

/-- What a refresh asks of the store: it checks, it revokes all, and it records what it owes. -/
def StoreCall.Renews (w : World Memory) (s : Debt) : StoreCall → Prop
  | .isValid .. | .revokeAll _ => True
  | .create _ _ expiresAt _ => s = .owed ∧ w.Mints expiresAt
  | _ => False

/-- Calls are answered, and tokens are read and issued as in a world. -/
structure World.Replies (w : World Memory) (e : Exchange) : Prop extends w.Tells e where
  made : ∀ {call : StoreCall} {reply}, e = ⟨.store call, reply⟩ → ∃ a, reply = .answered (.ok a)
  mints : ∀ {user token}, e = ⟨.issue .refresh user, .ok token⟩ → w.Mints token.expiresAt

/-- A refresh records a session only after it has revoked all. -/
def renewal (w : World Memory) (user : Uuid) : Protocol Debt where
  next := Debt.next user
  asks s call := ∀ made, call.store? = some made → made.user = user ∧ made.Renews w s
  tells := w.Replies
  asks_log _ _ _ same := nomatch same
  next_log s event := s.next_idle user (.log event) rfl

section Renewal

variable {w v : World Memory} {user : Uuid} {s : Debt} {c : Controller} {token : String}
  {origin : DeviceMetadata}

theorem renewal_idle {call : Call} (idle : call.store? = none) : (renewal w user).asks s call := by
  intro made same
  rw [idle] at same
  cases same

theorem renewal_store {call : StoreCall} (mine : call.user = user) (renews : call.Renews w s) :
    (renewal w user).asks s (.store call) := by
  intro made same
  obtain rfl := Option.some.inj same
  exact ⟨mine, renews⟩

theorem renewal_issue (kind : TokenKind) (owner : Uuid) (answer : Result IssuedToken) :
    (renewal w user).next s ⟨.issue kind owner, answer⟩ = s :=
  s.next_idle user (.issue kind owner) rfl answer

theorem renewal_parse (token : String) (answer : Result Claims) :
    (renewal w user).next s ⟨.parse token, answer⟩ = s :=
  s.next_idle user (.parse token) rfl answer

namespace Action

/-- The calls of the store are answered. -/
theorem keeps_useStore_answered {operation : String} {call : StoreCall}
    {ends : Debt → Result call.Answer → Prop} (asks : (renewal w user).asks s (.store call))
    (ok : ∀ a, ends (s.next user ⟨.store call, .answered (.ok a)⟩) (.ok a)) :
    (c.useStore operation call).Keeps (renewal w user) ends s := by
  refine keeps_useStore asks (fun a _ => ok a) fun reply told failed => ?_
  obtain ⟨a, same⟩ := told.made rfl
  exact absurd same (failed a)

theorem rotate_renews (user : Uuid) (device : DeviceIdentity) :
    (c.rotate user device).Keeps (renewal w user) Debt.Ends .clear := by
  unfold Controller.rotate
  refine Keeps.bind (keeps_issueFor (renewal_idle rfl) (fun _ => renewal_idle rfl) ?_ ?_ ?_)
  · intro access refresh _ issued
    rw [renewal_issue, renewal_issue]
    have mints := issued.mints rfl
    refine Keeps.bind (keeps_useStore_answered (renewal_store rfl trivial) fun revoked => ?_)
    have owed : Debt.clear.next user ⟨.store (.revokeAll user), .answered (.ok revoked)⟩ = .owed := by
      simp [Debt.next, Exchange.revokes, Exchange.made?]
    rw [owed]
    refine Keeps.bind (keeps_askStore (renewal_store rfl ⟨rfl, mints⟩) ?_ ?_)
    · intro row _
      have paid : Debt.owed.next user ⟨.store (Controller.recording user (.of access refresh) device),
          .answered (.ok row)⟩ = .paid := by
        simp [Debt.next, Exchange.revokes, Exchange.opens, Exchange.made?, Controller.recording]
      refine Keeps.bind (keeps_log ?_ _ _ _)
      refine keeps_pure ⟨?_, fun _ _ => paid⟩
      exact fun owed => Debt.noConfusion (paid.symm.trans owed)
    · intro reply told failed
      obtain ⟨a, same⟩ := told.made rfl
      exact absurd same (failed a)
  · intro e _ e'
    rw [renewal_issue]
    exact Debt.ends_clear e'
  · intro access e _ e'
    rw [renewal_issue, renewal_issue]
    exact Debt.ends_clear e'

/-- A refresh of a token of a user owes that user. -/
theorem refresh_renews (subject : subject? token = some user) :
    (c.refresh token origin).Keeps (renewal w user) Debt.Ends .clear := by
  unfold Controller.refresh
  refine Keeps.bind (keeps_refreshUser (renewal_idle rfl) (fun claims told _ => ?_) fun r _ _ => ?_)
  · rw [renewal_parse]
    obtain rfl : claims.subject = user := Option.some.inj ((told.subject rfl).symm.trans subject)
    refine Keeps.bind (keeps_ofResult ?_)
    cases origin.resolve with
    | error e => exact Debt.ends_clear e
    | ok device =>
      refine Keeps.bind (keeps_useStore_answered (renewal_store rfl trivial) fun valid => ?_)
      have clear : Debt.clear.next claims.subject
          ⟨.store (.isValid claims.subject device token), .answered (.ok valid)⟩ = .clear := by
        simp [Debt.next, Exchange.revokes, Exchange.made?]
      rw [clear]
      cases valid with
      | false =>
        refine Keeps.bind (keeps_log ?_ _ _ _)
        exact Keeps.bind (keeps_throw (Debt.ends_clear _))
      | true => exact rotate_renews claims.subject device
  · rw [renewal_parse]
    exact Debt.ends_clear _

theorem serve_renews (subject : subject? token = some user) :
    (c.serve (.refresh token origin)).Keeps (renewal w user) Debt.Ends .clear := by
  refine Keeps.bind (Program.Keeps.imp (refresh_renews subject) fun s r ends => ?_)
  cases r with
  | ok pair => exact keeps_pure ⟨ends.settled, fun _ _ => ends.paid pair rfl⟩
  | error e => exact ⟨ends.settled, fun _ ok => nomatch ok⟩

end Action

end Renewal

/-! ### What stays logged in -/

namespace SessionStore

variable {s : SessionStore} {user : Uuid} {device : String}

/-- A user has a session on a device that is not revoked. -/
def Open (s : SessionStore) (user : Uuid) (device : String) : Prop :=
  ∃ held, s.holding? user device = some held ∧ held.revoked = false

theorem open_of_same {t : SessionStore}
    (same : t.holding? user device = s.holding? user device) :
    t.Open user device ↔ s.Open user device := by
  unfold Open
  rw [same]

theorem open_create {identity : DeviceIdentity} (hash : String) (expiresAt now : Instant) :
    (s.create user hash expiresAt identity now).2.Open user device ↔
      identity.id = device ∨ s.Open user device := by
  unfold Open
  rw [holding?_create]
  by_cases here : device = identity.id
  · simp [here]
  · simp [here, Ne.symm here]

theorem Consistent.not_open_revokeAll (consistent : s.Consistent) (user : Uuid) (device : String) :
    ¬(s.revokeAll user).2.Open user device := by
  rintro ⟨held, found, live⟩
  rw [consistent.holding?_revokeAll] at found
  obtain ⟨before, -, rfl⟩ := Option.map_eq_some_iff.mp found
  cases live

end SessionStore

namespace Exchange

variable {user : Uuid} {e : Exchange} {device : String}

/-- What is recorded is recorded on some device. -/
theorem opensOn_of_opens (opened : e.opens user = true) : ∃ d, e.opensOn user d = true := by
  obtain ⟨hash, expiresAt, identity, made⟩ := made?_of_opens opened
  refine ⟨identity.id, ?_⟩
  simp [opensOn, made]

theorem opensOn_idle (idle : e.made? = none) : e.opensOn user device = false := by
  simp [opensOn, idle]

theorem revokes_idle (idle : e.made? = none) : e.revokes user = false := by
  simp [revokes, idle]

/-- A call for another user neither revokes nor records. -/
theorem other_made {call : StoreCall} (made : e.made? = some call) (other : call.user ≠ user)
    (device : String) :
    e.opensOn user device = false ∧ e.revokes user = false := by
  unfold opensOn revokes
  rw [made]
  constructor
  · cases call with
    | create owner hash expiresAt identity => exact decide_eq_false fun same => other same.1
    | _ => rfl
  · refine decide_eq_false fun same => other ?_
    rw [Option.some.inj same]
    rfl

end Exchange

namespace Pool

variable {p : Pool} {w : World Memory} {c : Controller} {operations : List Operation} {user : Uuid}
  {front back : List (Nat × Exchange)} {i j : Nat}

/-- A thread serves a user. -/
def Serves (w : World Memory) (operations : List Operation) (user : Uuid) (i : Nat) : Prop :=
  ∃ r, operations[i]? = some r ∧ w.owner? r = some user

/-- A thread has revoked all sessions of a user, and none has since. -/
structure RevokedLast (p : Pool) (user : Uuid) (i : Nat) (front back : List (Nat × Exchange)) :
    Prop where
  revoked : p.Revoked user i front back
  last : ∀ j e, (j, e) ∈ back → e.revokes user = false

/-- A session of a user on a device is recorded in a part of the trace. -/
def RecordedIn (back : List (Nat × Exchange)) (user : Uuid) (device : String) : Prop :=
  ∃ j e, (j, e) ∈ back ∧ e.opensOn user device = true

theorem recordedIn_concat {e : Exchange} {device : String} :
    RecordedIn (back ++ [(j, e)]) user device ↔
      e.opensOn user device = true ∨ RecordedIn back user device := by
  constructor
  · rintro ⟨k, f, member, opens⟩
    rcases List.mem_append.mp member with early | late
    · exact Or.inr ⟨k, f, early, opens⟩
    · cases List.mem_singleton.mp late
      exact Or.inl opens
  · rintro (opens | ⟨k, f, member, opens⟩)
    · exact ⟨j, e, by simp, opens⟩
    · exact ⟨k, f, List.mem_append_left _ member, opens⟩

/-- The refreshes of a user owe, and what they record is what is open since a revocation. -/
structure Renewed (p : Pool) (w : World Memory) (operations : List Operation) (user : Uuid) :
    Prop where
  renews : ∀ i, Serves w operations user i → p.Follows i (renewal w user) Debt.Ends .clear
  owners : ∀ i e, (i, e) ∈ p.trace → e.revokes user = true → Serves w operations user i
  opened : ∀ i front back, p.RevokedLast user i front back → ∀ d,
    p.world.state.store.Open user d ↔ RecordedIn back user d
  mints : ∀ i e, (i, e) ∈ p.trace → e.revokes user = true →
    p.world.state.store.All fun u _ x => u = user → x.revoked = false → w.Mints x.expiresAt

theorem renewed_start (only : ∀ r ∈ operations, w.owner? r = some user →
      ∃ token origin, r = .refresh token origin) :
    (start c w operations).Renewed w operations user where
  renews := by
    rintro i ⟨r, found, owned⟩
    refine follows_start fun r' found' => ?_
    obtain rfl := Option.some.inj (found.symm.trans found')
    obtain ⟨token, origin, rfl⟩ := only r (List.mem_of_getElem? found) owned
    exact Action.serve_renews owned
  owners i e member := by cases member
  opened := by
    rintro i front back ⟨⟨e, cut, -⟩, -⟩
    cases front <;> cases cut
  mints i e member := by cases member

theorem Renewed.waited (renewed : p.Renewed w operations user) (time : Instant) :
    (p.waited time).Renewed w operations user where
  renews := renewed.renews
  owners := renewed.owners
  opened i front back last d := by
    rw [store_waited]
    exact renewed.opened i front back ⟨last.revoked, last.last⟩ d
  mints i e member revokes := by
    rw [store_waited]
    exact renewed.mints i e member revokes

theorem replies_exchange (smooth : p.world.Smooth) (steady : p.Steady w) (call : Call) :
    w.Replies (p.exchange call) where
  toTells := World.tells_answer steady.clean steady.directory call
  made := by
    intro made reply same
    obtain rfl : call = .store made := congrArg Exchange.call same
    obtain ⟨answered, -⟩ := exchange_store smooth 0 made fun _ => .done (.ok .done)
    exact ⟨_, (eq_of_heq (Exchange.mk.inj (answered.symm.trans same)).2).symm⟩
  mints := by
    intro user token same
    obtain ⟨expiry, -⟩ := issued_exchange 0 (fun _ => .done (.ok .done)) same
    rw [steady.past.issuer] at expiry
    exact ⟨p.world.now, steady.past.now, expiry⟩

section Asked

variable {call : Call} {next : call.Answer → Program (Result Response)}

/-- Who calls the store for a user serves that user. -/
theorem Mindful.serves (mindful : p.Mindful w operations user)
    (current : p.threads[i]? = some (.ask call next)) {made : StoreCall}
    (same : call.store? = some made) : Serves w operations made.user i := by
  obtain ⟨r, found⟩ := mindful.operation current
  exact ⟨r, found, ((mindful.follows i r found).asks current made same).1⟩

theorem Renewed.asks (renewed : p.Renewed w operations user)
    (mindful : p.Mindful w operations user) (current : p.threads[i]? = some (.ask call next))
    {made : StoreCall} (same : call.store? = some made) (mine : made.user = user) :
    made.Renews w ((p.past i).foldl (Debt.next user) .clear) := by
  have serves := mindful.serves current same
  rw [mine] at serves
  exact (((renewed.renews i serves).asks current) made same).2

/-- A session is open that is recorded now, or was open and is not revoked now. -/
theorem Renewed.open_asked (renewed : p.Renewed w operations user) (steady : p.Steady w)
    (mindful : p.Mindful w operations user) (current : p.threads[i]? = some (.ask call next))
    (d : String) : (p.asked i call next).world.state.store.Open user d ↔
      (p.exchange call).opensOn user d = true ∨
        (p.exchange call).revokes user = false ∧ p.world.state.store.Open user d := by
  rcases exchange_cases steady.clean i call next with ⟨none, store⟩ | ⟨made, same, store⟩
  · rw [store, Exchange.opensOn_idle none, Exchange.revokes_idle none]
    simp
  · have is : (p.exchange call).made? = some made := by
      rw [same]
      rfl
    rw [store]
    by_cases mine : made.user = user
    · obtain rfl : call = .store made := congrArg Exchange.call same
      have renews := renewed.asks mindful current rfl mine
      unfold Exchange.opensOn Exchange.revokes
      rw [is]
      cases made with
      | isValid owner identity token =>
        refine (SessionStore.open_of_same
          (SessionStore.holding?_isValid _ owner identity token _ user d)).trans ?_
        simp
      | revokeAll owner =>
        obtain rfl : owner = user := mine
        have closed := steady.consistent.not_open_revokeAll owner d
        exact iff_of_false closed (by simp)
      | create owner hash expiresAt identity =>
        obtain rfl : owner = user := mine
        refine (SessionStore.open_create hash expiresAt _).trans ?_
        simp
      | _ => exact renews.elim
    · obtain ⟨unopened, unrevoked⟩ := Exchange.other_made is mine d
      rw [unopened, unrevoked]
      refine (SessionStore.open_of_same
        (steady.consistent.holding?_other p.world.now mine d)).trans ?_
      simp

theorem Renewed.owner_asked (renewed : p.Renewed w operations user) (steady : p.Steady w)
    (mindful : p.Mindful w operations user) (current : p.threads[i]? = some (.ask call next)) :
    ∀ j e, (j, e) ∈ (p.asked i call next).trace → e.revokes user = true →
      Serves w operations user j := by
  intro j e member revokes
  rcases List.mem_append.mp member with early | late
  · exact renewed.owners j e early revokes
  · cases List.mem_singleton.mp late
    rcases exchange_cases steady.clean i call next with ⟨none, -⟩ | ⟨made, same, -⟩
    · rw [Exchange.revokes_idle none] at revokes
      cases revokes
    · obtain rfl : call = .store made := congrArg Exchange.call same
      rw [same] at revokes
      obtain rfl : made = .revokeAll user := Option.some.inj (of_decide_eq_true revokes)
      exact mindful.serves current rfl

/-- What is open since a revocation, after one more call. -/
theorem Renewed.opened_asked (renewed : p.Renewed w operations user) (steady : p.Steady w)
    (mindful : p.Mindful w operations user) (current : p.threads[i]? = some (.ask call next)) :
    ∀ j front back, (p.asked i call next).RevokedLast user j front back → ∀ d,
      (p.asked i call next).world.state.store.Open user d ↔ RecordedIn back user d := by
  rintro j front back ⟨⟨e, cut, revokes⟩, last⟩ d
  rw [renewed.open_asked steady mindful current]
  change p.trace ++ [(i, p.exchange call)] = front ++ (j, e) :: back at cut
  rcases List.eq_nil_or_concat' back with rfl | ⟨back, latest, rfl⟩
  · obtain ⟨-, same⟩ := List.append_inj' cut rfl
    cases same
    have unopened : (p.exchange call).opensOn user d = false := by
      have made := of_decide_eq_true revokes
      simp [Exchange.opensOn, made]
    rw [unopened, revokes]
    simp [RecordedIn]
  · rw [← List.cons_append, ← List.append_assoc] at cut
    obtain ⟨before, same⟩ := List.append_inj' cut rfl
    obtain rfl : latest = (i, p.exchange call) := (List.cons.inj same).1.symm
    have earlier := renewed.opened j front back ⟨⟨e, before, revokes⟩,
      fun k f member => last k f (List.mem_append_left _ member)⟩ d
    rw [recordedIn_concat, earlier, last i (p.exchange call) (by simp)]
    simp

/-- Sessions that are open after a revocation end when tokens end that are issued meanwhile. -/
theorem Renewed.mints_asked (renewed : p.Renewed w operations user) (steady : p.Steady w)
    (mindful : p.Mindful w operations user) (current : p.threads[i]? = some (.ask call next)) :
    ∀ j e, (j, e) ∈ (p.asked i call next).trace → e.revokes user = true →
      (p.asked i call next).world.state.store.All
        fun u _ x => u = user → x.revoked = false → w.Mints x.expiresAt := by
  have lasting : SessionStore.Lasting
      fun u _ x => u = user → x.revoked = false → w.Mints x.expiresAt :=
    ⟨fun _ _ live => Bool.noConfusion live, fun _ holds => holds⟩
  intro j e member revokes
  rcases List.mem_append.mp member with early | late
  · have before := renewed.mints j e early revokes
    rcases exchange_cases steady.clean i call next with ⟨-, store⟩ | ⟨made, same, store⟩
    · rw [store]
      exact before
    · rw [store]
      refine before.answer lasting _ ?_
      rintro owner hash expiresAt identity rfl mine -
      obtain rfl : call = .store _ := congrArg Exchange.call same
      exact (renewed.asks mindful current rfl mine).2
  · cases List.mem_singleton.mp late
    have barred : (p.asked i call next).Barred user [] := barred_revoked steady revokes
    intro u d x found mine live
    rw [barred.revoked u d x found mine] at live
    cases live

theorem Renewed.asked (renewed : p.Renewed w operations user) (smooth : p.world.Smooth)
    (steady : p.Steady w) (mindful : p.Mindful w operations user)
    (current : p.threads[i]? = some (.ask call next)) :
    (p.asked i call next).Renewed w operations user where
  renews j serves := (renewed.renews j serves).asked current
    fun _ => replies_exchange smooth steady call
  owners := renewed.owner_asked steady mindful current
  opened := renewed.opened_asked steady mindful current
  mints := renewed.mints_asked steady mindful current

end Asked

theorem renewed_play (smooth : w.Smooth) (consistent : w.state.store.Consistent)
    (only : ∀ r ∈ operations, w.owner? r = some user → ∃ token origin, r = .refresh token origin)
    (moves : List Move) : ((start c w operations).play moves).Renewed w operations user := by
  have inv := play_induction (P := fun p => p.Steady w ∧ p.Mindful w operations user ∧
    p.Renewed w operations user)
    ⟨steady_start (c := c) smooth.clean consistent operations,
      mindful_start c w operations user, renewed_start only⟩ ?_ ?_ moves
  · exact inv.2.2
  · rintro p time ⟨steady, mindful, renewed⟩
    exact ⟨steady.waited time, mindful.waited time, renewed.waited time⟩
  · rintro p i call next ⟨steady, mindful, renewed⟩ current
    exact ⟨steady.asked i call next, mindful.asked steady current,
      renewed.asked (steady.smooth smooth) steady mindful current⟩

/-- Of the revocations in a trace one is the last. -/
theorem revokedLast_of_mem {e : Exchange} (member : (i, e) ∈ p.trace)
    (revokes : e.revokes user = true) : ∃ j front back, p.RevokedLast user j front back := by
  have some : (p.trace.reverse.find? fun x => x.2.revokes user).isSome = true := by
    rw [List.find?_isSome]
    exact ⟨(i, e), List.mem_reverse.mpr member, revokes⟩
  obtain ⟨⟨j, f⟩, found⟩ := Option.isSome_iff_exists.mp some
  obtain ⟨revoked, later, earlier, cut, unrevoked⟩ := List.find?_eq_some_iff_append.mp found
  refine ⟨j, earlier.reverse, later.reverse, ⟨f, ?_, revoked⟩, ?_⟩
  · rw [← List.reverse_reverse p.trace, cut]
    simp
  · intro k g seen
    simpa using unrevoked (k, g) (List.mem_reverse.mp seen)

/-- A user has an active session on a device. -/
def ActiveOn (p : Pool) (user : Uuid) (device : String) : Prop :=
  ∃ x, p.world.state.store.session? user device = some x ∧ x.isActiveAt p.world.now = true

/-- The devices that are logged in are those of the recordings after the last revocation, the one of
the thread that made it among them. -/
structure LeavesLatest (p : Pool) (user : Uuid) (i : Nat) (front back : List (Nat × Exchange)) :
    Prop where
  last : p.RevokedLast user i front back
  own : ∃ e d, (i, e) ∈ back ∧ e.opensOn user d = true
  active : ∀ d, p.ActiveOn user d ↔ RecordedIn back user d
  one : p.world.state.store.activeCount user p.world.now = 1 ↔
    ∀ d d', RecordedIn back user d → RecordedIn back user d' → d = d'

/-- A refresh that succeeded has revoked. -/
theorem Renewed.revoked (renewed : p.Renewed w operations user) (serves : Serves w operations user i)
    {response : Response} (ended : p.Ended i (.ok response)) :
    ∃ e, (i, e) ∈ p.trace ∧ e.revokes user = true := by
  have ends := (renewed.renews i serves).result ended
  have paid : (p.past i).foldl (Debt.next user) .clear = .paid := ends.paid response rfl
  by_contra none
  have clear : (p.past i).foldl (Debt.next user) .clear = .clear := by
    refine Debt.fold_clear fun e member => eq_false_of_ne_true fun revokes => none ?_
    exact ⟨e, mem_past.mp member, revokes⟩
  rw [clear] at paid
  cases paid

theorem past_cut {e : Exchange} (cut : p.trace = front ++ (i, e) :: back) :
    ∃ before after, p.past i = before ++ e :: after ∧ ∀ f ∈ after, (i, f) ∈ back := by
  unfold past
  rw [cut, List.filterMap_append, List.filterMap_cons_some (b := e) (by simp)]
  exact ⟨_, _, rfl, fun f member => by simpa using member⟩

/-- A refresh that has ended has recorded what it owed after its last revocation. -/
theorem Renewed.recorded (renewed : p.Renewed w operations user)
    (last : p.RevokedLast user i front back) {result : Result Response}
    (ended : p.Ended i result) : ∃ e, (i, e) ∈ back ∧ e.opens user = true := by
  obtain ⟨⟨e, cut, revokes⟩, unrevoked⟩ := last
  have serves := renewed.owners i e (by simp [cut]) revokes
  have ends := (renewed.renews i serves).result ended
  have settled : (p.past i).foldl (Debt.next user) .clear ≠ .owed := ends.settled
  obtain ⟨before, after, same, later⟩ := past_cut cut
  by_contra none
  refine settled ?_
  have owed : ∀ s : Debt, s.next user e = .owed := fun s => by simp [Debt.next, revokes]
  rw [same, List.foldl_append, List.foldl_cons, owed]
  refine Debt.fold_owed fun f member => eq_false_of_ne_true fun opens => none ?_
  exact ⟨f, later f member, opens⟩

/-! ### Two devices -/

/-- Two refreshes of one user on two devices that each revoke before either records. -/
theorem both_stay (c : Controller) {token token' : String} {origin origin' : DeviceMetadata}
    {device device' : DeviceIdentity} (ready : w.Ready token origin user device)
    (presents : w.Presents token' origin' user device') (valid : w.accepts user device' token' = true)
    (apart : device.id ≠ device'.id) (lasting : 0 < w.issuer.lifetime .refresh) :
    ∃ moves pair pair',
      ((start c w [.refresh token origin, .refresh token' origin']).play moves).threads =
        [.done (.ok (.pair pair)), .done (.ok (.pair pair'))] ∧
      ((start c w [.refresh token origin, .refresh token' origin']).play moves).world.now = w.now ∧
      ((start c w [.refresh token origin, .refresh token' origin']).play moves).ActiveOn user
        device.id ∧
      ((start c w [.refresh token origin, .refresh token' origin']).play moves).ActiveOn user
        device'.id := by
  obtain ⟨smooth, canIssue, -, presents₀, valid₀⟩ := ready
  -- Both find their tokens good.
  obtain ⟨first, world₁, threads₁⟩ := play_enter (i := 0)
    (p := start c w [.refresh token origin, .refresh token' origin']) smooth presents₀ valid₀ rfl rfl
  have kept₁ := w.kept_afterCall (.isValid user device token)
  obtain ⟨second, world₂, threads₂⟩ := play_enter (i := 1) (smooth.of_kept kept₁)
    ⟨presents.parsed, presents.resolved⟩ (World.accepts_again valid) world₁ (by rw [threads₁]; rfl)
  have kept₂ := kept₁.trans (World.kept_afterCall _ (.isValid user device' token'))
  -- Both revoke.
  obtain ⟨third, pair, revoked, world₃, threads₃, kept₃, issued⟩ := play_prepare (i := 0)
    (smooth.of_kept kept₂) (canIssue.of_kept kept₂) world₂ (by rw [threads₂, threads₁]; rfl)
  have kept₄ := kept₂.trans kept₃
  obtain ⟨fourth, pair', revoked', world₄, threads₄, kept₅, issued'⟩ := play_prepare (i := 1)
    (smooth.of_kept kept₄) (canIssue.of_kept kept₄) world₃
    (by rw [threads₃, threads₂, threads₁]; rfl)
  have kept₆ := kept₄.trans kept₅
  -- Both record.
  obtain ⟨fifth, w₇, world₅, threads₅, kept₇, -, store₇⟩ := play_record (i := 0)
    (smooth.of_kept kept₆) world₄ (by rw [threads₄, threads₃, threads₂, threads₁]; rfl)
  have kept₈ := kept₆.trans kept₇
  obtain ⟨sixth, w₈, world₆, threads₆, kept₉, -, store₈⟩ := play_record (i := 1)
    (smooth.of_kept kept₈) world₅ (by rw [threads₅, threads₄, threads₃, threads₂, threads₁]; rfl)
  refine ⟨first ++ (second ++ (third ++ (fourth ++ (fifth ++ sixth)))), pair, pair', ?_⟩
  have now : w₈.now = w.now := (kept₈.trans kept₉).now
  have expiry : w.issuer.expiry .refresh w.now = .ok pair.refreshExpiresAt := by
    rw [← kept₂.issuer, ← kept₂.now]
    exact issued.refresh
  have expiry' : w.issuer.expiry .refresh w.now = .ok pair'.refreshExpiresAt := by
    rw [← kept₄.issuer, ← kept₄.now]
    exact issued'.refresh
  simp only [play_append]
  unfold ActiveOn
  rw [world₆, threads₆, threads₅, threads₄, threads₃, threads₂, threads₁, store₈, now]
  refine ⟨rfl, rfl, ?_, ?_⟩
  · rw [SessionStore.session?_create, if_neg fun same => apart same.2, store₇,
      SessionStore.session?_create, if_pos ⟨rfl, rfl⟩]
    exact ⟨_, rfl, by
      simp [SessionStore.create, Session.isActiveAt, World.lt_of_expiry lasting expiry]⟩
  · rw [SessionStore.session?_create, if_pos ⟨rfl, rfl⟩]
    exact ⟨_, rfl, by
      simp [SessionStore.create, Session.isActiveAt, World.lt_of_expiry lasting expiry']⟩

/-- Another place from which the one user of a small world comes. -/
def otherOrigin : DeviceMetadata := ⟨"10.0.0.2", "Firefox"⟩

theorem origins_resolve : ∃ first second, soleOrigin.resolve = .ok first ∧
    otherOrigin.resolve = .ok second ∧ first.id ≠ second.id := by
  have ip : Text.trim soleOrigin.ip = "10.0.0.1" := by decide
  have ip' : Text.trim otherOrigin.ip = "10.0.0.2" := by decide
  have userAgent : Text.trim soleOrigin.userAgent = "Firefox" := by decide
  have userAgent' : Text.trim otherOrigin.userAgent = "Firefox" := by decide
  have address : Address.isAddress "10.0.0.1".toList = true := by decide
  have address' : Address.isAddress "10.0.0.2".toList = true := by decide
  have apart : DeviceIdentity.idOf "Firefox" "10.0.0.1" ≠ DeviceIdentity.idOf "Firefox" "10.0.0.2" := by
    decide +kernel
  unfold DeviceMetadata.resolve
  simp only [ip, ip', userAgent, userAgent', address, address']
  exact ⟨_, _, rfl, rfl, apart⟩

theorem accepts_opened {token : String} {device device' : DeviceIdentity} {owner : Uuid}
    {expiresAt : Instant} {id : Uuid} (valid : w.accepts user device token = true)
    (apart : device.id ≠ device'.id) :
    (w.opened owner device' expiresAt id).accepts user device token = true := by
  obtain ⟨x, found, accepted⟩ := SessionStore.isValid_iff.mp valid
  refine SessionStore.isValid_iff.mpr ⟨x, ?_, accepted⟩
  refine (SessionStore.session?_create w.state.store owner _ expiresAt device' w.now user
    device.id).trans ?_
  rw [if_neg fun same => apart same.2, found]

/-- The one user has logged in from two places. -/
structure Twice (w : World Memory) (token token' : String) (device device' : DeviceIdentity) : Prop
    where
  ready : w.Ready token soleOrigin soleUser.id device
  presents : w.Presents token' otherOrigin soleUser.id device'
  valid : w.accepts soleUser.id device' token' = true
  apart : device.id ≠ device'.id
  lasting : 0 < w.issuer.lifetime .refresh
  unexpired : ∀ d x, w.state.store.session? soleUser.id d = some x → w.now < x.expiresAt

theorem lt_expiresAt_opened (device : DeviceIdentity) {expiresAt now : Instant} (id : Uuid)
    (before : ∀ d x, w.state.store.session? user d = some x → now < x.expiresAt)
    (current : now < expiresAt) : ∀ d x,
      (w.opened user device expiresAt id).state.store.session? user d = some x →
        now < x.expiresAt := by
  intro d x found
  have known := (SessionStore.session?_create w.state.store user
    (hashToken (w.mint user expiresAt id)) expiresAt device w.now user d).symm.trans found
  split at known
  · rw [← Option.some.inj known]
    exact current
  · exact before d x known

theorem twice_opened {token : String} {device device' : DeviceIdentity}
    (ready : w.Ready token soleOrigin soleUser.id device)
    (resolved : otherOrigin.resolve = .ok device') (apart : device.id ≠ device'.id)
    (lasting : 0 < w.issuer.lifetime .refresh) (late : 5 ≤ w.now.secs) {expiresAt : Instant}
    (current : w.now < expiresAt)
    (unexpired : ∀ d x, w.state.store.session? soleUser.id d = some x → w.now < x.expiresAt)
    (id : Uuid) : Twice (w.opened soleUser.id device' expiresAt id) token
      (w.mint soleUser.id expiresAt id) device device' := by
  have kept : w.Kept (w.opened soleUser.id device' expiresAt id) := World.kept_afterCall _ _
  refine ⟨⟨ready.smooth.of_kept kept, ready.canIssue.of_kept kept, .answer _ _ ready.reachable,
    ⟨ready.presents.parsed, ready.presents.resolved⟩, accepts_opened ready.accepts apart⟩,
    w.opened_presents soleUser.id id late current resolved, w.opened_accepts _ _ _ current, apart,
    lasting, ?_⟩
  exact lt_expiresAt_opened device' id unexpired current

theorem twice_exists : ∃ w token token' device device', Twice w token token' device device' := by
  obtain ⟨device, device', resolved, resolved', apart⟩ := origins_resolve
  have current : Instant.ofSecs 1000 < Instant.ofSecs 2000 := by decide
  have lasting : 0 < (World.small (.ofSecs 1000)).issuer.lifetime .refresh := by decide
  have late : 5 ≤ (World.small (.ofSecs 1000)).now.secs := by decide
  have ready := World.small_ready resolved (.ofSecs 2000) current soleUser.id
  have empty : ∀ d x, (World.small (.ofSecs 1000)).state.store.session? soleUser.id d = some x →
      Instant.ofSecs 1000 < x.expiresAt := fun d x found => by cases found
  exact ⟨_, _, _, device, device', twice_opened ready resolved' apart lasting late current
    (lt_expiresAt_opened device soleUser.id empty current) ⟨List.replicate 16 2, rfl⟩⟩

/-- In every order of the calls, where the calls of a user are refreshes, on any devices, and no
session that they record ends meanwhile, the devices that are logged in when all have been answered
and one with a pair are those recorded after the last revocation; so one session is active if and
only if these recordings are for one device. -/
theorem overlap_leaves_latest (c : Controller) {w : World Memory} (smooth : w.Smooth)
    (reachable : w.state.store.Reachable) {operations : List Operation} {user : Uuid}
    (only : ∀ r ∈ operations, w.owner? r = some user → ∃ token origin, r = .refresh token origin)
    (moves : List Move)
    (returned : ∀ i, Serves w operations user i →
      ∃ result, ((start c w operations).play moves).Ended i result)
    (succeeded : ∃ i response, Serves w operations user i ∧
      ((start c w operations).play moves).Ended i (.ok response))
    (lasting : ∀ t e, ¬t < w.now → w.issuer.expiry .refresh t = .ok e →
      ((start c w operations).play moves).world.now < e) :
    ∃ i front back, ((start c w operations).play moves).LeavesLatest user i front back := by
  have renewed := renewed_play (c := c) smooth reachable.consistent only moves
  have consistent := ((steady_start (c := c) smooth.clean reachable.consistent operations).play
    moves).consistent
  generalize (start c w operations).play moves = p at *
  obtain ⟨k, response, serves, succeeded⟩ := succeeded
  obtain ⟨first, member, revokes⟩ := renewed.revoked serves succeeded
  obtain ⟨i, front, back, last⟩ := revokedLast_of_mem member revokes
  have active : ∀ d, p.ActiveOn user d ↔ RecordedIn back user d := by
    intro d
    rw [← renewed.opened i front back last d]
    constructor
    · rintro ⟨x, found, live⟩
      refine ⟨x.holding, congrArg (Option.map Session.holding) found, ?_⟩
      simp only [Session.isActiveAt, Bool.and_eq_true, Bool.not_eq_true'] at live
      exact live.1
    · rintro ⟨held, found, live⟩
      obtain ⟨x, present, rfl⟩ := Option.map_eq_some_iff.mp found
      obtain ⟨t, later, expiry⟩ := renewed.mints k first member revokes user d x present rfl live
      have current := lasting t x.expiresAt later expiry
      exact ⟨x, present, by simp [Session.isActiveAt, current, show x.revoked = false from live]⟩
  have own : ∃ e d, (i, e) ∈ back ∧ e.opensOn user d = true := by
    obtain ⟨e, cut, revoked⟩ := last.revoked
    obtain ⟨result, ended⟩ := returned i (renewed.owners i e (by simp [cut]) revoked)
    obtain ⟨f, seen, opens⟩ := renewed.recorded last ended
    obtain ⟨d, opensOn⟩ := Exchange.opensOn_of_opens opens
    exact ⟨f, d, seen, opensOn⟩
  refine ⟨i, front, back, last, own, active, ?_⟩
  constructor
  · intro one d d' recorded recorded'
    obtain ⟨x, found, live⟩ := (active d).mpr recorded
    obtain ⟨y, found', live'⟩ := (active d').mpr recorded'
    exact consistent.device_eq_of_activeCount one found live found' live'
  · intro same
    obtain ⟨e, d, seen, opensOn⟩ := own
    obtain ⟨x, found, live⟩ := (active d).mpr ⟨i, e, seen, opensOn⟩
    refine consistent.activeCount_eq_one found live fun d' y away present => ?_
    refine eq_false_of_ne_true fun live' => away ?_
    exact same d' d ((active d').mp ⟨y, present, live'⟩) ⟨i, e, seen, opensOn⟩

theorem overlap_leaves_latest_of_two : ∃ (w : World Memory) (token token' : String)
    (moves : List Move) (i : Nat) (front back : List (Nat × Exchange)),
    ((start ⟨⟨0⟩⟩ w [.refresh token soleOrigin, .refresh token' otherOrigin]).play moves).LeavesLatest
      soleUser.id i front back := by
  obtain ⟨w, token, token', device, device', twice⟩ := twice_exists
  obtain ⟨moves, pair, pair', threads, now, -⟩ := both_stay ⟨⟨0⟩⟩ twice.ready twice.presents
    twice.valid twice.apart twice.lasting
  have serves : Serves w [.refresh token soleOrigin, .refresh token' otherOrigin] soleUser.id 0 :=
    ⟨_, rfl, twice.ready.presents.subject⟩
  refine Exists.elim (overlap_leaves_latest ⟨⟨0⟩⟩ twice.ready.smooth twice.ready.reachable ?_ moves
    ?_ ⟨0, _, serves, congrArg (fun ps => ps[0]?) threads⟩ ?_) ?_
  · intro r member _
    rcases List.mem_pair.mp member with rfl | rfl
    · exact ⟨_, _, rfl⟩
    · exact ⟨_, _, rfl⟩
  · rintro i ⟨r, found, -⟩
    unfold Ended
    rw [threads]
    match i with
    | 0 => exact ⟨_, rfl⟩
    | 1 => exact ⟨_, rfl⟩
    | n + 2 => cases found
  · intro t e later expiry
    rw [now]
    exact Instant.lt_of_not_lt_of_lt later (World.lt_of_expiry twice.lasting expiry)
  · rintro i ⟨front, back, leaves⟩
    exact ⟨w, token, token', moves, i, front, back, leaves⟩

/-- A request presents a good token of a user from a device. -/
def PresentsGood (w : World Memory) (user : Uuid) (r : Operation) (device : String) : Prop :=
  ∃ token origin identity, r = .refresh token origin ∧ identity.id = device ∧
    w.Presents token origin user identity ∧ w.accepts user identity token = true

/-- Two devices can stay logged in. -/
theorem overlap_may_leave_two :
    ¬∀ (c : Controller) (w : World Memory) (user : Uuid) (operations : List Operation)
      (devices : List String) (moves : List Move), w.Smooth → w.state.store.Reachable →
      List.Forall₂ (PresentsGood w user) operations devices → devices.Nodup →
      (∀ d x, w.state.store.session? user d = some x →
        ((start c w operations).play moves).world.now < x.expiresAt) →
      (∀ t e, ¬t < w.now → w.issuer.expiry .refresh t = .ok e →
        ((start c w operations).play moves).world.now < e) →
      (∀ i < operations.length, ∃ result, ((start c w operations).play moves).Ended i result) →
      (∃ i response, ((start c w operations).play moves).Ended i (.ok response)) →
      ((start c w operations).play moves).world.state.store.activeCount user
        ((start c w operations).play moves).world.now = 1 := by
  intro claimed
  obtain ⟨w, token, token', device, device', twice⟩ := twice_exists
  obtain ⟨moves, pair, pair', threads, now, stays, stays'⟩ := both_stay ⟨⟨0⟩⟩ twice.ready
    twice.presents twice.valid twice.apart twice.lasting
  have good : List.Forall₂ (PresentsGood w soleUser.id)
      [.refresh token soleOrigin, .refresh token' otherOrigin] [device.id, device'.id] :=
    .cons ⟨_, _, device, rfl, rfl, twice.ready.presents, twice.ready.accepts⟩
      (.cons ⟨_, _, device', rfl, rfl, twice.presents, twice.valid⟩ .nil)
  have one := claimed ⟨⟨0⟩⟩ w soleUser.id _ _ moves twice.ready.smooth twice.ready.reachable good
    (by simp [twice.apart]) ?_ ?_ ?_ ⟨0, _, congrArg (fun ps => ps[0]?) threads⟩
  · have consistent := ((steady_start (c := ⟨⟨0⟩⟩) twice.ready.smooth.clean
      twice.ready.reachable.consistent
      [.refresh token soleOrigin, .refresh token' otherOrigin]).play moves).consistent
    obtain ⟨x, found, active⟩ := stays
    obtain ⟨y, found', active'⟩ := stays'
    exact twice.apart (consistent.device_eq_of_activeCount one found active found' active')
  · rw [now]
    exact twice.unexpired
  · intro t e later expiry
    rw [now]
    exact Instant.lt_of_not_lt_of_lt later (World.lt_of_expiry twice.lasting expiry)
  · intro i bound
    unfold Ended
    rw [threads]
    match i, bound with
    | 0, _ => exact ⟨_, rfl⟩
    | 1, _ => exact ⟨_, rfl⟩

end Pool

end DeviceSessions
