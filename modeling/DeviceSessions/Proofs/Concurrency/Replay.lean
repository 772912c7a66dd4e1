import DeviceSessions.Proofs.Concurrency.Pool
import DeviceSessions.Proofs.Concurrency.Rotation
import DeviceSessions.Proofs.Controller.SingleUse

/-!
# One token presented several times at once

Several refreshes with one token can all find it good. Each revokes before it records, and all record
under one key, so at any time either the session is as it was, or some refresh has still to record,
or the session is that of the refresh which recorded last.
-/

namespace DeviceSessions

/-- A request presents a token from a device. -/
def Operation.Replays (token device : String) (r : Operation) : Prop :=
  ∃ origin identity, r = .refresh token origin ∧ origin.resolve = .ok identity ∧
    identity.id = device

namespace World

/-- Where a good token is presented: of the requests for its user, each presents it from its
device. -/
structure Replayed (w : World Memory) (operations : List Operation) (token : String) (user : Uuid)
    (device : String) : Prop where
  smooth : w.Smooth
  reachable : w.state.store.Reachable
  held : ∃ x, w.state.store.session? user device = some x ∧ x.accepts token w.now = true
  only : ∀ r ∈ operations, w.owner? r = some user → r.Replays token device

/-- From one world to another nothing comes to its end, and no identifier is drawn twice, nor that of
the token. -/
structure Undisturbed (w last : World Memory) (token : String) (user : Uuid) (device : String) :
    Prop where
  parses : ∀ t, ¬t < w.now → ¬last.now < t → ∃ claims, w.issuer.check token t = .ok claims ∧
    claims.kind = .refresh ∧ claims.subject = user
  held : ∀ x, w.state.store.session? user device = some x → last.now < x.expiresAt
  lasting : ∀ e, w.issuer.expiry .refresh w.now = .ok e → last.now < e
  distinct : w.DrawsDistinct last
  foreign : ∀ claims, w.issuer.check token w.now = .ok claims →
    ∀ n, w.idsDrawn ≤ n → n < last.idsDrawn → w.ids n ≠ claims.id

/-- From one world to another nothing comes to its end, and pairs can be issued at any time. -/
structure Unbroken (w last : World Memory) (token : String) (user : Uuid) (device : String) : Prop
    extends Undisturbed w last token user device where
  issues : ∀ t, ¬t < w.now → ¬last.now < t → CanIssue { w with now := t }

variable {w v last : World Memory} {token device : String} {user : Uuid}

theorem Unbroken.earlier (unbroken : w.Unbroken last token user device) (now : ¬last.now < v.now)
    (idsDrawn : v.idsDrawn ≤ last.idsDrawn) : w.Unbroken v token user device where
  parses t low high := unbroken.parses t low (Instant.not_lt_trans high now)
  issues t low high := unbroken.issues t low (Instant.not_lt_trans high now)
  held x found := Instant.lt_of_not_lt_of_lt now (unbroken.held x found)
  lasting e expiry := Instant.lt_of_not_lt_of_lt now (unbroken.lasting e expiry)
  distinct i j low high low' high' := unbroken.distinct i j low (Nat.lt_of_lt_of_le high idsDrawn)
    low' (Nat.lt_of_lt_of_le high' idsDrawn)
  foreign claims checked n low high :=
    unbroken.foreign claims checked n low (Nat.lt_of_lt_of_le high idsDrawn)

theorem Unbroken.canIssue (unbroken : w.Unbroken v token user device) (past : w.Past v) :
    v.CanIssue := by
  intro kind
  rw [past.issuer]
  exact unbroken.issues v.now past.now (Instant.lt_irrefl _) kind

/-- A refresh token that is issued meanwhile does not end meanwhile. -/
theorem Unbroken.lasts (unbroken : w.Unbroken v token user device) (past : w.Past v) {t e : Instant}
    (later : ¬t < w.now) (expiry : w.issuer.expiry .refresh t = .ok e) : v.now < e := by
  obtain ⟨first, earliest⟩ := unbroken.issues w.now (Instant.lt_irrefl _) past.now .refresh
  refine Instant.lt_of_lt_of_not_lt (unbroken.lasting first earliest) ?_
  obtain ⟨secs, nanos⟩ := expiry_ok expiry
  obtain ⟨secs', nanos'⟩ := expiry_ok earliest
  rw [Instant.lt_iff] at later ⊢
  dsimp only at secs' nanos'
  omega

/-- Without faults the calls of a refresh are answered. -/
theorem answers_answer (unbroken : w.Unbroken v token user device) (past : w.Past v)
    (smooth : v.Smooth) (call : Call) :
    Answers token user ⟨call, (answer Memory.backend call v).1⟩ := by
  constructor
  · intro r same
    cases call with
    | parse asked =>
      obtain ⟨calls, answers⟩ := Exchange.mk.inj same
      obtain rfl : asked = token := Call.parse.inj calls
      obtain ⟨claims, checked, kind, mine⟩ :=
        unbroken.parses v.now past.now (Instant.lt_irrefl _)
      rw [← past.issuer] at checked
      refine ⟨claims, ?_, kind, mine⟩
      rw [← eq_of_heq answers]
      change v.parse asked = _
      unfold World.parse Issuer.parse
      rw [smooth.failure?, checked]
    | _ => cases same
  · intro made reply same
    cases call with
    | store asked =>
      obtain ⟨calls, answers⟩ := Exchange.mk.inj same
      obtain rfl : asked = made := Call.store.inj calls
      rcases answer_store_cases smooth.clean asked with answered | ⟨fault, -⟩
      · rw [answered] at answers
        exact ⟨_, (eq_of_heq answers).symm⟩
      · exact absurd (smooth _) fault
    | _ => cases same
  · intro kind r same
    cases call with
    | issue asked owner =>
      obtain ⟨calls, answers⟩ := Exchange.mk.inj same
      obtain ⟨rfl, rfl⟩ := Call.issue.inj calls
      obtain ⟨expiresAt, expiry⟩ := unbroken.canIssue past asked
      refine ⟨v.nextToken asked owner expiresAt, ?_⟩
      rw [← eq_of_heq answers]
      change (v.issue asked owner).1 = _
      rw [smooth.issue expiry]
    | _ => cases same

/-- Whatever is wrong with a token that is not good for its subject, the error is the same. -/
theorem Smooth.refresh_stale (smooth : v.Smooth) (c : Controller) {origin : DeviceMetadata}
    {identity : DeviceIdentity} (resolved : origin.resolve = .ok identity)
    (subject : subject? token = some user) (stale : v.accepts user identity token = false) :
    (v.serve c (.refresh token origin)).1 = .error Controller.tokenRevoked := by
  by_cases reads : ∃ claims, v.issuer.check token v.now = .ok claims ∧ claims.kind = .refresh
  · obtain ⟨claims, checked, kind⟩ := reads
    have mine : claims.subject = user :=
      Option.some.inj ((subject?_of_check checked).symm.trans subject)
    exact smooth.refresh_rejects c ⟨⟨claims, checked, kind, mine⟩, resolved⟩ stale
  · exact refresh_denies c fun claims checked kind => reads ⟨claims, checked, kind⟩

end World

namespace Pool

/-- A thread presents a token from a device. -/
def Replays (operations : List Operation) (token device : String) (i : Nat) : Prop :=
  ∃ r, operations[i]? = some r ∧ r.Replays token device

/-- How far a thread is. -/
def stage (p : Pool) (i : Nat) : Stage := (p.past i).foldl Stage.next .arrived

/-- What the session of a user on a device holds now. -/
def holding? (p : Pool) (user : Uuid) (device : String) : Option Holding :=
  p.world.state.store.holding? user device

/-- A thread has recorded the last session of a user. -/
def OpensLast (p : Pool) (user : Uuid) (i : Nat) : Prop :=
  ∃ front e back, p.trace = front ++ (i, e) :: back ∧ e.opens user = true ∧
    ∀ j f, (j, f) ∈ back → f.opens user = false

/-- The threads that present a token go through the stages of a refresh. -/
def Goes (p : Pool) (operations : List Operation) (token : String) (user : Uuid) (device : String) :
    Prop :=
  ∀ i, Replays operations token device i →
    p.Follows i (rotation token user device) Stage.Ends .arrived

variable {p q : Pool} {w : World Memory} {c : Controller} {operations : List Operation}
  {token device : String} {user : Uuid} {i j : Nat}

theorem stage_asked (p : Pool) (i : Nat) (call : Call)
    (next : call.Answer → Program (Result Response)) (j : Nat) :
    (p.asked i call next).stage j =
      if i = j then (p.stage j).next (p.exchange call) else p.stage j := by
  unfold stage
  rw [past_asked, List.foldl_append]
  split <;> rfl

theorem goes_start (c : Controller) (w : World Memory) (operations : List Operation)
    (token : String) (user : Uuid) (device : String) :
    (start c w operations).Goes operations token user device := by
  rintro i ⟨r, found, origin, identity, rfl, resolved, here⟩
  refine follows_start fun r found' => ?_
  obtain rfl := Option.some.inj (found.symm.trans found')
  exact Action.serve_goes resolved here

/-! ### What one call can do -/

/-- A call that changes nothing about the sessions of a user. -/
structure Quiet (p q : Pool) (user : Uuid) : Prop where
  held : ∀ d, q.holding? user d = p.holding? user d
  trace : ∃ i e, q.trace = p.trace ++ [(i, e)] ∧ e.opens user = false

/-- Everything that a call can do to the sessions of a user and to the threads that present a
token. -/
inductive Turn (p q : Pool) (operations : List Operation) (token : String) (user : Uuid)
    (device : String) : Prop where
  | quiet (same : p.Quiet q user)
      (stays : ∀ j, Replays operations token device j →
        q.stage j = p.stage j ∨ (p.stage j).early ∧ (q.stage j).early)
  | refused (i : Nat) (same : p.Quiet q user) (was : p.stage i = .named)
      (stays : ∀ j, j ≠ i → q.stage j = p.stage j)
      (stale : ∃ identity : DeviceIdentity, identity.id = device ∧
        p.world.accepts user identity token = false)
  | emptied (i : Nat) (pair : TokenPair) (replays : Replays operations token device i)
      (is : q.stage i = .emptied pair)
      (held : ∀ d, q.holding? user d = (p.holding? user d).map fun h => { h with revoked := true })
  | recorded (i : Nat) (pair : TokenPair) (replays : Replays operations token device i)
      (was : p.stage i = .emptied pair) (is : q.stage i = .recorded pair)
      (held : ∀ d, q.holding? user d = if d = device then
        some ⟨false, hashToken pair.refreshToken, pair.refreshExpiresAt⟩ else p.holding? user d)
      (last : q.OpensLast user i)

/-- Nothing has been revoked: the session is as it was, and every check has succeeded. -/
structure Untouched (p : Pool) (w : World Memory) (operations : List Operation) (token : String)
    (user : Uuid) (device : String) : Prop where
  held : p.holding? user device = w.state.store.holding? user device
  early : ∀ i, Replays operations token device i → (p.stage i).early

/-- The other sessions are revoked; a thread has still to record, or the session is that of the
thread which recorded last. -/
structure Rotated (p : Pool) (operations : List Operation) (token : String) (user : Uuid)
    (device : String) : Prop where
  others : ∀ d, d ≠ device → ∀ h, p.holding? user d = some h → h.revoked = true
  latest : ∃ i pair, Replays operations token device i ∧
    (p.stage i = .emptied pair ∨ p.stage i = .recorded pair ∧ p.OpensLast user i ∧
      p.holding? user device =
        some ⟨false, hashToken pair.refreshToken, pair.refreshExpiresAt⟩)

theorem OpensLast.asked (last : p.OpensLast user i) (same : p.Quiet q user) :
    q.OpensLast user i := by
  obtain ⟨front, e, back, cut, opens, closed⟩ := last
  obtain ⟨j, f, trace, quiet⟩ := same.trace
  refine ⟨front, e, back ++ [(j, f)], ?_, opens, ?_⟩
  · rw [trace, cut, List.append_assoc, List.cons_append]
  · intro k g member
    rcases List.mem_append.mp member with early | late
    · exact closed k g early
    · cases List.mem_singleton.mp late
      exact quiet

theorem Rotated.turn (rotated : p.Rotated operations token user device)
    (turn : p.Turn q operations token user device) : q.Rotated operations token user device := by
  obtain ⟨others, k, pair, replays, latest⟩ := rotated
  cases turn with
  | quiet same stays =>
    refine ⟨fun d away h found => others d away h (same.held d ▸ found), k, pair, replays, ?_⟩
    rcases latest with waits | ⟨done, last, held⟩
    · rcases stays k replays with still | ⟨early, -⟩
      · exact Or.inl (still.trans waits)
      · rw [waits] at early
        cases early
    · rcases stays k replays with still | ⟨early, -⟩
      · exact Or.inr ⟨still.trans done, last.asked same, (same.held device).trans held⟩
      · rw [done] at early
        cases early
  | refused i same was stays stale =>
    refine ⟨fun d away h found => others d away h (same.held d ▸ found), k, pair, replays, ?_⟩
    have apart : k ≠ i := by
      rintro rfl
      rw [was] at latest
      rcases latest with waits | ⟨done, -⟩
      · cases waits
      · cases done
    rw [stays k apart]
    rcases latest with waits | ⟨done, last, held⟩
    · exact Or.inl waits
    · exact Or.inr ⟨done, last.asked same, (same.held device).trans held⟩
  | emptied i pair replays is held =>
    refine ⟨fun d _ h found => ?_, i, pair, replays, Or.inl is⟩
    rw [held] at found
    obtain ⟨h', -, rfl⟩ := Option.map_eq_some_iff.mp found
    rfl
  | recorded i pair replays was is held last =>
    refine ⟨fun d away h found => ?_, i, pair, replays, Or.inr ⟨is, last, ?_⟩⟩
    · rw [held, if_neg away] at found
      exact others d away h found
    · rw [held, if_pos rfl]

theorem Untouched.turn (untouched : p.Untouched w operations token user device)
    (valid : ∀ identity : DeviceIdentity, identity.id = device →
      p.world.accepts user identity token = true)
    (turn : p.Turn q operations token user device) :
    q.Untouched w operations token user device ∨ q.Rotated operations token user device := by
  cases turn with
  | quiet same stays =>
    refine Or.inl ⟨(same.held device).trans untouched.held, fun j replays => ?_⟩
    rcases stays j replays with still | ⟨-, early⟩
    · rw [still]
      exact untouched.early j replays
    · exact early
  | refused i same was stays stale =>
    obtain ⟨identity, here, rejected⟩ := stale
    rw [valid identity here] at rejected
    cases rejected
  | emptied i pair replays is held =>
    refine Or.inr ⟨fun d _ h found => ?_, i, pair, replays, Or.inl is⟩
    rw [held] at found
    obtain ⟨h', -, rfl⟩ := Option.map_eq_some_iff.mp found
    rfl
  | recorded i pair replays was =>
    have early := untouched.early i replays
    rw [was] at early
    cases early

/-! ### Every call is a turn -/

theorem opens_of_made? {e : Exchange} {made : StoreCall} (same : e.made? = some made)
    (other : made.records user = false) : e.opens user = false := by
  unfold Exchange.opens
  rw [same]
  cases made with
  | create owner hash expiresAt identity => exact other
  | _ => rfl

theorem quiet_idle (clean : p.world.Clean) (i : Nat) {call : Call}
    (next : call.Answer → Program (Result Response)) (idle : call.store? = none) :
    p.Quiet (p.asked i call next) user := by
  obtain ⟨none, store⟩ := store_asked_idle clean i next idle
  refine ⟨fun d => ?_, i, p.exchange call, rfl, ?_⟩
  · unfold holding?
    rw [store]
  · unfold Exchange.opens
    rw [none]

/-- A thread that serves another user is quiet. -/
theorem quiet_other (steady : p.Steady w) {call : Call}
    {next : call.Answer → Program (Result Response)}
    (other : ∀ made, call.store? = some made → made.user ≠ user) :
    p.Quiet (p.asked i call next) user := by
  rcases exchange_cases steady.clean i call next with ⟨none, store⟩ | ⟨made, same, store⟩
  · refine ⟨fun d => ?_, i, p.exchange call, rfl, ?_⟩
    · unfold holding?
      rw [store]
    · unfold Exchange.opens
      rw [none]
  · obtain rfl : call = .store made := congrArg Exchange.call same
    have away := other made rfl
    refine ⟨fun d => ?_, i, p.exchange (.store made), rfl, ?_⟩
    · unfold holding?
      rw [store]
      exact steady.consistent.holding?_other _ away d
    · rw [same]
      refine opens_of_made? rfl ?_
      cases made with
      | create owner hash expiresAt identity => exact decide_eq_false away
      | _ => rfl

theorem turn_other (replayed : w.Replayed operations token user device) (steady : p.Steady w)
    (mindful : p.Mindful w operations user) {call : Call}
    {next : call.Answer → Program (Result Response)}
    (current : p.threads[i]? = some (.ask call next))
    (other : ¬Replays operations token device i) :
    p.Turn (p.asked i call next) operations token user device := by
  obtain ⟨r, found⟩ := mindful.operation current
  refine .quiet (quiet_other steady fun made same here => other ⟨r, found, ?_⟩) fun j replays => ?_
  · have asks := ((mindful.follows i r found).asks current made same).1
    rw [here] at asks
    exact replayed.only r (List.mem_of_getElem? found) asks
  · have apart : i ≠ j := fun same => other (same ▸ replays)
    rw [stage_asked, if_neg apart]
    exact Or.inl rfl

/-- The other threads are where they were. -/
theorem stage_other (p : Pool) (call : Call) (next : call.Answer → Program (Result Response))
    (apart : j ≠ i) : (p.asked i call next).stage j = p.stage j :=
  (stage_asked p i call next j).trans (if_neg (Ne.symm apart))

/-- A call before the revocation is quiet, unless a token is refused. -/
theorem turn_early {call : Call} {next : call.Answer → Program (Result Response)} {s : Stage}
    (same : p.Quiet (p.asked i call next) user) (before : (p.stage i).early)
    (after : (p.stage i).next (p.exchange call) = s) (late : s.early) :
    p.Turn (p.asked i call next) operations token user device := by
  refine .quiet same fun j _ => ?_
  by_cases here : j = i
  · subst here
    rw [stage_asked, if_pos rfl, after]
    exact Or.inr ⟨before, late⟩
  · exact Or.inl (stage_other p call next here)

theorem turn_check (smooth : p.world.Smooth) {identity : DeviceIdentity}
    (here : identity.id = device) (was : p.stage i = .named)
    (next : (Call.store (.isValid user identity token)).Answer → Program (Result Response)) :
    p.Turn (p.asked i (.store (.isValid user identity token)) next) operations token user device := by
  obtain ⟨same, store⟩ := exchange_store smooth i (.isValid user identity token) next
  have quiet : p.Quiet (p.asked i (.store (.isValid user identity token)) next) user := by
    refine ⟨fun d => ?_, i, _, rfl, ?_⟩
    · unfold holding?
      rw [store]
      exact SessionStore.holding?_isValid _ user identity token _ user d
    · rw [same]
      exact opens_of_made? rfl rfl
  cases valid : p.world.accepts user identity token with
  | true =>
    refine turn_early quiet (s := .cleared) (by rw [was]; rfl) ?_ rfl
    rw [was, same, show (p.world.state.store.answer p.world.now (.isValid user identity token)).1 =
      true from valid]
    rfl
  | false =>
    exact .refused i quiet was (fun j apart => stage_other p _ next apart) ⟨identity, here, valid⟩

theorem turn_revoke (smooth : p.world.Smooth) (consistent : p.world.state.store.Consistent)
    {pair : TokenPair} (replays : Replays operations token device i) (was : p.stage i = .paired pair)
    (next : (Call.store (.revokeAll user)).Answer → Program (Result Response)) :
    p.Turn (p.asked i (.store (.revokeAll user)) next) operations token user device := by
  obtain ⟨same, store⟩ := exchange_store smooth i (.revokeAll user) next
  refine .emptied i pair replays ?_ fun d => ?_
  · rw [stage_asked, if_pos rfl, was, same]
    rfl
  · unfold holding?
    rw [store]
    exact consistent.holding?_revokeAll user d

theorem turn_record (smooth : p.world.Smooth) {identity : DeviceIdentity}
    (here : identity.id = device) {pair : TokenPair} (replays : Replays operations token device i)
    (was : p.stage i = .emptied pair)
    (next : (Call.store (Controller.recording user pair identity)).Answer →
      Program (Result Response)) :
    p.Turn (p.asked i (.store (Controller.recording user pair identity)) next) operations token user
      device := by
  obtain ⟨same, store⟩ := exchange_store smooth i (Controller.recording user pair identity) next
  refine .recorded i pair replays was ?_ (fun d => ?_) ⟨p.trace, _, [], rfl, ?_, fun _ _ none => ?_⟩
  · rw [stage_asked, if_pos rfl, was, same]
    rfl
  · unfold holding?
    rw [store, ← here]
    refine (SessionStore.holding?_create _ user _ _ identity _ user d).trans ?_
    simp
  · rw [same]
    exact decide_eq_true rfl
  · cases none

/-- A thread that goes on with a refresh makes a turn. -/
theorem turn_replay (smooth : p.world.Smooth) (steady : p.Steady w)
    (unbroken : w.Unbroken p.world token user device) {call : Call}
    {next : call.Answer → Program (Result Response)}
    (replays : Replays operations token device i)
    (asks : (∃ event, call = .log event) ∨ (p.stage i).Awaits token user device call) :
    p.Turn (p.asked i call next) operations token user device := by
  have told := World.answers_answer unbroken steady.past smooth call
  rcases asks with ⟨event, rfl⟩ | awaits
  · refine .quiet (quiet_idle steady.clean i next rfl) fun j _ => Or.inl ?_
    rw [stage_asked]
    split
    · exact (rotation token user device).next_log _ event ()
    · rfl
  cases was : p.stage i with
  | arrived =>
    rw [was] at awaits
    obtain rfl : call = .parse token := awaits
    refine turn_early (quiet_idle steady.clean i next rfl) (s := .named) (by rw [was]; rfl) ?_ rfl
    rw [was]
    rfl
  | named =>
    rw [was] at awaits
    obtain ⟨identity, here, rfl⟩ := awaits
    exact turn_check smooth here was next
  | cleared =>
    rw [was] at awaits
    obtain rfl : call = .issue .access user := awaits
    obtain ⟨access, issued⟩ := told.issued rfl
    refine turn_early (quiet_idle steady.clean i next rfl) (s := .halfway access)
      (by rw [was]; rfl) ?_ rfl
    rw [was]
    unfold exchange
    rw [issued]
    rfl
  | halfway access =>
    rw [was] at awaits
    obtain rfl : call = .issue .refresh user := awaits
    obtain ⟨refresh, issued⟩ := told.issued rfl
    refine turn_early (quiet_idle steady.clean i next rfl) (s := .paired (.of access refresh))
      (by rw [was]; rfl) ?_ rfl
    rw [was]
    unfold exchange
    rw [issued]
    rfl
  | paired pair =>
    rw [was] at awaits
    obtain rfl : call = .store (.revokeAll user) := awaits
    exact turn_revoke smooth steady.consistent replays was next
  | emptied pair =>
    rw [was] at awaits
    obtain ⟨identity, here, rfl⟩ := awaits
    exact turn_record smooth here replays was next
  | refused =>
    rw [was] at awaits
    exact awaits.elim
  | recorded pair =>
    rw [was] at awaits
    exact awaits.elim

/-! ### The pairs -/

/-- The pairs of the threads were issued since the start, no two with one refresh token. -/
structure Issues (p : Pool) (w : World Memory) (operations : List Operation) (token : String)
    (user : Uuid) (device : String) : Prop where
  minted : ∀ i pair, Replays operations token device i → (p.stage i).pair? = some pair →
    w.Minted p.world user pair.refreshToken pair.refreshExpiresAt ∧
      ∃ t, ¬t < w.now ∧ w.issuer.expiry .refresh t = .ok pair.refreshExpiresAt
  different : ∀ i j pair pair', i ≠ j → Replays operations token device i →
    Replays operations token device j → (p.stage i).pair? = some pair →
      (p.stage j).pair? = some pair' → pair.refreshToken ≠ pair'.refreshToken

theorem issues_start (c : Controller) (w : World Memory) (operations : List Operation)
    (token : String) (user : Uuid) (device : String) :
    (start c w operations).Issues w operations token user device := by
  constructor
  · intro i pair _ found
    cases found
  · intro i j pair pair' _ _ _ found
    cases found

theorem Issues.later (issues : p.Issues w operations token user device)
    (past : p.world.Past q.world)
    (same : ∀ j, Replays operations token device j → (q.stage j).pair? = (p.stage j).pair?) :
    q.Issues w operations token user device := by
  constructor
  · intro i pair replays found
    rw [same i replays] at found
    obtain ⟨minted, expiry⟩ := issues.minted i pair replays found
    exact ⟨minted.later past, expiry⟩
  · intro i j pair pair' apart replays replays' found found'
    rw [same i replays] at found
    rw [same j replays'] at found'
    exact issues.different i j pair pair' apart replays replays' found found'

/-- A refresh token that has just been issued is none of those before it. -/
theorem Issues.fresh (issues : p.Issues w operations token user device) (steady : p.Steady w)
    {call : Call} {next : call.Answer → Program (Result Response)} {refresh : IssuedToken}
    (same : p.exchange call = ⟨.issue .refresh user, .ok refresh⟩)
    (distinct : w.DrawsDistinct (p.asked i call next).world)
    (replays : Replays operations token device j) {pair : TokenPair}
    (found : (p.stage j).pair? = some pair) : refresh.token ≠ pair.refreshToken := by
  obtain ⟨-, drawn, signed⟩ := issued_exchange i next same
  obtain ⟨⟨n, t, low, high, minted⟩, -⟩ := issues.minted j pair replays found
  intro equal
  rw [signed, minted] at equal
  have id : p.world.ids p.world.idsDrawn = p.world.ids n :=
    congrArg Claims.id (p.world.issuer.sign_injective equal)
  rw [steady.past.ids] at id
  rw [drawn] at distinct
  have last : p.world.drawn.idsDrawn = p.world.idsDrawn + 1 := rfl
  have index := distinct _ _ steady.past.idsDrawn (by omega) low (by omega) id
  omega

theorem Issues.asked (issues : p.Issues w operations token user device) (steady : p.Steady w)
    {call : Call} {next : call.Answer → Program (Result Response)}
    (goes : p.Goes operations token user device)
    (current : p.threads[i]? = some (.ask call next))
    (distinct : w.DrawsDistinct (p.asked i call next).world) :
    (p.asked i call next).Issues w operations token user device := by
  have past := (World.kept_answer p.world call).past
  by_cases replays : Replays operations token device i
  case neg =>
    refine issues.later past fun j replays' => ?_
    have apart : i ≠ j := fun same => replays (same ▸ replays')
    rw [stage_asked, if_neg apart]
  rcases Stage.pair?_next (p.stage i) (p.exchange call) with
    same | ⟨access, owner, refresh, half, same, complete⟩
  · refine issues.later past fun j _ => ?_
    rw [stage_asked]
    split
    · rename_i here
      subst here
      exact same
    · rfl
  -- The thread has completed its pair.
  have mine : owner = user := by
    have calls : call = .issue .refresh owner := congrArg Exchange.call same
    rcases (goes i replays).asks current with ⟨event, log⟩ | awaits
    · rw [log] at calls
      cases calls
    · change (p.stage i).Awaits token user device call at awaits
      rw [half, calls] at awaits
      exact (Call.issue.inj awaits).2
  subst mine
  obtain ⟨expiry, drawn, signed⟩ := issued_exchange i next same
  have here : (p.asked i call next).stage i = (p.stage i).next (p.exchange call) :=
    (stage_asked p i call next i).trans (if_pos rfl)
  constructor
  · intro j pair replays' found
    by_cases equal : j = i
    · subst equal
      rw [here, complete] at found
      obtain rfl := Option.some.inj found
      refine ⟨⟨p.world.idsDrawn, p.world.now, steady.past.idsDrawn, ?_, ?_⟩, p.world.now,
        steady.past.now, ?_⟩
      · rw [drawn]
        exact Nat.lt_succ_self _
      · rw [drawn]
        exact signed
      · rw [← steady.past.issuer]
        exact expiry
    · rw [stage_other p call next equal] at found
      obtain ⟨minted, expiry⟩ := issues.minted j pair replays' found
      exact ⟨minted.later past, expiry⟩
  · intro j k pair pair' apart replays₁ replays₂ found found'
    by_cases first : j = i
    · subst first
      rw [here, complete] at found
      obtain rfl := Option.some.inj found
      rw [stage_other p call next (Ne.symm apart)] at found'
      exact issues.fresh steady same distinct replays₂ found'
    · rw [stage_other p call next first] at found
      by_cases second : k = i
      · subst second
        rw [here, complete] at found'
        obtain rfl := Option.some.inj found'
        exact Ne.symm (issues.fresh steady same distinct replays₁ found)
      · rw [stage_other p call next second] at found'
        exact issues.different j k pair pair' apart replays₁ replays₂ found found'

/-! ### Runs -/

/-- While nothing has been revoked, the token is good. -/
theorem Untouched.accepts (untouched : p.Untouched w operations token user device)
    (replayed : w.Replayed operations token user device)
    (unbroken : w.Unbroken p.world token user device) {identity : DeviceIdentity}
    (here : identity.id = device) : p.world.accepts user identity token = true := by
  obtain ⟨x, found, accepted⟩ := replayed.held
  obtain ⟨live, -, digest⟩ := SessionStore.accepts_iff.mp accepted
  have current := unbroken.held x found
  have held : p.holding? user device = some x.holding := by
    rw [untouched.held]
    unfold SessionStore.holding?
    rw [found]
    rfl
  obtain ⟨y, found', same⟩ := Option.map_eq_some_iff.mp held
  obtain ⟨revoked, hash, ends⟩ := Holding.mk.inj same
  refine SessionStore.isValid_iff.mpr ⟨y, here ▸ found', SessionStore.accepts_iff.mpr ?_⟩
  rw [revoked, hash, ends]
  exact ⟨live, current, digest⟩

/-- What holds at every moment, as long as nothing comes to its end. -/
structure Course (p : Pool) (w : World Memory) (operations : List Operation) (token : String)
    (user : Uuid) (device : String) : Prop where
  goes : p.Goes operations token user device
  phase : p.Untouched w operations token user device ∨ p.Rotated operations token user device
  issues : p.Issues w operations token user device

theorem course_start (c : Controller) (w : World Memory) (operations : List Operation)
    (token : String) (user : Uuid) (device : String) :
    (start c w operations).Course w operations token user device :=
  ⟨goes_start c w operations token user device, Or.inl ⟨rfl, fun _ _ => rfl⟩,
    issues_start c w operations token user device⟩

theorem Course.waited (course : p.Course w operations token user device) (time : Instant) :
    (p.waited time).Course w operations token user device := by
  obtain ⟨goes, phase, issues⟩ := course
  have held : ∀ d, (p.waited time).holding? user d = p.holding? user d := fun d =>
    congrArg (SessionStore.holding? · user d) (store_waited p time)
  refine ⟨goes, ?_, issues.later (past_waited p time) fun _ _ => rfl⟩
  rcases phase with ⟨same, early⟩ | ⟨others, i, pair, replays, latest⟩
  · exact Or.inl ⟨(held device).trans same, early⟩
  · refine Or.inr ⟨fun d away h found => others d away h (held d ▸ found), i, pair, replays, ?_⟩
    rw [held]
    exact latest

theorem Course.asked (course : p.Course w operations token user device)
    (replayed : w.Replayed operations token user device) (steady : p.Steady w)
    (mindful : p.Mindful w operations user) {call : Call}
    {next : call.Answer → Program (Result Response)}
    (current : p.threads[i]? = some (.ask call next))
    (unbroken : w.Unbroken p.world token user device)
    (distinct : w.DrawsDistinct (p.asked i call next).world) :
    (p.asked i call next).Course w operations token user device := by
  obtain ⟨goes, phase, issues⟩ := course
  have smooth := steady.smooth replayed.smooth
  have turn : p.Turn (p.asked i call next) operations token user device := by
    by_cases replays : Replays operations token device i
    · exact turn_replay smooth steady unbroken replays ((goes i replays).asks current)
    · exact turn_other replayed steady mindful current replays
  refine ⟨fun j replays => (goes j replays).asked current fun _ =>
    World.answers_answer unbroken steady.past smooth call, ?_,
    issues.asked steady goes current distinct⟩
  rcases phase with untouched | rotated
  · exact untouched.turn (fun identity here => untouched.accepts replayed unbroken here) turn
  · exact Or.inr (rotated.turn turn)

theorem course_play (replayed : w.Replayed operations token user device) (c : Controller)
    (moves : List Move)
    (unbroken : w.Unbroken ((start c w operations).play moves).world token user device) :
    ((start c w operations).play moves).Course w operations token user device := by
  have inv : ((start c w operations).play moves).Steady w ∧
      ((start c w operations).play moves).Mindful w operations user ∧
      (w.Unbroken ((start c w operations).play moves).world token user device →
        ((start c w operations).play moves).Course w operations token user device) := by
    refine play_induction (P := fun p => p.Steady w ∧ p.Mindful w operations user ∧
      (w.Unbroken p.world token user device → p.Course w operations token user device))
      ⟨steady_start replayed.smooth.clean replayed.reachable.consistent operations,
        mindful_start c w operations user, fun _ => course_start c w operations token user device⟩
      ?_ ?_ moves
    · rintro p time ⟨steady, mindful, course⟩
      have past := past_waited p time
      exact ⟨steady.waited time, mindful.waited time, fun unbroken =>
        (course (unbroken.earlier past.now past.idsDrawn)).waited time⟩
    · rintro p i call next ⟨steady, mindful, course⟩ current
      have past := (World.kept_answer p.world call).past
      refine ⟨steady.asked i call next, mindful.asked steady current, fun unbroken => ?_⟩
      have before := unbroken.earlier past.now past.idsDrawn
      exact (course before).asked replayed steady mindful current before unbroken.distinct
  exact inv.2.2 unbroken

/-! ### In the end -/

/-- A refresh token that is not that of one thread: the one presented, or one that another thread
was answered with. -/
def Superseded (p : Pool) (operations : List Operation) (token device : String) (j : Nat)
    (t : String) : Prop :=
  t = token ∨ ∃ i pair, i ≠ j ∧ Replays operations token device i ∧
    p.Ended i (.ok (.pair pair)) ∧ t = pair.refreshToken

/-- One thread has got a pair and has the one session of the user; every other token is refused,
unless it has the digest of the refresh token of the pair. -/
structure Survives (p : Pool) (c : Controller) (operations : List Operation) (token : String)
    (user : Uuid) (device : String) (j : Nat) (pair : TokenPair) : Prop where
  replays : Replays operations token device j
  answered : p.Ended j (.ok (.pair pair))
  opensLast : p.OpensLast user j
  sole : p.world.state.store.activeCount user p.world.now = 1
  held : ∃ x, p.world.state.store.session? user device = some x ∧
    x.isActiveAt p.world.now = true ∧ x.tokenHash = hashToken pair.refreshToken
  different : ∀ t, p.Superseded operations token device j t → t ≠ pair.refreshToken
  refused : ∀ t, p.Superseded operations token device j t →
    hashToken t ≠ hashToken pair.refreshToken → ∀ origin identity, origin.resolve = .ok identity →
      (p.world.serve c (.refresh t origin)).1 = .error Controller.tokenRevoked

/-- Where all threads have been answered, one has recorded last. -/
theorem Course.latest (course : p.Course w operations token user device)
    (started : ∃ i, Replays operations token device i)
    (returned : ∀ i, Replays operations token device i → ∃ result, p.Ended i result) :
    (∀ d, d ≠ device → ∀ h, p.holding? user d = some h → h.revoked = true) ∧
      ∃ j pair, Replays operations token device j ∧ p.stage j = .recorded pair ∧
        p.OpensLast user j ∧ p.holding? user device =
          some ⟨false, hashToken pair.refreshToken, pair.refreshExpiresAt⟩ := by
  have ends : ∀ i, Replays operations token device i →
      ∃ result, (p.stage i).Ends result := fun i replays => by
    obtain ⟨result, ended⟩ := returned i replays
    exact ⟨result, (course.goes i replays).result ended⟩
  rcases course.phase with untouched | ⟨others, j, pair, replays, waits | ⟨done, last, held⟩⟩
  · obtain ⟨i, replays⟩ := started
    obtain ⟨result, ended⟩ := ends i replays
    have early := untouched.early i replays
    cases stage : p.stage i <;> rw [stage] at ended early <;>
      first | exact ended.elim | cases early
  · obtain ⟨result, ended⟩ := ends j replays
    rw [waits] at ended
    exact ended.elim
  · exact ⟨others, j, pair, replays, done, last, held⟩

/-- A thread that was answered with a pair has recorded it. -/
theorem Course.recorded (course : p.Course w operations token user device)
    (replays : Replays operations token device i) {pair : TokenPair}
    (answered : p.Ended i (.ok (.pair pair))) : p.stage i = .recorded pair := by
  have ends : (p.stage i).Ends (.ok (.pair pair)) := (course.goes i replays).result answered
  cases stage : p.stage i with
  | recorded done =>
    rw [stage] at ends
    cases ends
    rfl
  | refused =>
    rw [stage] at ends
    cases ends
  | _ =>
    rw [stage] at ends
    exact ends.elim

theorem subject_superseded (course : p.Course w operations token user device)
    (unbroken : w.Unbroken p.world token user device) (past : w.Past p.world) {t : String}
    (superseded : p.Superseded operations token device j t) : subject? t = some user := by
  rcases superseded with rfl | ⟨i, pair, -, replays, answered, rfl⟩
  · obtain ⟨claims, checked, -, rfl⟩ := unbroken.parses w.now (Instant.lt_irrefl _) past.now
    exact subject?_of_check checked
  · have stage := course.recorded replays answered
    exact (course.issues.minted i pair replays (by rw [stage]; rfl)).1.subject

theorem different_superseded (course : p.Course w operations token user device)
    (unbroken : w.Unbroken p.world token user device) (past : w.Past p.world) {pair : TokenPair}
    (replays : Replays operations token device j) (done : p.stage j = .recorded pair) {t : String}
    (superseded : p.Superseded operations token device j t) : t ≠ pair.refreshToken := by
  have found : (p.stage j).pair? = some pair := by rw [done]; rfl
  rcases superseded with rfl | ⟨i, pair', apart, replays', answered, rfl⟩
  · obtain ⟨⟨n, issued, low, high, signed⟩, -⟩ := course.issues.minted j pair replays found
    obtain ⟨claims, checked, -⟩ := unbroken.parses w.now (Instant.lt_irrefl _) past.now
    rintro rfl
    refine unbroken.foreign claims checked n low high ?_
    rw [signed, past.issuer] at checked
    rw [Issuer.check_sign_eq checked, past.ids]
    rfl
  · have stage := course.recorded replays' answered
    exact course.issues.different i j pair' pair apart replays' replays (by rw [stage]; rfl) found

/-- A session was opened for the token, and all requests present it. -/
theorem replayed_opened (smooth : w.Smooth) (noSessions : w.state.store = {}) {origin : DeviceMetadata}
    {identity : DeviceIdentity} (resolved : origin.resolve = .ok identity) {expiresAt : Instant}
    (id : Uuid) (current : w.now < expiresAt)
    (same : ∀ r ∈ operations, r = .refresh (w.mint user expiresAt id) origin) :
    (w.opened user identity expiresAt id).Replayed operations (w.mint user expiresAt id) user
      identity.id where
  smooth := smooth.of_kept (w.kept_afterCall _)
  reachable := by
    unfold World.opened World.afterCall
    rw [noSessions]
    exact .answer _ _ .empty
  held := SessionStore.isValid_iff.mp (w.opened_accepts user identity id current)
  only r member _ := ⟨origin, identity, same r member, resolved, rfl⟩

/-- While the clock stands still nothing comes to its end. -/
theorem undisturbed_opened (late : 5 ≤ w.now.secs) {v : World Memory} {identity : DeviceIdentity}
    {expiresAt : Instant} (id : Uuid) (current : w.now < expiresAt)
    (lasting : 0 < w.issuer.lifetime .refresh) (now : v.now = w.now)
    (ids : ∀ i < v.idsDrawn, ∀ j < v.idsDrawn, w.ids i = w.ids j → i = j)
    (foreign : ∀ n < v.idsDrawn, w.ids n ≠ id) :
    (w.opened user identity expiresAt id).Undisturbed v (w.mint user expiresAt id) user
      identity.id where
  parses t low high := by
    rw [now] at high
    have later := Instant.secs_le_of_not_lt (s := w.now) (t := t) low
    have earlier := Instant.secs_le_of_not_lt high
    have ends := Instant.secs_le_of_lt current
    exact ⟨_, w.issuer.check_claims .refresh user w.now id (by omega) (by omega), rfl, rfl⟩
  held x found := by
    have recorded := (SessionStore.session?_create w.state.store user
      (hashToken (w.mint user expiresAt id)) expiresAt identity w.now user identity.id).symm.trans found
    rw [if_pos ⟨rfl, rfl⟩] at recorded
    rw [now, ← Option.some.inj recorded]
    exact current
  lasting e expiry := by
    rw [now]
    exact World.lt_of_expiry lasting expiry
  distinct i j _ high _ high' same := ids i high j high' same
  foreign claims checked n _ high := by
    rw [Issuer.check_sign_eq checked]
    exact foreign n high

/-- Two refreshes that have both found their token good are both answered with a pair. -/
theorem both_answered (c : Controller) {origin : DeviceMetadata} {identity : DeviceIdentity}
    (ready : w.Ready token origin user identity) :
    ∃ moves pair pair', ((start c w [.refresh token origin, .refresh token origin]).play moves).Ended
        0 (.ok (.pair pair)) ∧
      ((start c w [.refresh token origin, .refresh token origin]).play moves).Ended
        1 (.ok (.pair pair')) ∧
      ((start c w [.refresh token origin, .refresh token origin]).play moves).world.now = w.now ∧
      ((start c w [.refresh token origin, .refresh token origin]).play moves).world.idsDrawn =
        w.idsDrawn + 4 := by
  obtain ⟨smooth, canIssue, -, presents, valid⟩ := ready
  -- Both find the token good.
  obtain ⟨first, world₁, threads₁⟩ := play_enter (i := 0)
    (p := start c w [.refresh token origin, .refresh token origin]) smooth presents valid rfl rfl
  have kept₁ := w.kept_afterCall (.isValid user identity token)
  obtain ⟨second, world₂, threads₂⟩ := play_enter (i := 1) (smooth.of_kept kept₁)
    ⟨presents.parsed, presents.resolved⟩ (World.accepts_again valid) world₁ (by rw [threads₁]; rfl)
  have kept₂ := kept₁.trans (World.kept_afterCall _ (.isValid user identity token))
  -- Then both rotate.
  obtain ⟨third, pair, w₃, world₃, threads₃, kept₃, -, drawn₃, -⟩ := play_conclude (i := 0)
    (smooth.of_kept kept₂) (canIssue.of_kept kept₂) world₂ (by rw [threads₂, threads₁]; rfl)
  have kept₄ := kept₂.trans kept₃
  obtain ⟨fourth, pair', w₄, world₄, threads₄, kept₅, -, drawn₄, -⟩ := play_conclude (i := 1)
    (smooth.of_kept kept₄) (canIssue.of_kept kept₄) world₃ (by rw [threads₃, threads₂, threads₁]; rfl)
  refine ⟨first ++ (second ++ (third ++ fourth)), pair, pair', ?_⟩
  rw [play_append, play_append, play_append, world₄]
  unfold Ended
  rw [threads₄, threads₃, threads₂, threads₁]
  refine ⟨rfl, rfl, (kept₄.trans kept₅).now, ?_⟩
  rw [drawn₄, drawn₃]
  rfl

/-- A refresh that has found its token good fails where no refresh token can be issued. -/
theorem rotation_fails (c : Controller) (smooth : w.Smooth) {origin : DeviceMetadata}
    {identity : DeviceIdentity} (presents : w.Presents token origin user identity)
    (valid : w.accepts user identity token = true) {accessEnds : Instant} {e : Error}
    (access : w.issuer.expiry .access w.now = .ok accessEnds)
    (refresh : w.issuer.expiry .refresh w.now = .error e) :
    ∃ moves e', ((start c w [.refresh token origin]).play moves).threads = [.done (.error e')] ∧
      ((start c w [.refresh token origin]).play moves).world.now = w.now ∧
      ((start c w [.refresh token origin]).play moves).world.idsDrawn = w.idsDrawn + 1 := by
  obtain ⟨first, world₁, threads₁⟩ := play_enter (i := 0)
    (p := start c w [.refresh token origin]) smooth presents valid rfl rfl
  have kept := w.kept_afterCall (.isValid user identity token)
  obtain ⟨e', w', failing, drawn⟩ :=
    (smooth.of_kept kept).issueFor_fails access refresh "refresh" user
  have rotating : (w.afterCall (.isValid user identity token)).Runs (c.conclude user identity)
      (.error e') [] w' := by
    unfold Controller.conclude Controller.rotate
    exact failing.bind_error.bind_error
  obtain ⟨second, world₂, threads₂⟩ := play_done (i := 0) (by rw [threads₁]; rfl) world₁ rotating
  refine ⟨first ++ second, e', ?_⟩
  rw [play_append, world₂, threads₂, threads₁]
  exact ⟨rfl, (kept.trans failing.kept).now, drawn⟩

/-- In every order of the calls, where several refreshes present one good token from its device
while nothing comes to its end, pairs can be issued and no identifier is drawn twice, the one that
records last has the one session of the user in the end, and every other token is refused. -/
theorem replay_leaves_last (c : Controller) {w : World Memory} {operations : List Operation}
    {token : String} {user : Uuid} {device : String}
    (replayed : w.Replayed operations token user device)
    (started : ∃ i, Replays operations token device i) (moves : List Move)
    (returned : ∀ i, Replays operations token device i →
      ∃ result, ((start c w operations).play moves).Ended i result)
    (unbroken : w.Unbroken ((start c w operations).play moves).world token user device) :
    ∃ j pair, ((start c w operations).play moves).Survives c operations token user device j pair := by
  have course := course_play replayed c moves unbroken
  have steady := (steady_start (c := c) replayed.smooth.clean replayed.reachable.consistent
    operations).play moves
  have smooth := steady.smooth replayed.smooth
  generalize (start c w operations).play moves = p at *
  obtain ⟨others, j, pair, replays, done, last, held⟩ := course.latest started returned
  obtain ⟨x, found, same⟩ := Option.map_eq_some_iff.mp held
  obtain ⟨revoked, hash, ends⟩ := Holding.mk.inj same
  have complete : (p.stage j).pair? = some pair := by rw [done]; rfl
  obtain ⟨-, t, later, expiry⟩ := course.issues.minted j pair replays complete
  have current := unbroken.lasts steady.past later expiry
  have active : x.isActiveAt p.world.now = true := by
    simp [Session.isActiveAt, revoked, ends, current]
  have inactive : ∀ d y, d ≠ device → p.world.state.store.session? user d = some y →
      y.revoked = true := by
    intro d y away present
    refine others d away y.holding ?_
    unfold holding? SessionStore.holding?
    rw [present]
    rfl
  refine ⟨j, pair, replays, ?_, last, ?_, ⟨x, found, active, hash⟩, ?_, ?_⟩
  · obtain ⟨result, ended⟩ := returned j replays
    have ends : (p.stage j).Ends result := (course.goes j replays).result ended
    rw [done] at ends
    obtain rfl : result = .ok (.pair pair) := ends
    exact ended
  · refine steady.consistent.activeCount_eq_one found active fun d y away present => ?_
    simp [Session.isActiveAt, inactive d y away present]
  · exact fun t superseded => different_superseded course unbroken steady.past replays done superseded
  · intro t superseded apart origin identity resolved
    refine smooth.refresh_stale c resolved
      (subject_superseded course unbroken steady.past superseded) ?_
    by_contra accepted
    obtain ⟨y, present, accepts⟩ := SessionStore.isValid_iff.mp (eq_true_of_ne_false accepted)
    obtain ⟨live, -, digest⟩ := SessionStore.accepts_iff.mp accepts
    by_cases here : identity.id = device
    · rw [here, found] at present
      obtain rfl := Option.some.inj present
      exact apart (digest.symm.trans hash)
    · rw [inactive identity.id y here present] at live
      cases live

theorem replay_leaves_last_of_two : ∃ (w : World Memory) (token : String) (origin : DeviceMetadata)
    (device : String) (moves : List Move) (j : Nat) (pair : TokenPair),
    ((start ⟨⟨0⟩⟩ w [.refresh token origin, .refresh token origin]).play moves).Survives ⟨⟨0⟩⟩
      [.refresh token origin, .refresh token origin] token soleUser.id device j pair := by
  obtain ⟨identity, resolved⟩ := World.soleOrigin_resolves
  have current : (World.small (.ofSecs 1000)).now < .ofSecs 2000 := by decide
  have ready := World.small_ready resolved (.ofSecs 2000) current soleUser.id
  obtain ⟨moves, pair, pair', first, second, now, drawn⟩ := both_answered ⟨⟨0⟩⟩ ready
  refine Exists.elim (replay_leaves_last ⟨⟨0⟩⟩
    (replayed_opened (World.small_smooth (.ofSecs 1000)) rfl resolved soleUser.id current (by simp))
    ⟨0, _, rfl, soleOrigin, identity, rfl, resolved, rfl⟩ moves ?_
    ⟨undisturbed_opened (by decide) soleUser.id current (by decide) now ?_ ?_, ?_⟩) ?_
  · rintro i ⟨r, found, -⟩
    match i with
    | 0 => exact ⟨_, first⟩
    | 1 => exact ⟨_, second⟩
    | n + 2 => cases found
  · rw [drawn]
    exact (by decide : ∀ i < 4, ∀ j < 4, (World.small (.ofSecs 1000)).ids i =
      (World.small (.ofSecs 1000)).ids j → i = j)
  · rw [drawn]
    exact (by decide : ∀ n < 4, (World.small (.ofSecs 1000)).ids n ≠ soleUser.id)
  · intro t low high
    rw [now] at high
    rw [← Instant.eq_of_not_lt low high]
    exact ready.canIssue
  · rintro j ⟨pair, survives⟩
    exact ⟨_, _, soleOrigin, identity.id, moves, j, pair, survives⟩

/-- That nothing comes to its end is not enough: where time ends before a new token would, no refresh
succeeds. -/
theorem replay_may_leave_none :
    ¬∀ (c : Controller) (w : World Memory) (operations : List Operation) (token : String)
      (user : Uuid) (device : String), w.Replayed operations token user device →
      (∃ i, Replays operations token device i) → ∀ moves : List Move,
      (∀ i, Replays operations token device i →
        ∃ result, ((start c w operations).play moves).Ended i result) →
      w.Undisturbed ((start c w operations).play moves).world token user device →
      ∃ j pair, ((start c w operations).play moves).Ended j (.ok (.pair pair)) := by
  intro claimed
  obtain ⟨identity, resolved⟩ := World.soleOrigin_resolves
  have smooth := World.small_smooth (.ofSecs 8210266272000)
  have current : (World.small (.ofSecs 8210266272000)).now < .ofSecs 8210266272100 := by decide
  have access : (World.small (.ofSecs 8210266272000)).issuer.expiry .access
      (.ofSecs 8210266272000) = .ok (.ofSecs 8210266273800) := rfl
  obtain ⟨e, refresh⟩ : ∃ e, (World.small (.ofSecs 8210266272000)).issuer.expiry .refresh
      (.ofSecs 8210266272000) = .error e := ⟨_, rfl⟩
  have kept : (World.small (.ofSecs 8210266272000)).Kept ((World.small
      (.ofSecs 8210266272000)).opened soleUser.id identity (.ofSecs 8210266272100) soleUser.id) :=
    World.kept_afterCall _ _
  obtain ⟨moves, e', threads, now, drawn⟩ := rotation_fails ⟨⟨0⟩⟩ (smooth.of_kept kept)
    (World.opened_presents (World.small (.ofSecs 8210266272000)) soleUser.id soleUser.id (by decide)
      current resolved)
    (World.opened_accepts _ _ _ _ current) access refresh
  refine Exists.elim (claimed ⟨⟨0⟩⟩ _ _ _ soleUser.id identity.id
    (replayed_opened smooth rfl resolved soleUser.id current (by simp))
    ⟨0, _, rfl, soleOrigin, identity, rfl, resolved, rfl⟩ moves ?_
    (undisturbed_opened (by decide) soleUser.id current (by decide) now ?_ ?_)) ?_
  · rintro i ⟨r, found, -⟩
    unfold Ended
    rw [threads]
    match i with
    | 0 => exact ⟨_, rfl⟩
    | n + 1 => cases found
  · rw [drawn]
    exact (by decide : ∀ i < 1, ∀ j < 1, (World.small (.ofSecs 8210266272000)).ids i =
      (World.small (.ofSecs 8210266272000)).ids j → i = j)
  · rw [drawn]
    exact (by decide : ∀ n < 1, (World.small (.ofSecs 8210266272000)).ids n ≠ soleUser.id)
  · rintro j ⟨pair, answered⟩
    unfold Ended at answered
    rw [threads] at answered
    match j with
    | 0 => cases answered
    | n + 1 => cases answered

end Pool

end DeviceSessions
