import DeviceSessions.Proofs.Concurrency.Pool

/-!
# Logging out beside other requests

A logout revokes once, and what is recorded after that stays. So a refresh whose token was found good
before the logout can still open a session after it. That is the only way besides a login: from the
moment of the revocation on, no token of the user is found good again.
-/

namespace DeviceSessions

namespace Pool

variable {p : Pool} {w : World Memory} {c : Controller} {operations : List Operation} {user : Uuid}
  {front back : List (Nat × Exchange)} {i : Nat}

/-- A request of those that are served is a login of a user. -/
def IsLogin (w : World Memory) (operations : List Operation) (user : Uuid) (i : Nat) : Prop :=
  ∃ r, operations[i]? = some r ∧ w.LoginOf user r

/-- A thread has revoked all sessions of a user between two parts of the trace. -/
def Revoked (p : Pool) (user : Uuid) (i : Nat) (front back : List (Nat × Exchange)) : Prop :=
  ∃ e, p.trace = front ++ (i, e) :: back ∧ e.revokes user = true

/-- Later calls come neither from logins of the user nor do they record what was cleared before. -/
structure Apart (w : World Memory) (operations : List Operation) (user : Uuid)
    (front back : List (Nat × Exchange)) : Prop where
  noLogin : ∀ i e, (i, e) ∈ back → ¬IsLogin w operations user i
  noRotation : ∀ i e, (i, e) ∈ back → e.opens user = true →
    ∀ f, (i, f) ∈ front → ¬f.clears user = true

/-- All sessions of a user are revoked, and since then no token of the user was found good. -/
structure Barred (p : Pool) (user : Uuid) (back : List (Nat × Exchange)) : Prop where
  revoked : p.world.state.store.All fun u _ x => u = user → x.revoked = true
  uncleared : ∀ i e, (i, e) ∈ back → ¬e.clears user = true

/-! ### After the revocation -/

theorem barred_revoked (steady : p.Steady w) {call : Call}
    {next : call.Answer → Program (Result Response)}
    (revokes : (p.exchange call).revokes user = true) : (p.asked i call next).Barred user [] := by
  refine ⟨?_, fun _ _ member => by cases member⟩
  have revoking := of_decide_eq_true revokes
  rcases exchange_cases steady.clean i call next with ⟨none, -⟩ | ⟨made, same, store⟩
  · rw [none] at revoking
    cases revoking
  · rw [same] at revoking
    obtain rfl : made = .revokeAll user := Option.some.inj revoking
    rw [store]
    intro u d x found mine
    have known := (steady.consistent.session?_revokeAll user u d).symm.trans found
    obtain ⟨y, -, rfl⟩ := Option.map_eq_some_iff.mp known
    rw [if_pos mine]
    rfl

theorem lasting_revoked (user : Uuid) :
    SessionStore.Lasting fun u _ x => u = user → x.revoked = true :=
  ⟨fun _ _ => rfl, fun _ holds => holds⟩

theorem records_of_opens {call : Call} (opened : (p.exchange call).opens user = true) :
    ∃ asked, call.store? = some asked ∧ asked.records user = true := by
  obtain ⟨hash, expiresAt, device, made⟩ := Exchange.made?_of_opens opened
  obtain ⟨a, same⟩ := Exchange.made?_eq_some made
  obtain rfl : call = .store (.create user hash expiresAt device) := congrArg Exchange.call same
  exact ⟨_, rfl, decide_eq_true rfl⟩

/-- Revoked sessions stay revoked, and their tokens are not good, until one is recorded. -/
theorem Barred.asked (barred : p.Barred user back) (steady : p.Steady w) {call : Call}
    {next : call.Answer → Program (Result Response)}
    (unopened : (p.exchange call).opens user = false) :
    (p.asked i call next).Barred user (back ++ [(i, p.exchange call)]) := by
  have uncleared : ¬(p.exchange call).clears user = true →
      ∀ j e, (j, e) ∈ back ++ [(i, p.exchange call)] → ¬e.clears user = true := by
    intro last j e member
    rcases List.mem_append.mp member with old | new
    · exact barred.uncleared j e old
    · cases List.mem_singleton.mp new
      exact last
  rcases exchange_cases steady.clean i call next with ⟨none, store⟩ | ⟨made, same, store⟩
  · refine ⟨?_, uncleared ?_⟩
    · rw [store]
      exact barred.revoked
    · intro good
      obtain ⟨device, token, same⟩ := Exchange.clears_made good
      rw [same] at none
      cases none
  · refine ⟨?_, uncleared ?_⟩
    · rw [store]
      refine barred.revoked.answer (lasting_revoked user) _ ?_
      rintro owner hash expiresAt device rfl mine
      rw [same] at unopened
      exact absurd mine (of_decide_eq_false unopened)
    · intro good
      obtain ⟨device, token, valid⟩ := Exchange.clears_made good
      obtain ⟨rfl, accepted⟩ := Exchange.answered_inj (same.symm.trans valid)
      obtain ⟨x, found, accepts⟩ := SessionStore.isValid_iff.mp accepted
      rw [SessionStore.accepts_iff, barred.revoked user device.id x found rfl] at accepts
      cases accepts.1

/-- From the moment of a revocation on the user is barred, if later calls are apart. -/
def Settled (p : Pool) (w : World Memory) (operations : List Operation) (user : Uuid) : Prop :=
  ∀ i front back, p.Revoked user i front back → Apart w operations user front back →
    p.Barred user back

theorem Settled.asked (settled : p.Settled w operations user) (steady : p.Steady w)
    (mindful : p.Mindful w operations user) {call : Call}
    {next : call.Answer → Program (Result Response)}
    (current : p.threads[i]? = some (.ask call next)) :
    (p.asked i call next).Settled w operations user := by
  rintro j front back ⟨e, cut, revokes⟩ apart
  change p.trace ++ [(i, p.exchange call)] = front ++ (j, e) :: back at cut
  rcases List.eq_nil_or_concat' back with rfl | ⟨back, last, rfl⟩
  · obtain ⟨-, same⟩ := List.append_inj' cut rfl
    cases same
    exact barred_revoked steady revokes
  · rw [← List.cons_append, ← List.append_assoc] at cut
    obtain ⟨before, same⟩ := List.append_inj' cut rfl
    obtain rfl : last = (i, p.exchange call) := (List.cons.inj same).1.symm
    have barred := settled j front back ⟨e, before, revokes⟩
      ⟨fun k f member => apart.noLogin k f (List.mem_append_left _ member),
        fun k f member => apart.noRotation k f (List.mem_append_left _ member)⟩
    have latest : (i, p.exchange call) ∈ back ++ [(i, p.exchange call)] := by simp
    refine barred.asked steady ?_
    by_contra closed
    have opened := eq_true_of_ne_false closed
    obtain ⟨asked, same, records⟩ := records_of_opens opened
    obtain ⟨r, found⟩ := mindful.operation current
    rcases ((mindful.follows i r found).asks current asked same).2 records with login | cleared
    · exact apart.noLogin _ _ latest ⟨r, found, login⟩
    · rw [fold_cleared, Bool.false_or, List.any_eq_true] at cleared
      obtain ⟨f, member, good⟩ := cleared
      rw [mem_past, before] at member
      rcases List.mem_append.mp member with early | late
      · exact apart.noRotation _ _ latest opened f early good
      · rcases List.mem_cons.mp late with here | late
        · cases here
          exact Exchange.not_clears_of_revokes revokes good
        · exact barred.uncleared i f late good

theorem Settled.play (settled : p.Settled w operations user) (steady : p.Steady w)
    (mindful : p.Mindful w operations user) (moves : List Move) :
    (p.play moves).Mindful w operations user ∧ (p.play moves).Settled w operations user := by
  have inv : (p.play moves).Steady w ∧ (p.play moves).Mindful w operations user ∧
      (p.play moves).Settled w operations user := by
    refine play_induction (P := fun p => p.Steady w ∧ p.Mindful w operations user ∧
      p.Settled w operations user) ⟨steady, mindful, settled⟩ ?_ ?_ moves
    · rintro p time ⟨steady, mindful, settled⟩
      refine ⟨steady.waited time, mindful.waited time, ?_⟩
      intro i front back revoked apart
      obtain ⟨all, uncleared⟩ := settled i front back revoked apart
      refine ⟨?_, uncleared⟩
      rw [store_waited]
      exact all
    · rintro p i call next ⟨steady, mindful, settled⟩ current
      exact ⟨steady.asked i call next, mindful.asked steady current,
        settled.asked steady mindful current⟩
  exact inv.2

theorem settled_start (c : Controller) (w : World Memory) (operations : List Operation)
    (user : Uuid) : (start c w operations).Settled w operations user := by
  rintro i front back ⟨e, cut, -⟩
  cases front <;> cases cut

/-- A logout that has succeeded has revoked at some moment. -/
theorem revoked_of_ended (clean : w.Clean) (reachable : w.state.store.Reachable)
    {moves : List Move} (logout : operations[i]? = some (.logout user))
    (returned : ((start c w operations).play moves).Ended i (.ok .done)) :
    ∃ front back, ((start c w operations).play moves).Revoked user i front back := by
  have steady := steady_start (c := c) clean reachable.consistent operations
  have mindful := ((settled_start c w operations user).play steady
    (mindful_start c w operations user) moves).1
  have revoked := (mindful.follows i _ logout).result returned rfl rfl
  rw [fold_revoked, Bool.false_or, List.any_eq_true] at revoked
  obtain ⟨e, member, revokes⟩ := revoked
  obtain ⟨front, back, cut⟩ := List.append_of_mem (mem_past.mp member)
  exact ⟨front, back, e, cut, revokes⟩

/-- A logout alone revokes, and then it is done. -/
theorem logout_alone (c : Controller) (w : World Memory) (user : Uuid) :
    ∃ e, e.opens user = false ∧
      ((start c { w with faults := fun _ => none } [.logout user]).play
        [.advance 0, .advance 0]).Ended 0 (.ok .done) ∧
      ((start c { w with faults := fun _ => none } [.logout user]).play
        [.advance 0, .advance 0]).Revoked user 0 [] [(0, e)] :=
  ⟨_, rfl, rfl, _, rfl, decide_eq_true rfl⟩

/-- In every order of the calls of any requests, once a logout has succeeded its user has no active
session, if from the moment of its revocation on no login of the user makes a call, and no session of
the user is recorded for a token that was found good before. -/
theorem logout_final (c : Controller) {w : World Memory} (clean : w.Clean)
    (reachable : w.state.store.Reachable) (operations : List Operation) (moves : List Move)
    {user : Uuid} {i : Nat} (logout : operations[i]? = some (.logout user))
    (returned : ((start c w operations).play moves).Ended i (.ok .done)) :
    (∃ front back, ((start c w operations).play moves).Revoked user i front back) ∧
    ∀ front back, ((start c w operations).play moves).Revoked user i front back →
      Apart w operations user front back → ∀ now,
        ((start c w operations).play moves).world.state.store.activeCount user now = 0 := by
  refine ⟨revoked_of_ended clean reachable logout returned, fun front back revoked apart now => ?_⟩
  have steady := steady_start (c := c) clean reachable.consistent operations
  obtain ⟨-, settled⟩ := (settled_start c w operations user).play steady
    (mindful_start c w operations user) moves
  have barred := settled i front back revoked apart
  refine (steady.play moves).consistent.activeCount_eq_zero fun d x found => ?_
  simp [Session.isActiveAt, barred.revoked user d x found rfl]

theorem logout_final_alone : ∃ (token : String) (device : DeviceIdentity) (w : World Memory),
    w.accepts soleUser.id device token = true ∧
      ((start ⟨⟨0⟩⟩ w [.logout soleUser.id]).play
        [.advance 0, .advance 0]).world.state.store.activeCount soleUser.id w.now = 0 := by
  obtain ⟨device, resolved⟩ := World.soleOrigin_resolves
  have ready := World.small_ready resolved (.ofSecs 2000) (by decide) soleUser.id
  obtain ⟨e, opens, ended, revoked⟩ := logout_alone ⟨⟨0⟩⟩
    ((World.small (.ofSecs 1000)).opened soleUser.id device (.ofSecs 2000) soleUser.id) soleUser.id
  refine ⟨_, device, _, ready.accepts, (logout_final ⟨⟨0⟩⟩ ready.smooth.clean ready.reachable
    [.logout soleUser.id] [.advance 0, .advance 0] rfl ended).2 [] [(0, e)] revoked ⟨?_, ?_⟩ _⟩
  · rintro j f - ⟨r, found, ⟨credentials, origin, same⟩, -⟩
    obtain rfl := List.mem_singleton.mp (List.mem_of_getElem? found)
    cases same
  · rintro j f - - f' member
    cases member

/-- A logout that comes between the check of a token and the rotation does not stop the rotation. -/
theorem rotation_overtakes (c : Controller) {token : String} {origin : DeviceMetadata}
    {device : DeviceIdentity} (ready : w.Ready token origin user device)
    (lasting : 0 < w.issuer.lifetime .refresh) :
    ∃ moves, ((start c w [.refresh token origin, .logout user]).play moves).Ended 1 (.ok .done) ∧
      ((start c w [.refresh token origin, .logout user]).play moves).world.state.store.activeCount
        user w.now = 1 := by
  obtain ⟨smooth, canIssue, reachable, presents, valid⟩ := ready
  -- The token is found good.
  obtain ⟨first, world₁, threads₁⟩ := play_enter (p := start c w [.refresh token origin, .logout user])
    (i := 0) smooth presents valid rfl rfl
  have checked := w.kept_afterCall (.isValid user device token)
  -- The user logs out.
  have smooth₁ := smooth.of_kept checked
  obtain ⟨calls, leaving, -⟩ := World.serve_cases smooth₁.clean c (.logout user)
  rw [(smooth₁.logout_accepts c user).1] at leaving
  obtain ⟨second, world₂, threads₂⟩ := play_done (i := 1) (by rw [threads₁]; rfl) world₁ leaving
  have kept := checked.trans leaving.kept
  -- The refresh goes on.
  obtain ⟨third, pair, w₃, world₃, threads₃, -, issued, -, store⟩ := play_conclude (i := 0)
    (smooth.of_kept kept) (canIssue.of_kept kept) world₂ (by rw [threads₂, threads₁]; rfl)
  refine ⟨first ++ (second ++ third), ?_⟩
  rw [play_append, play_append]
  constructor
  · unfold Ended
    rw [threads₃, threads₂, threads₁]
    rfl
  · have expiry := issued.refresh
    rw [kept.issuer, kept.now] at expiry
    rw [world₃, store]
    refine SessionStore.Consistent.activeCount_create ?_ user _ device _
      (World.lt_of_expiry lasting expiry)
    rw [leaving.store smooth₁.clean]
    exact (SessionStore.consistent_answer reachable.consistent _ _).follow _ _

theorem no_login {token : String} {origin : DeviceMetadata} {owner : Uuid} (i : Nat) :
    ¬IsLogin w [.refresh token origin, .logout owner] user i := by
  rintro ⟨r, found, ⟨credentials, origin', same⟩, -⟩
  rcases List.mem_pair.mp (List.mem_of_getElem? found) with rfl | rfl <;> cases same

/-- A logout is not final where only logins are kept out. -/
theorem logout_not_final :
    ¬∀ (c : Controller) (w : World Memory), w.Clean → w.state.store.Reachable →
      ∀ (operations : List Operation) (moves : List Move) (user : Uuid) (i : Nat),
        operations[i]? = some (.logout user) →
        ((start c w operations).play moves).Ended i (.ok .done) →
        ∀ front back, ((start c w operations).play moves).Revoked user i front back →
          (∀ j e, (j, e) ∈ back → ¬IsLogin w operations user j) →
          ∀ now, ((start c w operations).play moves).world.state.store.activeCount user now = 0 := by
  intro claimed
  obtain ⟨device, resolved⟩ := World.soleOrigin_resolves
  have ready := World.small_ready resolved (.ofSecs 2000) (by decide) soleUser.id
  have lasting : 0 < (World.small (.ofSecs 1000)).issuer.lifetime .refresh := by decide
  obtain ⟨moves, returned, active⟩ := rotation_overtakes ⟨⟨0⟩⟩ ready lasting
  obtain ⟨front, back, revoked⟩ := revoked_of_ended ready.smooth.clean ready.reachable rfl returned
  refine absurd (active.symm.trans (claimed ⟨⟨0⟩⟩ _ ready.smooth.clean ready.reachable _ moves
    soleUser.id 1 rfl returned front back revoked ?_ _)) (by decide)
  exact fun j _ _ => no_login j

end Pool

end DeviceSessions
