import DeviceSessions.Proofs.Controller.History
import DeviceSessions.Proofs.Controller.Likeness

/-!
# Users do not interfere

The requests of all users but one can be taken out of a history: what remains is answered as before,
and the rows of the one user are the same after every step, the numbers of sessions apart. For that
the clock has to show the same times, and the identifiers that the remaining requests draw have to be
the same, so they are fed to the shorter history in their order.
-/

namespace DeviceSessions

namespace SessionStore

/-- Two stores have the same rows of a user, the numbers of sessions apart. -/
structure SameRows (s s' : SessionStore) (user : Uuid) : Prop where
  devices : ∀ d, s'.device? user d = s.device? user d
  sessions : ∀ d, (s'.session? user d).map Session.unnumbered =
    (s.session? user d).map Session.unnumbered

theorem Shares.sameRows {s s' : SessionStore} {user : Uuid} (shares : s.Shares s' user) :
    s.SameRows s' user :=
  ⟨shares.device?, shares.session?⟩

theorem shares_follow {s : SessionStore} (sound : s.Sound) (now : Instant) {calls : List StoreCall}
    {user : Uuid} (others : ∀ call ∈ calls, call.isQuery = true ∨ call.user ≠ user) :
    s.Shares (s.follow now calls) user ∧ (s.follow now calls).Sound := by
  induction calls generalizing s with
  | nil => exact ⟨shares_refl s user, sound⟩
  | cons call calls ih =>
    obtain ⟨shares, last⟩ := ih (sound_answer sound now call)
      fun other member => others other (List.mem_cons_of_mem _ member)
    refine ⟨Shares.trans ?_ shares, last⟩
    rcases others call List.mem_cons_self with query | other
    · rw [answer_query s now query]
      exact shares_refl s user
    · exact shares_other sound.consistent now other

end SessionStore

namespace World

/-- Whether a request remains: the user's do, and of those that are nobody's and no logins a given
choice does. -/
def remains (w : World Memory) (user : Uuid) (stays : Operation → Bool) (r : Operation) : Bool :=
  match w.owner? r with
  | some owner => owner = user
  | none => !r.isLogin && stays r

/-- Whether a thing that happens remains. -/
def keeps (w : World Memory) (user : Uuid) (stays : Operation → Bool) : Happening → Bool
  | .serve r => w.remains user stays r
  | _ => true

/-- A history without the requests that do not remain. -/
def own (c : Controller) (user : Uuid) (stays : Operation → Bool) :
    World Memory → List Happening → List Happening
  | _, [] => []
  | w, s :: steps =>
    if w.keeps user stays s then s :: own c user stays (w.step c s) steps
    else own c user stays (w.step c s) steps

/-- The identifiers that are drawn from one world to another. -/
def drawnUntil (v w : World Memory) : List Uuid :=
  (List.range (w.idsDrawn - v.idsDrawn)).map fun k => v.ids (v.idsDrawn + k)

/-- The identifiers that what remains of a history draws. -/
def draws (c : Controller) (user : Uuid) (stays : Operation → Bool) :
    World Memory → List Happening → List Uuid
  | _, [] => []
  | w, s :: steps =>
    if w.keeps user stays s then w.drawnUntil (w.step c s) ++ draws c user stays (w.step c s) steps
    else draws c user stays (w.step c s) steps

/-- The next identifiers of a world are those of a list. -/
def Fed (v : World Memory) (list : List Uuid) : Prop :=
  ∀ k id, list[k]? = some id → v.ids (v.idsDrawn + k) = id

variable {v v' w : World Memory} {c : Controller} {user : Uuid} {stays : Operation → Bool}
  {r : Operation} {s : Happening}

theorem remains_of_owner {owner : Uuid} (owned : w.owner? r = some owner) :
    w.remains user stays r = decide (owner = user) := by
  unfold remains
  rw [owned]

theorem remains_of_nobody (nobody : w.owner? r = none) :
    w.remains user stays r = (!r.isLogin && stays r) := by
  unfold remains
  rw [nobody]

theorem keeps_serve (w : World Memory) (user : Uuid) (stays : Operation → Bool) (r : Operation) :
    w.keeps user stays (.serve r) = w.remains user stays r := rfl

theorem own_foreign (foreign : w.keeps user stays s = false) (steps : List Happening) :
    w.own c user stays (s :: steps) = (w.step c s).own c user stays steps := by
  rw [own, foreign]
  rfl

theorem owner?_login {credentials : Credentials} {known : User} (origin : DeviceMetadata)
    (found : w.state.directory.find? credentials.email = some known) :
    w.owner? (.login credentials origin) = some known.id :=
  congrArg (Option.map User.id) found

theorem draws_append (c : Controller) (user : Uuid) (stays : Operation → Bool) (w : World Memory)
    (first second : List Happening) :
    w.draws c user stays (first ++ second) =
      w.draws c user stays first ++ (w.after c first).draws c user stays second := by
  induction first generalizing w with
  | nil => rfl
  | cons s first ih =>
    change (if w.keeps user stays s then _ else _) = (if w.keeps user stays s then _ else _) ++ _
    split
    · rw [List.append_assoc]
      exact congrArg (_ ++ ·) (ih _)
    · exact ih _

/-! ### One step -/

theorem length_drawnUntil (v w : World Memory) :
    (v.drawnUntil w).length = w.idsDrawn - v.idsDrawn := by
  rw [drawnUntil, List.length_map, List.length_range]

theorem Fed.feeds {rest : List Uuid} (fed : v'.Fed (v.drawnUntil w ++ rest)) : v.Feeds w v' := by
  intro k low
  refine fed k _ ?_
  have bound : k < w.idsDrawn - v.idsDrawn := by omega
  rw [List.getElem?_append_left (by rw [length_drawnUntil]; exact bound), drawnUntil,
    List.getElem?_map, List.getElem?_range bound]
  rfl

/-- What comes next when some identifiers have been drawn. -/
theorem Fed.rest {v₁ : World Memory} {first rest : List Uuid} (fed : v.Fed (first ++ rest))
    (ids : v₁.ids = v.ids) (drawn : v₁.idsDrawn = v.idsDrawn + first.length) : v₁.Fed rest := by
  intro k id found
  rw [ids, drawn, Nat.add_assoc]
  refine fed (first.length + k) id ?_
  rw [List.getElem?_append_right (Nat.le_add_right _ _), Nat.add_sub_cancel_left]
  exact found

theorem serve_remains (agrees : v.Agrees v' user) (remains : v.remains user stays r = true) :
    v.Same v' user Eq (c.serve r) (c.serve r) := by
  refine serve_same agrees (fun owner owned => ?_) fun credentials origin login => ?_
  · rw [remains_of_owner owned] at remains
    exact of_decide_eq_true remains
  · cases owned : v.owner? r with
    | some owner =>
      rw [remains_of_owner owned] at remains
      exact congrArg some (of_decide_eq_true remains)
    | none =>
      rw [remains_of_nobody owned, login] at remains
      cases remains

/-- A request that does not remain changes nothing for the user. -/
theorem serve_foreign (clean : v.Clean) (agrees : v.Agrees v' user)
    (foreign : v.remains user stays r = false) : (v.serve c r).2.Agrees v' user := by
  obtain ⟨calls, runs, served⟩ := serve_cases clean c r
  have other : v.owner? r ≠ some user := by
    intro owned
    rw [remains_of_owner owned] at foreign
    exact absurd rfl (of_decide_eq_false foreign)
  obtain ⟨shares, sound⟩ := SessionStore.shares_follow agrees.sound v.now (served.users other)
  have store := runs.store clean
  refine agrees.moved runs.kept (kept_refl v') ?_ ?_ agrees.sound'
  · rw [store]
    exact shares.symm.trans agrees.shares
  · rw [store]
    exact sound

theorem Agrees.clean (agrees : v.Agrees v' user) (clean : v.Clean) : v'.Clean := by
  intro target f fault
  rw [agrees.faults] at fault
  exact clean target f fault

theorem Agrees.waitUntil (agrees : v.Agrees v' user) (time : Instant) :
    (v.waitUntil time).Agrees (v'.waitUntil time) user := by
  unfold World.waitUntil
  rw [agrees.now]
  split
  · exact agrees
  · exact { agrees with now := rfl }

theorem Agrees.setFault (agrees : v.Agrees v' user) (target : Target) (fault : Option Fault) :
    (v.setFault target fault).Agrees (v'.setFault target fault) user := by
  refine { agrees with faults := ?_ }
  funext t
  exact ite_congr rfl (fun _ => rfl) fun _ => congrFun agrees.faults t

theorem idsDrawn_waitUntil (w : World Memory) (time : Instant) :
    (w.waitUntil time).idsDrawn = w.idsDrawn := by
  rcases waitUntil_cases w time with same | ⟨-, same⟩ <;> rw [same]

theorem step_agrees (agrees : v.Agrees v' user) (keeps : v.keeps user stays s = true)
    (feeds : v.Feeds (v.step c s) v') :
    (v.step c s).Agrees (v'.step c s) user ∧
      (v'.step c s).idsDrawn + v.idsDrawn = (v.step c s).idsDrawn + v'.idsDrawn := by
  cases s with
  | wait time =>
    refine ⟨agrees.waitUntil time, ?_⟩
    change (v'.waitUntil time).idsDrawn + _ = (v.waitUntil time).idsDrawn + _
    rw [idsDrawn_waitUntil, idsDrawn_waitUntil, Nat.add_comm]
  | enroll new =>
    refine ⟨{ agrees with directory := ?_ }, Nat.add_comm _ _⟩
    exact congrArg (Directory.insert · new) agrees.directory
  | fail target delay failure => exact ⟨agrees.setFault target _, Nat.add_comm _ _⟩
  | heal target => exact ⟨agrees.setFault target _, Nat.add_comm _ _⟩
  | serve r =>
    obtain ⟨-, agrees, drawn⟩ := serve_remains (c := c) agrees keeps feeds
    exact ⟨agrees, drawn⟩

theorem step_foreign (clean : v.Clean) (agrees : v.Agrees v' user)
    (foreign : v.keeps user stays s = false) : (v.step c s).Agrees v' user := by
  cases s with
  | serve r => exact serve_foreign clean agrees foreign
  | _ => cases foreign

/-! ### Many steps -/

theorem after_agrees (clean : v.Clean) (agrees : v.Agrees v' user) (first : List Happening)
    {rest : List Uuid} (fed : v'.Fed (v.draws c user stays first ++ rest)) :
    (v.after c first).Agrees (v'.after c (v.own c user stays first)) user ∧
      (v'.after c (v.own c user stays first)).Fed rest := by
  induction first generalizing v v' with
  | nil => exact ⟨agrees, fed⟩
  | cons s first ih =>
    unfold draws at fed
    unfold own
    cases keeps : v.keeps user stays s with
    | false =>
      rw [keeps] at fed
      exact ih (step_clean clean s) (step_foreign clean agrees keeps) fed
    | true =>
      rw [keeps, if_pos rfl, List.append_assoc] at fed
      obtain ⟨agrees', drawn⟩ := step_agrees (c := c) agrees keeps fed.feeds
      have grows := (step_past (c := c) clean s).idsDrawn
      have same := (step_past (c := c) (agrees.clean clean) s).ids
      refine ih (step_clean clean s) agrees' (fed.rest same ?_)
      rw [length_drawnUntil]
      omega

/-- Users do not interfere: where the requests of all other users are taken out of a history, and the
identifiers are drawn that the rest draws in the whole of it, every request that remains is answered
as before, and after every step the user has the same devices and sessions, numbers apart. Requests
that are nobody's, such as those with a string that is no token, may be taken out or not. -/
theorem users_separate (c : Controller) {w : World Memory} (clean : w.Clean)
    (reachable : w.state.store.Reachable) (user : Uuid) (stays : Operation → Bool)
    (steps : List Happening) (ids : Nat → Uuid)
    (drawn : ∀ k id, (w.draws c user stays steps)[k]? = some id → ids (w.idsDrawn + k) = id) :
    ∀ first rest, steps = first ++ rest →
      (w.after c first).state.store.SameRows
          (World.after c { w with ids } (w.own c user stays first)).state.store user ∧
        ∀ r later, rest = .serve r :: later → (w.after c first).remains user stays r = true →
          ((World.after c { w with ids } (w.own c user stays first)).serve c r).1 =
            ((w.after c first).serve c r).1 := by
  rintro first rest rfl
  have agrees : w.Agrees { w with ids } user :=
    ⟨rfl, rfl, rfl, rfl, rfl, SessionStore.shares_refl _ _, reachable.sound, reachable.sound⟩
  have fed : Fed { w with ids }
      (w.draws c user stays first ++ (w.after c first).draws c user stays rest) := by
    rw [← draws_append]
    exact drawn
  obtain ⟨agrees', fed'⟩ := after_agrees clean agrees first fed
  refine ⟨agrees'.shares.sameRows, ?_⟩
  rintro r later rfl remains
  rw [draws, keeps_serve, remains, if_pos rfl] at fed'
  exact (serve_remains agrees' remains fed'.feeds).results.eq

/-! ### Two users of one device -/

/-- A second user, who has the same password. -/
def guest : User := { soleUser with id := ⟨List.replicate 16 2, rfl⟩, email := "guest@example.com" }

/-- What the second user logs in with. -/
def guestCredentials : Credentials := ⟨"guest@example.com", "engine"⟩

/-- A small world with two users. -/
def hosting : World Memory :=
  { small (.ofSecs 1000) with
    state := { directory := (Directory.empty.insert soleUser).insert guest } }

theorem hosting_knows : hosting.state.directory.find? soleCredentials.email = some soleUser ∧
    hosting.state.directory.find? guestCredentials.email = some guest := by
  have name : Text.lower guest.email = "guest@example.com" := by decide
  have asked : Text.lower (Text.trim guestCredentials.email) = "guest@example.com" := by decide
  have added : hosting.state.directory = (small (.ofSecs 1000)).state.directory.insert guest := rfl
  refine ⟨?_, ?_⟩
  · rw [added, Directory.find?_insert, name, soleUser_name, if_neg (by decide)]
    exact small_knows _
  · rw [added, Directory.find?_insert, name, asked, if_pos rfl]

/-- Both users can log in, one after the other. -/
theorem hosting_answers (c : Controller) : ∃ pair other,
    (hosting.serve c (.login guestCredentials soleOrigin)).1 = .ok (.pair other) ∧
    ((hosting.serve c (.login guestCredentials soleOrigin)).2.serve c
      (.login soleCredentials soleOrigin)).1 = .ok (.pair pair) ∧
    (hosting.serve c (.login guestCredentials soleOrigin)).2.owner?
      (.login soleCredentials soleOrigin) = some soleUser.id := by
  obtain ⟨device, resolved⟩ := soleOrigin_resolves
  have smooth : hosting.Smooth := fun _ => rfl
  have canIssue : hosting.CanIssue := canIssue_of_early (by decide) fun kind => by cases kind <;> decide
  have agreed : Verifier.compare soleUser.passwordHash soleCredentials.password = .ok () :=
    Verifier.compare_hash _ _ _ rfl
  have kept := serve_kept smooth.clean c (.login guestCredentials soleOrigin)
  obtain ⟨other, first, -⟩ := smooth.login_accepts canIssue c ⟨hosting_knows.2, rfl, agreed, resolved⟩
  have known := (congrArg (Directory.find? · _) kept.directory).trans hosting_knows.1
  obtain ⟨pair, second, -⟩ := (smooth.of_kept kept).login_accepts (canIssue.of_kept kept) c
    ⟨known, rfl, agreed, resolved⟩
  exact ⟨pair, other, first, second, owner?_login soleOrigin known⟩

/-- Two users log in from one device, the second first. Without the login of the second the other one
gets the same pair. -/
theorem users_separate_on_one_device : ∃ ids pair other,
    (hosting.serve ⟨⟨0⟩⟩ (.login guestCredentials soleOrigin)).1 = .ok (.pair other) ∧
    ((hosting.serve ⟨⟨0⟩⟩ (.login guestCredentials soleOrigin)).2.serve ⟨⟨0⟩⟩
      (.login soleCredentials soleOrigin)).1 = .ok (.pair pair) ∧
    (World.serve ⟨⟨0⟩⟩ { hosting with ids } (.login soleCredentials soleOrigin)).1 =
      .ok (.pair pair) := by
  obtain ⟨pair, other, first, second, owned⟩ := hosting_answers ⟨⟨0⟩⟩
  let steps : List Happening :=
    [.serve (.login guestCredentials soleOrigin), .serve (.login soleCredentials soleOrigin)]
  let drawn := hosting.draws ⟨⟨0⟩⟩ soleUser.id (fun _ => false) steps
  obtain ⟨-, same⟩ := users_separate ⟨⟨0⟩⟩ (w := hosting) (fun _ _ fault => nomatch fault) .empty
    soleUser.id (fun _ => false) steps (fun n => (drawn[n - hosting.idsDrawn]?).getD (hosting.ids n))
    (fun k id found => by rw [Nat.add_sub_cancel_left, found, Option.getD_some])
    [.serve (.login guestCredentials soleOrigin)] [.serve (.login soleCredentials soleOrigin)] rfl
  have foreign : hosting.keeps soleUser.id (fun _ => false)
      (.serve (.login guestCredentials soleOrigin)) = false := by
    rw [keeps_serve, remains_of_owner (owner?_login soleOrigin hosting_knows.2)]
    decide
  have remains : (hosting.serve ⟨⟨0⟩⟩ (.login guestCredentials soleOrigin)).2.remains soleUser.id
      (fun _ => false) (.login soleCredentials soleOrigin) = true :=
    (remains_of_owner owned).trans (by decide)
  rw [after_serve, own_foreign foreign] at same
  have equal := same _ _ rfl remains
  exact ⟨_, pair, other, first, second, equal.trans second⟩

end World

end DeviceSessions
