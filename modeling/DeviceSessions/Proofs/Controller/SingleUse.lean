import DeviceSessions.Proofs.Concurrency.Clearance
import DeviceSessions.Proofs.Controller.History
import DeviceSessions.Proofs.Token.RoundTrip

/-!
# Refresh tokens are used once

A session comes back to life when its user logs in again, a refresh token does not. The invariant
ties the digest that each session holds to a token that was handed out, with an identifier that was
drawn for it alone; a new session never holds the digest of an old token.
-/

namespace DeviceSessions

namespace World

/-! ### Histories -/

/-- The refresh tokens that occur when a thing happens: the one presented and the one returned. -/
def tokensAt (c : Controller) (w : World Memory) : Happening → List String
  | .serve r =>
    (match r with
      | .refresh token _ => [token]
      | _ => []) ++
    match (w.serve c r).1 with
    | .ok (.pair pair) => [pair.refreshToken]
    | _ => []
  | _ => []

/-- The refresh tokens that occur in a history. -/
def tokens (c : Controller) : World Memory → List Happening → List String
  | _, [] => []
  | w, s :: steps => w.tokensAt c s ++ tokens c (w.step c s) steps

/-- The calls of the store that are answered when a request is served. -/
def made (c : Controller) (w : World Memory) (r : Operation) : List StoreCall :=
  (w.trace (c.serve r)).filterMap Exchange.made?

/-- No identifier was drawn twice between two worlds. -/
def DrawsDistinct (w w' : World Memory) : Prop :=
  ∀ i j, w.idsDrawn ≤ i → i < w'.idsDrawn → w.idsDrawn ≤ j → j < w'.idsDrawn →
    w.ids i = w.ids j → i = j

/-- A request is for a session of a user on a device. -/
inductive Opens (w : World Memory) : Operation → Uuid → String → Prop where
  | login {credentials origin user device}
      (known : w.state.directory.find? credentials.email = some user)
      (resolved : origin.resolve = .ok device) :
      Opens w (.login credentials origin) user.id device.id
  | refresh {token origin user device} (subject : subject? token = some user)
      (resolved : origin.resolve = .ok device) : Opens w (.refresh token origin) user device.id

/-- A request puts an end to the refresh token of a user on a device. -/
inductive Retires (c : Controller) (w : World Memory) (user : Uuid) (device : String) :
    Operation → Prop where
  | rotated {token origin pair} (subject : subject? token = some user)
      (answered : (w.serve c (.refresh token origin)).1 = .ok (.pair pair)) :
      Retires c w user device (.refresh token origin)
  /-- A refresh that has revoked, whatever comes of it. -/
  | dropped {token origin} (revoked : .revokeAll user ∈ w.made c (.refresh token origin)) :
      Retires c w user device (.refresh token origin)
  | replaced {credentials origin pair} (opens : w.Opens (.login credentials origin) user device)
      (answered : (w.serve c (.login credentials origin)).1 = .ok (.pair pair)) :
      Retires c w user device (.login credentials origin)
  | loggedOut (answered : (w.serve c (.logout user)).1 = .ok .done) :
      Retires c w user device (.logout user)
  | revoked (answered : (w.serve c (.revokeDevice user device)).1 = .ok .done) :
      Retires c w user device (.revokeDevice user device)
  | deleted (answered : (w.serve c (.deleteDevice user device)).1 = .ok .done) :
      Retires c w user device (.deleteDevice user device)

/-- Something puts an end to the refresh token of a user on a device: a request, or time. -/
def Ends (c : Controller) (w : World Memory) (user : Uuid) (device : String) (expiresAt : Instant)
    (s : Happening) : Prop :=
  ¬(w.step c s).now < expiresAt ∨ ∃ r, s = .serve r ∧ w.Retires c user device r

variable {w w' start last : World Memory} {c : Controller} {r : Operation}
  {result : Result Response} {calls : List StoreCall} {user : Uuid} {device token : String}
  {expiresAt now : Instant} {pair : TokenPair}

theorem after_append (c : Controller) (w : World Memory) (first second : List Happening) :
    w.after c (first ++ second) = (w.after c first).after c second :=
  List.foldl_append

theorem tokens_append (c : Controller) (w : World Memory) (first second : List Happening) :
    w.tokens c (first ++ second) = w.tokens c first ++ (w.after c first).tokens c second := by
  induction first generalizing w with
  | nil => rfl
  | cons s first ih =>
    rw [List.cons_append, tokens, tokens, ih, List.append_assoc]
    rfl

/-! ### Tokens that were issued -/

/-- A refresh token was issued to a user, with an identifier drawn since the start. -/
def Minted (start w : World Memory) (user : Uuid) (token : String) (expiresAt : Instant) : Prop :=
  ∃ n now, start.idsDrawn ≤ n ∧ n < w.idsDrawn ∧
    token = w.issuer.sign (w.issuer.claims .refresh user now expiresAt (w.ids n))

theorem Minted.later (minted : start.Minted w user token expiresAt) (past : w.Past w') :
    start.Minted w' user token expiresAt := by
  obtain ⟨n, now, low, high, rfl⟩ := minted
  refine ⟨n, now, low, Nat.lt_of_lt_of_le high past.idsDrawn, ?_⟩
  rw [past.issuer, past.ids]

theorem Minted.subject (minted : start.Minted w user token expiresAt) :
    subject? token = some user := by
  obtain ⟨n, now, -, -, rfl⟩ := minted
  exact subject?_sign _ _

theorem Issued.minted (issued : w.Issued w' user pair) (started : start.idsDrawn ≤ w.idsDrawn)
    (past : w.Past w') : start.Minted w' user pair.refreshToken pair.refreshExpiresAt := by
  obtain ⟨-, -, n, low, high, -, signed⟩ := issued
  refine ⟨n + 1, w.now, by omega, high, ?_⟩
  rw [past.issuer, past.ids]
  exact signed

/-- A token that is issued differs from all that were issued before it. -/
theorem Issued.fresh (issued : w.Issued w' user pair) (distinct : start.DrawsDistinct last)
    (ids : start.ids = w.ids) (ended : w'.idsDrawn ≤ last.idsDrawn)
    {other : Uuid} (minted : start.Minted w other token expiresAt) : pair.refreshToken ≠ token := by
  obtain ⟨-, -, n, low, high, -, signed⟩ := issued
  obtain ⟨m, now, low', high', rfl⟩ := minted
  intro same
  rw [signed] at same
  have id : w.ids (n + 1) = w.ids m := congrArg Claims.id (w.issuer.sign_injective same)
  rw [← ids] at id
  have drawn := distinct (n + 1) m (by omega) (by omega) low' (by omega) id
  omega

/-! ### What the store holds -/

theorem Opens.unique {user' : Uuid} {device' : String} (opens : w.Opens r user device)
    (opens' : w.Opens r user' device') : user = user' ∧ device = device' := by
  cases opens with
  | login known resolved =>
    cases opens' with
    | login known' resolved' =>
      rw [Option.some.inj (known.symm.trans known'), Except.ok.inj (resolved.symm.trans resolved')]
      exact ⟨rfl, rfl⟩
  | refresh subject resolved =>
    cases opens' with
    | refresh subject' resolved' =>
      rw [Option.some.inj (subject.symm.trans subject'), Except.ok.inj (resolved.symm.trans resolved')]
      exact ⟨rfl, rfl⟩

/-- Where a pair is returned, it was issued to the user whom the request is for. -/
theorem Served.issued (served : w.Served r (.ok (.pair pair)) calls w')
    (opens : w.Opens r user device) : w.Issued w' user pair := by
  cases opens with
  | login known resolved =>
    cases served with
    | queried query => cases query
    | loggedIn known' resolved' issued =>
      rw [Option.some.inj (known.symm.trans known')]
      exact issued
  | refresh subject resolved =>
    cases served with
    | queried query => cases query
    | rotated presents valid issued =>
      rw [Option.some.inj (subject.symm.trans presents.subject)]
      exact issued

/-- The only session that serving a request records holds the refresh token that is returned. -/
theorem Served.created (served : w.Served r result calls w') {hash : String}
    {identity : DeviceIdentity} (member : .create user hash expiresAt identity ∈ calls) :
    ∃ pair, result = .ok (.pair pair) ∧ w.Opens r user identity.id ∧ w.Issued w' user pair ∧
      hash = hashToken pair.refreshToken ∧ expiresAt = pair.refreshExpiresAt := by
  cases served with
  | queried query reads => cases reads _ member
  | loggedIn known resolved issued =>
    cases List.mem_singleton.mp member
    exact ⟨_, rfl, .login known resolved, issued, rfl, rfl⟩
  | rotated presents valid issued =>
    simp only [List.mem_cons, List.not_mem_nil, or_false, reduceCtorEq, false_or] at member
    cases member
    exact ⟨_, rfl, .refresh presents.subject presents.resolved, issued, rfl, rfl⟩
  | refused => cases member
  | superseded presents stale => simp at member
  | checked presents valid => simp at member
  | dropped presents valid fault => simp at member
  | loggedOut => simp at member
  | renamed named present => simp at member
  | unnamed named absent => simp at member
  | deleted present => simp at member
  | missing absent => simp at member
  | revoked => simp at member

/-- A lasting property of sessions outlives a request, if it holds of a session that is recorded. -/
theorem serve_all {P : Uuid → String → Session → Prop} (all : w.state.store.All P)
    (clean : w.Clean) (lasting : SessionStore.Lasting P)
    (recorded : ∀ user identity pair, (w.serve c r).1 = .ok (.pair pair) →
      w.Opens r user identity.id → w.Issued (w.serve c r).2 user pair → ∀ s : SessionStore,
        P user identity.id
          (s.create user (hashToken pair.refreshToken) pair.refreshExpiresAt identity w.now).1) :
    (w.serve c r).2.state.store.All P := by
  obtain ⟨calls, runs, served⟩ := serve_cases clean c r
  rw [runs.store clean]
  refine all.follow lasting w.now ?_
  intro user hash expiresAt identity member s
  obtain ⟨pair, answered, opens, issued, rfl, rfl⟩ := served.created member
  exact recorded user identity pair answered opens issued s

/-- Every session holds the digest of a token that is known and was issued to its user. -/
structure Sound (start : World Memory) (Known : String → Prop) (w : World Memory) : Prop where
  clean : w.Clean
  past : start.Past w
  consistent : w.state.store.Consistent
  minted : w.state.store.All fun u _ x => ∃ token, Known token ∧ x.tokenHash = hashToken token ∧
    start.Minted w u token x.expiresAt

variable {Known : String → Prop}

theorem lasting_hash (Q : Uuid → String → Instant → Prop) :
    SessionStore.Lasting fun u _ x => Q u x.tokenHash x.expiresAt :=
  ⟨fun holds => holds, fun _ holds => holds⟩

theorem mem_tokensAt (answered : (w.serve c r).1 = .ok (.pair pair)) :
    pair.refreshToken ∈ w.tokensAt c (.serve r) := by
  unfold tokensAt
  dsimp only
  rw [answered]
  exact List.mem_append_right _ List.mem_cons_self

theorem sound_empty (clean : w.Clean) (noSessions : w.state.store = {}) : Sound w Known w := by
  refine ⟨clean, past_refl w, ?_, ?_⟩
  · rw [noSessions]
    exact SessionStore.consistent_empty
  · rw [noSessions]
    exact SessionStore.all_empty

/-- Where the store stays as it is, it stays sound. -/
theorem Sound.of_store (sound : Sound start Known w) (clean : w'.Clean) (past : w.Past w')
    (store : w'.state.store = w.state.store) : Sound start Known w' := by
  refine ⟨clean, sound.past.trans past, ?_, ?_⟩
  · rw [store]
    exact sound.consistent
  · rw [store]
    intro u d x found
    obtain ⟨token, known, hashed, minted⟩ := sound.minted u d x found
    exact ⟨token, known, hashed, minted.later past⟩

theorem Sound.serve (sound : Sound start Known w) (c : Controller) (r : Operation)
    (known : ∀ token ∈ w.tokensAt c (.serve r), Known token) :
    Sound start Known (w.serve c r).2 := by
  obtain ⟨calls, runs, -⟩ := serve_cases sound.clean c r
  have past := runs.kept.past
  refine ⟨sound.clean.of_kept runs.kept, sound.past.trans past, ?_, ?_⟩
  · rw [runs.store sound.clean]
    exact sound.consistent.follow w.now calls
  · refine serve_all ?_ sound.clean (lasting_hash fun u hash expiresAt => ∃ token, Known token ∧
      hash = hashToken token ∧ start.Minted (w.serve c r).2 u token expiresAt) ?_
    · intro u d x found
      obtain ⟨token, known, hashed, minted⟩ := sound.minted u d x found
      exact ⟨token, known, hashed, minted.later past⟩
    · intro user identity pair answered opens issued s
      exact ⟨pair.refreshToken, known _ (mem_tokensAt answered), rfl,
        issued.minted sound.past.idsDrawn past⟩

theorem Sound.step (sound : Sound start Known w) {s : Happening}
    (known : ∀ token ∈ w.tokensAt c s, Known token) : Sound start Known (w.step c s) := by
  have clean := step_clean (c := c) sound.clean s
  have past := step_past (c := c) sound.clean s
  cases s with
  | wait time =>
    refine sound.of_store clean past ?_
    rcases waitUntil_cases w time with same | ⟨-, same⟩ <;> rw [World.step, same]
  | enroll user => exact sound.of_store clean past rfl
  | fail target delay failure => exact sound.of_store clean past rfl
  | heal target => exact sound.of_store clean past rfl
  | serve r => exact sound.serve c r known

theorem Sound.after (sound : Sound start Known w) {steps : List Happening}
    (known : ∀ token ∈ w.tokens c steps, Known token) : Sound start Known (w.after c steps) := by
  induction steps generalizing w with
  | nil => exact sound
  | cons s steps ih =>
    refine ih (sound.step fun token member => ?_) fun token member => ?_
    · exact known token (List.mem_append_left _ member)
    · exact known token (List.mem_append_right _ member)

/-! ### The sessions that hold one token -/

/-- Every session that holds the digest of a token has a property. -/
def Marks (w : World Memory) (token : String) (P : Uuid → String → Session → Prop) : Prop :=
  w.state.store.All fun u d x => x.tokenHash = hashToken token → P u d x

/-- What is assumed of a history: no identifier is drawn twice, and no two of the tokens that occur
have one digest. -/
structure Regular (start last : World Memory) (Known : String → Prop) : Prop where
  distinct : start.DrawsDistinct last
  injective : ∀ s t, Known s → Known t → hashToken s = hashToken t → s = t

/-- A token that was issued in a history, and is known. -/
structure Held (start : World Memory) (Known : String → Prop) (w : World Memory) (user : Uuid)
    (token : String) (expiresAt : Instant) : Prop where
  known : Known token
  minted : start.Minted w user token expiresAt

theorem Held.later (held : Held start Known w user token expiresAt) (past : w.Past w') :
    Held start Known w' user token expiresAt :=
  ⟨held.known, held.minted.later past⟩

variable {P : Uuid → String → Session → Prop}

theorem lasting_marks (lasting : SessionStore.Lasting P) (token : String) :
    SessionStore.Lasting fun u d x => x.tokenHash = hashToken token → P u d x :=
  ⟨fun holds same => lasting.revoke (holds same), fun now holds same => lasting.touch now (holds same)⟩

/-- A request records no session that holds an old token. -/
theorem fresh_hash (regular : Regular start last Known) (sound : Sound start Known w)
    (held : Held start Known w user token expiresAt)
    (ended : (w.serve c r).2.idsDrawn ≤ last.idsDrawn)
    (known : ∀ token ∈ w.tokensAt c (.serve r), Known token) {other : Uuid}
    (answered : (w.serve c r).1 = .ok (.pair pair)) (issued : w.Issued (w.serve c r).2 other pair) :
    hashToken pair.refreshToken ≠ hashToken token := by
  intro same
  have equal := regular.injective _ _ (known _ (mem_tokensAt answered)) held.known same
  exact issued.fresh regular.distinct sound.past.ids.symm ended held.minted equal

theorem Marks.serve (marks : w.Marks token P) (lasting : SessionStore.Lasting P)
    (regular : Regular start last Known) (sound : Sound start Known w)
    (held : Held start Known w user token expiresAt)
    (ended : (w.serve c r).2.idsDrawn ≤ last.idsDrawn)
    (known : ∀ token ∈ w.tokensAt c (.serve r), Known token) :
    (w.serve c r).2.Marks token P := by
  refine serve_all marks sound.clean (lasting_marks lasting token) ?_
  intro other identity pair answered opens issued s same
  exact absurd same (fresh_hash regular sound held ended known answered issued)

theorem Marks.step (marks : w.Marks token P) (lasting : SessionStore.Lasting P)
    (regular : Regular start last Known) (sound : Sound start Known w)
    (held : Held start Known w user token expiresAt) {s : Happening}
    (ended : (w.step c s).idsDrawn ≤ last.idsDrawn)
    (known : ∀ token ∈ w.tokensAt c s, Known token) : (w.step c s).Marks token P := by
  cases s with
  | wait time =>
    unfold Marks
    rcases waitUntil_cases w time with same | ⟨-, same⟩ <;> rw [World.step, same] <;> exact marks
  | enroll user => exact marks
  | fail target delay failure => exact marks
  | heal target => exact marks
  | serve r => exact marks.serve lasting regular sound held ended known

theorem Marks.after (marks : w.Marks token P) (lasting : SessionStore.Lasting P)
    (regular : Regular start last Known) (sound : Sound start Known w)
    (held : Held start Known w user token expiresAt) {steps : List Happening}
    (ended : (w.after c steps).idsDrawn ≤ last.idsDrawn)
    (known : ∀ token ∈ w.tokens c steps, Known token) : (w.after c steps).Marks token P := by
  induction steps generalizing w with
  | nil => exact marks
  | cons s steps ih =>
    have here : ∀ token ∈ w.tokensAt c s, Known token :=
      fun token member => known token (List.mem_append_left _ member)
    have sound' := sound.step here
    have past := step_past (c := c) sound.clean s
    have rest := after_past (c := c) sound'.clean steps
    have first := marks.step lasting regular sound held (Nat.le_trans rest.idsDrawn ended) here
    exact ih first sound' (held.later past) ended
      fun token member => known token (List.mem_append_right _ member)

/-! ### How a token ends -/

/-- A token is only ever held by sessions of its own subject. -/
theorem Sound.owned (sound : Sound start Known w) (regular : Regular start last Known)
    (known : Known token) (subject : subject? token = some user) :
    w.Marks token fun u _ _ => u = user := by
  intro u d x found same
  obtain ⟨other, known', hashed, minted⟩ := sound.minted u d x found
  have equal : other = token := regular.injective _ _ known' known (hashed.symm.trans same)
  rw [← equal, minted.subject] at subject
  exact Option.some.inj subject

/-- Nothing holds a token before it is issued, and the place where it is recorded afterwards. -/
theorem issued_home (regular : Regular start last Known) (sound : Sound start Known w)
    (ended : (w.serve c r).2.idsDrawn ≤ last.idsDrawn)
    (known : ∀ token ∈ w.tokensAt c (.serve r), Known token) (opens : w.Opens r user device)
    (answered : (w.serve c r).1 = .ok (.pair pair)) :
    Held start Known (w.serve c r).2 user pair.refreshToken pair.refreshExpiresAt ∧
      (w.serve c r).2.Marks pair.refreshToken fun u d x =>
        u = user ∧ d = device ∧ x.expiresAt = pair.refreshExpiresAt := by
  obtain ⟨calls, runs, served⟩ := serve_cases sound.clean c r
  rw [answered] at served
  have issued := served.issued opens
  have held : Held start Known (w.serve c r).2 user pair.refreshToken pair.refreshExpiresAt :=
    ⟨known _ (mem_tokensAt answered), issued.minted sound.past.idsDrawn runs.kept.past⟩
  refine ⟨held, serve_all ?_ sound.clean (lasting_marks ⟨id, fun _ => id⟩ _) ?_⟩
  · intro u d x found same
    obtain ⟨other, known', hashed, minted⟩ := sound.minted u d x found
    have equal := regular.injective _ _ known' held.known (hashed.symm.trans same)
    exact absurd equal.symm (issued.fresh regular.distinct sound.past.ids.symm ended minted)
  · intro user' identity pair' answered' opens' issued' s same
    obtain ⟨rfl, rfl⟩ := opens.unique opens'
    cases answered.symm.trans answered'
    exact ⟨rfl, rfl, rfl⟩

theorem lasting_revoked : SessionStore.Lasting fun _ _ x => x.revoked = true :=
  ⟨fun _ => rfl, fun _ holds => holds⟩

theorem lasting_over (now : Instant) : SessionStore.Lasting fun _ _ x => x.isActiveAt now = false :=
  ⟨fun _ => rfl, fun _ holds => holds⟩

theorem Marks.imp {Q : Uuid → String → Session → Prop} (marks : w.Marks token P)
    (imp : ∀ u d x, P u d x → Q u d x) : w.Marks token Q :=
  fun u d x found same => imp u d x (marks u d x found same)

theorem over_of_revoked {x : Session} (revoked : x.revoked = true) (now : Instant) :
    x.isActiveAt now = false := by
  simp [Session.isActiveAt, revoked]

/-- Once the sessions of its subject were revoked, a token is held by revoked sessions only. A
session that is recorded after that holds a new token. -/
theorem marks_revoked (regular : Regular start last Known) (sound : Sound start Known w)
    (held : Held start Known w user token expiresAt)
    (ended : (w.serve c r).2.idsDrawn ≤ last.idsDrawn)
    (known : ∀ token ∈ w.tokensAt c (.serve r), Known token)
    (revoked : .revokeAll user ∈ w.made c r) :
    (w.serve c r).2.Marks token fun _ _ x => x.revoked = true := by
  obtain ⟨calls, runs, served⟩ := serve_cases sound.clean c r
  have fresh : ∀ u hash e identity, .create u hash e identity ∈ calls → hash ≠ hashToken token := by
    intro u hash e identity member
    obtain ⟨pair, answered, opens, issued, rfl, rfl⟩ := served.created member
    exact fresh_hash regular sound held ended known answered issued
  have owned := sound.owned regular held.known held.minted.subject
  rw [show w.made c r = calls from runs.calls] at revoked
  obtain ⟨front, back, rfl⟩ := List.append_of_mem revoked
  unfold Marks
  rw [runs.store sound.clean, SessionStore.follow_append]
  have before : (w.state.store.follow w.now front).All fun u _ x =>
      x.tokenHash = hashToken token → u = user := by
    refine owned.follow (lasting_marks ⟨id, fun _ => id⟩ token) w.now ?_
    intro u hash e identity member s same
    exact absurd same (fresh u hash e identity (List.mem_append_left _ member))
  have emptied : ((w.state.store.follow w.now front).revokeAll user).2.All fun _ _ x =>
      x.tokenHash = hashToken token → x.revoked = true := by
    intro u d x found same
    rw [(sound.consistent.follow w.now front).session?_revokeAll] at found
    obtain ⟨y, there, rfl⟩ := Option.map_eq_some_iff.mp found
    have mine : u = user := by
      refine before u d y there ?_
      split at same <;> exact same
    rw [if_pos mine]
    rfl
  change (((w.state.store.follow w.now front).revokeAll user).2.follow w.now back).All _
  refine emptied.follow (lasting_marks lasting_revoked token) w.now ?_
  intro u hash e identity member s same
  exact absurd same (fresh u hash e identity
    (List.mem_append_right _ (List.mem_cons_of_mem _ member)))

/-- A login on the device of a token puts a new token in its place. -/
theorem marks_replaced (regular : Regular start last Known) (sound : Sound start Known w)
    (held : Held start Known w user token expiresAt)
    (home : w.Marks token fun u d _ => u = user ∧ d = device) {credentials : Credentials}
    {origin : DeviceMetadata} (opens : w.Opens (.login credentials origin) user device)
    (ended : (w.serve c (.login credentials origin)).2.idsDrawn ≤ last.idsDrawn)
    (known : ∀ token ∈ w.tokensAt c (.serve (.login credentials origin)), Known token)
    (answered : (w.serve c (.login credentials origin)).1 = .ok (.pair pair)) :
    (w.serve c (.login credentials origin)).2.Marks token fun _ _ x => x.revoked = true := by
  obtain ⟨calls, runs, served⟩ := serve_cases sound.clean c (.login credentials origin)
  rw [answered] at served
  have issued := served.issued opens
  have fresh := fresh_hash regular sound held ended known answered issued
  unfold Marks
  rw [runs.store sound.clean]
  cases served with
  | queried query => cases query
  | @loggedIn _ _ account identity _ _ there resolved _ =>
    obtain ⟨rfl, rfl⟩ := opens.unique (.login there resolved)
    intro u d x found same
    have found := (SessionStore.session?_create w.state.store account.id _ _ identity w.now u d).symm.trans
      found
    split at found
    · rw [← Option.some.inj found] at same
      exact absurd same fresh
    · rename_i away
      exact absurd (home u d x found same) away

theorem marks_revokedDevice (clean : w.Clean) (home : w.Marks token fun u d _ => u = user ∧ d = device)
    (answered : (w.serve c (.revokeDevice user device)).1 = .ok .done) :
    (w.serve c (.revokeDevice user device)).2.Marks token fun _ _ x => x.revoked = true := by
  obtain ⟨calls, runs, served⟩ := serve_cases clean c (.revokeDevice user device)
  rw [answered] at served
  unfold Marks
  rw [runs.store clean]
  cases served with
  | queried query => cases query
  | revoked =>
    intro u d x found same
    have found := (SessionStore.session?_revokeDevice w.state.store user device u d).symm.trans found
    obtain ⟨y, there, rfl⟩ := Option.map_eq_some_iff.mp found
    have here : u = user ∧ d = device := by
      refine home u d y there ?_
      split at same <;> exact same
    rw [if_pos here]
    rfl

theorem marks_deletedDevice (clean : w.Clean) (home : w.Marks token fun u d _ => u = user ∧ d = device)
    (answered : (w.serve c (.deleteDevice user device)).1 = .ok .done) :
    (w.serve c (.deleteDevice user device)).2.Marks token fun _ _ x => x.revoked = true := by
  obtain ⟨calls, runs, served⟩ := serve_cases clean c (.deleteDevice user device)
  rw [answered] at served
  unfold Marks
  rw [runs.store clean]
  cases served with
  | queried query => cases query
  | deleted present =>
    intro u d x found same
    have found := (SessionStore.session?_deleteDevice w.state.store user device u d).symm.trans found
    split at found
    · cases found
    · rename_i away
      exact absurd (home u d x found same) away

/-- A request that retires a token leaves only revoked sessions that hold it. -/
theorem marks_retired (regular : Regular start last Known) (sound : Sound start Known w)
    (held : Held start Known w user token expiresAt)
    (home : w.Marks token fun u d _ => u = user ∧ d = device)
    (ended : (w.serve c r).2.idsDrawn ≤ last.idsDrawn)
    (known : ∀ token ∈ w.tokensAt c (.serve r), Known token)
    (retires : w.Retires c user device r) :
    (w.serve c r).2.Marks token fun _ _ x => x.revoked = true := by
  obtain ⟨calls, runs, served⟩ := serve_cases sound.clean c r
  have made : w.made c r = calls := runs.calls
  cases retires with
  | rotated subject answered =>
    refine marks_revoked regular sound held ended known ?_
    rw [answered] at served
    rw [made]
    cases served with
    | queried query => cases query
    | rotated presents valid issued =>
      rw [Option.some.inj (subject.symm.trans presents.subject)]
      simp
  | dropped revoked => exact marks_revoked regular sound held ended known revoked
  | replaced opens answered => exact marks_replaced regular sound held home opens ended known answered
  | loggedOut answered =>
    refine marks_revoked regular sound held ended known ?_
    rw [answered] at served
    rw [made]
    cases served with
    | queried query => cases query
    | loggedOut => simp
  | revoked answered => exact marks_revokedDevice sound.clean home answered
  | deleted answered => exact marks_deletedDevice sound.clean home answered

/-- Where a token has ended, only sessions that are revoked or over hold it. -/
theorem marks_ended (regular : Regular start last Known) (sound : Sound start Known w)
    (held : Held start Known w user token expiresAt)
    (home : w.Marks token fun u d x => u = user ∧ d = device ∧ x.expiresAt = expiresAt)
    {s : Happening} (ended : (w.step c s).idsDrawn ≤ last.idsDrawn)
    (known : ∀ token ∈ w.tokensAt c s, Known token) (ends : w.Ends c user device expiresAt s) :
    (w.step c s).Marks token fun _ _ x => x.isActiveAt (w.step c s).now = false := by
  rcases ends with past | ⟨r, rfl, retires⟩
  · refine (home.step ⟨id, fun _ => id⟩ regular sound held ended known).imp ?_
    rintro u d x ⟨-, -, expires⟩
    simp [Session.isActiveAt, expires, past]
  · have place : w.Marks token fun u d _ => u = user ∧ d = device :=
      home.imp fun _ _ _ marked => ⟨marked.1, marked.2.1⟩
    refine (marks_retired regular sound held place ended known retires).imp ?_
    exact fun u d x revoked => over_of_revoked revoked _

/-! ### Refusal -/

/-- A token that only revoked sessions or sessions that are over hold is refused from everywhere. -/
theorem refused_of_marks (clean : w.Clean)
    (marks : w.Marks token fun _ _ x => x.isActiveAt now = false) (later : ¬w.now < now)
    (origin : DeviceMetadata) : (w.serve c (.refresh token origin)).1 ≠ .ok (.pair pair) := by
  intro answered
  obtain ⟨calls, runs, served⟩ := serve_cases clean c (.refresh token origin)
  rw [answered] at served
  cases served with
  | queried query => cases query
  | rotated presents valid issued =>
    obtain ⟨x, found, accepted⟩ := SessionStore.isValid_iff.mp valid
    obtain ⟨live, current, digest⟩ := SessionStore.accepts_iff.mp accepted
    have ended := marks _ _ x found digest
    have active := Instant.lt_of_not_lt_of_lt later current
    simp [Session.isActiveAt, live, active] at ended

/-- A token that is accepted was issued before. -/
theorem held_of_accepted (regular : Regular start last Known) (sound : Sound start Known w)
    (known : ∀ token ∈ w.tokensAt c (.serve r), Known token) {origin : DeviceMetadata}
    (same : r = .refresh token origin) (answered : (w.serve c r).1 = .ok (.pair pair)) :
    ∃ user expiresAt, Held start Known w user token expiresAt ∧ .revokeAll user ∈ w.made c r := by
  subst same
  obtain ⟨calls, runs, served⟩ := serve_cases sound.clean c (.refresh token origin)
  have made : w.made c (.refresh token origin) = calls := runs.calls
  rw [answered] at served
  rw [made]
  cases served with
  | queried query => cases query
  | rotated presents valid issued =>
    obtain ⟨x, found, accepted⟩ := SessionStore.isValid_iff.mp valid
    obtain ⟨-, -, digest⟩ := SessionStore.accepts_iff.mp accepted
    obtain ⟨other, known', hashed, minted⟩ := sound.minted _ _ x found
    have presented : Known token := known token (List.mem_append_left _ List.mem_cons_self)
    have equal := regular.injective _ _ known' presented (hashed.symm.trans digest)
    rw [equal] at minted
    exact ⟨_, _, ⟨presented, minted⟩, by simp⟩

/-- What has ended stays so, whatever follows. -/
theorem refused_after (regular : Regular start last Known) (sound : Sound start Known w)
    (held : Held start Known w user token expiresAt)
    (marks : w.Marks token fun _ _ x => x.isActiveAt w.now = false) {rest : List Happening}
    (ended : (w.after c rest).idsDrawn ≤ last.idsDrawn)
    (known : ∀ token ∈ w.tokens c rest, Known token) (origin : DeviceMetadata) (pair : TokenPair) :
    ((w.after c rest).serve c (.refresh token origin)).1 ≠ .ok (.pair pair) := by
  have past := after_past (c := c) sound.clean rest
  have later := marks.after (lasting_over w.now) regular sound held ended known
  exact refused_of_marks (sound.after known).clean later past.now origin

/-- A token that was accepted is refused ever after. -/
theorem refused_after_accepted (regular : Regular start last Known) (sound : Sound start Known w)
    {origin : DeviceMetadata} {rest : List Happening}
    (ended : (w.after c (.serve (.refresh token origin) :: rest)).idsDrawn ≤ last.idsDrawn)
    (known : ∀ t ∈ w.tokens c (.serve (.refresh token origin) :: rest), Known t)
    (answered : (w.serve c (.refresh token origin)).1 = .ok (.pair pair)) (origin' : DeviceMetadata)
    (pair' : TokenPair) :
    ((w.after c (.serve (.refresh token origin) :: rest)).serve c (.refresh token origin')).1 ≠
      .ok (.pair pair') := by
  have here : ∀ t ∈ w.tokensAt c (.serve (.refresh token origin)), Known t :=
    fun t member => known t (List.mem_append_left _ member)
  have sound' := sound.serve c _ here
  have past := (serve_kept sound.clean c (.refresh token origin)).past
  have rest' := after_past (c := c) sound'.clean rest
  obtain ⟨user, expiresAt, held, revokes⟩ := held_of_accepted regular sound here rfl answered
  have revoked := marks_revoked regular sound held (Nat.le_trans rest'.idsDrawn ended) here revokes
  refine refused_after regular sound' (held.later past) ?_ ended ?_ origin' pair'
  · exact revoked.imp fun u d x done => over_of_revoked done _
  · exact fun t member => known t (List.mem_append_right _ member)

/-- A token that was handed out and then came to its end is refused ever after. -/
theorem refused_after_ended (regular : Regular start last Known) (sound : Sound start Known w)
    {middle rest : List Happening} {s : Happening}
    (ended : (w.after c (.serve r :: (middle ++ s :: rest))).idsDrawn ≤ last.idsDrawn)
    (known : ∀ t ∈ w.tokens c (.serve r :: (middle ++ s :: rest)), Known t)
    (opens : w.Opens r user device) (answered : (w.serve c r).1 = .ok (.pair pair))
    (ends : (w.after c (.serve r :: middle)).Ends c user device pair.refreshExpiresAt s)
    (origin : DeviceMetadata) (pair' : TokenPair) :
    ((w.after c (.serve r :: (middle ++ s :: rest))).serve c
      (.refresh pair.refreshToken origin)).1 ≠ .ok (.pair pair') := by
  have whole : w.after c (.serve r :: (middle ++ s :: rest)) =
      (((w.serve c r).2.after c middle).step c s).after c rest := after_append c _ middle (s :: rest)
  have words : w.tokens c (.serve r :: (middle ++ s :: rest)) =
      w.tokensAt c (.serve r) ++ ((w.serve c r).2.tokens c middle ++
        (((w.serve c r).2.after c middle).tokensAt c s ++
          (((w.serve c r).2.after c middle).step c s).tokens c rest)) :=
    congrArg _ (tokens_append c _ middle (s :: rest))
  rw [words] at known
  simp only [List.mem_append] at known
  rw [whole] at ended
  have known₁ : ∀ t ∈ w.tokensAt c (.serve r), Known t := fun t member => known t (Or.inl member)
  have known₂ : ∀ t ∈ (w.serve c r).2.tokens c middle, Known t :=
    fun t member => known t (Or.inr (Or.inl member))
  have known₃ : ∀ t ∈ ((w.serve c r).2.after c middle).tokensAt c s, Known t :=
    fun t member => known t (Or.inr (Or.inr (Or.inl member)))
  have known₄ : ∀ t ∈ (((w.serve c r).2.after c middle).step c s).tokens c rest, Known t :=
    fun t member => known t (Or.inr (Or.inr (Or.inr member)))
  have sound₁ := sound.serve c r known₁
  have sound₂ := sound₁.after known₂
  have sound₃ := sound₂.step known₃
  have past₂ := after_past (c := c) sound₁.clean middle
  have past₃ := step_past (c := c) sound₂.clean s
  have past₄ := after_past (c := c) sound₃.clean rest
  have ended₃ := Nat.le_trans past₄.idsDrawn ended
  have ended₂ := Nat.le_trans past₃.idsDrawn ended₃
  have ended₁ := Nat.le_trans past₂.idsDrawn ended₂
  obtain ⟨held, home⟩ := issued_home regular sound ended₁ known₁ opens answered
  have home' := home.after ⟨id, fun _ => id⟩ regular sound₁ held ended₂ known₂
  have gone := marks_ended regular sound₂ (held.later past₂) home' ended₃ known₃ ends
  rw [whole]
  exact refused_after regular sound₃ ((held.later past₂).later past₃) gone ended known₄ origin pair'

theorem after_serve_serve (c : Controller) (w : World Memory) (r r' : Operation) :
    w.after c [.serve r, .serve r'] = ((w.serve c r).2.serve c r').2 := rfl

theorem tokens_serve_serve (c : Controller) (w : World Memory) (r r' : Operation) :
    w.tokens c [.serve r, .serve r'] =
      w.tokensAt c (.serve r) ++ ((w.serve c r).2.tokensAt c (.serve r') ++ []) := rfl

/-- After a login and a logout one refresh token has occurred, and it has ended. -/
theorem login_logout (smooth : w.Smooth) (canIssue : w.CanIssue) (c : Controller)
    {credentials : Credentials} {origin : DeviceMetadata} {account : User}
    {identity : DeviceIdentity} (admits : w.Admits credentials origin account identity) :
    ∃ pair, (w.serve c (.login credentials origin)).1 = .ok (.pair pair) ∧
      (w.after c [.serve (.login credentials origin), .serve (.logout account.id)]).idsDrawn =
        w.idsDrawn + 2 ∧
      (∀ t ∈ w.tokens c [.serve (.login credentials origin), .serve (.logout account.id)],
        t = pair.refreshToken) ∧
      (w.after c [.serve (.login credentials origin)]).Ends c account.id identity.id
        pair.refreshExpiresAt (.serve (.logout account.id)) := by
  obtain ⟨pair, answered, drawn⟩ := smooth.login_accepts canIssue c admits
  have smooth' := smooth.of_kept (serve_kept smooth.clean c (.login credentials origin))
  obtain ⟨closed, same⟩ := smooth'.logout_accepts c account.id
  rw [after_serve_serve, after_serve, tokens_serve_serve]
  refine ⟨pair, answered, same.trans drawn, ?_, Or.inr ⟨_, rfl, .loggedOut closed⟩⟩
  intro t member
  unfold tokensAt at member
  simpa [answered, closed] using member

/-- In every history from an empty store on in which calls may fail, where no identifier is drawn
twice and no two of the tokens that occur have one digest, a refresh token that was accepted is
never accepted again, and neither is one that has come to its end. -/
theorem refresh_token_single_use (c : Controller) {w : World Memory} (clean : w.Clean)
    (noSessions : w.state.store = {}) {steps : List Happening}
    (distinct : w.DrawsDistinct (w.after c steps))
    (noCollision : ∀ s ∈ w.tokens c steps, ∀ t ∈ w.tokens c steps,
      hashToken s = hashToken t → s = t) :
    (∀ first token origin rest pair, steps = first ++ .serve (.refresh token origin) :: rest →
      ((w.after c first).serve c (.refresh token origin)).1 = .ok (.pair pair) →
      ∀ origin' pair',
        ((w.after c steps).serve c (.refresh token origin')).1 ≠ .ok (.pair pair')) ∧
    ∀ first r user device pair middle s rest,
      steps = first ++ .serve r :: (middle ++ s :: rest) →
      (w.after c first).Opens r user device →
      ((w.after c first).serve c r).1 = .ok (.pair pair) →
      (w.after c (first ++ .serve r :: middle)).Ends c user device pair.refreshExpiresAt s →
      ∀ origin pair',
        ((w.after c steps).serve c (.refresh pair.refreshToken origin)).1 ≠ .ok (.pair pair') := by
  have regular : Regular w (w.after c steps) (· ∈ w.tokens c steps) :=
    ⟨distinct, fun s t known known' => noCollision s known t known'⟩
  have sound : Sound w (· ∈ w.tokens c steps) w := sound_empty clean noSessions
  constructor
  · rintro first token origin rest pair rfl answered origin' pair'
    rw [tokens_append] at regular sound
    have sound' := sound.after (c := c) fun t member => List.mem_append_left _ member
    rw [after_append] at regular ⊢
    exact refused_after_accepted regular sound' (Nat.le_refl _)
      (fun t member => List.mem_append_right _ member) answered origin' pair'
  · rintro first r user device pair middle s rest rfl opens answered ends origin pair'
    rw [tokens_append] at regular sound
    have sound' := sound.after (c := c) fun t member => List.mem_append_left _ member
    rw [after_append] at regular ends ⊢
    exact refused_after_ended regular sound' (Nat.le_refl _)
      (fun t member => List.mem_append_right _ member) opens answered ends origin pair'

theorem refused_after_logout :
    ∃ pair : TokenPair, ∀ origin pair', (((small (.ofSecs 1000)).after ⟨⟨0⟩⟩
      [.serve (.login soleCredentials soleOrigin), .serve (.logout soleUser.id)]).serve ⟨⟨0⟩⟩
        (.refresh pair.refreshToken origin)).1 ≠ .ok (.pair pair') := by
  have smooth := small_smooth (.ofSecs 1000)
  have canIssue : (small (.ofSecs 1000)).CanIssue :=
    canIssue_of_early (by decide) fun kind => by cases kind <;> decide
  obtain ⟨identity, admits⟩ := small_admits (.ofSecs 1000)
  obtain ⟨pair, answered, drawn, words, ends⟩ := login_logout smooth canIssue ⟨⟨0⟩⟩ admits
  have distinct : (small (.ofSecs 1000)).DrawsDistinct ((small (.ofSecs 1000)).after ⟨⟨0⟩⟩
      [.serve (.login soleCredentials soleOrigin), .serve (.logout soleUser.id)]) := by
    have first : ∀ i < 2, ∀ j < 2, (small (.ofSecs 1000)).ids i = (small (.ofSecs 1000)).ids j →
        i = j := by decide
    intro i j _ high _ high' same
    rw [drawn] at high high'
    exact first i high j high' same
  refine ⟨pair, fun origin pair' => (refresh_token_single_use ⟨⟨0⟩⟩ smooth.clean rfl distinct ?_).2 []
    (.login soleCredentials soleOrigin) soleUser.id identity.id pair [] (.serve (.logout soleUser.id))
    [] rfl (.login admits.known admits.resolved) answered ends origin pair'⟩
  intro s known t known' _
  rw [words s known, words t known']

end World

end DeviceSessions
