import DeviceSessions.Proofs.Controller.Operation
import DeviceSessions.Proofs.Password.RoundTrip
import DeviceSessions.Proofs.Time
import DeviceSessions.Proofs.Token.RoundTrip

/-!
# Histories

What can happen to a controller in memory, one thing after another: time passes, users are enrolled,
calls start or stop to fail, and requests are served. A call that fails is not made.
-/

namespace DeviceSessions

/-- One thing that happens. -/
inductive Happening where
  | wait (time : Instant)
  | enroll (user : User)
  | fail (target : Target) (delay : Span) (failure : Option Error)
  | heal (target : Target)
  | serve (r : Operation)
  deriving DecidableEq, Repr

/-- Whether calls start to fail. -/
def Happening.isFault : Happening → Bool
  | .fail .. => true
  | _ => false

namespace World

/-- The world at a later time. A clock does not go back. -/
def waitUntil (w : World Memory) (time : Instant) : World Memory :=
  if time < w.now then w else { w with now := time }

/-- The world after one thing. -/
def step (c : Controller) (w : World Memory) : Happening → World Memory
  | .wait time => w.waitUntil time
  | .enroll user => { w with state := { w.state with directory := w.state.directory.insert user } }
  | .fail target delay failure => w.setFault target (some ⟨delay, failure, false⟩)
  | .heal target => w.setFault target none
  | .serve r => (w.serve c r).2

/-- The world after several things. -/
def after (c : Controller) (w : World Memory) (steps : List Happening) : World Memory :=
  steps.foldl (step c) w

/-- What every history preserves or moves in one direction. -/
structure Past (w w' : World Memory) : Prop where
  now : ¬w'.now < w.now
  issuer : w'.issuer = w.issuer
  ids : w'.ids = w.ids
  idsDrawn : w.idsDrawn ≤ w'.idsDrawn

variable {w w' w₁ w₂ : World Memory} {c : Controller}

theorem waitUntil_cases (w : World Memory) (time : Instant) :
    w.waitUntil time = w ∨ ¬time < w.now ∧ w.waitUntil time = { w with now := time } := by
  unfold waitUntil
  split
  · exact Or.inl rfl
  · exact Or.inr ⟨‹_›, rfl⟩

theorem past_refl (w : World Memory) : w.Past w :=
  ⟨Instant.lt_irrefl _, rfl, rfl, Nat.le_refl _⟩

theorem Past.trans (first : w.Past w₁) (second : w₁.Past w₂) : w.Past w₂ :=
  ⟨Instant.not_lt_trans first.now second.now, second.issuer.trans first.issuer,
    second.ids.trans first.ids, Nat.le_trans first.idsDrawn second.idsDrawn⟩

theorem Kept.past (kept : w.Kept w') : w.Past w' := by
  refine ⟨?_, kept.issuer, kept.ids, kept.idsDrawn⟩
  rw [kept.now]
  exact Instant.lt_irrefl _

theorem serve_kept (clean : w.Clean) (c : Controller) (r : Operation) : w.Kept (w.serve c r).2 := by
  obtain ⟨calls, runs, -⟩ := serve_cases clean c r
  exact runs.kept

theorem step_clean (clean : w.Clean) (s : Happening) : (w.step c s).Clean := by
  cases s with
  | wait time =>
    rcases waitUntil_cases w time with same | ⟨-, same⟩ <;> rw [step, same] <;> exact clean
  | enroll user => exact clean
  | fail target delay failure =>
    intro t f fault
    by_cases same : t = target
    · have set : f = ⟨delay, failure, false⟩ := by
        simpa [step, setFault, same, eq_comm] using fault
      rw [set]
    · exact clean t f (by simpa [step, setFault, same] using fault)
  | heal target =>
    intro t f fault
    by_cases same : t = target
    · simp [step, setFault, same] at fault
    · exact clean t f (by simpa [step, setFault, same] using fault)
  | serve r => exact clean.of_kept (serve_kept clean c r)

theorem step_smooth (smooth : w.Smooth) {s : Happening} (noFault : s.isFault = false) :
    (w.step c s).Smooth := by
  cases s with
  | wait time =>
    rcases waitUntil_cases w time with same | ⟨-, same⟩ <;> rw [step, same] <;> exact smooth
  | enroll user => exact smooth
  | fail target delay failure => cases noFault
  | heal target =>
    intro t
    by_cases same : t = target
    · simp [step, setFault, same]
    · simpa [step, setFault, same] using smooth t
  | serve r => exact smooth.of_kept (serve_kept smooth.clean c r)

theorem step_past (clean : w.Clean) (s : Happening) : w.Past (w.step c s) := by
  cases s with
  | wait time =>
    rcases waitUntil_cases w time with same | ⟨later, same⟩
    · rw [step, same]
      exact past_refl w
    · rw [step, same]
      exact ⟨later, rfl, rfl, Nat.le_refl _⟩
  | enroll user => exact ⟨Instant.lt_irrefl _, rfl, rfl, Nat.le_refl _⟩
  | fail target delay failure => exact ⟨Instant.lt_irrefl _, rfl, rfl, Nat.le_refl _⟩
  | heal target => exact ⟨Instant.lt_irrefl _, rfl, rfl, Nat.le_refl _⟩
  | serve r => exact (serve_kept clean c r).past

theorem after_serve (c : Controller) (w : World Memory) (r : Operation) :
    w.after c [.serve r] = (w.serve c r).2 := rfl

theorem after_smooth (smooth : w.Smooth) {steps : List Happening}
    (noFault : ∀ s ∈ steps, s.isFault = false) : (w.after c steps).Smooth := by
  induction steps generalizing w with
  | nil => exact smooth
  | cons s steps ih =>
    exact ih (step_smooth smooth (noFault s List.mem_cons_self))
      fun t member => noFault t (List.mem_cons_of_mem _ member)

theorem after_past (clean : w.Clean) (steps : List Happening) : w.Past (w.after c steps) := by
  induction steps generalizing w with
  | nil => exact past_refl w
  | cons s steps ih => exact (step_past clean s).trans (ih (step_clean clean s))

end World

/-! ### A small world -/

/-- The one user of a small world. -/
def soleUser : User where
  id := ⟨List.replicate 16 1, rfl⟩
  email := "ada@example.com"
  passwordHash := Verifier.hash ⟨.least⟩ "engine" (List.replicate 16 0)
  isActive := true
  createdAt := .epoch
  updatedAt := .epoch

/-- What the one user logs in with. -/
def soleCredentials : Credentials := ⟨"ada@example.com", "engine"⟩

/-- Where the one user logs in from. -/
def soleOrigin : DeviceMetadata := ⟨"10.0.0.1", "Firefox"⟩

namespace World

/-- A world with one user, without sessions and without faults. -/
def small (now : Instant) : World Memory where
  now
  deadline := ⟨5000000000⟩
  issuer := ⟨"0123456789abcdef0123456789abcdef", "sessionkeeper", 1800, 604800⟩
  verifier := ⟨.least⟩
  ids n := ⟨Bytes.littleEndian 16 n, Digest.length_littleEndian 16 n⟩
  salts n := Bytes.littleEndian 16 n
  state := { directory := Directory.empty.insert soleUser }

theorem small_smooth (now : Instant) : (small now).Smooth := fun _ => rfl

theorem soleUser_name : Text.lower (Text.trim soleCredentials.email) = "ada@example.com" := by decide

theorem small_knows (now : Instant) :
    (small now).state.directory.find? soleCredentials.email = some soleUser := by
  have kept : Text.lower soleUser.email = "ada@example.com" := by decide
  unfold small
  rw [Directory.find?_insert, kept, soleUser_name, if_pos rfl]

theorem soleOrigin_resolves : ∃ device, soleOrigin.resolve = .ok device := by
  have ip : Text.trim soleOrigin.ip = "10.0.0.1" := by decide
  have userAgent : Text.trim soleOrigin.userAgent = "Firefox" := by decide
  have address : Address.isAddress "10.0.0.1".toList = true := by decide
  unfold DeviceMetadata.resolve
  simp only [ip, userAgent, address]
  exact ⟨_, rfl⟩

theorem canIssue_of_early {w : World Memory} (exact : w.now.nanos < 1000000000)
    (early : ∀ kind, w.now.secs + w.issuer.lifetime kind ≤ 8210266876799) : w.CanIssue := by
  intro kind
  have low := w.now.earliest_le
  have bound := early kind
  unfold Issuer.expiry Instant.addSecs? Instant.of?
  rw [dif_pos ⟨⟨by omega, bound⟩, by omega, Or.inl exact⟩]
  exact ⟨_, rfl⟩

theorem expiry_ok {a : Issuer} {kind : TokenKind} {now expiresAt : Instant}
    (expiry : a.expiry kind now = .ok expiresAt) :
    expiresAt.secs = now.secs + a.lifetime kind ∧ expiresAt.nanos = now.nanos := by
  unfold Issuer.expiry Instant.addSecs? Instant.of? at expiry
  split at expiry
  · rename_i later found
    cases expiry
    split at found
    · cases found
      exact ⟨rfl, rfl⟩
    · cases found
  · cases expiry

/-- A refresh token that is issued now. -/
def mint (w : World Memory) (user : Uuid) (expiresAt : Instant) (id : Uuid) : String :=
  w.issuer.sign (w.issuer.claims .refresh user w.now expiresAt id)

/-- The world with a session that holds a token that is issued now. -/
def opened (w : World Memory) (user : Uuid) (device : DeviceIdentity) (expiresAt : Instant)
    (id : Uuid) : World Memory :=
  w.afterCall (.create user (hashToken (w.mint user expiresAt id)) expiresAt device)

theorem opened_accepts (w : World Memory) (user : Uuid) (device : DeviceIdentity)
    {expiresAt : Instant} (id : Uuid) (current : w.now < expiresAt) :
    (w.opened user device expiresAt id).accepts user device (w.mint user expiresAt id) = true := by
  have found := SessionStore.session?_create w.state.store user
    (hashToken (w.mint user expiresAt id)) expiresAt device w.now user device.id
  rw [if_pos ⟨rfl, rfl⟩] at found
  exact SessionStore.isValid_iff.mpr ⟨_, found, SessionStore.accepts_iff.mpr ⟨rfl, current, rfl⟩⟩

/-- A token that was found good is found good again, whichever token was looked at meanwhile. -/
theorem accepts_again {w : World Memory} {user owner : Uuid} {device other : DeviceIdentity}
    {token seen : String} (valid : w.accepts user device token = true) :
    (w.afterCall (.isValid owner other seen)).accepts user device token = true := by
  obtain ⟨x, found, accepted⟩ := SessionStore.isValid_iff.mp valid
  have checked := SessionStore.session?_isValid w.state.store owner other seen w.now user device.id
  rw [found, Option.map_some] at checked
  refine SessionStore.isValid_iff.mpr ⟨_, checked, ?_⟩
  split
  · exact accepted
  · exact accepted

theorem opened_presents (w : World Memory) (user : Uuid) {device : DeviceIdentity}
    {expiresAt : Instant} (id : Uuid) (late : 5 ≤ w.now.secs) (current : w.now < expiresAt)
    {origin : DeviceMetadata} (resolved : origin.resolve = .ok device) :
    (w.opened user device expiresAt id).Presents (w.mint user expiresAt id) origin user device :=
  ⟨⟨_, w.issuer.check_claims .refresh user w.now id late (Instant.secs_le_of_lt current), rfl, rfl⟩,
    resolved⟩

/-- Without faults a refresh token is good that is presented from its device, and a pair can be
issued. -/
structure Ready (w : World Memory) (token : String) (origin : DeviceMetadata) (user : Uuid)
    (device : DeviceIdentity) : Prop where
  smooth : w.Smooth
  canIssue : w.CanIssue
  reachable : w.state.store.Reachable
  presents : w.Presents token origin user device
  accepts : w.accepts user device token = true

/-- A small world where the one user has logged in. -/
theorem small_ready {device : DeviceIdentity} (resolved : soleOrigin.resolve = .ok device)
    (expiresAt : Instant) (current : Instant.ofSecs 1000 < expiresAt) (id : Uuid) :
    ((small (.ofSecs 1000)).opened soleUser.id device expiresAt id).Ready
      ((small (.ofSecs 1000)).mint soleUser.id expiresAt id) soleOrigin soleUser.id device := by
  have kept : (small (.ofSecs 1000)).Kept
      ((small (.ofSecs 1000)).opened soleUser.id device expiresAt id) := kept_afterCall _ _
  have canIssue : (small (.ofSecs 1000)).CanIssue :=
    canIssue_of_early (by decide) fun kind => by cases kind <;> decide
  exact ⟨(small_smooth (.ofSecs 1000)).of_kept kept, canIssue.of_kept kept, .answer _ _ .empty,
    opened_presents _ _ _ (by decide) current resolved, opened_accepts _ _ _ _ current⟩

theorem lt_of_expiry {a : Issuer} {kind : TokenKind} {now expiresAt : Instant}
    (lasting : 0 < a.lifetime kind) (expiry : a.expiry kind now = .ok expiresAt) :
    now < expiresAt := by
  rw [Instant.lt_iff, (expiry_ok expiry).1]
  omega

/-- The one user of a small world can log in. -/
theorem small_admits (now : Instant) :
    ∃ device, (small now).Admits soleCredentials soleOrigin soleUser device := by
  obtain ⟨device, resolved⟩ := soleOrigin_resolves
  exact ⟨device, small_knows now, rfl, Verifier.compare_hash _ _ _ rfl, resolved⟩

end World

end DeviceSessions
