import DeviceSessions.Proofs.Controller.Bearer
import DeviceSessions.Settings.Load

/-!
# Loaded settings

What holds of settings that were loaded, whatever they were loaded from: tokens can be issued under
them, calls have time to be answered, connections can be made, and of a pair the access token is
over before the session that the refresh token opens.
-/

namespace DeviceSessions

/-! ### What is checked -/

theorem checked_iff {p : Prop} [Decidable p] {e : Error} {rest : Result Unit} :
    (if p then .error e else rest) = .ok () ↔ ¬p ∧ rest = .ok () := by
  by_cases refused : p
  · simp [refused]
  · simp [refused]

/-- Settings of tokens that are not refused. -/
structure AuthSettings.Sound (s : AuthSettings) : Prop where
  own : s.secret ≠ placeholderSecret
  long : minSecretSize ≤ s.secret.utf8ByteSize
  named : Text.trim s.issuer ≠ ""
  access : 1 ≤ s.accessMinutes.toNat ∧ s.accessMinutes.toNat ≤ maxAccessMinutes
  refresh : 1 ≤ s.refreshHours.toNat ∧ s.refreshHours.toNat ≤ maxRefreshHours
  ordered : s.accessMinutes.toNat < s.refreshHours.toNat * 60
  patient : s.storeTimeoutSeconds ≠ 0

/-- The product of a life that is not too long has not overflowed. -/
theorem AuthSettings.lt_refreshMinutes_iff {s : AuthSettings}
    (short : s.refreshHours.toNat ≤ maxRefreshHours) :
    s.accessMinutes < s.refreshMinutes ↔ s.accessMinutes.toNat < s.refreshHours.toNat * 60 := by
  have fits : s.refreshHours.toNat * 60 < UInt64.size :=
    Nat.lt_of_le_of_lt (Nat.mul_le_mul_right 60 short) (by decide)
  rw [UInt64.lt_iff_toNat_lt, refreshMinutes_of_fits fits]

theorem AuthSettings.validate_iff (s : AuthSettings) : s.validate = .ok () ↔ s.Sound := by
  unfold validate
  simp only [checked_iff, and_true, not_or, Nat.not_lt, UInt64.not_le]
  constructor
  · rintro ⟨own, long, named, access, refresh, ordered, patient⟩
    exact ⟨own, long, named, access, refresh, (lt_refreshMinutes_iff refresh.2).mp ordered, patient⟩
  · rintro ⟨own, long, named, access, refresh, ordered, patient⟩
    exact ⟨own, long, named, access, refresh, (lt_refreshMinutes_iff refresh.2).mpr ordered, patient⟩

/-- Settings of the database that are not refused. -/
structure DatabaseSettings.Sound (s : DatabaseSettings) : Prop where
  located : Text.trim s.url ≠ ""
  connects : s.maxConnections ≠ 0
  patient : s.connectTimeoutSeconds ≠ 0

theorem DatabaseSettings.validate_iff (s : DatabaseSettings) : s.validate = .ok () ↔ s.Sound := by
  unfold validate
  simp only [checked_iff, and_true]
  constructor
  · rintro ⟨located, connects, patient⟩
    exact ⟨located, connects, patient⟩
  · rintro ⟨located, connects, patient⟩
    exact ⟨located, connects, patient⟩

namespace Settings

theorem validate_iff (s : Settings) : s.validate = .ok () ↔ s.database.Sound ∧ s.auth.Sound := by
  rw [← s.database.validate_iff, ← s.auth.validate_iff]
  unfold validate
  cases s.database.validate with
  | error e =>
    constructor
    · intro passed
      cases passed
    · rintro ⟨passed, -⟩
      cases passed
  | ok u => exact ⟨fun passed => ⟨rfl, passed⟩, And.right⟩

variable {files : String → Option String} {name : String} {environment : Option String}
  {vars : List (String × String)} {s : Settings}

/-- Settings that were loaded come from the layers of the files with that of the variables over them,
and were not refused. -/
theorem load_ok (loaded : load files name environment vars = .ok s) :
    ∃ lower, (fileNames name environment).mapM (fileLayer? files) = some lower ∧
      ofSetting? ((lower.foldl Setting.addLayer (.table [])).addLayer (Environment.layer vars)) =
        some s ∧
      s.database.Sound ∧ s.auth.Sound := by
  unfold load layers? at loaded
  cases layered : (fileNames name environment).mapM (fileLayer? files) with
  | none =>
    rw [layered] at loaded
    cases loaded
  | some lower =>
    rw [layered] at loaded
    cases read : ofSetting?
        ((lower ++ [Environment.layer vars]).foldl Setting.addLayer (.table [])) with
    | none =>
      simp only [Option.bind_eq_bind, Option.bind_some, Option.pure_def, read] at loaded
      cases loaded
    | some settings =>
      simp only [Option.bind_eq_bind, Option.bind_some, Option.pure_def, read] at loaded
      rw [List.foldl_append] at read
      cases valid : settings.validate with
      | error e =>
        rw [valid] at loaded
        cases loaded
      | ok u =>
        rw [valid] at loaded
        cases loaded
        exact ⟨lower, rfl, read, s.validate_iff.mp valid⟩

end Settings

/-! ### Issuing at two readings of the clock -/

namespace Issuer

variable {a : Issuer} {s : AuthSettings}

theorem ofSettings_of_sound (sound : s.Sound) : ∃ a, ofSettings s = .ok a := by
  obtain ⟨-, access⟩ := sound.access
  obtain ⟨-, refresh⟩ := sound.refresh
  have small : AuthSettings.maxAccessMinutes * 60 ≤ AuthSettings.maxLifetime ∧
    AuthSettings.maxRefreshHours * 3600 ≤ AuthSettings.maxLifetime := by decide
  unfold ofSettings
  rw [AuthSettings.accessLifetime_eq, AuthSettings.refreshLifetime_eq,
    if_pos (Nat.le_trans (Nat.mul_le_mul_right 60 access) small.1),
    if_pos (Nat.le_trans (Nat.mul_le_mul_right 3600 refresh) small.2)]
  exact ⟨_, rfl⟩

theorem expiry_of_fits {kind : TokenKind} {now : Instant} (whole : a.lifetime kind % 60 = 0)
    (fits : now.secs + a.lifetime kind ≤ 8210266876799) :
    ∃ expiresAt, a.expiry kind now = .ok expiresAt := by
  have early := now.earliest_le
  have small := now.nanos_lt
  have leap := now.leap
  unfold expiry Instant.addSecs? Instant.of?
  -- As the lifetime is in whole minutes, a leap second stays at the end of a minute.
  rw [dif_pos ⟨⟨by omega, fits⟩, small, by omega⟩]
  exact ⟨_, rfl⟩

end Issuer

namespace World

variable {σ : Type}

/-- The answer of a world whose clock goes on between calls: it is read anew for each, and stands
after the last reading. -/
def answerNext (b : Backend σ) (call : Call) (s : World σ × List Instant) :
    call.Answer × (World σ × List Instant) :=
  let (answer, w) := answer b call { s.1 with now := s.2.headD s.1.now }
  (answer, w, s.2.tail)

/-- What an action comes to in a world whose clock is read at these times, one call after the
other. -/
def runThrough {α : Type} (b : Backend σ) (w : World σ) (readings : List Instant)
    (action : Action α) : Result α :=
  (action.run.run (answerNext b) (w, readings)).1

/-- The world at a reading of its clock. -/
def atTime (w : World σ) (now : Instant) : World σ := { w with now }

theorem answerNext_issue {w : World Memory} {kind : TokenKind} {now ends : Instant}
    (unfailed : w.failure? (.issue kind) = none) (expiry : w.issuer.expiry kind now = .ok ends)
    (user : Uuid) (later : List Instant) :
    answerNext Memory.backend (.issue kind user) (w, now :: later) =
      (.ok ((w.atTime now).nextToken kind user ends), (w.atTime now).drawn, later) := by
  have issued := issue_ok (w := w.atTime now) unfailed expiry user
  unfold answerNext
  exact congrArg (fun x => (x.1, x.2, later)) issued

theorem issuePair_runThrough {w : World Memory} {early late accessEnds refreshEnds : Instant}
    (unfailed : ∀ kind, w.failure? (.issue kind) = none)
    (access : w.issuer.expiry .access early = .ok accessEnds)
    (refresh : w.issuer.expiry .refresh late = .ok refreshEnds) (user : Uuid) :
    w.runThrough Memory.backend [early, late] (Controller.issuePair user) =
      .ok (.ok (.of ((w.atTime early).nextToken .access user accessEnds)
        (((w.atTime early).drawn.atTime late).nextToken .refresh user refreshEnds))) := by
  have first := answerNext_issue (unfailed .access) access user [late]
  have second := answerNext_issue (w := (w.atTime early).drawn) (unfailed .refresh) refresh user []
  unfold runThrough Controller.issuePair
  rw [Action.run_bind, Action.run_call, first]
  dsimp only
  rw [Action.run_bind, Action.run_call, second]
  rfl

end World

/-! ### What is loaded -/

/-- The fewest variables that settings can be loaded from. -/
def fewestVars : List (String × String) :=
  [("SESSIONKEEPER__DATABASE__URL", "pg://db"),
    ("SESSIONKEEPER__AUTH__JWT_SECRET", "a secret of no less than 32 bytes")]

/-- What is loaded from them: all else is as usual. -/
def usualSettings : Settings where
  database := { url := "pg://db" }
  auth := { secret := "a secret of no less than 32 bytes" }

theorem load_fewest :
    Settings.load (fun _ => none) "config/default" none fewestVars = .ok usualSettings := by
  decide +kernel

/-- What tokens are issued with under the usual settings. -/
def usualIssuer : Issuer := ⟨"a secret of no less than 32 bytes", "sessionkeeper", 1800, 604800⟩

theorem ofSettings_usual : Issuer.ofSettings usualSettings.auth = .ok usualIssuer := by decide

/-- Settings that were loaded, from whatever files and variables, are good to work with. Calls have
a second or more, and at least one connection may be open. Tokens can be issued: at any two readings
of the clock, of which the second is a year or more before the end of time, a pair is issued whose
access token ends first. And when a session that was recorded with the end of the refresh token is
over, the access token is over too, whatever was in the store. -/
theorem loaded_settings_issue {files : String → Option String} {name : String}
    {environment : Option String} {vars : List (String × String)} {s : Settings}
    (loaded : Settings.load files name environment vars = .ok s) :
    ∃ a, Issuer.ofSettings s.auth = .ok a ∧
      .ofSecs 1 ≤ s.auth.storeTimeout ∧ .ofSecs 1 ≤ s.database.connectTimeout ∧
      s.database.pool.minConnections ≤ s.database.pool.maxConnections ∧
      1 ≤ s.database.pool.maxConnections ∧
      ∀ (w : World Memory) (user : Uuid) (early late : Instant),
        w.issuer = a → (∀ kind, w.failure? (.issue kind) = none) →
        5 ≤ early.secs → ¬late < early → late.secs + 365 * 86400 ≤ 8210266876799 →
        ∃ pair, w.runThrough Memory.backend [early, late] (Controller.issuePair user) =
            .ok (.ok pair) ∧
          pair.accessExpiresAt < pair.refreshExpiresAt ∧
          ∀ (store : SessionStore) (device : DeviceIdentity) (created now : Instant),
            (store.create user (hashToken pair.refreshToken) pair.refreshExpiresAt device
              created).1.isActiveAt now = false →
            a.parse pair.accessToken now = .error ⟨.invalidToken, "Token has expired", false⟩ := by
  obtain ⟨lower, -, -, database, auth⟩ := Settings.load_ok loaded
  obtain ⟨a, made⟩ := Issuer.ofSettings_of_sound auth
  have patient : s.auth.storeTimeoutSeconds.toNat ≠ 0 := fun zero =>
    auth.patient (UInt64.toNat_inj.mp zero)
  have connects : s.database.maxConnections.toNat ≠ 0 := fun zero =>
    database.connects (UInt32.toNat_inj.mp zero)
  have waits : s.database.connectTimeoutSeconds.toNat ≠ 0 := fun zero =>
    database.patient (UInt64.toNat_inj.mp zero)
  refine ⟨a, made, ?_, ?_, Nat.min_le_right _ _, Nat.one_le_iff_ne_zero.mpr connects, ?_⟩
  · exact Nat.mul_le_mul_right _ (Nat.one_le_iff_ne_zero.mpr patient)
  · exact Nat.mul_le_mul_right _ (Nat.one_le_iff_ne_zero.mpr waits)
  intro w user early late own unfailed start order room
  obtain ⟨name, lifetime⟩ := Issuer.ofSettings_ok made
  have accessLife : a.lifetime .access = s.auth.accessMinutes.toNat * 60 := lifetime .access
  have refreshLife : a.lifetime .refresh = s.auth.refreshHours.toNat * 3600 := lifetime .refresh
  have refreshMost : s.auth.refreshHours.toNat ≤ 8760 := auth.refresh.2
  have ordered := auth.ordered
  have after := Instant.secs_le_of_not_lt order
  obtain ⟨accessEnds, access⟩ : ∃ ends, a.expiry .access early = .ok ends :=
    Issuer.expiry_of_fits (by omega) (by omega)
  obtain ⟨refreshEnds, refresh⟩ : ∃ ends, a.expiry .refresh late = .ok ends :=
    Issuer.expiry_of_fits (by omega) (by omega)
  have accessTime := (World.expiry_ok access).1
  have refreshTime := (World.expiry_ok refresh).1
  subst own
  refine ⟨_, World.issuePair_runThrough unfailed access refresh user, ?_, ?_⟩
  · exact Or.inl (by dsimp only [TokenPair.of, World.nextToken]; omega)
  · intro store device created now ended
    -- The session is over at the end of the refresh token, a minute or more behind that of the
    -- access token, which is more than the leeway.
    have past : ¬now < refreshEnds := of_decide_eq_false ended
    have gone := Instant.secs_le_of_not_lt past
    have ends : 0 ≤ accessEnds.secs := by omega
    have parsed := w.issuer.parse_issued .access user early (w.ids w.idsDrawn)
      (show 5 ≤ now.secs by omega) ends
    rw [if_neg (by omega)] at parsed
    exact parsed

/-- Under the usual settings a pair is issued over two seconds of 1970. A week later, when the
session is over, the access token is not taken. -/
theorem loaded_settings_issue_fewest :
    ∃ pair, { World.small .epoch with issuer := usualIssuer }.runThrough Memory.backend
        [.ofSecs 5, .ofSecs 6] (Controller.issuePair soleUser.id) = .ok (.ok pair) ∧
      pair.accessExpiresAt < pair.refreshExpiresAt ∧
      usualIssuer.parse pair.accessToken (.ofSecs 604806) =
        .error ⟨.invalidToken, "Token has expired", false⟩ := by
  obtain ⟨a, made, -, -, -, -, issues⟩ := loaded_settings_issue load_fewest
  obtain rfl : a = usualIssuer := Except.ok.inj (made.symm.trans ofSettings_usual)
  obtain ⟨pair, issued, order, ended⟩ := issues { World.small .epoch with issuer := usualIssuer }
    soleUser.id (.ofSecs 5) (.ofSecs 6) rfl (fun _ => rfl) (by decide) (by decide) (by decide)
  have ends : pair.refreshExpiresAt = .ofSecs 604806 := by
    rw [World.issuePair_runThrough (fun _ => rfl) rfl rfl] at issued
    cases issued
    rfl
  refine ⟨pair, issued, order, ended .empty
    ⟨"phone", "Phone", .mobile, "iOS", "Safari", "Safari/1", "10.0.0.3"⟩ (.ofSecs 6) _ ?_⟩
  rw [ends]
  rfl

end DeviceSessions
