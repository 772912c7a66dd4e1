import DeviceSessions.Proofs.Settings.Loaded

/-!
# Lifetimes at their limits

From a setting to the end of a token a length of time passes through words of several sizes. At each
step it is exact or there is an error, and the limits are those of the numbers themselves.
-/

namespace DeviceSessions

/-- The last instant. -/
def Instant.latest : Instant := (Instant.of? 8210266876799 999999999).getD .earliest

theorem Instant.secs_latest : Instant.latest.secs = 8210266876799 := rfl

namespace AuthSettings

/-- What the settings of lifetimes come to, in numbers without bounds. -/
structure Measured (s : AuthSettings) : Prop where
  access : s.accessLifetime =
    if 60 * s.accessMinutes.toNat ≤ (Nat.pow 2 63 - 1) / 1000 then .ok (60 * s.accessMinutes.toNat)
    else .error (fault "auth.access_ttl_minutes is out of range")
  refresh : s.refreshLifetime =
    if 3600 * s.refreshHours.toNat ≤ (Nat.pow 2 63 - 1) / 1000 then .ok (3600 * s.refreshHours.toNat)
    else .error (fault "auth.refresh_ttl_hours is out of range")
  issuer : (∃ a, Issuer.ofSettings s = .ok a) ↔
    (∃ n, s.accessLifetime = .ok n) ∧ ∃ n, s.refreshLifetime = .ok n
  accessFirst : ∀ e, s.accessLifetime = .error e → Issuer.ofSettings s = .error e
  refreshNext : ∀ n e, s.accessLifetime = .ok n → s.refreshLifetime = .error e →
    Issuer.ofSettings s = .error e
  valid : s.validate = .ok () ↔ s.Sound
  uncapped : s.validate = .ok () → s.refreshMinutes.toNat = s.refreshHours.toNat * 60

theorem measured (s : AuthSettings) : s.Measured := by
  have most : maxLifetime = (Nat.pow 2 63 - 1) / 1000 := by decide
  have access := s.accessLifetime_eq
  have refresh := s.refreshLifetime_eq
  rw [most, Nat.mul_comm] at access refresh
  have made : Issuer.ofSettings s = s.accessLifetime >>= fun accessLifetime =>
    s.refreshLifetime >>= fun refreshLifetime =>
      .ok ⟨s.secret, s.issuer, accessLifetime, refreshLifetime⟩ := rfl
  constructor
  · exact access
  · exact refresh
  · rw [made]
    cases s.accessLifetime with
    | error e =>
      constructor
      · rintro ⟨_, ⟨⟩⟩
      · rintro ⟨⟨_, ⟨⟩⟩, -⟩
    | ok n =>
      cases s.refreshLifetime with
      | error e =>
        constructor
        · rintro ⟨_, ⟨⟩⟩
        · rintro ⟨-, _, ⟨⟩⟩
      | ok m => exact ⟨fun _ => ⟨⟨n, rfl⟩, m, rfl⟩, fun _ => ⟨_, rfl⟩⟩
  · intro e failed
    rw [made, failed]
    rfl
  · intro n e ends failed
    rw [made, ends, failed]
    rfl
  · exact s.validate_iff
  · intro valid
    have short := (s.validate_iff.mp valid).refresh.2
    exact refreshMinutes_of_fits (Nat.lt_of_le_of_lt (Nat.mul_le_mul_right 60 short) (by decide))

end AuthSettings

theorem claims?_sign (a : Issuer) (c : Claims) : claims? (a.sign c) = some c := by
  unfold claims?
  rw [a.ofText?_sign c]
  exact a.claims_sign c

namespace Issuer

variable {a : Issuer} {kind : TokenKind} {now : Instant}

theorem expiry_beyond (beyond : Instant.latest.secs < now.secs + a.lifetime kind) :
    a.expiry kind now = .error ⟨.internal, kind.title ++ " token expiry out of range", false⟩ := by
  rw [Instant.secs_latest] at beyond
  have far : ¬((-8334601228800 ≤ now.secs + a.lifetime kind ∧
      now.secs + a.lifetime kind ≤ 8210266876799) ∧ now.nanos < 2000000000 ∧
        (now.nanos < 1000000000 ∨ (now.secs + a.lifetime kind) % 60 = 59)) :=
    fun fits => absurd fits.1.2 (Int.not_le.mpr beyond)
  unfold expiry Instant.addSecs? Instant.of?
  rw [dif_neg far]

/-- What issuing a token comes to: it ends a lifetime from now, to the nanosecond, and says so to the
second, or that would be past the last instant and there is no token. -/
structure Issues (a : Issuer) (kind : TokenKind) (subject : Uuid) (now : Instant) (id : Uuid)
    (lifetime : Nat) : Prop where
  early : now.secs + lifetime ≤ Instant.latest.secs → ∃ issued claims,
    a.issue kind subject now id = .ok issued ∧ issued.expiresAt.secs = now.secs + lifetime ∧
      issued.expiresAt.nanos = now.nanos ∧ claims? issued.token = some claims ∧
      claims.issued.toInt = now.secs ∧ claims.expires.toInt = issued.expiresAt.secs
  beyond : Instant.latest.secs < now.secs + lifetime →
    a.issue kind subject now id =
      .error ⟨.internal, kind.title ++ " token expiry out of range", false⟩

theorem issues (whole : a.lifetime kind % 60 = 0) (subject : Uuid) (now : Instant) (id : Uuid) :
    a.Issues kind subject now id (a.lifetime kind) := by
  constructor
  · intro fits
    rw [Instant.secs_latest] at fits
    obtain ⟨expiresAt, expiry⟩ := expiry_of_fits whole fits
    obtain ⟨secs, nanos⟩ := World.expiry_ok expiry
    have say := a.claims_say kind subject now expiresAt id
    have issued : a.issue kind subject now id =
        .ok ⟨a.sign (a.claims kind subject now expiresAt id), expiresAt⟩ := by
      unfold issue
      rw [expiry]
      rfl
    exact ⟨_, _, issued, secs, nanos, claims?_sign a _, say.issued, say.ends⟩
  · intro beyond
    unfold issue
    rw [expiry_beyond beyond]
    rfl

end Issuer

/-- Whatever words the settings are, a lifetime is the product over the integers or there is an error
about the setting, access tokens first; a token ends exactly a lifetime after the clock, or past the
last instant there is none; and settings are valid where the integers that they stand for are. -/
theorem lifetimes_exact (s : AuthSettings) :
    s.Measured ∧ ∀ a, Issuer.ofSettings s = .ok a →
      ∀ (kind : TokenKind) (subject : Uuid) (now : Instant) (id : Uuid),
        a.Issues kind subject now id (s.lifetime kind) := by
  refine ⟨s.measured, fun a made kind subject now id => ?_⟩
  have lifetime := (Issuer.ofSettings_ok made).2 kind
  have whole : a.lifetime kind % 60 = 0 := by
    rw [lifetime]
    cases kind with
    | access => exact Nat.mul_mod_left _ _
    | refresh =>
      change s.refreshHours.toNat * 3600 % 60 = 0
      omega
  rw [← lifetime]
  exact Issuer.issues whole subject now id

/-- Half an hour before the last instant the last access token is issued. -/
theorem lifetimes_exact_last :
    (∃ issued, (World.small .epoch).issuer.issue .access soleUser.id (.ofSecs 8210266874999)
        soleUser.id = .ok issued ∧ issued.expiresAt.secs = Instant.latest.secs) ∧
      (World.small .epoch).issuer.issue .access soleUser.id (.ofSecs 8210266875000) soleUser.id =
        .error ⟨.internal, TokenKind.access.title ++ " token expiry out of range", false⟩ := by
  have issues := (lifetimes_exact _).2 _ (ofSettings_small .epoch) .access soleUser.id
  constructor
  · obtain ⟨issued, -, done, ends, -⟩ :=
      (issues (.ofSecs 8210266874999) soleUser.id).early (by decide)
    exact ⟨issued, done, ends⟩
  · exact (issues (.ofSecs 8210266875000) soleUser.id).beyond (by decide)

end DeviceSessions
