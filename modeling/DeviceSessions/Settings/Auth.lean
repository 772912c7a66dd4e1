import DeviceSessions.Error
import DeviceSessions.Text.Blank
import DeviceSessions.Text.Quoted
import DeviceSessions.Time.Delta
import DeviceSessions.Time.Span

/-!
# Settings of tokens and credentials

How tokens are signed, how long they live, and how long the store may take. `validate` refuses
settings that would make tokens forgeable or useless.
-/

namespace DeviceSessions

/-- The settings of tokens and credentials. -/
structure AuthSettings where
  secret : String
  issuer : String := "sessionkeeper"
  accessMinutes : UInt64 := 30
  refreshHours : UInt64 := 168
  storeTimeoutSeconds : UInt64 := 5
  deriving DecidableEq, Repr

namespace AuthSettings

/-- The secret in sample settings, which is refused. -/
def placeholderSecret : String := "CHANGE_ME_IN_PRODUCTION"

/-- The fewest bytes of a secret. -/
def minSecretSize : Nat := 32

/-- The longest life of an access token: a day. -/
def maxAccessMinutes : Nat := 1440

/-- The longest life of a refresh token: a year. -/
def maxRefreshHours : Nat := 8760

/-- An error about settings. -/
def fault (message : String) : Error := ⟨.configuration, message, false⟩

/-- The minutes that a refresh token lives; a word that has overflowed counts as the largest. -/
def refreshMinutes (s : AuthSettings) : UInt64 := (Delta.product? s.refreshHours 60).getD (-1)

/-- Refuses settings that are unsafe or make no sense. -/
def validate (s : AuthSettings) : Result Unit :=
  if s.secret = placeholderSecret then
    .error (fault "auth.jwt_secret still holds the placeholder value")
  else if s.secret.utf8ByteSize < minSecretSize then
    .error (fault s!"auth.jwt_secret must be at least {minSecretSize} bytes")
  else if Text.trim s.issuer = "" then .error (fault "auth.jwt_issuer must not be empty")
  else if s.accessMinutes.toNat < 1 ∨ maxAccessMinutes < s.accessMinutes.toNat then
    .error (fault s!"auth.access_ttl_minutes must be between 1 and {maxAccessMinutes}")
  else if s.refreshHours.toNat < 1 ∨ maxRefreshHours < s.refreshHours.toNat then
    .error (fault s!"auth.refresh_ttl_hours must be between 1 and {maxRefreshHours}")
  else if s.refreshMinutes ≤ s.accessMinutes then
    .error (fault "access tokens must expire before refresh tokens")
  else if s.storeTimeoutSeconds = 0 then
    .error (fault "auth.store_timeout_seconds must be at least 1")
  else .ok ()

/-- The most seconds of a lifetime, so that its milliseconds fit 64 bits with a sign. -/
def maxLifetime : Nat := Int64.maxValue.toInt.toNat / 1000

/-- The seconds of `n` units that the setting `field` gives. -/
def lifetimeIn (field : String) (unit : Int64) (n : UInt64) : Result Nat :=
  match Delta.seconds? unit n with
  | some seconds => .ok seconds.toInt.toNat
  | none => .error (fault (field ++ " is out of range"))

/-- The seconds that an access token lives. -/
def accessLifetime (s : AuthSettings) : Result Nat :=
  lifetimeIn "auth.access_ttl_minutes" 60 s.accessMinutes

/-- The seconds that a refresh token lives. -/
def refreshLifetime (s : AuthSettings) : Result Nat :=
  lifetimeIn "auth.refresh_ttl_hours" 3600 s.refreshHours

theorem lifetimeIn_eq (field : String) {unit : Int64} (positive : 0 < unit.toInt) (n : UInt64) :
    lifetimeIn field unit n =
      if n.toNat * unit.toInt.toNat ≤ maxLifetime then .ok (n.toNat * unit.toInt.toNat)
      else .error (fault (field ++ " is out of range")) := by
  have most : maxLifetime = 9223372036854775 := by decide
  have product : (n.toNat : Int) * unit.toInt = (n.toNat * unit.toInt.toNat : Nat) := by
    rw [Int.natCast_mul, Int.toNat_of_nonneg (Int.le_of_lt positive)]
  unfold lifetimeIn
  cases found : Delta.seconds? unit n with
  | none =>
    have long := (Delta.seconds?_eq_none_iff positive).mp found
    rw [product] at long
    rw [if_neg (by omega)]
  | some seconds =>
    obtain ⟨exact, short⟩ := (Delta.seconds?_eq_some_iff positive).mp found
    rw [product] at exact short
    rw [if_pos (by omega)]
    dsimp only
    rw [exact, Int.toNat_natCast]

theorem accessLifetime_eq (s : AuthSettings) :
    s.accessLifetime =
      if s.accessMinutes.toNat * 60 ≤ maxLifetime then .ok (s.accessMinutes.toNat * 60)
      else .error (fault "auth.access_ttl_minutes is out of range") :=
  lifetimeIn_eq "auth.access_ttl_minutes" (by decide) s.accessMinutes

theorem refreshLifetime_eq (s : AuthSettings) :
    s.refreshLifetime =
      if s.refreshHours.toNat * 3600 ≤ maxLifetime then .ok (s.refreshHours.toNat * 3600)
      else .error (fault "auth.refresh_ttl_hours is out of range") :=
  lifetimeIn_eq "auth.refresh_ttl_hours" (by decide) s.refreshHours

theorem refreshMinutes_of_fits {s : AuthSettings} (fits : s.refreshHours.toNat * 60 < UInt64.size) :
    s.refreshMinutes.toNat = s.refreshHours.toNat * 60 := by
  unfold refreshMinutes
  cases product : Delta.product? s.refreshHours 60 with
  | none =>
    have beyond : UInt64.size ≤ s.refreshHours.toNat * 60 := Delta.product?_eq_none_iff.mp product
    omega
  | some minutes => exact Delta.product?_eq_some_iff.mp product

/-- How long one call of the store may take. -/
def storeTimeout (s : AuthSettings) : Span := .ofSecs s.storeTimeoutSeconds.toNat

/-- The form in diagnostics, which does not show the secret. -/
def diagnostic (s : AuthSettings) : String :=
  "AuthConfig \x7b jwt_secret: \"****\", jwt_issuer: " ++ Text.quoted s.issuer ++
    ", access_ttl_minutes: " ++ toString s.accessMinutes.toNat ++
    ", refresh_ttl_hours: " ++ toString s.refreshHours.toNat ++
    ", store_timeout_seconds: " ++ toString s.storeTimeoutSeconds.toNat ++ " \x7d"

end AuthSettings

end DeviceSessions
