import DeviceSessions.Base64
import DeviceSessions.Digest.Sha256
import DeviceSessions.Json.Writer
import DeviceSessions.Settings.Auth
import DeviceSessions.Token.Form
import DeviceSessions.Token.Header

/-!
# Issuing tokens

A token is the text of its header, its claims and its signature, each in base 64, with points
between them. The signature covers the first two parts as they stand.
-/

namespace DeviceSessions

/-- What tokens are issued and checked with. Lifetimes are in seconds. -/
structure Issuer where
  secret : String
  name : String
  accessLifetime : Nat
  refreshLifetime : Nat
  deriving DecidableEq, Repr

namespace Issuer

/-- The issuer under some settings, if their lifetimes are in range. -/
def ofSettings (s : AuthSettings) : Result Issuer := do
  let accessLifetime ← s.accessLifetime
  let refreshLifetime ← s.refreshLifetime
  return { secret := s.secret, name := s.issuer, accessLifetime, refreshLifetime }

/-- The lifetime of a kind of token. -/
def lifetime (a : Issuer) : TokenKind → Nat
  | .access => a.accessLifetime
  | .refresh => a.refreshLifetime

/-- A part of a token. -/
def encodePart (bs : Bytes) : String := Base64.encode Base64.urlSafe bs

/-- The part of a token that holds a JSON value. -/
def encodeJson (j : Json) : String := encodePart (Bytes.ofText (Json.write j))

/-- The signature of a text. -/
def signature (a : Issuer) (message : String) : Bytes :=
  Digest.hmacSha256 (Bytes.ofText a.secret) (Bytes.ofText message)

/-- The token with these claims. -/
def sign (a : Issuer) (c : Claims) : String :=
  let message := encodeJson Header.json ++ "." ++ encodeJson c.toJson
  message ++ "." ++ encodePart (a.signature message)

/-- When a token of this kind ends that is issued now. -/
def expiry (a : Issuer) (kind : TokenKind) (now : Instant) : Result Instant :=
  match now.addSecs? (a.lifetime kind) with
  | some t => .ok t
  | none => .error ⟨.internal, kind.title ++ " token expiry out of range", false⟩

/-- The claims of a token for a subject. -/
def claims (a : Issuer) (kind : TokenKind) (subject : Uuid) (now expiresAt : Instant) (id : Uuid) :
    Claims :=
  { subject, issuer := a.name, issued := .ofInt now.secs, expires := .ofInt expiresAt.secs, id,
    kind }

/-- Issues a token with the identifier `id`. -/
def issue (a : Issuer) (kind : TokenKind) (subject : Uuid) (now : Instant) (id : Uuid) :
    Result IssuedToken := do
  let expiresAt ← a.expiry kind now
  return ⟨a.sign (a.claims kind subject now expiresAt id), expiresAt⟩

/-- The form in diagnostics, which does not show the secret. -/
def diagnostic (a : Issuer) : String :=
  "JwtEncoder \x7b issuer: " ++ Text.quoted a.name ++ ", access_ttl: TimeDelta \x7b secs: " ++
    toString a.accessLifetime ++ ", nanos: 0 \x7d, refresh_ttl: TimeDelta \x7b secs: " ++
    toString a.refreshLifetime ++ ", nanos: 0 \x7d \x7d"

end Issuer

end DeviceSessions
