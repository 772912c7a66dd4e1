import DeviceSessions.Time.Instant
import DeviceSessions.Uuid

/-!
# Tokens

An access token proves who a caller is for a short time; a refresh token buys the next pair. Both
carry the same claims.
-/

namespace DeviceSessions

/-- The two kinds of token. -/
inductive TokenKind where
  | access
  | refresh
  deriving DecidableEq, Repr

namespace TokenKind

/-- The name in claims. -/
def name : TokenKind → String
  | access => "access"
  | refresh => "refresh"

/-- The name for people. -/
def title : TokenKind → String
  | access => "Access"
  | refresh => "Refresh"

/-- The kinds by name. -/
def byName : List (String × TokenKind) := [("access", access), ("refresh", refresh)]

end TokenKind

/-- What a token says: whose it is, who issued it, when it was issued and when it ends in seconds
since the start of 1970, which token it is, and its kind. -/
structure Claims where
  subject : Uuid
  issuer : String
  issued : Int64
  expires : Int64
  id : Uuid
  kind : TokenKind
  deriving DecidableEq, Repr

namespace Claims

/-- When the token was issued. -/
def issuedAt (c : Claims) : Instant := .ofSecs c.issued.toInt

/-- When the token ends. -/
def expiresAt (c : Claims) : Instant := .ofSecs c.expires.toInt

/-- The whole seconds until the token ends, none if it has. The difference is one of 64 bits. -/
def remaining (c : Claims) (now : Instant) : Nat := (c.expires - .ofInt now.secs).toInt.toNat

end Claims

/-- Who a caller is, from an access token. -/
structure AuthContext where
  userId : Uuid
  tokenId : Uuid
  expiresAt : Instant
  deriving DecidableEq, Repr

/-- The caller that claims speak of. -/
def AuthContext.ofClaims (c : Claims) : AuthContext := ⟨c.subject, c.id, c.expiresAt⟩

/-- A token with the instant at which it ends. -/
structure IssuedToken where
  token : String
  expiresAt : Instant
  deriving DecidableEq, Repr

/-- An access token and a refresh token, with the instants at which they end. -/
structure TokenPair where
  accessToken : String
  refreshToken : String
  accessExpiresAt : Instant
  refreshExpiresAt : Instant
  deriving DecidableEq, Repr

/-- The pair of two tokens. -/
def TokenPair.of (access refresh : IssuedToken) : TokenPair :=
  ⟨access.token, refresh.token, access.expiresAt, refresh.expiresAt⟩

end DeviceSessions
