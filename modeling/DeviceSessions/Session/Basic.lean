import DeviceSessions.Digest.Sha256
import DeviceSessions.Time.Instant
import DeviceSessions.Uuid

/-!
# Sessions

A session binds a user, a device and the one refresh token that is good there now. Of the token only
a digest is kept.
-/

namespace DeviceSessions

/-- The record of the refresh token of a user on a device. -/
structure Session where
  id : Int
  userId : Uuid
  deviceId : String
  tokenHash : String
  expiresAt : Instant
  revoked : Bool
  lastUsedAt : Instant
  createdAt : Instant
  deriving DecidableEq, Repr

namespace Session

/-- Whether the session is neither revoked nor over. -/
def isActiveAt (s : Session) (now : Instant) : Bool := !s.revoked && now < s.expiresAt

/-- The session with its token revoked. -/
def revoke (s : Session) : Session := { s with revoked := true }

/-- The session with its token used now. -/
def touch (s : Session) (now : Instant) : Session := { s with lastUsedAt := now }

end Session

/-- The digest of a token that is kept in its place. -/
def hashToken (token : String) : String := Bytes.hex (Digest.sha256 (Bytes.ofText token))

/-- Whether two digests are the same. -/
def digestsMatch (a b : String) : Bool := a == b

/-- Whether a token is the one of an active session. -/
def Session.accepts (s : Session) (token : String) (now : Instant) : Bool :=
  s.isActiveAt now && digestsMatch s.tokenHash (hashToken token)

end DeviceSessions
