import DeviceSessions.Json.Fields
import DeviceSessions.Session.Basic

/-!
# Sessions in JSON

The form of a session that is written does not have the digest of its token; the one that is read
does.
-/

namespace DeviceSessions

open Json

namespace Session

/-- The JSON form, without the digest of the token. -/
def toJson (s : Session) : Json :=
  ofFields [
    ("id", ofInt s.id), ("user_id", ofUuid s.userId), ("device_id", ofText s.deviceId),
    ("expires_at", ofInstant s.expiresAt), ("revoked", .bool s.revoked),
    ("last_used_at", ofInstant s.lastUsedAt), ("created_at", ofInstant s.createdAt)]

/-- Reads the JSON form, with the digest of the token. -/
def ofJson? (j : Json) : Option Session := do
  let r ← record? ["id", "user_id", "device_id", "token_hash", "expires_at", "revoked",
    "last_used_at", "created_at"] j
  return {
    id := (← r.field? "id" int64?).toInt, userId := ← r.field? "user_id" uuid?,
    deviceId := ← r.field? "device_id" text?, tokenHash := ← r.field? "token_hash" text?,
    expiresAt := ← r.field? "expires_at" instant?, revoked := ← r.field? "revoked" bool?,
    lastUsedAt := ← r.field? "last_used_at" instant?,
    createdAt := ← r.field? "created_at" instant? }

end Session

end DeviceSessions
