import DeviceSessions.Json.Fields
import DeviceSessions.Token.Basic

/-!
# Tokens in JSON and in diagnostics
-/

namespace DeviceSessions

open Json

namespace TokenKind

/-- The JSON form. -/
def toJson (k : TokenKind) : Json := Json.ofText k.name

/-- Reads the JSON form. -/
def ofJson? : Json → Option TokenKind := named? byName

end TokenKind

namespace Claims

/-- The JSON form. -/
def toJson (c : Claims) : Json :=
  ofFields [
    ("sub", ofUuid c.subject), ("iss", ofText c.issuer), ("iat", ofInt c.issued.toInt),
    ("exp", ofInt c.expires.toInt), ("jti", ofUuid c.id), ("typ", c.kind.toJson)]

/-- Reads the JSON form. -/
def ofJson? (j : Json) : Option Claims := do
  let r ← record? ["sub", "iss", "iat", "exp", "jti", "typ"] j
  return {
    subject := ← r.field? "sub" uuid?, issuer := ← r.field? "iss" text?,
    issued := ← r.field? "iat" int64?, expires := ← r.field? "exp" int64?,
    id := ← r.field? "jti" uuid?, kind := ← r.field? "typ" TokenKind.ofJson? }

end Claims

namespace AuthContext

/-- The JSON form. -/
def toJson (c : AuthContext) : Json :=
  ofFields [
    ("user_id", ofUuid c.userId), ("token_id", ofUuid c.tokenId),
    ("expires_at", ofInstant c.expiresAt)]

/-- Reads the JSON form. -/
def ofJson? (j : Json) : Option AuthContext := do
  let r ← record? ["user_id", "token_id", "expires_at"] j
  return {
    userId := ← r.field? "user_id" uuid?, tokenId := ← r.field? "token_id" uuid?,
    expiresAt := ← r.field? "expires_at" instant? }

end AuthContext

namespace TokenPair

/-- The JSON form. -/
def toJson (p : TokenPair) : Json :=
  ofFields [
    ("access_token", ofText p.accessToken), ("refresh_token", ofText p.refreshToken),
    ("access_expires_at", ofInstant p.accessExpiresAt),
    ("refresh_expires_at", ofInstant p.refreshExpiresAt)]

/-- Reads the JSON form. -/
def ofJson? (j : Json) : Option TokenPair := do
  let r ← record? ["access_token", "refresh_token", "access_expires_at", "refresh_expires_at"] j
  return {
    accessToken := ← r.field? "access_token" text?,
    refreshToken := ← r.field? "refresh_token" text?,
    accessExpiresAt := ← r.field? "access_expires_at" instant?,
    refreshExpiresAt := ← r.field? "refresh_expires_at" instant? }

/-- The form in diagnostics, which shows neither token. -/
def diagnostic (p : TokenPair) : String :=
  "TokenPair \x7b access_expires_at: " ++ Rfc3339.write p.accessExpiresAt ++
    ", refresh_expires_at: " ++ Rfc3339.write p.refreshExpiresAt ++ ", .. \x7d"

end TokenPair

end DeviceSessions
