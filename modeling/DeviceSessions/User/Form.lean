import DeviceSessions.Json.Fields
import DeviceSessions.User.Basic

/-!
# Users in JSON

The form of a user that is written does not have the password hash; the one that is read does.
-/

namespace DeviceSessions

open Json

namespace User

/-- The JSON form, without the password hash. -/
def toJson (u : User) : Json :=
  ofFields [
    ("id", ofUuid u.id), ("email", ofText u.email), ("is_active", .bool u.isActive),
    ("created_at", ofInstant u.createdAt), ("updated_at", ofInstant u.updatedAt)]

/-- Reads the JSON form, with the password hash. -/
def ofJson? (j : Json) : Option User := do
  let r ← record? ["id", "email", "password_hash", "is_active", "created_at", "updated_at"] j
  return {
    id := ← r.field? "id" uuid?, email := ← r.field? "email" text?,
    passwordHash := ← r.field? "password_hash" text?, isActive := ← r.field? "is_active" bool?,
    createdAt := ← r.field? "created_at" instant?, updatedAt := ← r.field? "updated_at" instant? }

end User

namespace NewUser

/-- The JSON form. -/
def toJson (n : NewUser) : Json :=
  ofFields [("email", ofText n.email), ("password_hash", ofText n.passwordHash)]

/-- Reads the JSON form. -/
def ofJson? (j : Json) : Option NewUser := do
  let r ← record? ["email", "password_hash"] j
  return { email := ← r.field? "email" text?, passwordHash := ← r.field? "password_hash" text? }

end NewUser

/-- Reads the JSON form; none is ever written. -/
def Credentials.ofJson? (j : Json) : Option Credentials := do
  let r ← record? ["email", "password"] j
  return { email := ← r.field? "email" text?, password := ← r.field? "password" text? }

end DeviceSessions
