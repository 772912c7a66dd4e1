import DeviceSessions.Text.Quoted
import DeviceSessions.Time.Instant
import DeviceSessions.Uuid

/-!
# Users

Accounts, and what a person presents to log in to one.
-/

namespace DeviceSessions

/-- An account. -/
structure User where
  id : Uuid
  email : String
  passwordHash : String
  isActive : Bool
  createdAt : Instant
  updatedAt : Instant
  deriving DecidableEq, Repr

/-- What is needed to make an account. -/
structure NewUser where
  email : String
  passwordHash : String
  deriving DecidableEq, Repr

/-- The active account of a new user. -/
def NewUser.activate (n : NewUser) (id : Uuid) (now : Instant) : User :=
  { id, email := n.email, passwordHash := n.passwordHash, isActive := true, createdAt := now,
    updatedAt := now }

/-- An email address and a password. -/
structure Credentials where
  email : String
  password : String
  deriving DecidableEq, Repr

/-- The form in diagnostics, which does not show the password. -/
def Credentials.diagnostic (c : Credentials) : String :=
  "Credentials \x7b email: " ++ Text.quoted c.email ++ ", password: \"****\" \x7d"

end DeviceSessions
