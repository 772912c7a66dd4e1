import DeviceSessions.Keyed
import DeviceSessions.Text.Blank
import DeviceSessions.Text.Lowercase
import DeviceSessions.User.Basic

/-!
# User directory

Users by email address in lower case, kept in memory. Looking one up also passes over white space
around the address.
-/

namespace DeviceSessions

/-- Users by email address. -/
structure Directory where
  users : Keyed String User := .empty
  deriving Repr

namespace Directory

/-- No users. -/
def empty : Directory := {}

/-- Adds a user, in the place of one with the same address. -/
def insert (d : Directory) (u : User) : Directory := ⟨d.users.put (Text.lower u.email) u⟩

/-- Adds an active user. -/
def add (d : Directory) (n : NewUser) (id : Uuid) (now : Instant) : User × Directory :=
  let u := n.activate id now
  (u, d.insert u)

/-- The user with an email address. -/
def find? (d : Directory) (email : String) : Option User :=
  d.users.get? (Text.lower (Text.trim email))

theorem find?_insert (d : Directory) (u : User) (email : String) :
    (d.insert u).find? email =
      if Text.lower (Text.trim email) = Text.lower u.email then some u else d.find? email :=
  Keyed.get?_put d.users (Text.lower u.email) (Text.lower (Text.trim email)) u

end Directory

end DeviceSessions
