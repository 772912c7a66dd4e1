import DeviceSessions.Error
import DeviceSessions.Text.Lowercase
import DeviceSessions.Time.Instant
import DeviceSessions.Uuid

/-!
# Devices

A device is what a user logs in from. Its identity follows from the metadata of a connection; the
record that a user owns also has a name of the user's choice and the times of use.
-/

namespace DeviceSessions

/-- The form factor of a device. -/
inductive DeviceKind where
  | desktop
  | mobile
  | tablet
  | bot
  | unknown
  deriving DecidableEq, Repr

namespace DeviceKind

/-- All kinds. -/
def all : List DeviceKind := [desktop, mobile, tablet, bot, unknown]

/-- The name of the kind. -/
def name : DeviceKind → String
  | desktop => "desktop"
  | mobile => "mobile"
  | tablet => "tablet"
  | bot => "bot"
  | unknown => "unknown"

/-- The kinds by name. -/
def byName : List (String × DeviceKind) := all.map fun k => (k.name, k)

/-- The kind with a name in any letter case. -/
def ofText (text : String) : Result DeviceKind :=
  match byName.lookup (Text.lower text) with
  | some kind => .ok kind
  | none => .error ⟨.validation, "Invalid device type: '" ++ text ++ "'", false⟩

end DeviceKind

/-- What the transport knows about a connection. -/
structure DeviceMetadata where
  ip : String
  userAgent : String
  deriving DecidableEq, Repr

/-- A device as it follows from the metadata of a connection. -/
structure DeviceIdentity where
  id : String
  name : String
  kind : DeviceKind
  os : String
  browser : String
  userAgent : String
  ip : String
  deriving DecidableEq, Repr

/-- A device that a user has logged in from. -/
structure Device where
  id : String
  userId : Uuid
  name : String
  kind : DeviceKind
  os : String
  browser : String
  userAgent : String
  ip : String
  lastActive : Instant
  createdAt : Instant
  deriving DecidableEq, Repr

namespace Device

/-- The record that a first login from this device makes. -/
def ofIdentity (userId : Uuid) (d : DeviceIdentity) (now : Instant) : Device :=
  { id := d.id, userId, name := d.name, kind := d.kind, os := d.os, browser := d.browser,
    userAgent := d.userAgent, ip := d.ip, lastActive := now, createdAt := now }

/-- The record after a later login: all but the name and the time of creation is new. -/
def refresh (d fresh : Device) : Device :=
  { d with
    kind := fresh.kind, os := fresh.os, browser := fresh.browser, userAgent := fresh.userAgent,
    ip := fresh.ip, lastActive := fresh.lastActive }

end Device

end DeviceSessions
