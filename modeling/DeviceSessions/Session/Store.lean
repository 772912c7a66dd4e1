import DeviceSessions.Device.Basic
import DeviceSessions.Keyed
import DeviceSessions.Session.Basic

/-!
# Session store

The devices and sessions of all users, kept in memory, at most one session for a user on a device.
The names that users gave their devices outlive new logins, and a device takes its session with it.
-/

namespace DeviceSessions

/-- A user and a device of that user. -/
abbrev DeviceKey := Uuid × String

/-- Devices by time of last use, latest first, those of one time by identifier. -/
def Device.comesBefore (d e : Device) : Bool :=
  decide (e.lastActive < d.lastActive) ||
    (decide (e.lastActive = d.lastActive) && !decide (e.id < d.id))

/-- Devices, sessions, and the last number given to a session. -/
structure SessionStore where
  devices : Keyed DeviceKey Device := .empty
  sessions : Keyed DeviceKey Session := .empty
  lastId : Int := 0
  deriving Repr

namespace SessionStore

/-- The store without devices and sessions. -/
def empty : SessionStore := {}

/-- The session of a user on a device, in whatever state. -/
def session? (s : SessionStore) (user : Uuid) (device : String) : Option Session :=
  s.sessions.get? (user, device)

/-- How many sessions of a user are neither revoked nor over. -/
def activeCount (s : SessionStore) (user : Uuid) (now : Instant) : Nat :=
  (s.sessions.values.filter fun x => x.userId = user && x.isActiveAt now).length

/-- The devices with one that is used now: a new one, or one that is known already. -/
def withDevice (s : SessionStore) (user : Uuid) (device : DeviceIdentity) (now : Instant) :
    Keyed DeviceKey Device :=
  let fresh := Device.ofIdentity user device now
  match s.devices.get? (user, device.id) with
  | some known => s.devices.put (user, device.id) (known.refresh fresh)
  | none => s.devices.put (user, device.id) fresh

/-- The number of the session of a user on a device: its own, or else the next one. -/
def numberFor (s : SessionStore) (user : Uuid) (device : String) : Int :=
  match s.session? user device with
  | some known => known.id
  | none => s.lastId + 1

/-- Records a device and its new refresh token. The token replaces an earlier one. -/
def create (s : SessionStore) (user : Uuid) (tokenHash : String) (expiresAt : Instant)
    (device : DeviceIdentity) (now : Instant) : Session × SessionStore :=
  let id := s.numberFor user device.id
  let fresh : Session :=
    { id, userId := user, deviceId := device.id, tokenHash, expiresAt, revoked := false,
      lastUsedAt := now, createdAt := now }
  (fresh, {
    devices := s.withDevice user device now
    sessions := s.sessions.put (user, device.id) fresh
    lastId := if (s.session? user device.id).isSome then s.lastId else id })

/-- Whether a token is the one that is good now for this user and device; if so, its use is
recorded. -/
def isValid (s : SessionStore) (user : Uuid) (device : DeviceIdentity) (token : String)
    (now : Instant) : Bool × SessionStore :=
  match s.session? user device.id with
  | some known =>
    if known.accepts token now then
      (true, { s with sessions := s.sessions.put (user, device.id) (known.touch now) })
    else (false, s)
  | none => (false, s)

/-- Revokes every session of a user; the answer is how many were not yet revoked. -/
def revokeAll (s : SessionStore) (user : Uuid) : Nat × SessionStore :=
  let isOpen := fun x : Session => x.userId = user && !x.revoked
  ((s.sessions.values.filter isOpen).length,
    { s with sessions := s.sessions.mapValues fun _ x => if isOpen x then x.revoke else x })

/-- Revokes the session of one device; the answer is how many were not yet revoked. -/
def revokeDevice (s : SessionStore) (user : Uuid) (device : String) : Nat × SessionStore :=
  match s.session? user device with
  | some known =>
    if known.revoked then (0, s)
    else (1, { s with sessions := s.sessions.put (user, device) known.revoke })
  | none => (0, s)

/-- The devices of a user, latest used first. -/
def listDevices (s : SessionStore) (user : Uuid) : List Device :=
  (s.devices.values.filter fun d => d.userId = user).mergeSort Device.comesBefore

/-- One device of a user. -/
def device? (s : SessionStore) (user : Uuid) (device : String) : Option Device :=
  s.devices.get? (user, device)

/-- Names a device; the answer is whether there is one. -/
def renameDevice (s : SessionStore) (user : Uuid) (device name : String) : Bool × SessionStore :=
  match s.device? user device with
  | some known =>
    (true, { s with devices := s.devices.put (user, device) { known with name } })
  | none => (false, s)

/-- Removes a device and its session; the answer is whether there was one. -/
def deleteDevice (s : SessionStore) (user : Uuid) (device : String) : Bool × SessionStore :=
  ((s.device? user device).isSome,
    { s with
      devices := s.devices.erase (user, device), sessions := s.sessions.erase (user, device) })

end SessionStore

end DeviceSessions
