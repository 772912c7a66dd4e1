import DeviceSessions.Database.Schema
import DeviceSessions.Session.Store
import DeviceSessions.Text.Lowercase
import DeviceSessions.User.Basic

/-!
# Tables

The tables of the database, and what each statement does to them. Times are kept in microseconds.
A statement that is refused changes nothing.
-/

namespace DeviceSessions

/-- Why a statement is refused. -/
inductive Rejection where
  | failed
  | emailTaken
  deriving DecidableEq, Repr

/-- The record of a script that was run, with the digest of its text. -/
structure MigrationRow where
  version : Int
  description : String
  success : Bool
  checksum : Bytes
  deriving DecidableEq, Repr

/-- The tables. `schema` counts the scripts whose tables are there; without the table of scripts
there are no `migrations`. -/
structure Tables where
  users : Keyed Uuid User := .empty
  devices : Keyed DeviceKey Device := .empty
  sessions : Keyed DeviceKey Session := .empty
  nextSessionId : Int := 1
  schema : Nat := 2
  migrations : Option (Keyed Int MigrationRow) := none
  deriving Repr

namespace Tables

/-- What becomes of a statement: usually an answer and the tables after it. -/
abbrev Outcome := Except Rejection

/-- The tables of the first `n` scripts have to be there. -/
def require (t : Tables) (n : Nat) : Outcome Unit :=
  if n ≤ t.schema then .ok () else .error .failed

/-- Texts must not hold the null character. -/
def storable (texts : List String) : Outcome Unit :=
  if texts.any fun s => s.toList.contains '\x00' then .error .failed else .ok ()

/-- The database's own clock. -/
def clock (now : Instant) : Instant := now.floorMicros

/-- The tables with these rows. -/
def ofRows (users : List User) (devices : List Device) (sessions : List Session)
    (nextSessionId : Option Int) (schema : Nat) (migrations : Option (List MigrationRow)) : Tables :=
  { users := .ofList (users.map fun u =>
      (u.id, { u with createdAt := u.createdAt.floorMicros, updatedAt := u.updatedAt.floorMicros }))
    devices := .ofList (devices.map fun d =>
      ((d.userId, d.id),
        { d with lastActive := d.lastActive.floorMicros, createdAt := d.createdAt.floorMicros }))
    sessions := .ofList (sessions.map fun s =>
      ((s.userId, s.deviceId),
        { s with
          expiresAt := s.expiresAt.floorMicros, lastUsedAt := s.lastUsedAt.floorMicros,
          createdAt := s.createdAt.floorMicros }))
    nextSessionId := nextSessionId.getD ((sessions.map (·.id)).foldl max 0 + 1)
    schema
    migrations := migrations.map fun rows => .ofList (rows.map fun r => (r.version, r)) }

/-! ### Users -/

/-- The user with an email address in any letter case. -/
def userByEmail? (t : Tables) (email : String) : Option User :=
  t.users.values.find? fun u => Text.lower u.email = Text.lower email

/-- Looks up a user by email address. -/
def findUser (t : Tables) (email : String) : Outcome (Option User × Tables) := do
  t.require 1
  storable [email]
  return (t.userByEmail? email, t)

/-- Adds an active user; the address must not be taken. -/
def createUser (t : Tables) (n : NewUser) (id : Uuid) (now : Instant) : Outcome (User × Tables) := do
  t.require 1
  storable [n.email, n.passwordHash]
  if t.users.contains id then throw .failed
  if (t.userByEmail? n.email).isSome then throw .emailTaken
  let user := n.activate id (clock now)
  return (user, { t with users := t.users.put id user })

/-- Lets a user log in, or not; the answer is whether there is such a user. -/
def setActive (t : Tables) (id : Uuid) (active : Bool) (now : Instant) : Outcome (Bool × Tables) := do
  t.require 1
  return (t.users.contains id,
    { t with
      users := t.users.update id fun u => { u with isActive := active, updatedAt := clock now } })

/-! ### Devices -/

/-- Adds a device of a user that is there, or renews the one that is there already. -/
def upsertDevice (t : Tables) (device : Device) : Outcome (Device × Tables) := do
  t.require 2
  storable [device.id, device.name, device.os, device.browser, device.userAgent, device.ip]
  if !t.users.contains device.userId then throw .failed
  let fresh :=
    { device with
      lastActive := device.lastActive.truncateMicros
      createdAt := device.createdAt.truncateMicros }
  let key := (device.userId, device.id)
  let row :=
    match t.devices.get? key with
    | some known => known.refresh fresh
    | none => fresh
  return (row, { t with devices := t.devices.put key row })

/-- The devices of a user, latest used first. -/
def listDevices (t : Tables) (user : Uuid) : Outcome (List Device × Tables) := do
  t.require 2
  return ((t.devices.values.filter fun d => d.userId = user).mergeSort Device.comesBefore, t)

/-- Looks up a device of a user. -/
def findDevice (t : Tables) (user : Uuid) (device : String) : Outcome (Option Device × Tables) := do
  t.require 2
  storable [device]
  return (t.devices.get? (user, device), t)

/-- Names a device; the answer is whether there is one. -/
def renameDevice (t : Tables) (user : Uuid) (device name : String) : Outcome (Bool × Tables) := do
  t.require 2
  storable [device, name]
  return (t.devices.contains (user, device),
    { t with devices := t.devices.update (user, device) fun d => { d with name } })

/-- Removes a device and its session; the answer is whether there was one. -/
def deleteDevice (t : Tables) (user : Uuid) (device : String) : Outcome (Bool × Tables) := do
  t.require 2
  storable [device]
  return (t.devices.contains (user, device),
    { t with
      devices := t.devices.erase (user, device), sessions := t.sessions.erase (user, device) })

/-! ### Sessions -/

/-- Adds the session of a device that is there, or replaces it. Both take a number from the
sequence, but a session that is replaced keeps its own. -/
def upsertSession (t : Tables) (user : Uuid) (device tokenHash : String) (expiresAt now : Instant) :
    Outcome (Session × Tables) := do
  t.require 2
  storable [device, tokenHash]
  let key := (user, device)
  if !t.devices.contains key then throw .failed
  let id :=
    match t.sessions.get? key with
    | some known => known.id
    | none => t.nextSessionId
  let row : Session :=
    { id, userId := user, deviceId := device, tokenHash, expiresAt := expiresAt.truncateMicros,
      revoked := false, lastUsedAt := clock now, createdAt := clock now }
  return (row,
    { t with sessions := t.sessions.put key row, nextSessionId := t.nextSessionId + 1 })

/-- Looks up the session of a device. -/
def findSession (t : Tables) (user : Uuid) (device : String) : Outcome (Option Session × Tables) := do
  t.require 2
  storable [device]
  return (t.sessions.get? (user, device), t)

/-- Records the use of a session. -/
def touchSession (t : Tables) (id : Int) (now : Instant) : Outcome (Unit × Tables) := do
  t.require 2
  return ((),
    { t with sessions := t.sessions.mapValues fun _ s => if s.id = id then s.touch (clock now) else s })

/-- Revokes the sessions that `which` chooses; the answer is how many were not yet revoked. -/
def revokeWhere (t : Tables) (which : DeviceKey → Bool) : Nat × Tables :=
  let chosen := fun (e : DeviceKey × Session) => which e.1 && !e.2.revoked
  ((t.sessions.entries.filter chosen).length,
    { t with sessions := t.sessions.mapValues fun k s => if chosen (k, s) then s.revoke else s })

/-- Revokes every session of a user. -/
def revokeAll (t : Tables) (user : Uuid) : Outcome (Nat × Tables) := do
  t.require 2
  return t.revokeWhere fun k => k.1 = user

/-- Revokes the session of a device. -/
def revokeDevice (t : Tables) (user : Uuid) (device : String) : Outcome (Nat × Tables) := do
  t.require 2
  storable [device]
  return t.revokeWhere fun k => k = (user, device)

end Tables

end DeviceSessions
