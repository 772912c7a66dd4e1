import DeviceSessions.Database.Query
import DeviceSessions.Session.Call
import DeviceSessions.Text.Blank

/-!
# Requests

What the program asks of its database about users, devices and sessions, each with the message of
its failure.
-/

namespace DeviceSessions.Request

/-- Asks whether the database answers. -/
def healthCheck : Request Unit :=
  send .healthCheck "Health check failed" fun t => .ok ((), t)

/-! ### Users -/

/-- Looks up a user by email address. -/
def findUser (email : String) : Request (Option User) :=
  send .findUser "Failed to find user by email" (·.findUser email)

/-- The error of a user that cannot be added. -/
def creationError : Rejection → Error
  | .emailTaken => ⟨.validation, "Email already in use", false⟩
  | .failed => databaseError "Failed to create user"

/-- Adds a user under an address without white space around it. -/
def createUser (n : NewUser) (id : Uuid) (now : Instant) : Request User :=
  (Query.send .createUser (·.createUser { n with email := Text.trim n.email } id now)).orElseFail
    creationError

/-- Lets a user log in, or not. -/
def setActive (id : Uuid) (active : Bool) (now : Instant) : Request Bool :=
  send .setActive "Failed to update user status" (·.setActive id active now)

/-! ### Sessions -/

/-- Records a device and its new refresh token, both or neither. -/
def record (device : Device) (tokenHash : String) (expiresAt now : Instant) : Request Session :=
  atomically do
    send .begin "Failed to begin transaction" fun t => .ok ((), t)
    let _ ← send .upsertDevice "Failed to upsert device" (·.upsertDevice device)
    let session ← send .upsertSession "Failed to upsert session"
      (·.upsertSession device.userId device.id tokenHash expiresAt now)
    send .commit "Failed to commit session" fun t => .ok ((), t)
    return session

/-- Looks up the session of a device. -/
def findSession (user : Uuid) (device : String) : Request (Option Session) :=
  send .findSession "Failed to find session" (·.findSession user device)

/-- Records the use of a session. -/
def touchSession (id : Int) (now : Instant) : Request Unit :=
  send .touchSession "Failed to update session usage" (·.touchSession id now)

/-- Revokes every session of a user. -/
def revokeAll (user : Uuid) : Request Nat :=
  send .revokeAll "Failed to revoke user sessions" (·.revokeAll user)

/-- Revokes the session of a device. -/
def revokeDevice (user : Uuid) (device : String) : Request Nat :=
  send .revokeDevice "Failed to revoke device session" (·.revokeDevice user device)

/-! ### Devices -/

/-- The devices of a user, latest used first. -/
def listDevices (user : Uuid) : Request (List Device) :=
  send .listDevices "Failed to list devices" (·.listDevices user)

/-- Looks up a device of a user. -/
def findDevice (user : Uuid) (device : String) : Request (Option Device) :=
  send .findDevice "Failed to find device" (·.findDevice user device)

/-- Names a device. -/
def renameDevice (user : Uuid) (device name : String) : Request Bool :=
  send .renameDevice "Failed to rename device" (·.renameDevice user device name)

/-- Removes a device and its session. -/
def deleteDevice (user : Uuid) (device : String) : Request Bool :=
  send .deleteDevice "Failed to delete device" (·.deleteDevice user device)

/-! ### The session store -/

/-- Whether a token is the one that is good now for this user and device; if so, its use is
recorded. -/
def isValid (user : Uuid) (device : DeviceIdentity) (token : String) (now : Instant) :
    Request Bool := do
  match ← findSession user device.id with
  | none => return false
  | some session =>
    if session.accepts token now then
      touchSession session.id now
      return true
    else return false

end DeviceSessions.Request

namespace DeviceSessions

/-- The request of a call of a session store. -/
def StoreCall.request (now : Instant) : (call : StoreCall) → Request call.Answer
  | .create user tokenHash expiresAt device =>
    Request.record (.ofIdentity user device now) tokenHash expiresAt now
  | .isValid user device token => Request.isValid user device token now
  | .revokeAll user => Request.revokeAll user
  | .revokeDevice user device => Request.revokeDevice user device
  | .listDevices user => Request.listDevices user
  | .findDevice user device => Request.findDevice user device
  | .renameDevice user device name => Request.renameDevice user device name
  | .deleteDevice user device => Request.deleteDevice user device

end DeviceSessions
