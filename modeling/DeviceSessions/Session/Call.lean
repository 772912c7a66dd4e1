import DeviceSessions.Session.Store

/-!
# Calls of a session store

What any store of sessions can be asked, and how the store in memory answers. A store answers each
call at once and as a whole.
-/

namespace DeviceSessions

/-- A call of a session store. -/
inductive StoreCall where
  | create (user : Uuid) (tokenHash : String) (expiresAt : Instant) (device : DeviceIdentity)
  | isValid (user : Uuid) (device : DeviceIdentity) (token : String)
  | revokeAll (user : Uuid)
  | revokeDevice (user : Uuid) (device : String)
  | listDevices (user : Uuid)
  | findDevice (user : Uuid) (device : String)
  | renameDevice (user : Uuid) (device name : String)
  | deleteDevice (user : Uuid) (device : String)
  deriving DecidableEq, Repr

namespace StoreCall

/-- What a call is answered with. -/
def Answer : StoreCall → Type
  | create .. => Session
  | isValid .. => Bool
  | revokeAll _ => Nat
  | revokeDevice .. => Nat
  | listDevices _ => List Device
  | findDevice .. => Option Device
  | renameDevice .. => Bool
  | deleteDevice .. => Bool

/-- The name of a call in errors. -/
def operation : StoreCall → String
  | create .. => "session_store.create"
  | isValid .. => "session_store.is_valid"
  | revokeAll _ => "session_store.revoke_all"
  | revokeDevice .. => "session_store.revoke_by_device"
  | listDevices _ => "session_store.list_devices"
  | findDevice .. => "session_store.get_device"
  | renameDevice .. => "session_store.rename_device"
  | deleteDevice .. => "session_store.delete_device"

end StoreCall

/-- The answer of the store in memory, and the store after it. -/
def SessionStore.answer (s : SessionStore) (now : Instant) :
    (call : StoreCall) → call.Answer × SessionStore
  | .create user tokenHash expiresAt device => s.create user tokenHash expiresAt device now
  | .isValid user device token => s.isValid user device token now
  | .revokeAll user => s.revokeAll user
  | .revokeDevice user device => s.revokeDevice user device
  | .listDevices user => (s.listDevices user, s)
  | .findDevice user device => (s.device? user device, s)
  | .renameDevice user device name => s.renameDevice user device name
  | .deleteDevice user device => s.deleteDevice user device

end DeviceSessions
