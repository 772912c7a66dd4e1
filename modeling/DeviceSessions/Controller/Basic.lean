import DeviceSessions.Controller.Program
import DeviceSessions.Device.Resolve
import DeviceSessions.Text.Blank
import DeviceSessions.Time.Span

/-!
# The session controller

Logging in, trading a refresh token for a new pair, and revoking. Each operation is a program over
the calls of a store, a directory of users, a verifier of passwords and an issuer of tokens. Callers
see no error that tells about the machinery; the log does.
-/

namespace DeviceSessions

/-- A controller: how long a store or a directory may take to answer. -/
structure Controller where
  storeTimeout : Span
  deriving DecidableEq, Repr

namespace Controller

/-- The longest name of a device, in characters. -/
def maxNameLength : Nat := 100

/-- The one error of every failed login. -/
def invalidCredentials : Error := ⟨.invalidCredentials, "Invalid email or password", false⟩

/-- The one error of every refresh token that is not good. -/
def tokenRevoked : Error := ⟨.tokenRevoked, "Refresh token is no longer valid", false⟩

/-- The one error of every access token that is not good. -/
def invalidToken : Error := ⟨.invalidToken, "Invalid access token", false⟩

/-- The error for a device that is not there. -/
def noDevice : Error := ⟨.notFound, "Device not found", false⟩

/-- A field of an event that names a user. -/
def userField (id : Uuid) : String × FieldValue := ("user_id", .text id.text)

/-- A field of an event that names a device. -/
def deviceField (id : String) : String × FieldValue := ("device_id", .text id)

/-- A field of an event that shows an error. -/
def errorField (e : Error) : String × FieldValue := ("error", .text e.display)

/-- A field of an event that counts revoked sessions. -/
def revokedField (n : Nat) : String × FieldValue := ("revoked_sessions", .number n)

/-- Fails with what a caller may see of an error; the log gets all of it. -/
def surface {α : Type} (operation : String) (e : Error) : Action α := do
  if e.kind.isInfrastructure then
    Action.log .error "Session operation failed"
      [("op", .text operation), ("kind", .text e.kind.code), errorField e]
  throw e.surface

/-- The result of a call with a deadline; an error names the call. -/
def bounded {α : Type} (c : Controller) (name : String) : Reply α → Result α
  | .answered (.ok a) => .ok a
  | .answered (.error e) => .error (e.context name)
  | .late =>
    .error ⟨.timeout, name ++ ": no response within " ++ c.storeTimeout.text, false⟩

/-- Makes a call of the store. -/
def askStore (c : Controller) (call : StoreCall) : Action (Result call.Answer) := do
  return c.bounded call.operation (← Action.call (.store call))

/-- Makes a call of the store on behalf of an operation, which fails if the call does. -/
def useStore (c : Controller) (operation : String) (call : StoreCall) : Action call.Answer := do
  match ← c.askStore call with
  | .ok a => return a
  | .error e => surface operation e

/-- Issues both tokens of a pair; either both are returned or neither is. -/
def issuePair (user : Uuid) : Action (Result TokenPair) := do
  match ← Action.call (.issue .access user) with
  | .error e => return .error e
  | .ok access =>
    match ← Action.call (.issue .refresh user) with
    | .error e => return .error e
    | .ok refresh => return .ok (.of access refresh)

/-- Issues a pair on behalf of an operation, which fails if that does. -/
def issueFor (operation : String) (user : Uuid) : Action TokenPair := do
  match ← issuePair user with
  | .ok pair => return pair
  | .error e => surface operation (e.context "token_issuer.issue_pair")

/-- The call that records the refresh token of a pair. -/
def recording (user : Uuid) (pair : TokenPair) (device : DeviceIdentity) : StoreCall :=
  .create user (hashToken pair.refreshToken) pair.refreshExpiresAt device

/-- Does the work of a comparison where there is no hash to compare with. -/
def compareDecoy (password : String) : Action Unit := do
  match ← Action.call .decoy with
  | some hash => let _ ← Action.call (.compare hash password)
  | none => return

/-- Logs in with a password, and opens a session on the device of the connection. Every login that
gets as far as the user costs one comparison and fails with one error. -/
def login (c : Controller) (credentials : Credentials) (origin : DeviceMetadata) :
    Action TokenPair := do
  let device ← Action.ofResult origin.resolve
  let reply ← Action.call (.findUser credentials.email)
  match c.bounded "user_directory.find_by_email" reply with
  | .error e => surface "login" e
  | .ok none =>
    compareDecoy credentials.password
    Action.log .info "Login failed: unknown email" [deviceField device.id]
    throw invalidCredentials
  | .ok (some user) =>
    if !user.isActive then
      compareDecoy credentials.password
      Action.log .warn "Login attempt on inactive account" [userField user.id]
      throw invalidCredentials
    match ← Action.call (.compare user.passwordHash credentials.password) with
    | .error e =>
      if e.kind = .hashing then
        Action.log .error "Stored password hash is unusable" [userField user.id, errorField e]
      else
        Action.log .info "Login failed: wrong password" [userField user.id, deviceField device.id]
      throw invalidCredentials
    | .ok () =>
      let pair ← issueFor "login" user.id
      let _ ← c.useStore "login" (recording user.id pair device)
      Action.log .info "User logged in" [userField user.id, deviceField device.id]
      return pair

/-- The user whose refresh token this is. -/
def refreshUser (token : String) : Action Uuid := do
  match ← Action.call (.parse token) with
  | .error e =>
    Action.log .debug "Unparseable refresh token" [errorField e]
    throw tokenRevoked
  | .ok claims =>
    match claims.kind with
    | .refresh => return claims.subject
    | .access =>
      Action.log .warn "Access token presented for refresh" [userField claims.subject]
      throw tokenRevoked

/-- Revokes every session of a user, on all devices, and then opens one with a new pair. -/
def rotate (c : Controller) (user : Uuid) (device : DeviceIdentity) : Action TokenPair := do
  let pair ← issueFor "refresh" user
  let revoked : Nat ← c.useStore "refresh" (.revokeAll user)
  match ← c.askStore (recording user pair device) with
  | .error e =>
    Action.log .error "Rotation failed after revocation; user is logged out" [userField user]
    surface "refresh" e
  | .ok _ =>
    Action.log .info "Refresh token rotated"
      [userField user, deviceField device.id, revokedField revoked]
    return pair

/-- Trades a refresh token for a new pair. Every session of the user is revoked, on all devices,
before the new one is recorded. -/
def refresh (c : Controller) (token : String) (origin : DeviceMetadata) : Action TokenPair := do
  let user ← refreshUser token
  let device ← Action.ofResult origin.resolve
  let valid : Bool ← c.useStore "refresh" (.isValid user device token)
  if valid = false then
    Action.log .warn "Refresh rejected: token revoked, superseded, or from another device"
      [userField user, deviceField device.id]
    throw tokenRevoked
  c.rotate user device

/-- Revokes every session of a user. -/
def logout (c : Controller) (user : Uuid) : Action Unit := do
  let revoked : Nat ← c.useStore "logout" (.revokeAll user)
  Action.log .info "User logged out" [userField user, revokedField revoked]

/-- Who the bearer of an access token is. The store is not asked. -/
def authenticate (token : String) : Action AuthContext := do
  match ← Action.call (.parse token) with
  | .error e =>
    Action.log .debug "Access token rejected" [errorField e]
    throw invalidToken
  | .ok claims =>
    match claims.kind with
    | .access => return .ofClaims claims
    | .refresh => throw invalidToken

/-- The devices of a user, latest used first. -/
def listDevices (c : Controller) (user : Uuid) : Action (List Device) :=
  c.useStore "list_devices" (.listDevices user)

/-- One device of a user. -/
def device (c : Controller) (user : Uuid) (device : String) : Action Device := do
  let found : Option Device ← c.useStore "get_device" (.findDevice user device)
  match found with
  | some d => return d
  | none => throw noDevice

/-- The name that is meant by a text: not empty, and not too long. -/
def deviceName (text : String) : Result String :=
  let name := Text.trim text
  if name = "" then .error ⟨.validation, "Device name must not be empty", false⟩
  else if maxNameLength < name.length then
    .error ⟨.validation, s!"Device name must be at most {maxNameLength} characters", false⟩
  else .ok name

theorem deviceName_ok_iff {text name : String} :
    deviceName text = .ok name ↔
      name = Text.trim text ∧ 0 < (Text.trim text).length ∧
        (Text.trim text).length ≤ maxNameLength := by
  have filled : Text.trim text = "" ↔ (Text.trim text).length = 0 := by
    rw [← String.length_toList, List.length_eq_zero_iff, String.toList_eq_nil_iff]
  unfold deviceName
  dsimp only
  split
  · rename_i empty
    simp [filled.mp empty]
  · rename_i nonempty
    have positive := Nat.pos_of_ne_zero (mt filled.mpr nonempty)
    split
    · rename_i long
      simp [long]
    · rename_i short
      simp [positive, Nat.le_of_not_lt short, eq_comm]

/-- Names a device of a user. -/
def renameDevice (c : Controller) (user : Uuid) (device text : String) : Action Unit := do
  let name ← Action.ofResult (deviceName text)
  let renamed : Bool ← c.useStore "rename_device" (.renameDevice user device name)
  if renamed = false then throw noDevice
  Action.log .info "Device renamed" [userField user, deviceField device]

/-- Forgets a device of a user, and its session. -/
def deleteDevice (c : Controller) (user : Uuid) (device : String) : Action Unit := do
  let deleted : Bool ← c.useStore "delete_device" (.deleteDevice user device)
  if deleted = false then throw noDevice
  Action.log .info "Device deleted" [userField user, deviceField device]

/-- Revokes the session of one device of a user. -/
def revokeDevice (c : Controller) (user : Uuid) (device : String) : Action Unit := do
  let revoked : Nat ← c.useStore "revoke_device" (.revokeDevice user device)
  Action.log .info "Device session revoked"
    [userField user, deviceField device, revokedField revoked]

/-- The form in diagnostics; what the controller works with is named, not shown. -/
def diagnostic (c : Controller) : String :=
  "SessionController \x7b issuer: Issuer, store: Store, store_timeout: " ++ c.storeTimeout.text ++
    ", .. \x7d"

end Controller

end DeviceSessions
