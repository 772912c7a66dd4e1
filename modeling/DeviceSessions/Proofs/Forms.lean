import DeviceSessions.Device.Form
import DeviceSessions.Error.Form
import DeviceSessions.Proofs.Json.Form
import DeviceSessions.Session.Form
import DeviceSessions.Settings.Form
import DeviceSessions.User.Form

/-!
# Round trips of all forms

The text of a value is read back as the value, for every type with a JSON form. Other texts that are
read as the same value, with fields in an array, unknown fields, left out defaults, offsets in times
or other spellings of UUIDs, have the same written form. A session or a user is written without its
secret, and is read back when that is put in.
-/

namespace DeviceSessions

open Json

/-! ### Types -/

theorem DeviceKind.ofJson?_toJson (k : DeviceKind) : ofJson? k.toJson = some k := by
  cases k <;> rfl

theorem ErrorKind.ofJson?_toJson (k : ErrorKind) : ofJson? k.toJson = some k := by
  cases k <;> rfl

theorem LogFormat.named?_name (f : LogFormat) : named? byName (ofText f.name) = some f := by
  cases f <;> rfl

theorem DeviceMetadata.ofJson?_toJson (m : DeviceMetadata) : ofJson? m.toJson = some m := by
  refine onward (record?_all (.refl _) (by decide)) ?_
  refine onward (field?_of_lookup rfl (text?_ofText _)) ?_
  refine onward (field?_of_lookup rfl (text?_ofText _)) ?_
  rfl

theorem DeviceIdentity.ofJson?_toJson (d : DeviceIdentity) : ofJson? d.toJson = some d := by
  refine onward (record?_all (.refl _) (by decide)) ?_
  refine onward (field?_of_lookup rfl (text?_ofText _)) ?_
  refine onward (field?_of_lookup rfl (text?_ofText _)) ?_
  refine onward (field?_of_lookup rfl (DeviceKind.ofJson?_toJson _)) ?_
  refine onward (field?_of_lookup rfl (text?_ofText _)) ?_
  refine onward (field?_of_lookup rfl (text?_ofText _)) ?_
  refine onward (field?_of_lookup rfl (text?_ofText _)) ?_
  refine onward (field?_of_lookup rfl (text?_ofText _)) ?_
  rfl

theorem Device.ofJson?_toJson (d : Device) : ofJson? d.toJson = some d := by
  refine onward (record?_all (.refl _) (by decide)) ?_
  refine onward (field?_of_lookup rfl (text?_ofText _)) ?_
  refine onward (field?_of_lookup rfl (uuid?_ofUuid _)) ?_
  refine onward (field?_of_lookup rfl (text?_ofText _)) ?_
  refine onward (field?_of_lookup rfl (DeviceKind.ofJson?_toJson _)) ?_
  refine onward (field?_of_lookup rfl (text?_ofText _)) ?_
  refine onward (field?_of_lookup rfl (text?_ofText _)) ?_
  refine onward (field?_of_lookup rfl (text?_ofText _)) ?_
  refine onward (field?_of_lookup rfl (text?_ofText _)) ?_
  refine onward (field?_of_lookup rfl (instant?_ofInstant _)) ?_
  refine onward (field?_of_lookup rfl (instant?_ofInstant _)) ?_
  rfl

theorem NewUser.ofJson?_toJson (n : NewUser) : ofJson? n.toJson = some n := by
  refine onward (record?_all (.refl _) (by decide)) ?_
  refine onward (field?_of_lookup rfl (text?_ofText _)) ?_
  refine onward (field?_of_lookup rfl (text?_ofText _)) ?_
  rfl

theorem AuthContext.ofJson?_toJson (c : AuthContext) : ofJson? c.toJson = some c := by
  refine onward (record?_all (.refl _) (by decide)) ?_
  refine onward (field?_of_lookup rfl (uuid?_ofUuid _)) ?_
  refine onward (field?_of_lookup rfl (uuid?_ofUuid _)) ?_
  refine onward (field?_of_lookup rfl (instant?_ofInstant _)) ?_
  rfl

theorem TokenPair.ofJson?_toJson (p : TokenPair) : ofJson? p.toJson = some p := by
  refine onward (record?_all (.refl _) (by decide)) ?_
  refine onward (field?_of_lookup rfl (text?_ofText _)) ?_
  refine onward (field?_of_lookup rfl (text?_ofText _)) ?_
  refine onward (field?_of_lookup rfl (instant?_ofInstant _)) ?_
  refine onward (field?_of_lookup rfl (instant?_ofInstant _)) ?_
  rfl

theorem AuthSettings.ofJson?_toJson (s : AuthSettings) : ofJson? s.toJson = some s := by
  refine onward (record?_all (.refl _) (by decide)) ?_
  refine onward (field?_of_lookup rfl (text?_ofText _)) ?_
  refine onward (fieldOr?_of_lookup _ rfl (text?_ofText _)) ?_
  refine onward (fieldOr?_of_lookup _ rfl (uint64?_ofNat _)) ?_
  refine onward (fieldOr?_of_lookup _ rfl (uint64?_ofNat _)) ?_
  refine onward (fieldOr?_of_lookup _ rfl (uint64?_ofNat _)) ?_
  rfl

theorem DatabaseSettings.ofJson?_toJson (s : DatabaseSettings) : ofJson? s.toJson = some s := by
  refine onward (record?_all (.refl _) (by decide)) ?_
  refine onward (field?_of_lookup rfl (text?_ofText _)) ?_
  refine onward (fieldOr?_of_lookup _ rfl (uint32?_ofNat _)) ?_
  refine onward (fieldOr?_of_lookup _ rfl (uint32?_ofNat _)) ?_
  refine onward (fieldOr?_of_lookup _ rfl (uint64?_ofNat _)) ?_
  refine onward (fieldOr?_of_lookup _ rfl (uint64?_ofNat _)) ?_
  rfl

theorem LoggingSettings.ofJson?_toJson (s : LoggingSettings) : ofJson? s.toJson = some s := by
  refine onward (record?_all (.refl _) (by decide)) ?_
  refine onward (fieldOr?_of_lookup _ rfl (text?_ofText _)) ?_
  refine onward (fieldOr?_of_lookup _ rfl (LogFormat.named?_name _)) ?_
  rfl

theorem Settings.ofJson?_toJson (s : Settings) : ofJson? s.toJson = some s := by
  refine onward (record?_all (.refl _) (by decide)) ?_
  refine onward (field?_of_lookup rfl (DatabaseSettings.ofJson?_toJson _)) ?_
  refine onward (field?_of_lookup rfl (AuthSettings.ofJson?_toJson _)) ?_
  refine onward (fieldOr?_of_lookup _ rfl (LoggingSettings.ofJson?_toJson _)) ?_
  rfl

/-! ### Types with a secret -/

/-- The number of a session has 64 bits. -/
def Session.Numbered (s : Session) : Prop := ∃ n : Int64, s.id = n.toInt

theorem Session.ofJson?_completed {s : Session} (numbered : s.Numbered) (place : Nat) :
    ofJson? (withField "token_hash" (ofText s.tokenHash) place s.toJson) = some s := by
  obtain ⟨n, number⟩ := numbered
  have read : int64? (ofInt s.id) = some n := by rw [number, int64?_ofInt]
  have absent : "token_hash" ∉ ["id", "user_id", "device_id", "expires_at", "revoked",
    "last_used_at", "created_at"] := by decide
  have keys : (["token_hash", "id", "user_id", "device_id", "expires_at", "revoked",
    "last_used_at", "created_at"]).Perm ["id", "user_id", "device_id", "token_hash", "expires_at",
      "revoked", "last_used_at", "created_at"] := by decide
  unfold toJson
  rw [withField_ofFields]
  refine onward (record?_all ((insert_perm.map _).trans keys) (by decide)) ?_
  refine onward (field?_of_lookup ((lookup_insert absent _).trans rfl) read) ?_
  refine onward (field?_of_lookup ((lookup_insert absent _).trans rfl) (uuid?_ofUuid _)) ?_
  refine onward (field?_of_lookup ((lookup_insert absent _).trans rfl) (text?_ofText _)) ?_
  refine onward (field?_of_lookup ((lookup_insert absent _).trans rfl) (text?_ofText _)) ?_
  refine onward (field?_of_lookup ((lookup_insert absent _).trans rfl) (instant?_ofInstant _)) ?_
  refine onward (field?_of_lookup ((lookup_insert absent _).trans rfl) (bool?_bool _)) ?_
  refine onward (field?_of_lookup ((lookup_insert absent _).trans rfl) (instant?_ofInstant _)) ?_
  refine onward (field?_of_lookup ((lookup_insert absent _).trans rfl) (instant?_ofInstant _)) ?_
  rw [← number]
  rfl

theorem Session.numbered_of_ofJson? {j : Json} {s : Session} (read : ofJson? j = some s) :
    s.Numbered := by
  obtain ⟨record, -, read⟩ := Option.bind_eq_some_iff.mp read
  obtain ⟨n, -, read⟩ := Option.bind_eq_some_iff.mp read
  obtain ⟨userId, -, read⟩ := Option.bind_eq_some_iff.mp read
  obtain ⟨deviceId, -, read⟩ := Option.bind_eq_some_iff.mp read
  obtain ⟨tokenHash, -, read⟩ := Option.bind_eq_some_iff.mp read
  obtain ⟨expiresAt, -, read⟩ := Option.bind_eq_some_iff.mp read
  obtain ⟨revoked, -, read⟩ := Option.bind_eq_some_iff.mp read
  obtain ⟨lastUsedAt, -, read⟩ := Option.bind_eq_some_iff.mp read
  obtain ⟨createdAt, -, read⟩ := Option.bind_eq_some_iff.mp read
  cases read
  exact ⟨n, rfl⟩

theorem Session.ofJson?_toJson (s : Session) : ofJson? s.toJson = none := by
  refine onward (record?_ofFields (.refl ["id", "user_id", "device_id", "expires_at", "revoked",
    "last_used_at", "created_at"]) (by decide) (by decide)) ?_
  -- The fields in front of the digest may be there or not: none is reached that could be returned.
  refine Option.bind_eq_none_iff.mpr fun _ _ => ?_
  refine Option.bind_eq_none_iff.mpr fun _ _ => ?_
  refine Option.bind_eq_none_iff.mpr fun _ _ => ?_
  rfl

theorem User.ofJson?_completed (u : User) (place : Nat) :
    ofJson? (withField "password_hash" (ofText u.passwordHash) place u.toJson) = some u := by
  have absent : "password_hash" ∉ ["id", "email", "is_active", "created_at", "updated_at"] := by
    decide
  have keys : (["password_hash", "id", "email", "is_active", "created_at", "updated_at"]).Perm
      ["id", "email", "password_hash", "is_active", "created_at", "updated_at"] := by decide
  unfold toJson
  rw [withField_ofFields]
  refine onward (record?_all ((insert_perm.map _).trans keys) (by decide)) ?_
  refine onward (field?_of_lookup ((lookup_insert absent _).trans rfl) (uuid?_ofUuid _)) ?_
  refine onward (field?_of_lookup ((lookup_insert absent _).trans rfl) (text?_ofText _)) ?_
  refine onward (field?_of_lookup ((lookup_insert absent _).trans rfl) (text?_ofText _)) ?_
  refine onward (field?_of_lookup ((lookup_insert absent _).trans rfl) (bool?_bool _)) ?_
  refine onward (field?_of_lookup ((lookup_insert absent _).trans rfl) (instant?_ofInstant _)) ?_
  refine onward (field?_of_lookup ((lookup_insert absent _).trans rfl) (instant?_ofInstant _)) ?_
  rfl

theorem User.ofJson?_toJson (u : User) : ofJson? u.toJson = none := by
  refine onward (record?_ofFields (.refl ["id", "email", "is_active", "created_at", "updated_at"])
    (by decide) (by decide)) ?_
  refine Option.bind_eq_none_iff.mpr fun _ _ => ?_
  refine Option.bind_eq_none_iff.mpr fun _ _ => ?_
  rfl

/-! ### All forms -/

@[simp] theorem DeviceKind.faithful_toJson (k : DeviceKind) : Faithful k.toJson := faithful_ofText _

@[simp] theorem DatabaseSettings.faithful_toJson (s : DatabaseSettings) : Faithful s.toJson :=
  faithful_ofFields (by simp)

@[simp] theorem AuthSettings.faithful_toJson (s : AuthSettings) : Faithful s.toJson :=
  faithful_ofFields (by simp)

@[simp] theorem LoggingSettings.faithful_toJson (s : LoggingSettings) : Faithful s.toJson :=
  faithful_ofFields (by simp)

@[simp] theorem Session.faithful_toJson (s : Session) : Faithful s.toJson :=
  faithful_ofFields (by simp)

@[simp] theorem User.faithful_toJson (u : User) : Faithful u.toJson :=
  faithful_ofFields (by simp)

theorem Session.withholds : Form.Withholds ⟨Session.toJson, Session.ofJson?⟩ "token_hash"
    Session.tokenHash (fun hash s => { s with tokenHash := hash }) Session.Numbered where
  independent _ _ := rfl
  unread s := by
    rw [Form.read?_write _ s.faithful_toJson]
    exact s.ofJson?_toJson
  completes place := Form.Lawful.roundTrips {
    faithful := fun s => faithful_withField s.faithful_toJson
    readBack := fun _ numbered => Session.ofJson?_completed numbered place
    fitting := Session.numbered_of_ofJson? }

theorem User.withholds : Form.Withholds ⟨User.toJson, User.ofJson?⟩ "password_hash"
    User.passwordHash (fun hash u => { u with passwordHash := hash }) (fun _ => True) where
  independent _ _ := rfl
  unread u := by
    rw [Form.read?_write _ u.faithful_toJson]
    exact u.ofJson?_toJson
  completes place := Form.Lawful.roundTrips {
    faithful := fun u => faithful_withField u.faithful_toJson
    readBack := fun u _ => u.ofJson?_completed place
    fitting := fun _ => trivial }

/-- All JSON forms round-trip, and those of sessions and users once their secret is put in. -/
theorem forms_round_trip :
    Form.RoundTripsAll ⟨Claims.toJson, Claims.ofJson?⟩ ∧
    Form.RoundTripsAll ⟨TokenKind.toJson, TokenKind.ofJson?⟩ ∧
    Form.RoundTripsAll ⟨ErrorKind.toJson, ErrorKind.ofJson?⟩ ∧
    Form.RoundTripsAll ⟨DeviceKind.toJson, DeviceKind.ofJson?⟩ ∧
    Form.RoundTripsAll ⟨DeviceMetadata.toJson, DeviceMetadata.ofJson?⟩ ∧
    Form.RoundTripsAll ⟨DeviceIdentity.toJson, DeviceIdentity.ofJson?⟩ ∧
    Form.RoundTripsAll ⟨Device.toJson, Device.ofJson?⟩ ∧
    Form.RoundTripsAll ⟨NewUser.toJson, NewUser.ofJson?⟩ ∧
    Form.RoundTripsAll ⟨AuthContext.toJson, AuthContext.ofJson?⟩ ∧
    Form.RoundTripsAll ⟨LoggingSettings.toJson, LoggingSettings.ofJson?⟩ ∧
    Form.RoundTripsAll ⟨Settings.toJson, Settings.ofJson?⟩ ∧
    Form.RoundTripsAll ⟨TokenPair.toJson, TokenPair.ofJson?⟩ ∧
    Form.Withholds ⟨Session.toJson, Session.ofJson?⟩ "token_hash" Session.tokenHash
      (fun hash s => { s with tokenHash := hash }) Session.Numbered ∧
    Form.Withholds ⟨User.toJson, User.ofJson?⟩ "password_hash" User.passwordHash
      (fun hash u => { u with passwordHash := hash }) (fun _ => True) :=
  ⟨.of_readBack faithful_claims Claims.ofJson?_toJson,
    .of_readBack (fun k => faithful_ofText k.name) TokenKind.ofJson?_toJson,
    .of_readBack (fun k => faithful_ofText k.name) ErrorKind.ofJson?_toJson,
    .of_readBack DeviceKind.faithful_toJson DeviceKind.ofJson?_toJson,
    .of_readBack (fun _ => faithful_ofFields (by simp)) DeviceMetadata.ofJson?_toJson,
    .of_readBack (fun _ => faithful_ofFields (by simp)) DeviceIdentity.ofJson?_toJson,
    .of_readBack (fun _ => faithful_ofFields (by simp)) Device.ofJson?_toJson,
    .of_readBack (fun _ => faithful_ofFields (by simp)) NewUser.ofJson?_toJson,
    .of_readBack (fun _ => faithful_ofFields (by simp)) AuthContext.ofJson?_toJson,
    .of_readBack LoggingSettings.faithful_toJson LoggingSettings.ofJson?_toJson,
    .of_readBack (fun _ => faithful_ofFields (by simp)) Settings.ofJson?_toJson,
    .of_readBack (fun _ => faithful_ofFields (by simp)) TokenPair.ofJson?_toJson,
    Session.withholds, User.withholds⟩

/-- Other fields, and another order. -/
example : Form.normal? ⟨DeviceMetadata.toJson, DeviceMetadata.ofJson?⟩
    "\x7b\"user_agent\": \"curl\", \"port\": 1, \"ip\": \"::1\"\x7d" =
      some "\x7b\"ip\":\"::1\",\"user_agent\":\"curl\"\x7d" := by
  decide +kernel

end DeviceSessions
