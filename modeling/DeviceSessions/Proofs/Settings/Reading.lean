import DeviceSessions.Settings.Layers

/-!
# Laws of reading settings

What each setting of a section is made of: of the field with its name, or of nothing if there is
none.
-/

namespace DeviceSessions

namespace Setting

theorem field?_eq {α : Type} (fields : List (String × Setting)) (name : String)
    (convert : Setting → Option α) :
    field? fields name convert = (fields.lookup name).elim none convert := by
  unfold field?
  cases fields.lookup name <;> rfl

theorem fieldOr?_eq {α : Type} (fields : List (String × Setting)) (name : String) (absent : α)
    (convert : Setting → Option α) :
    fieldOr? fields name absent convert = (fields.lookup name).elim (some absent) convert := by
  unfold fieldOr?
  cases fields.lookup name <;> rfl

theorem convert_of_lookup {α : Type} {fields : List (String × Setting)} {name : String}
    {value : Setting} {absent : Option α} {convert : Setting → Option α} {a : α}
    (found : fields.lookup name = some value)
    (read : (fields.lookup name).elim absent convert = some a) : convert value = some a := by
  rwa [found] at read

end Setting

section Sections

open Setting

variable {fields : List (String × Setting)}

theorem DatabaseSettings.fields_of_ofSetting? {s : DatabaseSettings}
    (read : ofSetting? (.table fields) = some s) :
    (fields.lookup "url").elim none toText? = some s.url ∧
    (fields.lookup "max_connections").elim (some 10) toUInt32? = some s.maxConnections ∧
    (fields.lookup "min_connections").elim (some 1) toUInt32? = some s.minConnections ∧
    (fields.lookup "connect_timeout_seconds").elim (some 5) toUInt64? =
      some s.connectTimeoutSeconds ∧
    (fields.lookup "idle_timeout_seconds").elim (some 600) toUInt64? =
      some s.idleTimeoutSeconds := by
  obtain ⟨url, place, read⟩ := Option.bind_eq_some_iff.mp read
  obtain ⟨most, atMost, read⟩ := Option.bind_eq_some_iff.mp read
  obtain ⟨least, atLeast, read⟩ := Option.bind_eq_some_iff.mp read
  obtain ⟨connect, connects, read⟩ := Option.bind_eq_some_iff.mp read
  obtain ⟨idle, idles, read⟩ := Option.bind_eq_some_iff.mp read
  cases read
  rw [field?_eq] at place
  rw [fieldOr?_eq] at atMost atLeast connects idles
  exact ⟨place, atMost, atLeast, connects, idles⟩

theorem AuthSettings.fields_of_ofSetting? {s : AuthSettings}
    (read : ofSetting? (.table fields) = some s) :
    (fields.lookup "jwt_secret").elim none toText? = some s.secret ∧
    (fields.lookup "jwt_issuer").elim (some "sessionkeeper") toText? = some s.issuer ∧
    (fields.lookup "access_ttl_minutes").elim (some 30) toUInt64? = some s.accessMinutes ∧
    (fields.lookup "refresh_ttl_hours").elim (some 168) toUInt64? = some s.refreshHours ∧
    (fields.lookup "store_timeout_seconds").elim (some 5) toUInt64? =
      some s.storeTimeoutSeconds := by
  obtain ⟨secret, own, read⟩ := Option.bind_eq_some_iff.mp read
  obtain ⟨issuer, named, read⟩ := Option.bind_eq_some_iff.mp read
  obtain ⟨access, short, read⟩ := Option.bind_eq_some_iff.mp read
  obtain ⟨refresh, long, read⟩ := Option.bind_eq_some_iff.mp read
  obtain ⟨timeout, waits, read⟩ := Option.bind_eq_some_iff.mp read
  cases read
  rw [field?_eq] at own
  rw [fieldOr?_eq] at named short long waits
  exact ⟨own, named, short, long, waits⟩

theorem LoggingSettings.fields_of_ofSetting? {s : LoggingSettings}
    (read : ofSetting? (.table fields) = some s) :
    (fields.lookup "level").elim (some "info") toText? = some s.level ∧
    (fields.lookup "format").elim (some .json) (toNamed? LogFormat.byName) = some s.format := by
  obtain ⟨level, shown, read⟩ := Option.bind_eq_some_iff.mp read
  obtain ⟨format, written, read⟩ := Option.bind_eq_some_iff.mp read
  cases read
  rw [fieldOr?_eq] at shown written
  exact ⟨shown, written⟩

end Sections

end DeviceSessions
