import DeviceSessions.Json.Record
import DeviceSessions.Time.Rfc3339
import DeviceSessions.Uuid

/-!
# UUIDs and instants in JSON

Both are texts.
-/

namespace DeviceSessions.Json

/-- A UUID in any of its spellings. -/
def uuid? (j : Json) : Option Uuid := do
  match Uuid.read (← j.text?) with
  | .ok u => some u
  | .error _ => none

/-- The value of a UUID. -/
def ofUuid (u : Uuid) : Json := ofText u.text

/-- A date and time with an offset. -/
def instant? (j : Json) : Option Instant := do Rfc3339.read? (← j.text?)

/-- The value of an instant, in UTC. -/
def ofInstant (t : Instant) : Json := ofText (Rfc3339.write t)

/-- The value of a natural number. -/
def ofNat (n : Nat) : Json := ofInt n

end DeviceSessions.Json
