import DeviceSessions.Error
import DeviceSessions.Json.Record

/-!
# Kinds of failure in JSON
-/

namespace DeviceSessions.ErrorKind

open Json

/-- The kinds by name. -/
def byName : List (String × ErrorKind) := all.map fun k => (k.name, k)

/-- The JSON form. -/
def toJson (k : ErrorKind) : Json := Json.ofText k.name

/-- Reads the JSON form. -/
def ofJson? : Json → Option ErrorKind := named? byName

end DeviceSessions.ErrorKind
