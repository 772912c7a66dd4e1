import DeviceSessions.Device.Basic
import DeviceSessions.Json.Fields

/-!
# Devices in JSON
-/

namespace DeviceSessions

open Json

namespace DeviceKind

/-- The JSON form. -/
def toJson (k : DeviceKind) : Json := Json.ofText k.name

/-- Reads the JSON form. -/
def ofJson? : Json → Option DeviceKind := named? byName

end DeviceKind

namespace DeviceMetadata

/-- The JSON form. -/
def toJson (m : DeviceMetadata) : Json :=
  ofFields [("ip", ofText m.ip), ("user_agent", ofText m.userAgent)]

/-- Reads the JSON form. -/
def ofJson? (j : Json) : Option DeviceMetadata := do
  let r ← record? ["ip", "user_agent"] j
  return { ip := ← r.field? "ip" text?, userAgent := ← r.field? "user_agent" text? }

end DeviceMetadata

namespace DeviceIdentity

/-- The JSON form. -/
def toJson (d : DeviceIdentity) : Json :=
  ofFields [
    ("id", ofText d.id), ("name", ofText d.name), ("device_type", d.kind.toJson),
    ("os", ofText d.os), ("browser", ofText d.browser), ("user_agent", ofText d.userAgent),
    ("ip", ofText d.ip)]

/-- Reads the JSON form. -/
def ofJson? (j : Json) : Option DeviceIdentity := do
  let r ← record? ["id", "name", "device_type", "os", "browser", "user_agent", "ip"] j
  return {
    id := ← r.field? "id" text?, name := ← r.field? "name" text?,
    kind := ← r.field? "device_type" DeviceKind.ofJson?, os := ← r.field? "os" text?,
    browser := ← r.field? "browser" text?, userAgent := ← r.field? "user_agent" text?,
    ip := ← r.field? "ip" text? }

end DeviceIdentity

namespace Device

/-- The JSON form. -/
def toJson (d : Device) : Json :=
  ofFields [
    ("id", ofText d.id), ("user_id", ofUuid d.userId), ("name", ofText d.name),
    ("device_type", d.kind.toJson), ("os", ofText d.os), ("browser", ofText d.browser),
    ("user_agent", ofText d.userAgent), ("ip", ofText d.ip),
    ("last_active", ofInstant d.lastActive), ("created_at", ofInstant d.createdAt)]

/-- Reads the JSON form. -/
def ofJson? (j : Json) : Option Device := do
  let r ← record? ["id", "user_id", "name", "device_type", "os", "browser", "user_agent", "ip",
    "last_active", "created_at"] j
  return {
    id := ← r.field? "id" text?, userId := ← r.field? "user_id" uuid?,
    name := ← r.field? "name" text?, kind := ← r.field? "device_type" DeviceKind.ofJson?,
    os := ← r.field? "os" text?, browser := ← r.field? "browser" text?,
    userAgent := ← r.field? "user_agent" text?, ip := ← r.field? "ip" text?,
    lastActive := ← r.field? "last_active" instant?,
    createdAt := ← r.field? "created_at" instant? }

end Device

end DeviceSessions
