import DeviceSessions.Device.Address
import DeviceSessions.Device.UserAgent
import DeviceSessions.Digest.Sha256
import DeviceSessions.Text.Blank

/-!
# The device of a connection

A device is known by its user agent and its address together: the same browser behind another
address is another device.
-/

namespace DeviceSessions

namespace DeviceIdentity

/-- The name of a device: a digest of user agent and address. An address has no bar in it, so the
last bar of the digested text is the one between them. -/
def idOf (userAgent ip : String) : String :=
  Bytes.hex (Digest.sha256 (Bytes.ofText (userAgent ++ "|" ++ ip)))

end DeviceIdentity

namespace DeviceMetadata

/-- The device that a connection comes from. -/
def resolve (m : DeviceMetadata) : Result DeviceIdentity :=
  let ip := Text.trim m.ip
  let userAgent := Text.trim m.userAgent
  if ip = "" then .error ⟨.incorrectDevice, "Missing client IP address", false⟩
  else if userAgent = "" then .error ⟨.incorrectDevice, "Missing user-agent", false⟩
  else if !Address.isAddress ip.toList then
    .error ⟨.incorrectDevice, "Malformed client IP address", false⟩
  else
    let labels := UserAgent.ofText userAgent
    .ok {
      id := DeviceIdentity.idOf userAgent ip, name := labels.displayName, kind := labels.kind,
      os := labels.os.name, browser := labels.browser.name, userAgent, ip }

end DeviceMetadata

end DeviceSessions
