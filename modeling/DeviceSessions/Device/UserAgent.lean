import DeviceSessions.Device.Basic
import DeviceSessions.Text.Ascii

/-!
# User agents

Labels for the text with which a client introduces itself, found by searching it for words. Letter
case of ASCII letters does not count. The labels are for display only.
-/

namespace DeviceSessions

/-- A family of operating systems. -/
inductive OperatingSystem where
  | windows
  | chromeOS
  | iOS
  | macOS
  | android
  | linux
  | unknown
  deriving DecidableEq, Repr

/-- A family of browsers. -/
inductive Browser where
  | edge
  | opera
  | firefox
  | chrome
  | safari
  | unknown
  deriving DecidableEq, Repr

/-- Whether one of the words occurs in the text. -/
def mentions (text : List Char) (words : List String) : Bool :=
  words.any fun word => Text.occursIn word.toList text

namespace OperatingSystem

/-- The name of the family. -/
def name : OperatingSystem → String
  | windows => "Windows"
  | chromeOS => "ChromeOS"
  | iOS => "iOS"
  | macOS => "macOS"
  | android => "Android"
  | linux => "Linux"
  | unknown => "Unknown"

/-- The family that a text in lower case names. Phones of one family also name the system of its
desktops, and those of another name the kernel, so they come first. -/
def ofText (text : List Char) : OperatingSystem :=
  if mentions text ["windows"] then windows
  else if mentions text ["cros "] then chromeOS
  else if mentions text ["iphone", "ipad", "ipod"] then iOS
  else if mentions text ["mac os x", "macintosh"] then macOS
  else if mentions text ["android"] then android
  else if mentions text ["linux"] then linux
  else unknown

/-- Systems of desktops. -/
def isDesktop : OperatingSystem → Bool
  | windows | macOS | linux | chromeOS => true
  | _ => false

end OperatingSystem

namespace Browser

/-- The name of the family. -/
def name : Browser → String
  | edge => "Edge"
  | opera => "Opera"
  | firefox => "Firefox"
  | chrome => "Chrome"
  | safari => "Safari"
  | unknown => "Unknown"

/-- The family that a text in lower case names. Later families are also named by the earlier. -/
def ofText (text : List Char) : Browser :=
  if mentions text ["edg/", "edge/", "edgios/"] then edge
  else if mentions text ["opr/", "opera"] then opera
  else if mentions text ["firefox/", "fxios/"] then firefox
  else if mentions text ["chrome/", "crios/", "chromium/"] then chrome
  else if mentions text ["safari/"] then safari
  else unknown

end Browser

/-- Words of clients that no person uses. -/
def botWords : List String := ["bot", "crawler", "spider", "curl/", "wget/"]

/-- The form factor that a text in lower case names. -/
def DeviceKind.ofUserAgent (text : List Char) (os : OperatingSystem) : DeviceKind :=
  if mentions text botWords then .bot
  else if mentions text ["ipad", "tablet"] ||
      (mentions text ["android"] && !mentions text ["mobile"]) then .tablet
  else if mentions text ["mobi", "iphone", "ipod"] then .mobile
  else if os.isDesktop then .desktop
  else .unknown

/-- The labels of a user agent. -/
structure UserAgent where
  os : OperatingSystem
  browser : Browser
  kind : DeviceKind
  deriving DecidableEq, Repr

namespace UserAgent

/-- The labels of a text. -/
def ofText (text : String) : UserAgent :=
  let cs := text.toList.map Text.asciiLower
  let os := OperatingSystem.ofText cs
  ⟨os, Browser.ofText cs, .ofUserAgent cs os⟩

/-- The name that a device with these labels has at first. -/
def displayName (a : UserAgent) : String := a.browser.name ++ " on " ++ a.os.name

end UserAgent

end DeviceSessions
