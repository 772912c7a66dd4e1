import DeviceSessions.Controller.World
import DeviceSessions.Database.Requests
import DeviceSessions.Settings.Database

/-!
# Connections

Reaching a database, and a controller on top of one.
-/

namespace DeviceSessions

/-- A URL with the password between user and host blotted out. -/
def redactUrl (url : String) : String :=
  match Text.cutWord [':', '/', '/'] url.toList with
  | none => url
  | some (scheme, rest) =>
    match Text.cutLast '@' rest with
    | none => url
    | some (userinfo, host) =>
      match Text.cutFirst ':' userinfo with
      | none => url
      | some (user, _) =>
        String.ofList (scheme ++ "://".toList ++ user ++ ":****@".toList ++ host)

namespace Database

/-- The error of a database that cannot be reached. -/
def unreachable (url : String) : Error :=
  databaseError ("Cannot reach session database at " ++ redactUrl url)

/-- The database that settings lead to, if it is there. -/
def connect (s : DatabaseSettings) (server : Option Database) : Result Database :=
  match server with
  | some db => .ok db
  | none => .error (unreachable s.url)

/-- A database that fails at every statement. -/
def down : Database := { faults := Statement.all }

/-- The database as the backend of a controller. -/
def backend : Backend Database where
  store call now := (call.request now).on
  findUser email := (Request.findUser email).on

end Database

end DeviceSessions
