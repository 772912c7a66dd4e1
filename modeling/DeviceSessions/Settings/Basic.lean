import DeviceSessions.Settings.Auth
import DeviceSessions.Settings.Database

/-!
# Settings

All settings of the program, in three sections.
-/

namespace DeviceSessions

/-- How log lines are written. -/
inductive LogFormat where
  | json
  | pretty
  deriving DecidableEq, Repr

/-- The formats by name. -/
def LogFormat.byName : List (String × LogFormat) := [("json", .json), ("pretty", .pretty)]

/-- The name of a format. -/
def LogFormat.name : LogFormat → String
  | .json => "json"
  | .pretty => "pretty"

/-- The name of a format in diagnostics. -/
def LogFormat.title : LogFormat → String
  | .json => "Json"
  | .pretty => "Pretty"

/-- The settings of the log. -/
structure LoggingSettings where
  level : String := "info"
  format : LogFormat := .json
  deriving DecidableEq, Repr

/-- All settings. -/
structure Settings where
  database : DatabaseSettings
  auth : AuthSettings
  logging : LoggingSettings := {}
  deriving DecidableEq, Repr

namespace Settings

/-- Refuses settings that one of the sections refuses. -/
def validate (s : Settings) : Result Unit := do
  s.database.validate
  s.auth.validate

/-- The form in diagnostics, which shows neither the URL nor the secret. -/
def diagnostic (s : Settings) : String :=
  "AppConfig \x7b database: " ++ s.database.diagnostic ++ ", auth: " ++ s.auth.diagnostic ++
    ", logging: LoggingConfig \x7b level: " ++ Text.quoted s.logging.level ++ ", format: " ++
    s.logging.format.title ++ " \x7d \x7d"

end Settings

end DeviceSessions
