/-!
# Errors

What can go wrong, by kind. An error has a message and may have a source; infrastructure errors
are hidden from callers by `surface`.
-/

namespace DeviceSessions

/-- The kinds of failure. -/
inductive ErrorKind where
  | invalidCredentials
  | invalidToken
  | tokenRevoked
  | incorrectDevice
  | notFound
  | validation
  | hashing
  | database
  | timeout
  | configuration
  | serialization
  | internal
  deriving DecidableEq, Repr

namespace ErrorKind

/-- All kinds. -/
def all : List ErrorKind :=
  [invalidCredentials, invalidToken, tokenRevoked, incorrectDevice, notFound, validation, hashing,
   database, timeout, configuration, serialization, internal]

/-- The name of the kind. -/
def name : ErrorKind → String
  | invalidCredentials => "InvalidCredentials"
  | invalidToken => "InvalidToken"
  | tokenRevoked => "TokenRevoked"
  | incorrectDevice => "IncorrectDevice"
  | notFound => "NotFound"
  | validation => "Validation"
  | hashing => "Hashing"
  | database => "Database"
  | timeout => "Timeout"
  | configuration => "Configuration"
  | serialization => "Serialization"
  | internal => "Internal"

/-- The kind as a code, in capitals. -/
def code : ErrorKind → String
  | invalidCredentials => "INVALID_CREDENTIALS"
  | invalidToken => "INVALID_TOKEN"
  | tokenRevoked => "TOKEN_REVOKED"
  | incorrectDevice => "INCORRECT_DEVICE"
  | notFound => "NOT_FOUND"
  | validation => "VALIDATION"
  | hashing => "HASHING"
  | database => "DATABASE"
  | timeout => "TIMEOUT"
  | configuration => "CONFIGURATION"
  | serialization => "SERIALIZATION"
  | internal => "INTERNAL"

/-- Failures of the machinery, not of the request. -/
def isInfrastructure : ErrorKind → Bool
  | hashing | database | timeout | configuration | serialization | internal => true
  | _ => false

/-- Whether the same request may succeed later. -/
def isRetryable : ErrorKind → Bool
  | timeout | database | internal => true
  | _ => false

/-- The status code of a reply with this failure. -/
def status : ErrorKind → Nat
  | invalidCredentials | invalidToken | tokenRevoked => 401
  | incorrectDevice | validation => 400
  | notFound => 404
  | timeout => 504
  | _ => 500

end ErrorKind

/-- An error: its kind, its message, and whether it has a source. -/
structure Error where
  kind : ErrorKind
  message : String
  hasSource : Bool := false
  deriving DecidableEq, Repr

namespace Error

/-- The message of an error that hides what happened. -/
def opaqueMessage : String := "Internal server error"

/-- The error that hides what happened. -/
def hidden : Error := ⟨.internal, opaqueMessage, false⟩

/-- The whole text of an error: code and message. -/
def display (e : Error) : String := e.kind.code ++ ": " ++ e.message

/-- The error with the operation it arose in put in front of the message. -/
def context (e : Error) (operation : String) : Error :=
  { e with message := operation ++ ": " ++ e.message }

/-- A copy, which has no source. -/
def copy (e : Error) : Error := { e with hasSource := false }

/-- What a caller may see: infrastructure errors are hidden. -/
def surface (e : Error) : Error := if e.kind.isInfrastructure then hidden else e

/-- The beginning of every message about a JSON text that cannot be read. -/
def jsonMessage : String := "JSON serialization error"

/-- A JSON text that cannot be read. -/
def ofJson : Error := ⟨.serialization, jsonMessage, true⟩

/-- A failed input or output, with the system's words. -/
def ofInput (words : String) : Error := ⟨.internal, "I/O error: " ++ words, true⟩

/-- Settings that cannot be used, with the reason. -/
def ofSettings (words : String) : Error := ⟨.configuration, "Configuration error: " ++ words, true⟩

end Error

/-- A result or an error. -/
abbrev Result := Except Error

/-- Where both parts of a computation can fail, it succeeds only if both do. -/
theorem bind_ok {ε α β : Type} {x : Except ε α} {f : α → Except ε β} {b : β}
    (done : (x >>= f) = .ok b) : ∃ a, x = .ok a ∧ f a = .ok b := by
  cases x with
  | error e => cases done
  | ok a => exact ⟨a, rfl, done⟩

end DeviceSessions
