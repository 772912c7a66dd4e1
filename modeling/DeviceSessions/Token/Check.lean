import DeviceSessions.Json.Resume
import DeviceSessions.Token.Issue

/-!
# Checking tokens

A token is accepted if its header names the one algorithm, its signature is right, its claims are
well formed, it has not ended, it comes from this issuer and it is meant for nobody else. The checks
are made in this order, and the first that fails decides the error.
-/

namespace DeviceSessions

/-- Why a token is refused. -/
inductive TokenFault where
  | malformed
  | algorithm
  | signature
  | missingClaim
  | expired
  | issuer
  deriving DecidableEq, Repr

namespace TokenFault

/-- The wording of the reason. -/
def message : TokenFault → String
  | malformed => "Malformed token"
  | algorithm => "Unexpected token algorithm"
  | signature => "Bad token signature"
  | missingClaim => "Token is missing a required claim"
  | expired => "Token has expired"
  | issuer => "Unexpected token issuer"

/-- The error of a refused token. -/
def error (f : TokenFault) : Error := ⟨.invalidToken, f.message, false⟩

end TokenFault

/-- A value where there is one, and a malformed token otherwise. -/
def orMalformed (x : Option α) : Except TokenFault α :=
  match x with
  | some a => .ok a
  | none => .error .malformed

/-- The parts of a token between its last two points and around them. -/
structure TokenParts where
  header : String
  payload : String
  signature : String
  deriving DecidableEq, Repr

namespace TokenParts

/-- Cuts a token at its last two points. -/
def ofText? (token : String) : Option TokenParts := do
  let (message, signature) ← Text.cutLast '.' token.toList
  let (header, payload) ← Text.cutLast '.' message
  return ⟨String.ofList header, String.ofList payload, String.ofList signature⟩

/-- What the signature covers. -/
def message (p : TokenParts) : String := p.header ++ "." ++ p.payload

end TokenParts

/-- The symbols of a part of a token. -/
def decodePart? (part : String) : Option (List Json.Symbol) := do
  return Json.Symbol.ofBytes (← Base64.decode? Base64.urlSafe part)

/-- The JSON value of a part of a token. -/
def decodeJson? (part : String) : Option Json := do Json.read? (← decodePart? part)

/-- How long after its end a token is still accepted, in seconds. -/
def leeway : UInt64 := 5

/-- Whether a token has expired that ends at a second since the start of 1970. The seconds are
compared as words without a sign, so in the first seconds of 1970 every token has. -/
def hasExpired (ends : Int64) (now : Instant) : Bool :=
  ends.toUInt64 < (Int64.ofInt now.secs).toUInt64 - leeway

/-- The names that the standard registers for claims and that are looked at. -/
def registeredNames : List String := ["exp", "nbf", "sub", "iss", "aud"]

/-- Whether a value names an audience. -/
def isAudience : Json → Bool
  | .string (.text _) => true
  | .array items => items.all fun item => item.text?.isSome
  | _ => false

/-- Passes the value of a claim. A time or an audience that cannot be used is given up; every other
value has to be there. -/
def passClaim (name : String) (cs : List Json.Symbol) : Option (Json.Passed) :=
  if name = "exp" ∨ name = "nbf" then some (Json.passScalar cs)
  else if name = "aud" then some (Json.passValue (cs.length + 1) (Json.maxDepth - 1) cs)
  else (Json.readValue (cs.length + 1) cs).map fun (value, rest) => (some value, rest)

/-- The registered claims among those up to the closing brace, at least one, if the reader gets
through all of them and meets none twice. A claim that is given up counts as met. -/
def readClaims? : Nat → List Json.Symbol → Option (List (String × Option Json) × List Json.Symbol)
  | 0, _ => none
  | fuel + 1, some '"' :: rest => do
    let (key, rest) ← Json.readQuoted rest
    let name ← key.text?
    match Json.skipSpace rest with
    | some ':' :: rest =>
      let (value, rest) ← passClaim name (Json.skipSpace rest)
      let (claims, rest) ←
        match Json.skipSpace rest with
        | some '\x7d' :: rest => pure ([], rest)
        | some ',' :: rest => readClaims? fuel (Json.skipSpace rest)
        | _ => none
      if !registeredNames.contains name then some (claims, rest)
      else if (claims.lookup name).isSome then none
      else some ((name, value) :: claims, rest)
    | _ => none
  | _, _ => none

/-- The registered claims of a payload, if the reader gets through all of it. -/
def registered? (cs : List Json.Symbol) : Option (List (String × Option Json)) :=
  match Json.skipSpace cs with
  | some '\x7b' :: rest => do
    let (claims, rest) ← readClaims? (cs.length + 1) (Json.skipSpace rest)
    if (Json.skipSpace rest).isEmpty then some claims else none
  | _ => none

namespace Issuer

/-- Checks a token. -/
def check (a : Issuer) (token : String) (now : Instant) : Except TokenFault Claims := do
  let parts ← orMalformed (TokenParts.ofText? token)
  let algorithm ← orMalformed ((decodeJson? parts.header).bind Header.algorithm?)
  if algorithm ≠ Header.algorithm then throw .algorithm
  let signature ← orMalformed (Base64.decode? Base64.urlSafe parts.signature)
  if signature ≠ a.signature parts.message then throw .signature
  let payload ← orMalformed (decodePart? parts.payload)
  let claims ← orMalformed ((Json.read? payload).bind Claims.ofJson?)
  let registered ← orMalformed (registered? payload)
  if claims.expires.toInt < 0 then throw .missingClaim
  if hasExpired claims.expires now then throw .expired
  if claims.issuer ≠ a.name then throw .issuer
  if (registered.lookup "aud").any (·.any isAudience) then throw .malformed
  return claims

/-- Checks a token; a refused one is an error. -/
def parse (a : Issuer) (token : String) (now : Instant) : Result Claims :=
  match a.check token now with
  | .ok claims => .ok claims
  | .error fault => .error fault.error

variable {a : Issuer} {token : String} {now : Instant} {c : Claims}

theorem parse_of_check (checked : a.check token now = .ok c) : a.parse token now = .ok c := by
  unfold parse
  rw [checked]

theorem check_of_parse (parsed : a.parse token now = .ok c) : a.check token now = .ok c := by
  unfold parse at parsed
  split at parsed
  · rename_i claims checked
    rw [checked, Except.ok.inj parsed]
  · cases parsed

end Issuer

/-- The form in diagnostics of what tokens are checked against under some settings, which does not
show the secret. -/
def AuthSettings.checkDiagnostic (s : AuthSettings) : String :=
  "JwtDecoder \x7b validation: Validation \x7b required_spec_claims: " ++
    "\x7b\"exp\", \"iss\", \"sub\"\x7d, leeway: " ++ toString leeway.toNat ++
    ", reject_tokens_expiring_in_less_than: 0, validate_exp: true, validate_nbf: false, " ++
    "validate_aud: true, aud: None, iss: Some(\x7b" ++ Text.quoted s.issuer ++
    "\x7d), sub: None, algorithms: [HS256], validate_signature: true \x7d \x7d"

end DeviceSessions
