import DeviceSessions.Base64
import DeviceSessions.Text.Ascii

/-!
# Password hash texts

The text that keeps a password hash together with all that is needed to compute it again: the
function, its version and parameters, the salt, and the output, each behind a dollar sign. Parts
may be left out from the end, and version and parameters also before others.
-/

namespace DeviceSessions

open Text

/-- What is wrong with a value. -/
inductive ValueFault where
  | malformed
  | badCharacter (c : Char)
  | badFormat
  | tooLong
  | tooShort
  deriving DecidableEq, Repr

/-- The wording of the fault. -/
def ValueFault.message : ValueFault → String
  | malformed => "value malformed"
  | badCharacter c => "contains invalid character: '" ++ String.ofList [c] ++ "'"
  | badFormat => "value format is invalid"
  | tooLong => "value to long"
  | tooShort => "value to short"

/-- Why a text is no password hash, or cannot be computed again. -/
inductive PhcFault where
  | missingField
  | trailingText
  | badName
  | tooManyParameters
  | badValue (fault : ValueFault)
  | badSalt (fault : ValueFault)
  | shortOutput
  | base64Length
  | base64Encoding
  | unknownAlgorithm
  | unknownVersion
  deriving DecidableEq, Repr

/-- The wording of the fault. -/
def PhcFault.message : PhcFault → String
  | missingField => "password hash string missing field"
  | trailingText => "password hash string contains trailing characters"
  | badName => "invalid parameter name"
  | tooManyParameters => "maximum number of parameters reached"
  | badValue fault => "invalid parameter value: " ++ fault.message
  | badSalt fault => "salt invalid: " ++ fault.message
  | shortOutput => "output size too short, expected at least 10 bytes"
  | base64Length => "invalid Base64 length"
  | base64Encoding => "invalid Base64 encoding"
  | unknownAlgorithm => "unsupported algorithm"
  | unknownVersion => "invalid algorithm version"

/-- A password hash. Salt and parameters are kept as they are written. -/
structure Phc where
  algorithm : List Char
  version : Option Nat := none
  parameters : List (List Char × List Char) := []
  salt : Option (List Char) := none
  output : Option Bytes := none
  deriving DecidableEq, Repr

namespace Phc

/-- The bytes of a text. -/
def byteSize (cs : List Char) : Nat := cs.foldr (fun c n => c.utf8Size + n) 0

/-- A name: 1 to 32 small letters, digits and hyphens. -/
def name (cs : List Char) : Except PhcFault (List Char) :=
  if 1 ≤ cs.length ∧ cs.length ≤ 32 ∧
      cs.all (fun c => ('a' ≤ c && c ≤ 'z') || isDigit c || c == '-') then .ok cs
  else .error .badName

/-- The characters of values and salts. -/
def isValueChar (c : Char) : Bool :=
  ('a' ≤ c && c ≤ 'z') || ('A' ≤ c && c ≤ 'Z') || isDigit c || c == '/' || c == '+' || c == '.' ||
    c == '-'

/-- A value of at most 64 bytes. -/
def value (cs : List Char) : Except PhcFault (List Char) :=
  if 64 < byteSize cs then .error (.badValue .tooLong)
  else
    match cs.find? (fun c => !isValueChar c) with
    | some c => .error (.badValue (.badCharacter c))
    | none => .ok cs

/-- The number of 32 bits that a value writes, without zeros in front. -/
def number (cs : List Char) : Except PhcFault UInt32 :=
  if cs.isEmpty then .error (.badValue .malformed)
  else
    match cs.find? (fun c => !isDigit c) with
    | some c => .error (.badValue (.badCharacter c))
    | none =>
      if (cs.head? = some '0' ∧ 1 < cs.length) ∨ UInt32.size ≤ decimal cs then
        .error (.badValue .badFormat)
      else .ok (UInt32.ofNat (decimal cs))

/-- Bytes in base 64, at most `limit` of them. -/
def base64 (limit : Nat) (cs : List Char) : Except PhcFault Bytes :=
  let n := byteSize cs
  if limit < 3 * (n / 4) + n % 4 * 3 / 4 then .error .base64Length
  else
    match Base64.decodeList? Base64.standard cs with
    | some bs => .ok bs
    | none => .error .base64Encoding

/-- A name and a value with an equals sign between them. -/
def parameter (cs : List Char) : Except PhcFault (List Char × List Char) :=
  match splitAt '=' cs with
  | [n, v] => do return (← name n, ← value v)
  | n :: v :: _ => do
    let _ ← name n
    let _ ← value v
    throw (.badValue .malformed)
  | [n] => do
    let _ ← name n
    throw (.badValue .malformed)
  | [] => .error .badName

/-- Parameters with commas between them, at most 127 bytes. -/
def parametersOf (cs : List Char) : Except PhcFault (List (List Char × List Char)) :=
  if 127 < byteSize cs then .error .tooManyParameters else (splitAt ',' cs).mapM parameter

/-- A salt of 4 to 64 bytes. -/
def saltOf (cs : List Char) : Except PhcFault (List Char) :=
  if byteSize cs < 4 then .error (.badSalt .tooShort)
  else if 64 < byteSize cs then .error (.badSalt .tooLong)
  else
    match cs.find? (fun c => !isValueChar c) with
    | some c => .error (.badSalt (.badCharacter c))
    | none => .ok cs

/-- An output of 10 to 64 bytes. -/
def outputOf (cs : List Char) : Except PhcFault Bytes := do
  let bs ← base64 64 cs
  if bs.length < 10 then throw .shortOutput
  return bs

/-- Reads the output, behind which nothing may follow. -/
def readOutput (phc : Phc) : List (List Char) → Except PhcFault Phc
  | [] => .ok phc
  | field :: rest => do
    let output ← outputOf field
    if rest.isEmpty then return { phc with output := some output } else throw .trailingText

/-- Reads the salt. -/
def readSalt (phc : Phc) : List (List Char) → Except PhcFault Phc
  | [] => .ok phc
  | field :: rest => do readOutput { phc with salt := some (← saltOf field) } rest

/-- Reads the parameters, a field with an equals sign. -/
def readParameters (phc : Phc) : List (List Char) → Except PhcFault Phc
  | [] => .ok phc
  | field :: rest =>
    if field.contains '=' then do
      readSalt { phc with parameters := ← parametersOf field } rest
    else readSalt phc (field :: rest)

/-- Reads the version, a field with the one value `v`. -/
def readVersion (phc : Phc) : List (List Char) → Except PhcFault Phc
  | [] => .ok phc
  | field :: rest =>
    if ['v', '='].isPrefixOf field && !field.contains ',' then do
      let version ← number (← value (field.drop 2))
      readParameters { phc with version := some version.toNat } rest
    else readParameters phc (field :: rest)

/-- Reads a password hash; nothing stands before the first dollar sign. -/
def readList (cs : List Char) : Except PhcFault Phc :=
  match splitAt '$' cs with
  | [] :: algorithm :: rest => do readVersion { algorithm := ← name algorithm } rest
  | _ => .error .missingField

/-- Reads a password hash. -/
def read (text : String) : Except PhcFault Phc := readList text.toList

/-- A field with its dollar sign. -/
def field (cs : List Char) : List Char := '$' :: cs

/-- The parameters with commas between them. -/
def writeParameters : List (List Char × List Char) → List Char
  | [] => []
  | [(n, v)] => n ++ '=' :: v
  | (n, v) :: rest => n ++ '=' :: v ++ ',' :: writeParameters rest

/-- The text of a password hash. -/
def writeList (phc : Phc) : List Char :=
  field phc.algorithm ++
    (match phc.version with
      | some n => field ('v' :: '=' :: Nat.toDigits 10 n)
      | none => []) ++
    (if phc.parameters.isEmpty then [] else field (writeParameters phc.parameters)) ++
    (match phc.salt with
      | some salt => field salt
      | none => []) ++
    match phc.output with
      | some output => field (Base64.encodeList Base64.standard output)
      | none => []

/-- The text of a password hash. -/
def write (phc : Phc) : String := String.ofList phc.writeList

end Phc

end DeviceSessions
