import DeviceSessions.Json.Buffered
import DeviceSessions.Json.Record

/-!
# Token headers

The header of a signed token in JSON. It names the algorithm of the signature; every other field
that the standards define has to have its type, and every field that they do not has to be a text.
-/

namespace DeviceSessions.Header

open Json

/-- The algorithms of signatures that headers may name. -/
def algorithms : List String :=
  ["HS256", "HS384", "HS512", "ES256", "ES384", "RS256", "RS384", "RS512", "PS256", "PS384",
   "PS512", "EdDSA"]

/-- The one algorithm of this program. -/
def algorithm : String := "HS256"

/-- The header of every token of this program. -/
def json : Json := ofFields [("typ", ofText "JWT"), ("alg", ofText algorithm)]

/-- Fields that are texts. -/
def textFields : List String :=
  ["typ", "cty", "jku", "kid", "x5u", "x5t", "x5t#S256", "url", "nonce", "enc", "zip"]

/-- Fields that are lists of texts. -/
def listFields : List String := ["x5c", "crit"]

/-- The fields that the standards define. -/
def names : List String := "alg" :: "jwk" :: textFields ++ listFields

/-- A text. -/
def isText (j : Json) : Bool := j.text?.isSome

/-- A list of texts. -/
def isTextList : Json → Bool
  | .array items => items.all isText
  | _ => false

/-- Whether a field that may be left out or null is of the right type where it is there. -/
def optional (r : Record) (ofType : Json → Bool) (name : String) : Bool :=
  match r.lookup name with
  | none | some .null => true
  | some value => ofType value

/-- Whether an entry is there and of the right type. -/
def required (r : Record) (ofType : Json → Bool) (name : String) : Bool :=
  (r.lookup name).any ofType

/-- One of some names. -/
def isOneOf (values : List String) (j : Json) : Bool :=
  (named? (values.map fun v => (v, v)) j).isSome

/-- The curves of keys. -/
def curves : List String := ["P-256", "P-384", "P-521", "Ed25519"]

/-- Whether an object has the type of a key, on a curve if that takes one, and numbers under some
names. None of these may come twice; other entries do not count. -/
def isKeyOf (type : String) (onCurve : Bool) (numbers : List String)
    (entries : List (Quoted × Json)) : Bool :=
  match knownEntries? ("kty" :: (if onCurve then ["crv"] else []) ++ numbers) entries with
  | some r =>
    required r (isOneOf [type]) "kty" && (!onCurve || required r (isOneOf curves) "crv") &&
      numbers.all (required r isText)
  | none => false

/-- Whether an object holds the numbers of a key of one of the four types. -/
def isKeyMaterial (entries : List (Quoted × Json)) : Bool :=
  isKeyOf "EC" true ["x", "y"] entries || isKeyOf "RSA" false ["n", "e"] entries ||
    isKeyOf "oct" false ["k"] entries || isKeyOf "OKP" true ["x"] entries

/-- The fields that keys of all types have. -/
def keyNames : List String := ["use", "key_ops", "alg", "kid", "x5u", "x5c", "x5t", "x5t#S256"]

/-- The algorithm of a key: any name, by itself or as the one key of an object of nothing. -/
def isKeyAlgorithm : Json → Bool
  | .string (.text _) | .object [(.text _, .null)] | .object [(.text _, .object [])] => true
  | _ => false

/-- A key. -/
def isKey (j : Json) : Bool :=
  match j with
  | .object entries =>
    isSound (maxDepth - 1) j &&
      match knownEntries? keyNames entries with
      | some r =>
        ["use", "kid", "x5u", "x5t", "x5t#S256"].all (optional r isText) &&
          optional r isKeyAlgorithm "alg" && ["key_ops", "x5c"].all (optional r isTextList) &&
          isKeyMaterial entries
      | none => false
  | _ => false

/-- The algorithm that a header names, if the header is well formed. -/
def algorithm? : Json → Option String
  | .object entries => do
    let r ← knownEntries? names entries
    let others := entries.filter fun (key, _) => !names.contains (key.text?.getD "")
    let named ← r.field? "alg" (named? (algorithms.map fun a => (a, a)))
    if others.all (fun (_, value) => isText value) && textFields.all (optional r isText) &&
        listFields.all (optional r isTextList) && optional r isKey "jwk" then
      some named
    else none
  | _ => none

end DeviceSessions.Header
