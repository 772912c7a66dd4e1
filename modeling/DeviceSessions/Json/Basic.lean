/-!
# JSON values

The tree of a JSON text. It keeps what a reader of particular types has to know: how a number was
written, the order and the repetition of keys, and quoted texts that stand for no characters.
-/

namespace DeviceSessions

namespace Json

/-- A number, `digits` times ten to the power `scale`; `plain` if it was written without a point
and without an exponent. -/
structure Number where
  negative : Bool
  digits : Nat
  scale : Int
  plain : Bool
  deriving DecidableEq, Repr

/-- A quoted text. It may stand for no characters, because of bytes that belong to none or of an
escaped surrogate without its partner. -/
inductive Quoted where
  | text (s : String)
  | strayBytes
  | loneSurrogate
  deriving DecidableEq, Repr

/-- The characters of a quoted text. -/
def Quoted.text? : Quoted → Option String
  | text s => some s
  | _ => none

end Json

/-- A JSON value. -/
inductive Json where
  | null
  | bool (b : Bool)
  | number (n : Json.Number)
  | string (s : Json.Quoted)
  | array (items : List Json)
  | object (entries : List (Json.Quoted × Json))
  deriving Repr

namespace Json

/-- The number of an integer. -/
def Number.ofInt (n : Int) : Number := ⟨n < 0, n.natAbs, 0, true⟩

/-- The integer of a number written as one; a zero with a sign is none. -/
def Number.int? (n : Number) : Option Int :=
  if !n.plain || (n.negative && n.digits == 0) then none
  else some (if n.negative then -n.digits else n.digits)

/-- The value of a text. -/
def ofText (s : String) : Json := .string (.text s)

/-- The value of an integer. -/
def ofInt (n : Int) : Json := .number (.ofInt n)

/-- The object with these fields in order. -/
def ofFields (fields : List (String × Json)) : Json :=
  .object (fields.map fun (name, value) => (.text name, value))

end Json

end DeviceSessions
