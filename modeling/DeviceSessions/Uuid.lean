import DeviceSessions.Bytes
import DeviceSessions.Text.Ascii

/-!
# UUIDs

Sixteen bytes, written in lower case with hyphens. Reading also takes 32 digits without hyphens,
and a hyphenated form in braces or behind `urn:uuid:`; digits may be of either case.
-/

namespace DeviceSessions

/-- A UUID. -/
structure Uuid where
  bytes : Bytes
  size : bytes.length = 16
  deriving DecidableEq, Repr

/-- Why a text is no UUID. -/
inductive UuidError where
  | badCharacter (c : Char) (index : Nat)
  | badLength (found : Nat)
  | badGroupCount (found : Nat)
  | badGroupLength (group expected found : Nat)
  deriving DecidableEq, Repr

namespace UuidError

/-- The wording of the reason. -/
def message : UuidError → String
  | badCharacter c i => s!"invalid character: found `{c}` at {i}"
  | badLength n => s!"invalid length: found {n}"
  | badGroupCount n => s!"invalid group count: expected 5, found {n}"
  | badGroupLength g e n => s!"invalid group length in group {g}: expected {e}, found {n}"

end UuidError

namespace Uuid

/-- The UUID of sixteen bytes. -/
def ofBytes? (bs : Bytes) : Option Uuid :=
  if h : bs.length = 16 then some ⟨bs, h⟩ else none

/-- The UUID of sixteen bytes, with the version and variant of a random one set. -/
def random? (bs : Bytes) : Option Uuid :=
  ofBytes? (bs.mapIdx fun i b =>
    if i = 6 then (b &&& 0x4f) ||| 0x40 else if i = 8 then (b &&& 0xbf) ||| 0x80 else b)

/-- The lower case digits in groups of 8, 4, 4, 4 and 12. -/
def toList (u : Uuid) : List Char :=
  let ds := u.bytes.flatMap Bytes.hexPair
  ds.take 8 ++ '-' :: (ds.drop 8).take 4 ++ '-' :: (ds.drop 12).take 4 ++
    '-' :: (ds.drop 16).take 4 ++ '-' :: ds.drop 20

/-- The hyphenated form. -/
def text (u : Uuid) : String := String.ofList u.toList

instance : ToString Uuid := ⟨text⟩

/-- Reads 32 digits. -/
def ofDigits? (cs : List Char) : Option Uuid := do ofBytes? (← Bytes.ofHex? cs)

/-- Reads five groups of digits with hyphens between them. -/
def ofHyphenated? (cs : List Char) : Option Uuid :=
  if cs.length = 36 ∧ (cs.drop 8).head? = some '-' ∧ (cs.drop 13).head? = some '-' ∧
      (cs.drop 18).head? = some '-' ∧ (cs.drop 23).head? = some '-' then
    ofDigits? (cs.take 8 ++ (cs.drop 9).take 4 ++ (cs.drop 14).take 4 ++ (cs.drop 19).take 4 ++
      cs.drop 24)
  else none

/-- What stands in front of a hyphenated UUID that is written as a name. -/
def urn : List Char := "urn:uuid:".toList

/-- The text without braces or the name in front, how much was left out in front of it, and
whether nothing was. -/
def unwrap (cs : List Char) : List Char × Nat × Bool :=
  if cs.head? = some '\x7b' ∧ 2 ≤ cs.length ∧ cs.getLast? = some '\x7d' then
    ((cs.drop 1).dropLast, 1, false)
  else if (cs.take 9).map Text.asciiLower = urn then (cs.drop 9, 9, false)
  else (cs, 0, true)

/-- The first character that is no digit, other than a hyphen where those may stand, with its place. -/
def badCharacter? (hyphens : Bool) (cs : List Char) : Option (Char × Nat) :=
  cs.zipIdx.find? fun (c, _) => (Bytes.hexValue? c).isNone && !(hyphens && c == '-')

/-- The first of the four hyphens that is not at the end of its group, given their places and
those of the starts of the groups. -/
def badGroup? (group : Nat) : List Nat → List (Nat × Nat) → Option UuidError
  | bound :: bounds, (start, expected) :: starts =>
    if bound = start + expected then badGroup? (group + 1) bounds starts
    else some (.badGroupLength group expected (bound - start))
  | _, _ => none

/-- Why `cs`, of which `offset` characters were left out in front, is no hyphenated UUID; `size` is
the length by which its last group is measured. -/
def explainGroups (cs : List Char) (offset size : Nat) : UuidError :=
  match badCharacter? true cs with
  | some (c, i) => .badCharacter c (i + offset)
  | none =>
    let bounds := (cs.zipIdx.filter fun (c, _) => c == '-').map (·.2)
    if bounds.length ≠ 4 then .badGroupCount (bounds.length + 1)
    else
      (badGroup? 0 bounds [(0, 8), (9, 4), (14, 4), (19, 4)]).getD (.badGroupLength 4 12 (size - 24))

/-- Why `cs` is not 32 digits. -/
def explainDigits (cs : List Char) : UuidError :=
  match badCharacter? false cs with
  | some (c, i) => .badCharacter c i
  | none => .badLength cs.length

/-- The length of the longest form. -/
def maxSize : Nat := 45

/-- Why `cs` is no UUID. A text with the length of one of the forms is held against that form; any
other must at least not be too long. -/
def explain (cs : List Char) : UuidError :=
  let size := (String.ofList cs).utf8ByteSize
  let (inner, offset, simple) := unwrap cs
  if size = 32 then explainDigits cs
  else if size = 36 then explainGroups cs 0 size
  else if !simple && (String.ofList inner).utf8ByteSize == 36 then explainGroups inner 0 36
  else if maxSize < size then .badLength size
  else if simple && !cs.contains '-' && (badCharacter? true cs).isNone then .badLength size
  else explainGroups inner offset size

/-- Reads a UUID in any of its forms. -/
def readList? (cs : List Char) : Option Uuid :=
  let (inner, _, simple) := unwrap cs
  if simple && cs.length == 32 then ofDigits? cs else ofHyphenated? inner

/-- Reads a UUID in any of its forms. -/
def read (text : String) : Except UuidError Uuid :=
  match readList? text.toList with
  | some u => .ok u
  | none => .error (explain text.toList)

/-- Whether the bytes of `u` come before those of `v`. -/
def before (u v : Uuid) : Bool := Bytes.toNatBE u.bytes < Bytes.toNatBE v.bytes

end Uuid

end DeviceSessions
