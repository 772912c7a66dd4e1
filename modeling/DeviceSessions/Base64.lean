import DeviceSessions.Bytes

/-!
# Base64

Base64 without padding over either of the two usual alphabets. Reading accepts exactly what writing
produces: no padding, no foreign characters, and zeros in the bits that are left over.
-/

namespace DeviceSessions.Base64

/-- The last two of the 64 digits; the others are letters and decimal digits. -/
structure Alphabet where
  plus : Char
  slash : Char
  deriving DecidableEq, Repr

/-- The alphabet with `+` and `/`. -/
def standard : Alphabet := ⟨'+', '/'⟩

/-- The alphabet for tokens and URLs, with `-` and `_`. -/
def urlSafe : Alphabet := ⟨'-', '_'⟩

/-- The digit of value `n`, for `n < 64`. -/
def Alphabet.digit (a : Alphabet) (n : Nat) : Char :=
  if n < 26 then Char.ofNat (65 + n)
  else if n < 52 then Char.ofNat (71 + n)
  else if n < 62 then Char.ofNat (n - 4)
  else if n = 62 then a.plus
  else a.slash

/-- The value of a digit. -/
def Alphabet.value? (a : Alphabet) (c : Char) : Option Nat :=
  if 'A' ≤ c ∧ c ≤ 'Z' then some (c.toNat - 65)
  else if 'a' ≤ c ∧ c ≤ 'z' then some (c.toNat - 71)
  else if '0' ≤ c ∧ c ≤ '9' then some (c.toNat + 4)
  else if c = a.plus then some 62
  else if c = a.slash then some 63
  else none

/-- Writes three bytes as four digits; one or two bytes at the end as two or three. -/
def encodeList (a : Alphabet) : Bytes → List Char
  | [] => []
  | [x] => [a.digit (x.toNat / 4), a.digit (x.toNat % 4 * 16)]
  | [x, y] =>
    [a.digit (x.toNat / 4), a.digit (x.toNat % 4 * 16 + y.toNat / 16),
     a.digit (y.toNat % 16 * 4)]
  | x :: y :: z :: rest =>
    a.digit (x.toNat / 4) :: a.digit (x.toNat % 4 * 16 + y.toNat / 16) ::
      a.digit (y.toNat % 16 * 4 + z.toNat / 64) :: a.digit (z.toNat % 64) :: encodeList a rest

/-- Reads the written form, and nothing else. -/
def decodeList? (a : Alphabet) : List Char → Option Bytes
  | [] => some []
  | [_] => none
  | [c, d] => do
    let p ← a.value? c
    let q ← a.value? d
    if q % 16 = 0 then some [UInt8.ofNat (p * 4 + q / 16)] else none
  | [c, d, e] => do
    let p ← a.value? c
    let q ← a.value? d
    let r ← a.value? e
    if r % 4 = 0 then
      some [UInt8.ofNat (p * 4 + q / 16), UInt8.ofNat (q % 16 * 16 + r / 4)]
    else none
  | c :: d :: e :: f :: rest => do
    let p ← a.value? c
    let q ← a.value? d
    let r ← a.value? e
    let s ← a.value? f
    let bs ← decodeList? a rest
    return UInt8.ofNat (p * 4 + q / 16) :: UInt8.ofNat (q % 16 * 16 + r / 4) ::
      UInt8.ofNat (r % 4 * 64 + s) :: bs

/-- The text of some bytes. -/
def encode (a : Alphabet) (bs : Bytes) : String := String.ofList (encodeList a bs)

/-- The bytes of a text. -/
def decode? (a : Alphabet) (text : String) : Option Bytes := decodeList? a text.toList

end DeviceSessions.Base64
