/-!
# Bytes

Byte strings as lists, and their hexadecimal form.
-/

namespace DeviceSessions

/-- A string of bytes. -/
abbrev Bytes := List UInt8

namespace Bytes

/-- The UTF-8 form of a text. -/
def ofText (text : String) : Bytes := text.toUTF8.toList

/-- The lower case hexadecimal digit of `n`, for `n < 16`. -/
def hexDigit (n : Nat) : Char :=
  if n < 10 then Char.ofNat (48 + n) else Char.ofNat (87 + n)

/-- The two hexadecimal digits of a byte, high half first. -/
def hexPair (b : UInt8) : List Char := [hexDigit (b.toNat / 16), hexDigit (b.toNat % 16)]

/-- Lower case hexadecimal, two digits a byte. -/
def hex (bs : Bytes) : String := String.ofList (bs.flatMap hexPair)

/-- The value of a hexadecimal digit of either case. -/
def hexValue? (c : Char) : Option Nat :=
  if '0' ≤ c ∧ c ≤ '9' then some (c.toNat - 48)
  else if 'a' ≤ c ∧ c ≤ 'f' then some (c.toNat - 87)
  else if 'A' ≤ c ∧ c ≤ 'F' then some (c.toNat - 55)
  else none

/-- Reads pairs of hexadecimal digits of either case. -/
def ofHex? : List Char → Option Bytes
  | [] => some []
  | [_] => none
  | hi :: lo :: rest => do
    let h ← hexValue? hi
    let l ← hexValue? lo
    let bs ← ofHex? rest
    return UInt8.ofNat (16 * h + l) :: bs

/-- The `n` bytes of `x`, most significant first. -/
def bigEndian (n : Nat) (x : Nat) : Bytes :=
  (List.range n).map fun i => UInt8.ofNat (x / Nat.pow 256 (n - 1 - i))

/-- The `n` bytes of `x`, least significant first. -/
def littleEndian (n : Nat) (x : Nat) : Bytes :=
  (List.range n).map fun i => UInt8.ofNat (x / Nat.pow 256 i)

/-- The number whose bytes, most significant first, are `bs`. -/
def toNatBE (bs : Bytes) : Nat := bs.foldl (fun n b => 256 * n + b.toNat) 0

/-- The number whose bytes, least significant first, are `bs`. -/
def toNatLE (bs : Bytes) : Nat := bs.foldr (fun b n => b.toNat + 256 * n) 0

/-- Consecutive pieces of `n` bytes; the last one may be shorter. -/
def chunks (n : Nat) (bs : Bytes) : List Bytes :=
  if _h : n = 0 ∨ bs = [] then [] else bs.take n :: chunks n (bs.drop n)
termination_by bs.length
decreasing_by
  have : 0 < bs.length := List.length_pos_iff.2 (fun e => _h (Or.inr e))
  simp only [List.length_drop]; omega

end Bytes

end DeviceSessions
