import DeviceSessions.Bytes

/-!
# Sixteen words

Sixteen 64-bit words in named fields: the state that BLAKE2b mixes, a message block of it, and a
row of an Argon2 block. Named fields keep the words unboxed.
-/

namespace DeviceSessions.Digest

/-- Sixteen 64-bit words. -/
structure Words16 where
  w0 : UInt64
  w1 : UInt64
  w2 : UInt64
  w3 : UInt64
  w4 : UInt64
  w5 : UInt64
  w6 : UInt64
  w7 : UInt64
  w8 : UInt64
  w9 : UInt64
  w10 : UInt64
  w11 : UInt64
  w12 : UInt64
  w13 : UInt64
  w14 : UInt64
  w15 : UInt64
  deriving DecidableEq, Repr

/-- Rotation to the right by `n` bits, for `0 < n < 64`. -/
@[inline] def rotr64 (x n : UInt64) : UInt64 := (x >>> n) ||| (x <<< (64 - n))

namespace Words16

/-- Sixteen zeros. -/
def zero : Words16 := ⟨0, 0, 0, 0, 0, 0, 0, 0, 0, 0, 0, 0, 0, 0, 0, 0⟩

/-- The words in order. -/
def toList (r : Words16) : List UInt64 :=
  [r.w0, r.w1, r.w2, r.w3, r.w4, r.w5, r.w6, r.w7,
   r.w8, r.w9, r.w10, r.w11, r.w12, r.w13, r.w14, r.w15]

/-- The first sixteen of `ws`, zeros where it is shorter. -/
def ofList (ws : List UInt64) : Words16 :=
  let a := ws.toArray
  let word := fun i => a.getD i 0
  ⟨word 0, word 1, word 2, word 3, word 4, word 5, word 6, word 7,
   word 8, word 9, word 10, word 11, word 12, word 13, word 14, word 15⟩

/-- The word at `i`, zero from sixteen on. -/
def get (r : Words16) : Nat → UInt64
  | 0 => r.w0 | 1 => r.w1 | 2 => r.w2 | 3 => r.w3
  | 4 => r.w4 | 5 => r.w5 | 6 => r.w6 | 7 => r.w7
  | 8 => r.w8 | 9 => r.w9 | 10 => r.w10 | 11 => r.w11
  | 12 => r.w12 | 13 => r.w13 | 14 => r.w14 | 15 => r.w15
  | _ => 0

/-- Reads little-endian words, zeros after the end of `bs`. -/
def ofBytes (bs : Bytes) : Words16 :=
  ofList ((Bytes.chunks 8 bs).map fun w => UInt64.ofNat (Bytes.toNatLE w))

/-- The 128 bytes of the words, each least significant byte first. -/
def toBytes (r : Words16) : Bytes := r.toList.flatMap fun w => Bytes.littleEndian 8 w.toNat

/-- Word by word exclusive or. -/
def xor (r s : Words16) : Words16 :=
  ⟨r.w0 ^^^ s.w0, r.w1 ^^^ s.w1, r.w2 ^^^ s.w2, r.w3 ^^^ s.w3,
   r.w4 ^^^ s.w4, r.w5 ^^^ s.w5, r.w6 ^^^ s.w6, r.w7 ^^^ s.w7,
   r.w8 ^^^ s.w8, r.w9 ^^^ s.w9, r.w10 ^^^ s.w10, r.w11 ^^^ s.w11,
   r.w12 ^^^ s.w12, r.w13 ^^^ s.w13, r.w14 ^^^ s.w14, r.w15 ^^^ s.w15⟩

end Words16

end DeviceSessions.Digest
