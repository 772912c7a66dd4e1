import DeviceSessions.Digest.Words16

/-!
# BLAKE2b

The unkeyed digest of RFC 7693 with an output of 1 to 64 bytes.
-/

namespace DeviceSessions.Digest.Blake2b

/-- The initial chaining value, before the parameters are taken in. -/
def iv : Words16 :=
  ⟨0x6a09e667f3bcc908, 0xbb67ae8584caa73b, 0x3c6ef372fe94f82b, 0xa54ff53a5f1d36f1,
   0x510e527fade682d1, 0x9b05688c2b3e6c1f, 0x1f83d9abfb41bd6b, 0x5be0cd19137e2179,
   0, 0, 0, 0, 0, 0, 0, 0⟩

/-- The order in which each of the ten rounds takes the words of the message. -/
def schedule : List (List Nat) := [
  [0, 1, 2, 3, 4, 5, 6, 7, 8, 9, 10, 11, 12, 13, 14, 15],
  [14, 10, 4, 8, 9, 15, 13, 6, 1, 12, 0, 2, 11, 7, 5, 3],
  [11, 8, 12, 0, 5, 2, 15, 13, 10, 14, 3, 6, 7, 1, 9, 4],
  [7, 9, 3, 1, 13, 12, 11, 14, 2, 6, 5, 10, 4, 0, 15, 8],
  [9, 0, 5, 7, 2, 4, 10, 15, 14, 1, 11, 12, 6, 8, 3, 13],
  [2, 12, 6, 10, 0, 11, 8, 3, 4, 13, 7, 5, 15, 14, 1, 9],
  [12, 5, 1, 15, 14, 13, 4, 10, 0, 7, 6, 3, 9, 2, 8, 11],
  [13, 11, 7, 14, 12, 1, 3, 9, 5, 0, 15, 4, 8, 6, 2, 10],
  [6, 15, 14, 9, 11, 3, 0, 8, 12, 2, 13, 7, 1, 4, 10, 5],
  [10, 2, 8, 4, 7, 6, 1, 5, 15, 11, 9, 14, 3, 12, 13, 0]]

/-- The twelve rounds: the first two orders come again at the end. -/
def rounds : List (List Nat) := schedule ++ schedule.take 2

/-- Mixes four words with two words of the message. -/
@[inline] def quarter (a b c d x y : UInt64) : UInt64 × UInt64 × UInt64 × UInt64 :=
  let a := a + b + x
  let d := rotr64 (d ^^^ a) 32
  let c := c + d
  let b := rotr64 (b ^^^ c) 24
  let a := a + b + y
  let d := rotr64 (d ^^^ a) 16
  let c := c + d
  let b := rotr64 (b ^^^ c) 63
  (a, b, c, d)

/-- One round: the four columns, then the four diagonals; `m` is the message in the round's order. -/
def round (v m : Words16) : Words16 :=
  let (a0, b0, c0, d0) := quarter v.w0 v.w4 v.w8 v.w12 m.w0 m.w1
  let (a1, b1, c1, d1) := quarter v.w1 v.w5 v.w9 v.w13 m.w2 m.w3
  let (a2, b2, c2, d2) := quarter v.w2 v.w6 v.w10 v.w14 m.w4 m.w5
  let (a3, b3, c3, d3) := quarter v.w3 v.w7 v.w11 v.w15 m.w6 m.w7
  let (a0, b1, c2, d3) := quarter a0 b1 c2 d3 m.w8 m.w9
  let (a1, b2, c3, d0) := quarter a1 b2 c3 d0 m.w10 m.w11
  let (a2, b3, c0, d1) := quarter a2 b3 c0 d1 m.w12 m.w13
  let (a3, b0, c1, d2) := quarter a3 b0 c1 d2 m.w14 m.w15
  ⟨a0, a1, a2, a3, b0, b1, b2, b3, c0, c1, c2, c3, d0, d1, d2, d3⟩

/-- Takes one block into the chaining value `h` (its first eight words); `taken` bytes have been
read, the block's own included, and `last` marks the final block. -/
def compress (h m : Words16) (taken : Nat) (last : Bool) : Words16 :=
  let v : Words16 :=
    { h with
      w8 := iv.w0, w9 := iv.w1, w10 := iv.w2, w11 := iv.w3
      w12 := iv.w4 ^^^ UInt64.ofNat taken
      w13 := iv.w5
      w14 := if last then ~~~ iv.w6 else iv.w6
      w15 := iv.w7 }
  let r := rounds.foldl (fun v order => round v (Words16.ofList (order.map m.get))) v
  ⟨h.w0 ^^^ r.w0 ^^^ r.w8, h.w1 ^^^ r.w1 ^^^ r.w9, h.w2 ^^^ r.w2 ^^^ r.w10,
   h.w3 ^^^ r.w3 ^^^ r.w11, h.w4 ^^^ r.w4 ^^^ r.w12, h.w5 ^^^ r.w5 ^^^ r.w13,
   h.w6 ^^^ r.w6 ^^^ r.w14, h.w7 ^^^ r.w7 ^^^ r.w15, 0, 0, 0, 0, 0, 0, 0, 0⟩

/-- Takes in the blocks; an empty message is one block of zeros. -/
def absorb (h : Words16) (taken : Nat) : List Bytes → Words16
  | [] => compress h .zero taken true
  | [block] => compress h (.ofBytes block) (taken + block.length) true
  | block :: rest => absorb (compress h (.ofBytes block) (taken + 128) false) (taken + 128) rest

end DeviceSessions.Digest.Blake2b

namespace DeviceSessions.Digest

open Blake2b in
/-- BLAKE2b with an output of `size` bytes, for `0 < size ≤ 64`. -/
def blake2b (size : Nat) (message : Bytes) : Bytes :=
  let h := { iv with w0 := iv.w0 ^^^ 0x01010000 ^^^ UInt64.ofNat size }
  (absorb h 0 (Bytes.chunks 128 message)).toBytes.take size

end DeviceSessions.Digest
