import DeviceSessions.Digest.Blake2b

/-!
# Argon2

The memory-hard password hash of RFC 9106 in its three variants, and with the older version 1.0,
in which later passes overwrite memory instead of mixing into it. The lanes are filled one after
the other, which gives the same memory as filling them side by side.
-/

namespace DeviceSessions.Digest

/-- Which blocks are looked up independently of the password. -/
inductive Argon2Variant where
  | d
  | i
  | id
  deriving DecidableEq, Repr

namespace Argon2Variant

/-- The number of the variant in the first hash and in address blocks. -/
def number : Argon2Variant → Nat
  | d => 0
  | i => 1
  | id => 2

end Argon2Variant

/-- What one run of the function takes, the password and the salt apart. `memory` is in KiB. -/
structure Argon2Input where
  variant : Argon2Variant
  version : Nat
  memory : Nat
  passes : Nat
  lanes : Nat
  outputSize : Nat
  data : Bytes
  deriving DecidableEq, Repr

namespace Argon2

/-- One KiB of memory: eight rows of sixteen words. -/
structure Block where
  r0 : Words16
  r1 : Words16
  r2 : Words16
  r3 : Words16
  r4 : Words16
  r5 : Words16
  r6 : Words16
  r7 : Words16
  deriving DecidableEq, Repr

namespace Block

/-- The block of zeros. -/
def zero : Block := ⟨.zero, .zero, .zero, .zero, .zero, .zero, .zero, .zero⟩

/-- Row by row exclusive or. -/
def xor (x y : Block) : Block :=
  ⟨x.r0.xor y.r0, x.r1.xor y.r1, x.r2.xor y.r2, x.r3.xor y.r3,
   x.r4.xor y.r4, x.r5.xor y.r5, x.r6.xor y.r6, x.r7.xor y.r7⟩

/-- Applies `f` to each row. -/
@[inline] def map (f : Words16 → Words16) (x : Block) : Block :=
  ⟨f x.r0, f x.r1, f x.r2, f x.r3, f x.r4, f x.r5, f x.r6, f x.r7⟩

/-- Exchanges rows and columns of the eight by eight matrix of pairs of words. -/
def transpose (x : Block) : Block :=
  let ⟨a, b, c, d, e, f, g, h⟩ := x
  ⟨⟨a.w0, a.w1, b.w0, b.w1, c.w0, c.w1, d.w0, d.w1, e.w0, e.w1, f.w0, f.w1, g.w0, g.w1, h.w0, h.w1⟩,
   ⟨a.w2, a.w3, b.w2, b.w3, c.w2, c.w3, d.w2, d.w3, e.w2, e.w3, f.w2, f.w3, g.w2, g.w3, h.w2, h.w3⟩,
   ⟨a.w4, a.w5, b.w4, b.w5, c.w4, c.w5, d.w4, d.w5, e.w4, e.w5, f.w4, f.w5, g.w4, g.w5, h.w4, h.w5⟩,
   ⟨a.w6, a.w7, b.w6, b.w7, c.w6, c.w7, d.w6, d.w7, e.w6, e.w7, f.w6, f.w7, g.w6, g.w7, h.w6, h.w7⟩,
   ⟨a.w8, a.w9, b.w8, b.w9, c.w8, c.w9, d.w8, d.w9, e.w8, e.w9, f.w8, f.w9, g.w8, g.w9, h.w8, h.w9⟩,
   ⟨a.w10, a.w11, b.w10, b.w11, c.w10, c.w11, d.w10, d.w11, e.w10, e.w11, f.w10, f.w11, g.w10, g.w11,
    h.w10, h.w11⟩,
   ⟨a.w12, a.w13, b.w12, b.w13, c.w12, c.w13, d.w12, d.w13, e.w12, e.w13, f.w12, f.w13, g.w12, g.w13,
    h.w12, h.w13⟩,
   ⟨a.w14, a.w15, b.w14, b.w15, c.w14, c.w15, d.w14, d.w15, e.w14, e.w15, f.w14, f.w15, g.w14, g.w15,
    h.w14, h.w15⟩⟩

/-- The rows in order. -/
def rows (x : Block) : List Words16 := [x.r0, x.r1, x.r2, x.r3, x.r4, x.r5, x.r6, x.r7]

/-- The word at `i`, zero from 128 on. -/
def word (x : Block) (i : Nat) : UInt64 := ((x.rows[i / 16]?).getD .zero).get (i % 16)

/-- Reads 1024 bytes. -/
def ofBytes (bs : Bytes) : Block :=
  let row := fun i => Words16.ofBytes ((bs.drop (128 * i)).take 128)
  ⟨row 0, row 1, row 2, row 3, row 4, row 5, row 6, row 7⟩

/-- The 1024 bytes of the block. -/
def toBytes (x : Block) : Bytes := x.rows.flatMap Words16.toBytes

end Block

/-- Addition with twice the product of the low halves. -/
@[inline] def mulAdd (x y : UInt64) : UInt64 :=
  x + y + 2 * ((x &&& 0xffffffff) * (y &&& 0xffffffff))

/-- Mixes four words. -/
@[inline] def quarter (a b c d : UInt64) : UInt64 × UInt64 × UInt64 × UInt64 :=
  let a := mulAdd a b
  let d := rotr64 (d ^^^ a) 32
  let c := mulAdd c d
  let b := rotr64 (b ^^^ c) 24
  let a := mulAdd a b
  let d := rotr64 (d ^^^ a) 16
  let c := mulAdd c d
  let b := rotr64 (b ^^^ c) 63
  (a, b, c, d)

/-- The permutation of sixteen words: BLAKE2b's round without a message. -/
def permute (v : Words16) : Words16 :=
  let (a0, b0, c0, d0) := quarter v.w0 v.w4 v.w8 v.w12
  let (a1, b1, c1, d1) := quarter v.w1 v.w5 v.w9 v.w13
  let (a2, b2, c2, d2) := quarter v.w2 v.w6 v.w10 v.w14
  let (a3, b3, c3, d3) := quarter v.w3 v.w7 v.w11 v.w15
  let (a0, b1, c2, d3) := quarter a0 b1 c2 d3
  let (a1, b2, c3, d0) := quarter a1 b2 c3 d0
  let (a2, b3, c0, d1) := quarter a2 b3 c0 d1
  let (a3, b0, c1, d2) := quarter a3 b0 c1 d2
  ⟨a0, a1, a2, a3, b0, b1, b2, b3, c0, c1, c2, c3, d0, d1, d2, d3⟩

/-- The compression of two blocks: rows, then columns, of their exclusive or. -/
def mix (x y : Block) : Block :=
  let r := x.xor y
  r.xor (((r.map permute).transpose.map permute).transpose)

/-- Continues the long hash: each 64-byte digest gives 32 bytes until at most 64 are missing. -/
def stretch (last : Bytes) : Nat → Nat → Bytes
  | 0, _ => []
  | fuel + 1, missing =>
    if missing ≤ 64 then blake2b missing last
    else
      let next := blake2b 64 last
      next.take 32 ++ stretch next fuel (missing - 32)

/-- The hash of any length that fills the first blocks and makes the output. -/
def longHash (size : Nat) (message : Bytes) : Bytes :=
  let input := Bytes.littleEndian 4 size ++ message
  if size ≤ 64 then blake2b size input
  else
    let first := blake2b 64 input
    first.take 32 ++ stretch first size (size - 32)

/-- A text with its length in front. -/
def counted (bs : Bytes) : Bytes := Bytes.littleEndian 4 bs.length ++ bs

/-- The first digest, of every input of the function; there is no secret. -/
def seed (p : Argon2Input) (password salt : Bytes) : Bytes :=
  blake2b 64 ([p.lanes, p.outputSize, p.memory, p.passes, p.version, p.variant.number].flatMap
    (Bytes.littleEndian 4) ++ counted password ++ counted salt ++ counted [] ++ counted p.data)

/-- A place in the order of filling. -/
structure Place where
  pass : Nat
  lane : Nat
  slice : Nat
  index : Nat

/-- The block of pseudo-random words for `count` times 128 places of a segment. -/
def addressBlock (p : Argon2Input) (segment : Nat) (place : Place) (count : Nat) : Block :=
  let row : Words16 :=
    .ofList ([place.pass, place.lane, place.slice, 4 * p.lanes * segment, p.passes, p.variant.number,
      count].map UInt64.ofNat)
  mix .zero (mix .zero { Block.zero with r0 := row })

/-- Whether the place takes its pseudo-random word from address blocks. -/
def independent (p : Argon2Input) (place : Place) : Bool :=
  match p.variant with
  | .d => false
  | .i => true
  | .id => place.pass == 0 && place.slice < 2

/-- The lane and column of the block that `random` picks for a place. -/
def reference (p : Argon2Input) (segment : Nat) (place : Place) (random : UInt64) : Nat × Nat :=
  let column := 4 * segment
  let lane := if place.pass = 0 ∧ place.slice = 0 then place.lane else (random >>> 32).toNat % p.lanes
  let same := lane = place.lane
  let finished := if place.pass = 0 then place.slice * segment else column - segment
  let area :=
    if same then finished + place.index - 1
    else if place.index = 0 then finished - 1 else finished
  let x := (random &&& 0xffffffff).toNat
  let y := x * x / 4294967296
  let back := area * y / 4294967296
  let start := if place.pass = 0 ∨ place.slice = 3 then 0 else (place.slice + 1) * segment
  (lane, (start + (area - 1 - back)) % column)

/-- Fills the place, with its pseudo-random word from `addresses` where it is independent. -/
def fillPlace (p : Argon2Input) (segment : Nat) (addresses : Block) (place : Place)
    (memory : Array Block) : Array Block :=
  let column := 4 * segment
  let here := place.slice * segment + place.index
  let base := place.lane * column
  let previous := memory.getD (base + (here + column - 1) % column) .zero
  let random :=
    if independent p place then addresses.word (place.index % 128) else previous.r0.w0
  let (lane, col) := reference p segment place random
  let mixed := mix previous (memory.getD (lane * column + col) .zero)
  let old := memory.getD (base + here) .zero
  memory.setIfInBounds (base + here)
    (if place.pass = 0 ∨ p.version = 0x10 then mixed else mixed.xor old)

/-- Fills the `todo` places of a segment from `index` on. -/
def fillFrom (p : Argon2Input) (segment pass slice lane : Nat) :
    (todo index : Nat) → Block → Array Block → Array Block
  | 0, _, _, memory => memory
  | todo + 1, index, addresses, memory =>
    let place : Place := ⟨pass, lane, slice, index⟩
    let addresses :=
      if independent p place ∧ index % 128 = 0 then addressBlock p segment place (index / 128 + 1)
      else addresses
    fillFrom p segment pass slice lane todo (index + 1) addresses
      (fillPlace p segment addresses place memory)

/-- Fills one segment; the first two blocks of a lane are there from the start. -/
def fillSegment (p : Argon2Input) (segment pass slice lane : Nat) (memory : Array Block) :
    Array Block :=
  let first := if pass = 0 ∧ slice = 0 then 2 else 0
  let addresses := if first = 2 then addressBlock p segment ⟨pass, lane, slice, 0⟩ 1 else .zero
  fillFrom p segment pass slice lane (segment - first) first addresses memory

/-- The memory before the first pass: two blocks at the start of each lane. -/
def start (p : Argon2Input) (segment : Nat) (digest : Bytes) : Array Block :=
  (List.range p.lanes).foldl (fun memory lane =>
    (List.range 2).foldl (fun memory i =>
      memory.setIfInBounds (lane * (4 * segment) + i)
        (.ofBytes (longHash 1024
          (digest ++ Bytes.littleEndian 4 i ++ Bytes.littleEndian 4 lane)))) memory)
    (Array.replicate (4 * p.lanes * segment) .zero)

/-- All passes over all slices of all lanes. -/
def fill (p : Argon2Input) (segment : Nat) (memory : Array Block) : Array Block :=
  (List.range p.passes).foldl (fun memory pass =>
    (List.range 4).foldl (fun memory slice =>
      (List.range p.lanes).foldl (fun memory lane =>
        fillSegment p segment pass slice lane memory) memory) memory) memory

/-- The exclusive or of the last blocks of the lanes. -/
def lastBlock (p : Argon2Input) (segment : Nat) (memory : Array Block) : Block :=
  (List.range p.lanes).foldl (fun x lane =>
    x.xor (memory.getD (lane * (4 * segment) + (4 * segment - 1)) .zero)) .zero

end Argon2

open Argon2 in
/-- Argon2: the output for a password under a salt. -/
def argon2 (p : Argon2Input) (password salt : Bytes) : Bytes :=
  let segment := p.memory / (4 * p.lanes)
  longHash p.outputSize
    (lastBlock p segment (fill p segment (start p segment (seed p password salt)))).toBytes

end DeviceSessions.Digest
