import DeviceSessions.Decimal.Binary64
import DeviceSessions.Json.Basic

/-!
# JSON numbers as binary floating-point numbers

Numbers that are no 64-bit integers are taken in two rounded steps: the leading digits that fit 64
bits become a binary number, which is then multiplied with or divided by a power of ten. The result
may differ from the nearest one in its last digit. Numbers beyond the range are no numbers.
-/

namespace DeviceSessions.Json.Number

/-- How many digits at the end have to go so that the rest fits 64 bits. -/
def surplus (digits : Nat) : Nat :=
  let n := (Nat.toDigits 10 digits).length - 20
  if digits / Nat.pow 10 n < UInt64.size then n else n + 1

/-- `x` times ten to the power `power`, in steps of 308 powers; no result beyond the range. After
three steps down nothing but zero is left. -/
def scale? : Nat → Binary64 → Int → Option Binary64
  | 0, _, _ => some (.finite false 0 Binary64.leastExponent)
  | steps + 1, x, power =>
    if power.natAbs ≤ 308 then
      match x.timesPowerOfTen power with
      | .infinite _ => none
      | y => some y
    else if x = .finite false 0 Binary64.leastExponent then some x
    else if 0 < power then none
    else scale? steps (x.timesPowerOfTen (-308)) (power + 308)

/-- The same magnitude with a sign. -/
def withSign (negative : Bool) : Binary64 → Binary64
  | .finite _ m q => .finite negative m q
  | x => x

/-- The number in binary, if it is in range. -/
def float? (n : Number) : Option Binary64 :=
  let k := surplus n.digits
  (scale? 3 (.nearest false (n.digits / Nat.pow 10 k) 1) (n.scale + k)).map (withSign n.negative)

end DeviceSessions.Json.Number
