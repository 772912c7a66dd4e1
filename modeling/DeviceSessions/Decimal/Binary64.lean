import DeviceSessions.Text.Ascii

/-!
# Binary floating-point numbers

The numbers of the 64-bit binary format as exact values, `mantissa` times two to the power
`exponent`. Reading rounds to the nearest number, ties to an even mantissa. Writing takes the fewest
decimal digits that read back, and of those the nearest, halves upwards, without an exponent.
-/

namespace DeviceSessions

open Text

/-- A number of the 64-bit binary format. -/
inductive Binary64 where
  | finite (negative : Bool) (mantissa : Nat) (exponent : Int)
  | infinite (negative : Bool)
  | nan
  deriving DecidableEq, Repr

namespace Binary64

/-- The quotient rounded to the nearest integer, ties to even. -/
def roundEven (num den : Nat) : Nat :=
  let q := num / den
  let r := num % den
  if 2 * r < den then q
  else if den < 2 * r then q + 1
  else if q % 2 = 0 then q else q + 1

/-- `n` times `base` to a power, as numerator and denominator. -/
def scaled (n base : Nat) (power : Int) : Nat × Nat :=
  if 0 ≤ power then (n * base.pow power.toNat, 1) else (n, base.pow (-power).toNat)

/-- The largest power of two that is not above the positive quotient. -/
def log2Quotient (num den : Nat) : Int :=
  let guess : Int := (num.log2 : Int) - den.log2
  let (n, d) := scaled 1 2 guess
  if den * n ≤ num * d then guess else guess - 1

/-- The least exponent. -/
def leastExponent : Int := -1074

/-- The greatest exponent. -/
def greatestExponent : Int := 971

/-- The nearest number to a quotient of natural numbers, with a sign. -/
def nearest (negative : Bool) (num den : Nat) : Binary64 :=
  if num = 0 then finite negative 0 leastExponent
  else
    let q := max leastExponent (log2Quotient num den - 52)
    let (n, d) := scaled num 2 (-q)
    let m := roundEven n (den * d)
    let (m, q) := if m = Nat.pow 2 53 then (Nat.pow 2 52, q + 1) else (m, q)
    if greatestExponent < q then infinite negative else finite negative m q

/-- The nearest number to `digits` times ten to the power `scale`. The two outer cases are far
beyond the range, and keep the powers of ten small. -/
def ofDecimal (negative : Bool) (digits : Nat) (scale : Int) : Binary64 :=
  let size : Int := (Nat.toDigits 10 digits).length
  if digits = 0 ∨ size + scale < -330 then finite negative 0 leastExponent
  else if 310 < size + scale then infinite negative
  else
    let (num, den) := scaled digits 10 scale
    nearest negative num den

/-- The magnitude of a finite number as numerator and denominator. -/
def quotient (mantissa : Nat) (exponent : Int) : Nat × Nat := scaled mantissa 2 exponent

/-- The largest power of ten that is not above the positive quotient. -/
def log10Quotient (num den : Nat) : Int :=
  if den ≤ num then (Nat.toDigits 10 (num / den)).length - 1
  else -((Nat.toDigits 10 ((den + num - 1) / num - 1)).length : Int)

/-- Of the decimals with `n` digits that read as this number, the nearest to it, or the upper one
of two that are as near. -/
def ofDigits? (mantissa : Nat) (exponent : Int) (n : Nat) : Option (Nat × Int) :=
  let (num, den) := quotient mantissa exponent
  let scale := log10Quotient num den - n + 1
  let (p, q) := scaled 1 10 scale
  let below := num * q / (den * p)
  let hits := fun d => ofDecimal false d scale == finite false mantissa exponent
  let excess := num * q - below * (den * p)
  if hits below && (!hits (below + 1) || 2 * excess < den * p) then some (below, scale)
  else if hits (below + 1) then some (below + 1, scale)
  else none

/-- The shortest decimal that reads as this number. -/
def shortest (mantissa : Nat) (exponent : Int) : Nat × Int :=
  (((List.range 17).findSome? fun i => ofDigits? mantissa exponent (i + 1))).getD (0, 0)

/-- `digits` times ten to the power `scale`, without an exponent and without zeros at the end of a
fraction. -/
def positional (digits : Nat) (scale : Int) : List Char :=
  let ds := Nat.toDigits 10 digits
  if 0 ≤ scale then ds ++ List.replicate scale.toNat '0'
  else
    let places := (-scale).toNat
    let ds := List.replicate (places + 1 - ds.length) '0' ++ ds
    let whole := ds.take (ds.length - places)
    let fraction := ((ds.drop (ds.length - places)).reverse.dropWhile (· == '0')).reverse
    if fraction.isEmpty then whole else whole ++ '.' :: fraction

/-- The text of a number. -/
def text : Binary64 → String
  | nan => "NaN"
  | infinite negative => if negative then "-inf" else "inf"
  | finite negative m q =>
    let magnitude :=
      if m = 0 then ['0']
      else
        let (digits, scale) := shortest m q
        positional digits scale
    String.ofList (if negative then '-' :: magnitude else magnitude)

/-- The nearest natural number below `limit`, halves upwards; numbers out of range go to the near
end of it, and what is no number to zero. -/
def toNatBelow (limit : Nat) : Binary64 → Nat
  | nan => 0
  | infinite negative => if negative then 0 else limit - 1
  | finite true _ _ => 0
  | finite false m q =>
    let (num, den) := quotient m q
    min (limit - 1) ((2 * num + den) / (2 * den))

/-- The product or the quotient of a number with a power of ten that is itself rounded first. -/
def timesPowerOfTen (x : Binary64) (power : Int) : Binary64 :=
  match x, ofDecimal false 1 power.natAbs with
  | finite negative m q, finite _ m' q' =>
    let (a, b) := quotient m q
    let (c, d) := quotient m' q'
    if 0 ≤ power then nearest negative (a * c) (b * d) else nearest negative (a * d) (b * c)
  | x, _ => x

/-- The words for numbers that are not finite. -/
def ofWord? (negative : Bool) (word : List Char) : Option Binary64 :=
  let word := String.ofList (word.map asciiLower)
  if word = "inf" ∨ word = "infinity" then some (infinite negative)
  else if word = "nan" then some nan
  else none

/-- The power of ten behind a mantissa: nothing, or an `e` with a signed number. -/
def exponent? : List Char → Option Int
  | [] => some 0
  | c :: rest =>
    if c = 'e' ∨ c = 'E' then
      let (negative, ds) :=
        match rest with
        | '-' :: ds => (true, ds)
        | '+' :: ds => (false, ds)
        | ds => (false, ds)
      if ds.isEmpty || !ds.all isDigit then none
      else some (if negative then -(decimal ds : Int) else decimal ds)
    else none

/-- Reads a number without its sign: digits with a point among, before or behind them. -/
def readUnsigned? (negative : Bool) (cs : List Char) : Option Binary64 :=
  match ofWord? negative cs with
  | some x => some x
  | none => do
    let whole := cs.takeWhile isDigit
    let rest := cs.drop whole.length
    let (fraction, rest) :=
      match rest with
      | '.' :: rest =>
        let ds := rest.takeWhile isDigit
        (ds, rest.drop ds.length)
      | rest => ([], rest)
    if whole.isEmpty && fraction.isEmpty then none
    else
      let power ← exponent? rest
      return ofDecimal negative (decimal (whole ++ fraction)) (power - fraction.length)

/-- Reads a number. -/
def read? : List Char → Option Binary64
  | '-' :: cs => readUnsigned? true cs
  | '+' :: cs => readUnsigned? false cs
  | cs => readUnsigned? false cs

end Binary64

end DeviceSessions
