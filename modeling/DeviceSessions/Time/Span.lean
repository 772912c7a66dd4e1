/-!
# Spans

Lengths of time, and their form in diagnostics.
-/

namespace DeviceSessions

/-- A length of time in nanoseconds. -/
structure Span where
  nanos : Nat
  deriving DecidableEq, Repr

namespace Span

/-- Whole seconds. -/
def ofSecs (n : Nat) : Span := ⟨n * 1000000000⟩

/-- Whole milliseconds. -/
def ofMillis (n : Nat) : Span := ⟨n * 1000000⟩

instance : LE Span := ⟨fun s t => s.nanos ≤ t.nanos⟩

instance (s t : Span) : Decidable (s ≤ t) := inferInstanceAs (Decidable (s.nanos ≤ t.nanos))

/-- `n` in units of `10 ^ places`, without zeros at the end of the fraction. -/
def inUnits (n places : Nat) : String :=
  let unit := Nat.pow 10 places
  let whole := toString (n / unit)
  let ds := Nat.toDigits 10 (n % unit)
  let fraction := List.replicate (places - ds.length) '0' ++ ds
  let kept := (fraction.reverse.dropWhile (· == '0')).reverse
  if n % unit = 0 then whole else whole ++ "." ++ String.ofList kept

/-- The span in the largest unit that it fills: `5s`, `1.5s`, `250ms`, `0ns`. -/
def text (s : Span) : String :=
  if 1000000000 ≤ s.nanos then inUnits s.nanos 9 ++ "s"
  else if 1000000 ≤ s.nanos then inUnits s.nanos 6 ++ "ms"
  else if 1000 ≤ s.nanos then inUnits s.nanos 3 ++ "µs"
  else inUnits s.nanos 0 ++ "ns"

end Span

end DeviceSessions
