import DeviceSessions.Time.Calendar

/-!
# Instants

A point in time: whole seconds since the start of 1970, and nanoseconds. The years reach from
-262143 to 262142. A leap second keeps the number of the second before it, with nanoseconds from
a thousand million on.
-/

namespace DeviceSessions

/-- A point in time. -/
structure Instant where
  secs : Int
  nanos : Nat
  earliest_le : -8334601228800 ≤ secs
  le_latest : secs ≤ 8210266876799
  nanos_lt : nanos < 2000000000
  leap : nanos < 1000000000 ∨ secs % 60 = 59
  deriving DecidableEq, Repr

namespace Instant

/-- The instant of these seconds and nanoseconds, where there is one. -/
def of? (secs : Int) (nanos : Nat) : Option Instant :=
  if h : (-8334601228800 ≤ secs ∧ secs ≤ 8210266876799) ∧
      nanos < 2000000000 ∧ (nanos < 1000000000 ∨ secs % 60 = 59) then
    some ⟨secs, nanos, h.1.1, h.1.2, h.2.1, h.2.2⟩
  else none

/-- The start of the first representable year. -/
def earliest : Instant := ⟨-8334601228800, 0, by decide, by decide, by decide, by decide⟩

/-- The start of 1970. -/
def epoch : Instant := ⟨0, 0, by decide, by decide, by decide, by decide⟩

/-- The start of a second; the earliest instant stands in for seconds out of range. -/
def ofSecs (secs : Int) : Instant := (of? secs 0).getD earliest

/-- The instant `n` nanoseconds after the start of 1970. -/
def ofNanos? (n : Int) : Option Instant := of? (n / 1000000000) (n % 1000000000).toNat

/-- Nanoseconds since the start of 1970. -/
def toNanos (t : Instant) : Int := t.secs * 1000000000 + t.nanos

/-- The instant whole seconds later, with the same part of a second. -/
def addSecs? (t : Instant) (n : Int) : Option Instant := of? (t.secs + n) t.nanos

instance : LT Instant := ⟨fun s t => s.secs < t.secs ∨ s.secs = t.secs ∧ s.nanos < t.nanos⟩

instance (s t : Instant) : Decidable (s < t) :=
  inferInstanceAs (Decidable (s.secs < t.secs ∨ s.secs = t.secs ∧ s.nanos < t.nanos))

/-- The instant cut to whole microseconds, downwards. -/
def floorMicros (t : Instant) : Instant :=
  (ofNanos? (t.toNanos / 1000 * 1000)).getD t

/-- Nanoseconds from the start of 1970 to that of 2000. -/
def nanosTo2000 : Int := 946684800000000000

/-- The instant cut to whole microseconds, towards the start of 2000. -/
def truncateMicros (t : Instant) : Instant :=
  (ofNanos? (Int.tdiv (t.toNanos - nanosTo2000) 1000 * 1000 + nanosTo2000)).getD t

/-- The date of the instant in UTC. -/
def date (t : Instant) : Date := Date.ofDays (t.secs / 86400)

/-- The second of the day, not counting a leap second. -/
def secondOfDay (t : Instant) : Nat := (t.secs % 86400).toNat

end Instant

end DeviceSessions
