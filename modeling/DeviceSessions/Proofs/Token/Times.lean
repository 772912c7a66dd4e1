import DeviceSessions.Proofs.Time
import DeviceSessions.Proofs.Token.RoundTrip

/-!
# The times of a token

The times that a token tells are any words of 64 bits. Where there is an instant for such a word, it
is used, and otherwise the earliest one. The time that is left is the difference from the clock as long
as that is a word too; what is too far back comes around as the most distant future.
-/

namespace DeviceSessions

/-! ### Instants of seconds -/

/-- The instant that is used for a number of seconds: the start of that second, or, where there is
no such instant, the earliest of all. -/
structure Instant.StandsFor (t : Instant) (secs : Int) : Prop where
  exact : ∀ u : Instant, u.secs = secs → u.nanos = 0 → t = u
  beyond : (¬∃ u : Instant, u.secs = secs) → ∀ u : Instant, ¬u < t

namespace Instant

theorem of?_start (t : Instant) (start : t.nanos = 0) : of? t.secs 0 = some t := by
  unfold of?
  rw [dif_pos ⟨⟨t.earliest_le, t.le_latest⟩, by decide, .inl (by decide)⟩]
  cases t
  cases start
  rfl

theorem secs_of_of? {secs : Int} {nanos : Nat} {t : Instant} (made : of? secs nanos = some t) :
    t.secs = secs := by
  unfold of? at made
  split at made
  · cases made
    rfl
  · cases made

theorem standsFor_ofSecs (secs : Int) : (ofSecs secs).StandsFor secs := by
  constructor
  · rintro u rfl start
    rw [ofSecs, of?_start u start, Option.getD_some]
  · intro none u
    have absent : of? secs 0 = Option.none := by
      cases made : of? secs 0 with
      | none => rfl
      | some t => exact absurd ⟨t, secs_of_of? made⟩ none
    rw [ofSecs, absent, Option.getD_none]
    exact not_lt_earliest u

end Instant

/-! ### What is left of a token's time -/

namespace Claims

variable {c : Claims} {now : Instant}

/-- The seconds from the clock to the end of a token, over the integers. -/
def untilEnd (c : Claims) (now : Instant) : Int := c.expires.toInt - now.secs

/-- The seconds to the end of a token are a word of 64 bits with a sign. -/
def Fits (c : Claims) (now : Instant) : Prop :=
  Int64.minValue.toInt ≤ c.untilEnd now ∧ c.untilEnd now ≤ Int64.maxValue.toInt

theorem toInt_minValue : Int64.minValue.toInt = -9223372036854775808 := rfl

theorem toInt_maxValue : Int64.maxValue.toInt = 9223372036854775807 := rfl

theorem natCast_size : (UInt64.size : Int) = 18446744073709551616 := rfl

/-- No word is further from the clock than the years of the clock reach. -/
theorem untilEnd_bounds (c : Claims) (now : Instant) :
    -9223372036854775808 - 8210266876799 ≤ c.untilEnd now ∧
      c.untilEnd now ≤ 9223372036854775807 + 8334601228800 := by
  have low := c.expires.le_toInt
  have high := c.expires.toInt_lt
  have early := now.earliest_le
  have late := now.le_latest
  unfold untilEnd
  omega

theorem remaining_eq (c : Claims) (now : Instant) :
    c.remaining now = ((c.untilEnd now).bmod UInt64.size).toNat := by
  rw [remaining, Int64.toInt_sub, toInt_ofInt_secs, untilEnd]

theorem remaining_of_fits (fits : c.Fits now) : (c.remaining now : Int) = max 0 (c.untilEnd now) := by
  unfold Fits at fits
  rw [toInt_minValue, toInt_maxValue] at fits
  rw [remaining_eq, Int.bmod_def, natCast_size]
  split <;> omega

theorem remaining_of_below (below : c.untilEnd now < Int64.minValue.toInt) :
    (c.remaining now : Int) = c.untilEnd now + UInt64.size := by
  have bounds := c.untilEnd_bounds now
  rw [toInt_minValue] at below
  rw [remaining_eq, Int.bmod_def, natCast_size]
  split <;> omega

theorem remaining_of_above (above : Int64.maxValue.toInt < c.untilEnd now) :
    c.remaining now = 0 := by
  have bounds := c.untilEnd_bounds now
  rw [toInt_maxValue] at above
  rw [remaining_eq, Int.bmod_def, natCast_size]
  split <;> omega

/-- The time that is left is exact where the difference is a word, and nowhere else. -/
theorem remaining_exact_iff (c : Claims) (now : Instant) :
    (c.remaining now : Int) = max 0 (c.untilEnd now) ↔ c.Fits now := by
  have bounds := c.untilEnd_bounds now
  constructor
  · intro exact
    constructor
    · by_contra below
      rw [Int.not_le] at below
      rw [remaining_of_below below, natCast_size] at exact
      rw [toInt_minValue] at below
      omega
    · by_contra above
      rw [Int.not_le] at above
      rw [remaining_of_above above] at exact
      rw [toInt_maxValue] at above
      omega
  · exact remaining_of_fits

/-- A token with time left has not ended, if an instant stands for its end. -/
theorem lt_expiresAt {ends : Instant} (same : ends.secs = c.expires.toInt)
    (left : 0 < c.remaining now) : now < c.expiresAt := by
  have early := now.earliest_le
  have late := now.le_latest
  have endEarly := ends.earliest_le
  have endLate := ends.le_latest
  have fits : c.Fits now := by
    unfold Fits untilEnd
    rw [toInt_minValue, toInt_maxValue, ← same]
    omega
  have exact := remaining_of_fits fits
  unfold untilEnd at exact
  have secs : c.expiresAt.secs = c.expires.toInt := by
    rw [expiresAt, ← same, Instant.secs_ofSecs]
  rw [Instant.lt_iff, secs]
  omega

/-- What the times of a token come to at a reading of the clock. -/
structure Timed (c : Claims) (now : Instant) : Prop where
  read : ofJson? c.toJson = some c
  ends : c.expiresAt.StandsFor c.expires.toInt
  starts : c.issuedAt.StandsFor c.issued.toInt
  caller : (AuthContext.ofClaims c).expiresAt.StandsFor c.expires.toInt
  exact : (c.remaining now : Int) = max 0 (c.untilEnd now) ↔ c.Fits now
  below : c.untilEnd now < Int64.minValue.toInt → (c.remaining now : Int) = c.untilEnd now + UInt64.size
  above : Int64.maxValue.toInt < c.untilEnd now → c.remaining now = 0
  open_ : (∃ t : Instant, t.secs = c.expires.toInt) → 0 < c.remaining now → now < c.expiresAt

/-- Whatever words a token's times are, their instants are those of these seconds or the earliest of
all, and a token with time left has not ended if there is an instant for its end. The time that is left
is exact where the difference from the clock is a word; outside it comes around, so that a token that
ended before the first difference has the most time left, and one that ends behind the last has none. -/
theorem times_of_claims (c : Claims) (now : Instant) : c.Timed now := by
  constructor
  · exact c.ofJson?_toJson
  · exact Instant.standsFor_ofSecs _
  · exact Instant.standsFor_ofSecs _
  · exact Instant.standsFor_ofSecs _
  · exact c.remaining_exact_iff now
  · exact remaining_of_below
  · exact remaining_of_above
  · rintro ⟨ends, same⟩ left
    exact lt_expiresAt same left

/-- Claims whose end is the first of all words. -/
def ancientClaims : Claims :=
  ⟨⟨List.replicate 16 11, rfl⟩, "sessionkeeper", 0, Int64.minValue, ⟨List.replicate 16 12, rfl⟩,
    .access⟩

/-- They ended before there was any instant, and have nearly three hundred thousand million years
left. -/
theorem ancientClaims_remaining :
    ancientClaims.remaining (.ofSecs 1750000000) = 9223372035104775808 ∧
      max 0 (ancientClaims.untilEnd (.ofSecs 1750000000)) = 0 ∧
      ancientClaims.expiresAt = .earliest := by
  refine ⟨?_, ?_, ?_⟩
  · decide
  · decide
  · decide

end Claims

end DeviceSessions
