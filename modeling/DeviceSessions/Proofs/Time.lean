import DeviceSessions.Time.Instant

/-!
# The order of instants, and instants of whole microseconds
-/

namespace DeviceSessions.Instant

theorem lt_iff {s t : Instant} : s < t ↔ s.secs < t.secs ∨ s.secs = t.secs ∧ s.nanos < t.nanos :=
  Iff.rfl

theorem lt_irrefl (t : Instant) : ¬t < t := by
  rw [lt_iff]
  omega

theorem lt_trans {s t u : Instant} (first : s < t) (second : t < u) : s < u := by
  rw [lt_iff] at *
  omega

theorem lt_asymm {s t : Instant} (before : s < t) : ¬t < s := fun behind =>
  lt_irrefl s (lt_trans before behind)

theorem eq_of_not_lt {s t : Instant} (first : ¬t < s) (second : ¬s < t) : s = t := by
  rw [lt_iff] at first second
  obtain ⟨secs, nanos, _, _, _, _⟩ := s
  obtain ⟨secs', nanos', _, _, _, _⟩ := t
  dsimp only at first second
  obtain rfl : secs = secs' := by omega
  obtain rfl : nanos = nanos' := by omega
  rfl

theorem lt_of_lt_of_not_lt {s t u : Instant} (first : s < t) (second : ¬u < t) : s < u := by
  rw [lt_iff] at *
  omega

theorem lt_of_not_lt_of_lt {s t u : Instant} (first : ¬t < s) (second : t < u) : s < u := by
  rw [lt_iff] at *
  omega

theorem not_lt_trans {s t u : Instant} (first : ¬t < s) (second : ¬u < t) : ¬u < s := by
  rw [lt_iff] at *
  omega

theorem secs_le_of_lt {s t : Instant} (h : s < t) : s.secs ≤ t.secs := by
  rw [lt_iff] at h
  omega

theorem secs_le_of_not_lt {s t : Instant} (h : ¬t < s) : s.secs ≤ t.secs := by
  rw [lt_iff] at h
  omega

theorem not_lt_earliest (t : Instant) : ¬t < earliest := by
  have bound := t.earliest_le
  rw [lt_iff]
  change ¬(t.secs < -8334601228800 ∨ t.secs = -8334601228800 ∧ t.nanos < 0)
  omega

theorem secs_ofSecs (t : Instant) : (ofSecs t.secs).secs = t.secs := by
  unfold ofSecs of?
  rw [dif_pos ⟨⟨t.earliest_le, t.le_latest⟩, by decide, Or.inl (by decide)⟩]
  rfl

/-! ### Whole microseconds -/

/-- A whole number of microseconds from the start of 1970, as a database keeps it; no leap second is
one. -/
def IsMicros (t : Instant) : Prop := ∃ n : Int, ofNanos? (n * 1000) = some t

theorem toNanos_of_ofNanos? {n : Int} {t : Instant} (made : ofNanos? n = some t) :
    t.toNanos = n := by
  unfold ofNanos? of? at made
  split at made
  · rw [← Option.some.inj made]
    change n / 1000000000 * 1000000000 + ((n % 1000000000).toNat : Int) = n
    omega
  · cases made

theorem IsMicros.floorMicros {t : Instant} (micros : t.IsMicros) : t.floorMicros = t := by
  obtain ⟨n, made⟩ := micros
  have same : t.toNanos / 1000 * 1000 = n * 1000 := by
    rw [toNanos_of_ofNanos? made]
    omega
  rw [Instant.floorMicros, same, made]
  rfl

theorem IsMicros.truncateMicros {t : Instant} (micros : t.IsMicros) : t.truncateMicros = t := by
  obtain ⟨n, made⟩ := micros
  have whole : n * 1000 - nanosTo2000 = (n - 946684800000000) * 1000 := by
    rw [nanosTo2000]
    omega
  have same : Int.tdiv (t.toNanos - nanosTo2000) 1000 * 1000 + nanosTo2000 = n * 1000 := by
    rw [toNanos_of_ofNanos? made, whole, Int.mul_tdiv_cancel _ (by decide), nanosTo2000]
    omega
  rw [Instant.truncateMicros, same, made]
  rfl

end DeviceSessions.Instant
