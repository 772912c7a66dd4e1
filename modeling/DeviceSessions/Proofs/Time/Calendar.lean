import DeviceSessions.Time.Instant

/-!
# Laws of the calendar

Every day number has one date, which the calendar has, and which has that day number. The years of
the representable instants lie between two bounds.
-/

namespace DeviceSessions

namespace Calendar

/-! ### Years -/

theorem daysBeforeYear_eq (year : Int) :
    daysBeforeYear year =
      365 * (year - 1) + (year - 1) / 4 - (year - 1) / 100 + (year - 1) / 400 := rfl

theorem daysBeforeYear_succ (year : Int) :
    daysBeforeYear (year + 1) = daysBeforeYear year + if isLeap year then 366 else 365 := by
  simp only [daysBeforeYear_eq, isLeap, Bool.and_eq_true, Bool.or_eq_true, beq_iff_eq, bne_iff_ne]
  omega

theorem daysBeforeYear_le {a b : Int} (le : a ≤ b) : daysBeforeYear a ≤ daysBeforeYear b := by
  simp only [daysBeforeYear_eq]
  omega

/-- A day lies in its year. The guess is off by one at most, as 400 years have 146097 days. -/
theorem yearOf_spec (n : Int) :
    daysBeforeYear (yearOf n) ≤ n ∧ n < daysBeforeYear (yearOf n + 1) := by
  have before : daysBeforeYear (400 * n / 146097 + 1 - 1) ≤ n := by
    simp only [daysBeforeYear_eq]
    omega
  have after : n < daysBeforeYear (400 * n / 146097 + 1 + 1 + 1) := by
    simp only [daysBeforeYear_eq]
    omega
  unfold yearOf
  dsimp only
  split
  · rename_i early
    refine ⟨before, ?_⟩
    rwa [Int.sub_add_cancel]
  · rename_i reached
    split
    · rename_i late
      exact ⟨late, after⟩
    · rename_i inside
      exact ⟨Int.not_lt.mp reached, Int.not_le.mp inside⟩

/-- The years between the first and the last days. -/
theorem yearOf_between {first last n : Int} (early : daysBeforeYear first ≤ n)
    (late : n < daysBeforeYear (last + 1)) : first ≤ yearOf n ∧ yearOf n ≤ last := by
  obtain ⟨reached, inside⟩ := yearOf_spec n
  refine ⟨Int.not_lt.mp fun before => ?_, Int.not_lt.mp fun after => ?_⟩
  · have := daysBeforeYear_le (show yearOf n + 1 ≤ first by omega)
    omega
  · have := daysBeforeYear_le (show last + 1 ≤ yearOf n by omega)
    omega

/-! ### Months -/

theorem sum_monthLengths (year : Int) :
    ((monthLengths year).foldr (· + ·) 0 : Nat) = if isLeap year then 366 else 365 := by
  unfold monthLengths
  split <;> rfl

/-- Going through the months ends in one of them, on one of its days, having passed the rest. -/
theorem monthDay_spec {lengths : List Nat} {n : Nat} (inside : n < lengths.foldr (· + ·) 0)
    (first : Nat) :
    ∃ k length, lengths[k]? = some length ∧ (monthDay first lengths n).1 = first + k ∧
      1 ≤ (monthDay first lengths n).2 ∧ (monthDay first lengths n).2 ≤ length ∧
      (lengths.take k).foldr (· + ·) 0 + (monthDay first lengths n).2 = n + 1 := by
  induction lengths generalizing first n with
  | nil => exact absurd inside (Nat.not_lt_zero n)
  | cons length rest ih =>
    rw [List.foldr_cons] at inside
    by_cases here : n < length
    · have today : monthDay first (length :: rest) n = (first, n + 1) := by
        rw [monthDay, if_pos here]
      rw [today]
      exact ⟨0, length, rfl, rfl, Nat.succ_pos n, here, Nat.zero_add _⟩
    · obtain ⟨k, other, found, month, positive, atMost, days⟩ :=
        ih (show n - length < rest.foldr (· + ·) 0 by omega) (first + 1)
      rw [monthDay, if_neg here]
      refine ⟨k + 1, other, by rwa [List.getElem?_cons_succ], by rw [month]; omega, positive,
        atMost, ?_⟩
      rw [List.take_succ_cons, List.foldr_cons]
      omega

end Calendar

namespace Date

open Calendar

theorem year_ofDays (n : Int) : (ofDays n).year = yearOf (n + unixDay) := rfl

/-- What the month and the day of a date are. -/
theorem ofDays_spec (n : Int) :
    ∃ k length, (monthLengths (ofDays n).year)[k]? = some length ∧ (ofDays n).month = 1 + k ∧
      1 ≤ (ofDays n).day ∧ (ofDays n).day ≤ length ∧
      ((((monthLengths (ofDays n).year).take k).foldr (· + ·) 0 : Nat) : Int) + (ofDays n).day =
        n + unixDay - daysBeforeYear (ofDays n).year + 1 := by
  obtain ⟨reached, inside⟩ := yearOf_spec (n + unixDay)
  rw [daysBeforeYear_succ] at inside
  have ofYear : (n + unixDay - daysBeforeYear (yearOf (n + unixDay))).toNat <
      (monthLengths (yearOf (n + unixDay))).foldr (· + ·) 0 := by
    rw [sum_monthLengths]
    by_cases leap : isLeap (yearOf (n + unixDay)) = true
    · rw [if_pos leap] at inside ⊢
      omega
    · rw [if_neg leap] at inside ⊢
      omega
  obtain ⟨k, length, found, month, positive, atMost, days⟩ := monthDay_spec ofYear 1
  refine ⟨k, length, found, month, positive, atMost, ?_⟩
  have := congrArg Int.ofNat days
  rw [year_ofDays, show (ofDays n).day = (monthDay 1 (monthLengths (yearOf (n + unixDay)))
    (n + unixDay - daysBeforeYear (yearOf (n + unixDay))).toNat).2 from rfl]
  omega

theorem isValid_ofDays (n : Int) : (ofDays n).isValid = true := by
  obtain ⟨k, length, found, month, positive, atMost, -⟩ := ofDays_spec n
  have index : (ofDays n).month - 1 = k := by omega
  simp only [isValid, index, found, Option.getD_some, Bool.and_eq_true, decide_eq_true_eq]
  omega

theorem toDays_ofDays (n : Int) : (ofDays n).toDays = n := by
  obtain ⟨k, length, -, month, -, -, days⟩ := ofDays_spec n
  have index : (ofDays n).month - 1 = k := by omega
  unfold toDays
  rw [index]
  dsimp only
  omega

/-- The month of a date, and its day, have two digits at most. -/
theorem ofDays_lt_100 (n : Int) : (ofDays n).month < 100 ∧ (ofDays n).day < 100 := by
  obtain ⟨k, length, found, month, -, atMost, -⟩ := ofDays_spec n
  obtain ⟨bound, here⟩ := List.getElem?_eq_some_iff.mp found
  have months : k < 12 := bound
  have days : ∀ l ∈ monthLengths (ofDays n).year, l < 100 := by
    unfold monthLengths
    split <;> decide
  have := days length (here ▸ List.getElem_mem bound)
  omega

end Date

/-- The years of the instants. -/
theorem Instant.date_year (t : Instant) : -262143 ≤ t.date.year ∧ t.date.year ≤ 262142 := by
  have early := t.earliest_le
  have late := t.le_latest
  refine Calendar.yearOf_between ?_ ?_
  · rw [show Calendar.daysBeforeYear (-262143) = -95746130 from rfl]
    unfold Calendar.unixDay
    omega
  · rw [show Calendar.daysBeforeYear (262142 + 1) = 95745399 from rfl]
    unfold Calendar.unixDay
    omega

end DeviceSessions
