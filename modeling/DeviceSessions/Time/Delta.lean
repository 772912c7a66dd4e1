/-!
# Lengths of time in words

A length of time is a signed word of seconds, small enough that its milliseconds are one too. Where a
step to it would leave the word there is none.
-/

namespace DeviceSessions.Delta

/-- The product of two words, where it is one. -/
def product? (a b : UInt64) : Option UInt64 :=
  if BitVec.umulOverflow a.toBitVec b.toBitVec then none else some (a * b)

/-- The product of two signed words, where it is one. -/
def signedProduct? (a b : Int64) : Option Int64 :=
  if BitVec.smulOverflow a.toBitVec b.toBitVec then none else some (a * b)

/-- A word as a signed one, where it is one. -/
def signed? (n : UInt64) : Option Int64 :=
  if n ≤ Int64.maxValue.toUInt64 then some n.toInt64 else none

/-- The most seconds. -/
def longest : Int64 := Int64.maxValue / 1000

/-- The seconds of `n` units of so many seconds. -/
def seconds? (unit : Int64) (n : UInt64) : Option Int64 := do
  let seconds ← signedProduct? (← signed? n) unit
  if -longest ≤ seconds ∧ seconds ≤ longest then some seconds else none

/-! ### What the steps come to -/

theorem toInt_longest : longest.toInt = 9223372036854775 := by decide

theorem toInt_neg_longest : (-longest).toInt = -9223372036854775 := by decide

theorem product?_eq_none_iff {a b : UInt64} : product? a b = none ↔ UInt64.size ≤ a.toNat * b.toNat := by
  unfold product? BitVec.umulOverflow
  simp

theorem product?_eq_some_iff {a b c : UInt64} :
    product? a b = some c ↔ c.toNat = a.toNat * b.toNat := by
  have bound := c.toNat_lt
  unfold product?
  split
  · rename_i beyond
    have large : 2 ^ 64 ≤ a.toNat * b.toNat := by simpa [BitVec.umulOverflow] using beyond
    constructor
    · rintro ⟨⟩
    · intro same
      omega
  · rename_i fits
    have exact : (a * b).toNat = a.toNat * b.toNat := BitVec.toNat_mul_of_not_umulOverflow fits
    rw [Option.some_inj, ← UInt64.toNat_inj, exact]
    exact eq_comm

theorem signedProduct?_eq_some_iff {a b c : Int64} :
    signedProduct? a b = some c ↔ c.toInt = a.toInt * b.toInt := by
  have low := c.le_toInt
  have high := c.toInt_lt
  unfold signedProduct?
  split
  · rename_i beyond
    have outside : 2 ^ 63 ≤ a.toInt * b.toInt ∨ a.toInt * b.toInt < -2 ^ 63 := by
      simpa [BitVec.smulOverflow] using beyond
    constructor
    · rintro ⟨⟩
    · intro same
      omega
  · rename_i fits
    have exact : (a * b).toInt = a.toInt * b.toInt := BitVec.toInt_mul_of_not_smulOverflow fits
    rw [Option.some_inj, ← Int64.toInt_inj, exact]
    exact eq_comm

theorem signed?_eq_some_iff {n : UInt64} {m : Int64} : signed? n = some m ↔ m.toInt = n.toNat := by
  have most : Int64.maxValue.toUInt64.toNat = 9223372036854775807 := by decide
  have high := m.toInt_lt
  unfold signed?
  split
  · rename_i fits
    rw [UInt64.le_iff_toNat_le, most] at fits
    have exact : n.toInt64.toInt = n.toNat :=
      BitVec.toInt_eq_toNat_of_lt (show 2 * n.toBitVec.toNat < 2 ^ 64 by
        have same : n.toBitVec.toNat = n.toNat := rfl
        omega)
    rw [Option.some_inj, ← Int64.toInt_inj, exact]
    exact eq_comm
  · rename_i beyond
    rw [UInt64.le_iff_toNat_le, most] at beyond
    constructor
    · rintro ⟨⟩
    · intro same
      omega

theorem seconds?_eq_some_iff {unit seconds : Int64} (positive : 0 < unit.toInt) {n : UInt64} :
    seconds? unit n = some seconds ↔
      seconds.toInt = n.toNat * unit.toInt ∧ n.toNat * unit.toInt ≤ 9223372036854775 := by
  have low := Int.mul_le_mul_of_nonneg_left (Int.add_one_le_of_lt positive)
    (Int.natCast_nonneg n.toNat)
  rw [Int.zero_add, Int.mul_one] at low
  unfold seconds?
  simp only [Option.bind_eq_bind, Option.bind_eq_some_iff]
  constructor
  · rintro ⟨m, word, total, product, within⟩
    split at within
    · rename_i short
      cases within
      rw [signed?_eq_some_iff] at word
      rw [signedProduct?_eq_some_iff, word] at product
      have high := Int64.le_iff_toInt_le.mp short.2
      rw [toInt_longest] at high
      exact ⟨product, by omega⟩
    · cases within
  · rintro ⟨exact, short⟩
    have word : (Int64.ofInt n.toNat).toInt = n.toNat :=
      Int64.toInt_ofInt_of_le (by omega) (by omega)
    have within : -longest ≤ seconds ∧ seconds ≤ longest := by
      rw [Int64.le_iff_toInt_le, Int64.le_iff_toInt_le, toInt_longest, toInt_neg_longest, exact]
      omega
    refine ⟨_, signed?_eq_some_iff.mpr word, seconds, ?_, if_pos within⟩
    rw [signedProduct?_eq_some_iff, word]
    exact exact

theorem seconds?_eq_none_iff {unit : Int64} (positive : 0 < unit.toInt) {n : UInt64} :
    seconds? unit n = none ↔ 9223372036854775 < n.toNat * unit.toInt := by
  have low : 0 ≤ n.toNat * unit.toInt := Int.mul_nonneg (Int.natCast_nonneg _) (Int.le_of_lt positive)
  constructor
  · intro absent
    refine Int.lt_of_not_ge fun short => ?_
    have exact : (Int64.ofInt (n.toNat * unit.toInt)).toInt = n.toNat * unit.toInt :=
      Int64.toInt_ofInt_of_le (by omega) (by omega)
    have found := (seconds?_eq_some_iff positive).mpr ⟨exact, short⟩
    rw [absent] at found
    cases found
  · intro long
    cases found : seconds? unit n with
    | none => rfl
    | some seconds =>
      have short := ((seconds?_eq_some_iff positive).mp found).2
      omega

end DeviceSessions.Delta
