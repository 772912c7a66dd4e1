import DeviceSessions.Base64

/-!
# Base64 round trip

What is written in either alphabet is read back, and nothing else is read.
-/

namespace DeviceSessions.Base64

/-- The digits of an alphabet can be told apart. -/
def Alphabet.Sound (a : Alphabet) : Prop := ∀ n < 64, a.value? (a.digit n) = some n

theorem standard_sound : standard.Sound := by
  unfold Alphabet.Sound
  decide

theorem urlSafe_sound : urlSafe.Sound := by
  unfold Alphabet.Sound
  decide

theorem decodeList?_encodeList {a : Alphabet} (sound : a.Sound) (bs : Bytes) :
    decodeList? a (encodeList a bs) = some bs := by
  fun_induction encodeList a bs with
  | case1 => rfl
  | case2 x =>
    have small := x.toNat_lt
    have p := sound (x.toNat / 4) (by omega)
    have q := sound (x.toNat % 4 * 16) (by omega)
    have byte : x.toNat / 4 * 4 + x.toNat % 4 * 16 / 16 = x.toNat := by omega
    have spare : x.toNat % 4 * 16 % 16 = 0 := by omega
    simp only [decodeList?, p, q, byte, spare, Option.bind_eq_bind, Option.bind_some, if_true,
      UInt8.ofNat_toNat]
  | case3 x y =>
    have small := x.toNat_lt
    have small' := y.toNat_lt
    have p := sound (x.toNat / 4) (by omega)
    have q := sound (x.toNat % 4 * 16 + y.toNat / 16) (by omega)
    have r := sound (y.toNat % 16 * 4) (by omega)
    have first : x.toNat / 4 * 4 + (x.toNat % 4 * 16 + y.toNat / 16) / 16 = x.toNat := by omega
    have second : (x.toNat % 4 * 16 + y.toNat / 16) % 16 * 16 + y.toNat % 16 * 4 / 4 = y.toNat := by
      omega
    have spare : y.toNat % 16 * 4 % 4 = 0 := by omega
    simp only [decodeList?, p, q, r, first, second, spare, Option.bind_eq_bind, Option.bind_some,
      if_true, UInt8.ofNat_toNat]
  | case4 x y z rest ih =>
    have small := x.toNat_lt
    have small' := y.toNat_lt
    have small'' := z.toNat_lt
    have p := sound (x.toNat / 4) (by omega)
    have q := sound (x.toNat % 4 * 16 + y.toNat / 16) (by omega)
    have r := sound (y.toNat % 16 * 4 + z.toNat / 64) (by omega)
    have s := sound (z.toNat % 64) (by omega)
    have first : x.toNat / 4 * 4 + (x.toNat % 4 * 16 + y.toNat / 16) / 16 = x.toNat := by omega
    have second : (x.toNat % 4 * 16 + y.toNat / 16) % 16 * 16 +
        (y.toNat % 16 * 4 + z.toNat / 64) / 4 = y.toNat := by omega
    have third : (y.toNat % 16 * 4 + z.toNat / 64) % 4 * 64 + z.toNat % 64 = z.toNat := by omega
    simp only [decodeList?, p, q, r, s, first, second, third, ih, Option.bind_eq_bind,
      Option.bind_some, UInt8.ofNat_toNat]
    rfl

/-- Reading gives back what was written. -/
theorem decode?_encode {a : Alphabet} (sound : a.Sound) (bs : Bytes) :
    decode? a (encode a bs) = some bs := by
  unfold decode? encode
  rw [String.toList_ofList]
  exact decodeList?_encodeList sound bs

theorem digit_ne {a : Alphabet} {c : Char} (sound : a.Sound) (foreign : a.value? c = none) {n : Nat}
    (h : n < 64) : a.digit n ≠ c := by
  intro same
  have known := sound n h
  rw [same, foreign] at known
  cases known

/-- What is written has no foreign characters. -/
theorem not_mem_encodeList {a : Alphabet} {c : Char} (sound : a.Sound) (foreign : a.value? c = none)
    (bs : Bytes) : c ∉ encodeList a bs := by
  have ne : ∀ n < 64, c ≠ a.digit n := fun n h => (digit_ne sound foreign h).symm
  fun_induction encodeList a bs with
  | case1 => simp
  | case2 x =>
    have small := x.toNat_lt
    simp only [List.mem_cons, List.not_mem_nil, or_false, not_or]
    exact ⟨ne _ (by omega), ne _ (by omega)⟩
  | case3 x y =>
    have small := x.toNat_lt
    have small' := y.toNat_lt
    simp only [List.mem_cons, List.not_mem_nil, or_false, not_or]
    exact ⟨ne _ (by omega), ne _ (by omega), ne _ (by omega)⟩
  | case4 x y z rest ih =>
    have small := x.toNat_lt
    have small' := y.toNat_lt
    have small'' := z.toNat_lt
    simp only [List.mem_cons, not_or]
    exact ⟨ne _ (by omega), ne _ (by omega), ne _ (by omega), ne _ (by omega), ih⟩

theorem length_encodeList (a : Alphabet) (bs : Bytes) :
    (encodeList a bs).length = (4 * bs.length + 2) / 3 := by
  fun_induction encodeList a bs with
  | case1 => rfl
  | case2 x => simp
  | case3 x y => simp
  | case4 x y z rest ih =>
    simp only [List.length_cons, ih]
    omega

/-! ### What is read was written -/

theorem digit_value? {a : Alphabet} {c : Char} {n : Nat} (h : a.value? c = some n) :
    n < 64 ∧ a.digit n = c := by
  have bounds : ∀ low high : Char, low ≤ c ∧ c ≤ high → low.toNat ≤ c.toNat ∧ c.toNat ≤ high.toNat :=
    fun low high between => between
  have back := Char.ofNat_toNat c
  unfold Alphabet.value? at h
  unfold Alphabet.digit
  split at h
  · rename_i upper
    cases h
    obtain ⟨least, most⟩ : 65 ≤ c.toNat ∧ c.toNat ≤ 90 := bounds 'A' 'Z' upper
    have same : 65 + (c.toNat - 65) = c.toNat := by omega
    rw [if_pos (by omega), same]
    exact ⟨by omega, back⟩
  split at h
  · rename_i lower
    cases h
    obtain ⟨least, most⟩ : 97 ≤ c.toNat ∧ c.toNat ≤ 122 := bounds 'a' 'z' lower
    have same : 71 + (c.toNat - 71) = c.toNat := by omega
    rw [if_neg (by omega), if_pos (by omega), same]
    exact ⟨by omega, back⟩
  split at h
  · rename_i decimal
    cases h
    obtain ⟨least, most⟩ : 48 ≤ c.toNat ∧ c.toNat ≤ 57 := bounds '0' '9' decimal
    have same : c.toNat + 4 - 4 = c.toNat := by omega
    rw [if_neg (by omega), if_neg (by omega), if_pos (by omega), same]
    exact ⟨by omega, back⟩
  split at h
  · rename_i plus
    cases h
    exact ⟨by decide, plus.symm⟩
  split at h
  · rename_i slash
    cases h
    exact ⟨by decide, slash.symm⟩
  · cases h

theorem toNat_byte {n : Nat} (small : n < 256) : (UInt8.ofNat n).toNat = n :=
  UInt8.toNat_ofNat_of_lt' small

theorem encodeList_decodeList? {a : Alphabet} {cs : List Char} {bs : Bytes}
    (h : decodeList? a cs = some bs) : encodeList a bs = cs := by
  fun_induction decodeList? a cs generalizing bs with
  | case1 =>
    cases h
    rfl
  | case2 => cases h
  | case3 c d =>
    obtain ⟨p, first, h⟩ := Option.bind_eq_some_iff.mp h
    obtain ⟨q, second, h⟩ := Option.bind_eq_some_iff.mp h
    obtain ⟨p_lt, digit⟩ := digit_value? first
    obtain ⟨q_lt, digit'⟩ := digit_value? second
    split at h
    · cases h
      have byte := toNat_byte (show p * 4 + q / 16 < 256 by omega)
      have high : (p * 4 + q / 16) / 4 = p := by omega
      have low : (p * 4 + q / 16) % 4 * 16 = q := by omega
      rw [encodeList, byte, high, low, digit, digit']
    · cases h
  | case4 c d e =>
    obtain ⟨p, first, h⟩ := Option.bind_eq_some_iff.mp h
    obtain ⟨q, second, h⟩ := Option.bind_eq_some_iff.mp h
    obtain ⟨r, third, h⟩ := Option.bind_eq_some_iff.mp h
    obtain ⟨p_lt, digit⟩ := digit_value? first
    obtain ⟨q_lt, digit'⟩ := digit_value? second
    obtain ⟨r_lt, digit''⟩ := digit_value? third
    split at h
    · cases h
      have byte := toNat_byte (show p * 4 + q / 16 < 256 by omega)
      have byte' := toNat_byte (show q % 16 * 16 + r / 4 < 256 by omega)
      have high : (p * 4 + q / 16) / 4 = p := by omega
      have mid : (p * 4 + q / 16) % 4 * 16 + (q % 16 * 16 + r / 4) / 16 = q := by omega
      have low : (q % 16 * 16 + r / 4) % 16 * 4 = r := by omega
      rw [encodeList, byte, byte', high, mid, low, digit, digit', digit'']
    · cases h
  | case5 c d e f rest ih =>
    obtain ⟨p, first, h⟩ := Option.bind_eq_some_iff.mp h
    obtain ⟨q, second, h⟩ := Option.bind_eq_some_iff.mp h
    obtain ⟨r, third, h⟩ := Option.bind_eq_some_iff.mp h
    obtain ⟨s, fourth, h⟩ := Option.bind_eq_some_iff.mp h
    obtain ⟨tail, behind, h⟩ := Option.bind_eq_some_iff.mp h
    obtain ⟨p_lt, digit⟩ := digit_value? first
    obtain ⟨q_lt, digit'⟩ := digit_value? second
    obtain ⟨r_lt, digit''⟩ := digit_value? third
    obtain ⟨s_lt, last⟩ := digit_value? fourth
    cases h
    have byte := toNat_byte (show p * 4 + q / 16 < 256 by omega)
    have byte' := toNat_byte (show q % 16 * 16 + r / 4 < 256 by omega)
    have byte'' := toNat_byte (show r % 4 * 64 + s < 256 by omega)
    have one : (p * 4 + q / 16) / 4 = p := by omega
    have two : (p * 4 + q / 16) % 4 * 16 + (q % 16 * 16 + r / 4) / 16 = q := by omega
    have three : (q % 16 * 16 + r / 4) % 16 * 4 + (r % 4 * 64 + s) / 64 = r := by omega
    have four : (r % 4 * 64 + s) % 64 = s := by omega
    rw [encodeList, byte, byte', byte'', one, two, three, four, digit, digit', digit'', last, ih behind]

/-- Only what was written is read. -/
theorem decode?_eq_some_iff {a : Alphabet} (sound : a.Sound) (text : String) (bs : Bytes) :
    decode? a text = some bs ↔ text = encode a bs := by
  constructor
  · intro h
    have back := congrArg String.ofList (encodeList_decodeList? h)
    rw [String.ofList_toList] at back
    exact back.symm
  · rintro rfl
    exact decode?_encode sound bs

end DeviceSessions.Base64
