import DeviceSessions.Proofs.Text
import DeviceSessions.Proofs.Time.Calendar
import DeviceSessions.Time.Rfc3339
import Mathlib.Data.Nat.Digits.Defs

/-!
# Date and time round trip

Every instant is read back from its text: years of any number of digits, fractions of any length,
and leap seconds.
-/

namespace DeviceSessions

theorem onward {α β : Type} {x : Option α} {a : α} {next : α → Option β} {out : Option β}
    (here : x = some a) (there : next a = out) : (x >>= next) = out := by
  rw [here]
  exact there

namespace Rfc3339

open Text

/-! ### Digits -/

theorem isBlank_of_isDigit {c : Char} (digit : isDigit c = true) : isBlank c = false := by
  simp only [isDigit, Bool.and_eq_true, decide_eq_true_eq] at digit
  have low : 48 ≤ c.toNat := digit.1
  have high : c.toNat ≤ 57 := digit.2
  simp only [isBlank, Bool.or_eq_false_iff, Bool.and_eq_false_iff, beq_eq_false_iff_ne,
    decide_eq_false_iff_not]
  omega

theorem dropBlank_cons {c : Char} (visible : isBlank c = false) (cs : List Char) :
    dropBlank (c :: cs) = c :: cs := by
  simp [dropBlank, List.dropWhile, visible]

theorem decimal_zeros (n : Nat) (ds : List Char) :
    decimal (List.replicate n '0' ++ ds) = decimal ds := by
  induction n with
  | zero => rfl
  | succ n ih =>
    rw [List.replicate_succ, List.cons_append, ← ih]
    rfl

theorem decimal_padded (width n : Nat) : decimal (padded width n) = n := by
  unfold padded
  rw [decimal_zeros, decimal_toDigits]

theorem isDigit_padded {width n : Nat} {c : Char} (member : c ∈ padded width n) :
    isDigit c = true := by
  rcases List.mem_append.mp member with zero | digit
  · rw [(List.mem_replicate.mp zero).2]
    rfl
  · exact isDigit_toDigits digit

theorem length_padded {width n : Nat} (positive : 0 < width) (fits : n < 10 ^ width) :
    (padded width n).length = width := by
  have := Nat.toDigits_length 10 n width positive fits
  unfold padded
  simp only [List.length_append, List.length_replicate]
  omega

theorem padded_cons (width n : Nat) : ∃ d ds, padded width n = d :: ds ∧ isDigit d = true := by
  cases digits : padded width n with
  | nil => exact absurd (List.append_eq_nil_iff.mp digits).2 Nat.toDigits_ne_nil
  | cons d ds => exact ⟨d, ds, rfl, isDigit_padded (digits ▸ List.mem_cons_self)⟩

theorem padded_ne_nil (width n : Nat) : padded width n ≠ [] := by
  obtain ⟨d, ds, cons, -⟩ := padded_cons width n
  simp [cons]

/-- What does not go on with a digit. -/
def EndsDigits (cs : List Char) : Prop := ∀ c ∈ cs.head?, isDigit c = false

theorem takeWhile_digits {ds rest : List Char} (digits : ∀ c ∈ ds, isDigit c = true)
    (ends : EndsDigits rest) : (ds ++ rest).takeWhile isDigit = ds := by
  rw [List.takeWhile_append_of_pos digits]
  cases rest with
  | nil => simp
  | cons c rest => simp [ends c rfl]

theorem takeWhile_take_digits {limit : Nat} {ds rest : List Char}
    (digits : ∀ c ∈ ds, isDigit c = true)
    (stops : ds.length = limit ∨ ds.length ≤ limit ∧ EndsDigits rest) :
    ((ds ++ rest).take limit).takeWhile isDigit = ds := by
  have fits : ds.length ≤ limit := stops.elim Nat.le_of_eq And.left
  rw [List.take_append, List.take_of_length_le fits]
  refine takeWhile_digits digits fun c first => ?_
  rcases stops with full | ⟨-, ends⟩
  · simp [full] at first
  · rw [List.head?_take] at first
    split at first
    · cases first
    · exact ends c first

/-- Digits are read up to the limit, or up to what is none. -/
theorem digits?_append {limit : Nat} {ds rest : List Char} (nonempty : ds ≠ [])
    (digits : ∀ c ∈ ds, isDigit c = true)
    (stops : ds.length = limit ∨ ds.length ≤ limit ∧ EndsDigits rest) :
    digits? limit (ds ++ rest) = some (decimal ds, rest) := by
  unfold digits?
  rw [takeWhile_take_digits digits stops]
  simp [nonempty]

/-! ### Parts of the date -/

theorem twoDigits_spec {n : Nat} (small : n < 100) :
    decimal (twoDigits n) = n ∧ ∀ c ∈ twoDigits n, isDigit c = true := by
  have all : ((List.range 100).all fun n => decimal (twoDigits n) == n && (twoDigits n).all isDigit) =
      true := by decide
  have here := List.all_eq_true.mp all n (List.mem_range.mpr small)
  rw [Bool.and_eq_true, beq_iff_eq, List.all_eq_true] at here
  exact here

theorem field?_twoDigits {n : Nat} (small : n < 100) (rest : List Char) :
    field? (twoDigits n ++ rest) = some (n, rest) := by
  obtain ⟨value, digits⟩ := twoDigits_spec small
  have visible : dropBlank (twoDigits n ++ rest) = twoDigits n ++ rest :=
    dropBlank_cons (isBlank_of_isDigit (digits _ List.mem_cons_self)) _
  have read : digits? 2 (twoDigits n ++ rest) = some (decimal (twoDigits n), rest) :=
    digits?_append (List.cons_ne_nil _ _) digits (Or.inl rfl)
  rw [field?, visible, read, value]

theorem mark?_cons {c : Char} (visible : isBlank c = false) (rest : List Char) :
    mark? c (c :: rest) = some rest := by
  simp [mark?, dropBlank_cons visible]

theorem year?_minus (cs : List Char) :
    year? ('-' :: cs) = (digits? cs.length cs).map fun (n, rest) => (-n, rest) := by
  rw [year?, dropBlank_cons (by decide)]
  rfl

theorem year?_plus (cs : List Char) :
    year? ('+' :: cs) = (digits? cs.length cs).map fun (n, rest) => (n, rest) := by
  rw [year?, dropBlank_cons (by decide)]
  rfl

theorem year?_digit {d : Char} (digit : isDigit d = true) (cs : List Char) :
    year? (d :: cs) = (digits? 4 (d :: cs)).map fun (n, rest) => (n, rest) := by
  rw [year?, dropBlank_cons (isBlank_of_isDigit digit)]
  split
  · rename_i same
    cases same
    exact absurd digit (by decide)
  · rename_i same
    cases same
    exact absurd digit (by decide)
  · rfl

/-- A year in four digits, or behind a sign. -/
theorem year?_yearText (year : Int) (rest : List Char) :
    year? (yearText year ++ '-' :: rest) = some (year, '-' :: rest) := by
  have ends : EndsDigits ('-' :: rest) := by simp [EndsDigits, isDigit]
  have behindSign : digits? (padded 4 year.natAbs ++ '-' :: rest).length
      (padded 4 year.natAbs ++ '-' :: rest) = some (year.natAbs, '-' :: rest) := by
    rw [digits?_append (padded_ne_nil 4 _) (fun c => isDigit_padded) (Or.inr ⟨by simp, ends⟩),
      decimal_padded]
  unfold yearText
  split
  · rename_i inside
    have read : digits? 4 (padded 4 year.toNat ++ '-' :: rest) = _ :=
      digits?_append (padded_ne_nil 4 _) (fun c => isDigit_padded)
        (Or.inl (length_padded (by decide) (by omega)))
    obtain ⟨d, ds, cons, digit⟩ := padded_cons 4 year.toNat
    rw [decimal_padded, cons, List.cons_append] at read
    have value : (year.toNat : Int) = year := Int.toNat_of_nonneg inside.1
    rw [cons, List.cons_append, year?_digit digit, read]
    simp only [Option.map_some, value]
  · split
    · have value : -(year.natAbs : Int) = year := by omega
      rw [List.cons_append, year?_minus, behindSign]
      simp only [Option.map_some, value]
    · have value : (year.natAbs : Int) = year := by omega
      rw [List.cons_append, year?_plus, behindSign]
      simp only [Option.map_some, value]

/-! ### Parts of the time -/

/-- A fraction in full groups of digits. -/
theorem fraction?_padded {width n : Nat} (positive : 0 < width) (atMost : width ≤ 9)
    (fits : n < 10 ^ width) {rest : List Char} (ends : EndsDigits rest) :
    fraction? ('.' :: padded width n ++ rest) = some (n * 10 ^ (9 - width), rest) := by
  have digits : ∀ c ∈ padded width n, isDigit c = true := fun c => isDigit_padded
  have length := length_padded positive fits
  have taken : ((padded width n ++ rest).take 9).takeWhile isDigit = padded width n :=
    takeWhile_take_digits digits (Or.inr ⟨by omega, ends⟩)
  have behind : rest.dropWhile isDigit = rest := by
    cases rest with
    | nil => rfl
    | cons c rest => simp [List.dropWhile, ends c rfl]
  simp only [List.cons_append, fraction?, taken]
  rw [List.drop_left, behind, decimal_padded, length]
  simp [padded_ne_nil]

theorem fraction?_fractionText {nanos : Nat} (small : nanos < 1000000000) {rest : List Char}
    (ends : EndsDigits rest) (noPoint : rest.head? ≠ some '.') :
    fraction? (fractionText nanos ++ rest) = some (nanos, rest) := by
  unfold fractionText
  split
  · rename_i zero
    rw [List.nil_append, zero]
    unfold fraction?
    split
    · exact absurd rfl noPoint
    · rfl
  split
  · rw [fraction?_padded (by decide) (by decide) (by omega) ends]
    congr 2
    omega
  split
  · rw [fraction?_padded (by decide) (by decide) (by omega) ends]
    congr 2
    omega
  · rw [fraction?_padded (by decide) (by decide) (by omega) ends]
    congr 2
    omega

/-- The date and the time of day of an instant make the instant. -/
theorem instant?_parts (t : Instant) :
    instant? t.date (t.secondOfDay / 3600) (t.secondOfDay / 60 % 60)
      (t.secondOfDay % 60 + if 1000000000 ≤ t.nanos then 1 else 0) (t.nanos % 1000000000) 0 =
        some t := by
  obtain ⟨early, late⟩ := t.date_year
  have small := t.nanos_lt
  have leap := t.leap
  have second : (t.secondOfDay : Int) = t.secs % 86400 := by
    unfold Instant.secondOfDay
    omega
  have days : t.date.toDays = t.secs / 86400 := Date.toDays_ofDays _
  have valid : t.date.isValid = true := Date.isValid_ofDays _
  have of (secs : Int) (nanos : Nat) (sameSecs : secs = t.secs) (sameNanos : nanos = t.nanos) :
      Instant.of? secs nanos = some t := by
    subst sameSecs sameNanos
    unfold Instant.of?
    rw [dif_pos ⟨⟨t.earliest_le, t.le_latest⟩, small, leap⟩]
  unfold instant?
  rw [if_pos ⟨valid, early, late, by omega, by omega, by split <;> omega, by decide⟩]
  refine of _ _ ?_ ?_
  · rw [days]
    split <;> split <;> omega
  · split <;> split at * <;> omega

/-- The parts of a text, one after the other. -/
theorem readList?_of_parts {cs c₁ c₂ c₃ c₄ c₅ c₆ c₇ c₈ c₉ c₁₀ c₁₁ : List Char} {year offset : Int}
    {month day hour minute second nanos : Nat} (y : year? cs = some (year, c₁))
    (mark₁ : mark? '-' c₁ = some c₂) (m : field? c₂ = some (month, c₃))
    (mark₂ : mark? '-' c₃ = some c₄) (d : field? c₄ = some (day, 'T' :: c₅))
    (h : field? c₅ = some (hour, c₆)) (mark₃ : mark? ':' c₆ = some c₇)
    (mi : field? c₇ = some (minute, c₈)) (mark₄ : mark? ':' c₈ = some c₉)
    (s : field? c₉ = some (second, c₁₀)) (f : fraction? c₁₀ = some (nanos, c₁₁))
    (o : offset? (dropBlank c₁₁) = some (offset, [])) :
    readList? cs = instant? ⟨year, month, day⟩ hour minute second nanos offset := by
  refine onward y (onward mark₁ (onward m (onward mark₂ (onward d ?_))))
  refine (if_pos (Or.inl rfl)).trans (onward rfl ?_)
  refine onward h (onward mark₃ (onward mi (onward mark₄ (onward s (onward f (onward o ?_))))))
  rfl

/-- Every instant is read back from its text. -/
theorem read?_write (t : Instant) : read? (write t) = some t := by
  have second : t.secondOfDay < 86400 := by
    unfold Instant.secondOfDay
    omega
  have month : t.date.month < 100 := (Date.ofDays_lt_100 _).1
  have day : t.date.day < 100 := (Date.ofDays_lt_100 _).2
  have dash : isBlank '-' = false := by decide
  have colon : isBlank ':' = false := by decide
  have fraction : fraction? (fractionText (t.nanos % 1000000000) ++ ['Z']) = _ :=
    fraction?_fractionText (by omega) (by simp [EndsDigits, isDigit]) (by decide)
  have offset : offset? (dropBlank ['Z']) = some (0, []) := by decide
  have text : (write t).toList = yearText t.date.year ++ '-' :: (twoDigits t.date.month ++
      '-' :: (twoDigits t.date.day ++ 'T' :: (twoDigits (t.secondOfDay / 3600) ++
        ':' :: (twoDigits (t.secondOfDay / 60 % 60) ++
          ':' :: (twoDigits (t.secondOfDay % 60 + if 1000000000 ≤ t.nanos then 1 else 0) ++
            (fractionText (t.nanos % 1000000000) ++ ['Z'])))))) := by
    simp only [write, String.toList_ofList, localText, dateText, clockText, List.append_assoc,
      List.cons_append, decide_eq_true_eq]
  rw [read?, text, readList?_of_parts (year?_yearText _ _) (mark?_cons dash _)
    (field?_twoDigits month _) (mark?_cons dash _) (field?_twoDigits day _)
    (field?_twoDigits (by omega) _) (mark?_cons colon _) (field?_twoDigits (by omega) _)
    (mark?_cons colon _) (field?_twoDigits (by split <;> omega) _) fraction offset]
  exact instant?_parts t

end Rfc3339

end DeviceSessions
