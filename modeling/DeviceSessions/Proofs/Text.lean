import DeviceSessions.Text.Ascii
import DeviceSessions.Text.Blank
import Mathlib.Data.List.Induction

/-!
# Texts

Laws of cutting, searching and trimming texts, of the letter case of ASCII, and of the digits of
natural numbers.
-/

namespace DeviceSessions.Text

/-! ### Cutting -/

theorem cutFirst_append {sep : Char} {front : List Char} (absent : sep ∉ front) (back : List Char) :
    cutFirst sep (front ++ sep :: back) = some (front, back) := by
  induction front with
  | nil => simp [cutFirst]
  | cons c front ih =>
    rw [List.mem_cons, not_or] at absent
    simp [cutFirst, Ne.symm absent.1, ih absent.2]

theorem cutLast_append {sep : Char} {back : List Char} (absent : sep ∉ back) (front : List Char) :
    cutLast sep (front ++ sep :: back) = some (front, back) := by
  have turned : (front ++ sep :: back).reverse = back.reverse ++ sep :: front.reverse := by simp
  unfold cutLast
  rw [turned, cutFirst_append (by rwa [List.mem_reverse])]
  simp

theorem cutFirst_some {sep : Char} {cs front back : List Char} (h : cutFirst sep cs = some (front, back)) :
    cs = front ++ sep :: back ∧ sep ∉ front := by
  induction cs generalizing front with
  | nil => cases h
  | cons c cs ih =>
    rw [cutFirst] at h
    split at h
    · rename_i here
      cases h
      exact ⟨by rw [here, List.nil_append], List.not_mem_nil⟩
    · rename_i other
      obtain ⟨⟨front, back⟩, cut, same⟩ := Option.map_eq_some_iff.mp h
      cases same
      obtain ⟨rfl, absent⟩ := ih cut
      refine ⟨rfl, ?_⟩
      rw [List.mem_cons, not_or]
      exact ⟨Ne.symm other, absent⟩

theorem cutLast_some {sep : Char} {cs front back : List Char} (h : cutLast sep cs = some (front, back)) :
    cs = front ++ sep :: back ∧ sep ∉ back := by
  obtain ⟨⟨back', front'⟩, cut, same⟩ := Option.map_eq_some_iff.mp h
  cases same
  obtain ⟨turned, absent⟩ := cutFirst_some cut
  refine ⟨?_, by rwa [List.mem_reverse]⟩
  rw [← List.reverse_reverse cs, turned]
  simp

theorem cutFirst_eq_none_iff {sep : Char} {cs : List Char} : cutFirst sep cs = none ↔ sep ∉ cs := by
  induction cs with
  | nil => simp [cutFirst]
  | cons c cs ih =>
    by_cases here : c = sep
    · simp [cutFirst, here]
    · simp [cutFirst, here, ih, Ne.symm here]

theorem cutLast_eq_none_iff {sep : Char} {cs : List Char} : cutLast sep cs = none ↔ sep ∉ cs := by
  rw [cutLast, Option.map_eq_none_iff, cutFirst_eq_none_iff, List.mem_reverse]

theorem splitAt_of_not_mem {sep : Char} {cs : List Char} (absent : sep ∉ cs) :
    splitAt sep cs = [cs] := by
  induction cs with
  | nil => rfl
  | cons c cs ih =>
    rw [List.mem_cons, not_or] at absent
    rw [splitAt, if_neg (Ne.symm absent.1), ih absent.2]

theorem splitAt_append {sep : Char} {front : List Char} (absent : sep ∉ front) (back : List Char) :
    splitAt sep (front ++ sep :: back) = front :: splitAt sep back := by
  induction front with
  | nil => simp [splitAt]
  | cons c front ih =>
    rw [List.mem_cons, not_or] at absent
    rw [List.cons_append, splitAt, if_neg (Ne.symm absent.1), ih absent.2]

theorem splitAt_ne_nil (sep : Char) (cs : List Char) : splitAt sep cs ≠ [] := by
  fun_induction splitAt sep cs with
  | case1 => exact List.cons_ne_nil _ _
  | case2 => exact List.cons_ne_nil _ _
  | case3 => exact List.cons_ne_nil _ _
  | case4 => exact List.cons_ne_nil _ _

/-- The pieces of a text with separators between them are the text. -/
theorem intercalate_splitAt (sep : Char) (cs : List Char) :
    [sep].intercalate (splitAt sep cs) = cs := by
  induction cs with
  | nil => rfl
  | cons c cs ih =>
    obtain ⟨piece, rest, pieces⟩ := List.exists_cons_of_ne_nil (splitAt_ne_nil sep cs)
    rw [splitAt, pieces]
    rw [pieces] at ih
    split
    · rename_i here
      rw [List.intercalate_cons_cons, ih, here]
      rfl
    · cases rest with
      | nil => simpa using ih
      | cons next rest =>
        rw [List.intercalate_cons_cons] at ih ⊢
        rw [List.cons_append, List.cons_append, ih]

theorem not_mem_of_mem_splitAt {sep : Char} {cs piece : List Char} (member : piece ∈ splitAt sep cs) :
    sep ∉ piece := by
  fun_induction splitAt sep cs generalizing piece with
  | case1 =>
    rw [List.mem_singleton.mp member]
    exact List.not_mem_nil
  | case2 cs ih =>
    obtain rfl | inside := List.mem_cons.mp member
    · exact List.not_mem_nil
    · exact ih inside
  | case3 c cs other pieces => exact absurd pieces (splitAt_ne_nil sep cs)
  | case4 c cs other first rest pieces ih =>
    rw [pieces] at ih
    obtain rfl | inside := List.mem_cons.mp member
    · rw [List.mem_cons, not_or]
      exact ⟨Ne.symm other, ih List.mem_cons_self⟩
    · exact ih (List.mem_cons_of_mem _ inside)

/-- Texts without the separator are the pieces of what they make with separators between them. -/
theorem splitAt_intercalate {sep : Char} {pieces : List (List Char)} (nonempty : pieces ≠ [])
    (absent : ∀ piece ∈ pieces, sep ∉ piece) : splitAt sep ([sep].intercalate pieces) = pieces := by
  induction pieces with
  | nil => exact absurd rfl nonempty
  | cons piece rest ih =>
    have first := absent piece List.mem_cons_self
    cases rest with
    | nil => rw [List.intercalate_singleton, splitAt_of_not_mem first]
    | cons next rest =>
      have others := ih (List.cons_ne_nil _ _) fun p member => absent p (List.mem_cons_of_mem _ member)
      rw [List.intercalate_cons_cons, List.append_assoc, List.singleton_append, splitAt_append first, others]

theorem splitAt_eq_iff {sep : Char} {cs : List Char} {pieces : List (List Char)} :
    splitAt sep cs = pieces ↔
      pieces ≠ [] ∧ (∀ piece ∈ pieces, sep ∉ piece) ∧ cs = [sep].intercalate pieces := by
  constructor
  · rintro rfl
    exact ⟨splitAt_ne_nil sep cs, fun _ member => not_mem_of_mem_splitAt member,
      (intercalate_splitAt sep cs).symm⟩
  · rintro ⟨nonempty, absent, rfl⟩
    exact splitAt_intercalate nonempty absent

/-! ### Cutting around a word -/

theorem cutWord_cons_of_other {word cs : List Char} {c : Char} (other : ¬ word <+: c :: cs) :
    cutWord word (c :: cs) = (cutWord word cs).map fun (front, back) => (c :: front, back) := by
  rw [cutWord, if_neg (by rwa [List.isPrefixOf_iff_prefix])]

/-- A text is cut behind a front without the word, unless the end of the front makes the word with
what follows it. -/
theorem cutWord_append {word front : List Char} (nonempty : word ≠ [])
    (absent : ¬ word <:+: front)
    (apart : ∀ a b, word = a ++ b → a ≠ [] → b ≠ [] → b <+: word → ¬ a <:+ front)
    (back : List Char) : cutWord word (front ++ word ++ back) = some (front, back) := by
  induction front with
  | nil =>
    obtain ⟨c, rest, rfl⟩ := List.exists_cons_of_ne_nil nonempty
    simp [cutWord]
  | cons c front ih =>
    have other : ¬ word <+: c :: (front ++ word ++ back) := by
      intro here
      rw [List.append_assoc, ← List.cons_append] at here
      obtain inside | ⟨rest, rfl⟩ :=
        List.prefix_or_prefix_of_prefix here (List.prefix_append (c :: front) _)
      · exact absent inside.isInfix
      · rw [List.prefix_append_right_inj] at here
        by_cases whole : rest = []
        · subst whole
          exact absent (by simp)
        · refine apart (c :: front) rest rfl (by simp) whole ?_ (List.suffix_refl _)
          exact List.prefix_of_prefix_length_le here (List.prefix_append _ _)
            (List.suffix_append _ _).length_le
    have absent' : ¬ word <:+: front := fun inside =>
      absent (inside.trans (List.suffix_cons c front).isInfix)
    have apart' : ∀ a b, word = a ++ b → a ≠ [] → b ≠ [] → b <+: word → ¬ a <:+ front :=
      fun a b parts left right border ending =>
        apart a b parts left right border (ending.trans (List.suffix_cons c front))
    rw [List.cons_append, List.cons_append, cutWord_cons_of_other other, ih absent' apart']
    rfl

theorem cutWord_some {word cs front back : List Char} (nonempty : word ≠ [])
    (cut : cutWord word cs = some (front, back)) :
    cs = front ++ word ++ back ∧ ¬ word <:+: front := by
  induction cs generalizing front with
  | nil => cases cut
  | cons c cs ih =>
    by_cases here : word <+: c :: cs
    · rw [cutWord, if_pos (by rwa [List.isPrefixOf_iff_prefix])] at cut
      cases cut
      refine ⟨?_, by simpa using nonempty⟩
      rw [List.nil_append]
      exact List.prefix_iff_eq_append.mp here |>.symm
    · rw [cutWord_cons_of_other here] at cut
      obtain ⟨⟨front, back⟩, cut, same⟩ := Option.map_eq_some_iff.mp cut
      cases same
      obtain ⟨rfl, absent⟩ := ih cut
      refine ⟨rfl, fun inside => ?_⟩
      obtain start | inside := List.infix_cons_iff.mp inside
      · exact here (start.trans (by simp))
      · exact absent inside

theorem cutWord_eq_none_iff {word cs : List Char} (nonempty : word ≠ []) :
    cutWord word cs = none ↔ ¬ word <:+: cs := by
  induction cs with
  | nil => simp [cutWord, nonempty]
  | cons c cs ih =>
    rw [List.infix_cons_iff]
    by_cases here : word <+: c :: cs
    · simp [cutWord, here]
    · rw [cutWord_cons_of_other here, Option.map_eq_none_iff, ih]
      simp [here]

/-! ### Searching -/

theorem occursIn_iff {word cs : List Char} : occursIn word cs = true ↔ word <:+: cs := by
  induction cs with
  | nil => rw [occursIn, List.isEmpty_iff, List.infix_nil]
  | cons c cs ih =>
    rw [occursIn, Bool.or_eq_true, List.isPrefixOf_iff_prefix, ih, List.infix_cons_iff]

/-! ### Letter case of ASCII -/

theorem asciiLower_eq_toLower (c : Char) : asciiLower c = c.toLower := by
  unfold asciiLower Char.toLower
  split
  · rename_i capital
    have most : c.toNat ≤ 90 := capital.2
    have valid : (c.toNat + 32).isValidChar := Or.inl (by omega)
    have sum : (c.val + 32).toNat = c.toNat + 32 := by
      rw [UInt32.toNat_add]
      exact Nat.mod_eq_of_lt (show c.toNat + 32 < 2 ^ 32 by omega)
    rw [dif_pos (show c.val ≥ 'A'.val ∧ c.val ≤ 'Z'.val from capital), Char.ofNat, dif_pos valid]
    exact Char.ext (UInt32.toNat_inj.mp sum.symm)
  · rename_i other
    rw [dif_neg (show ¬(c.val ≥ 'A'.val ∧ c.val ≤ 'Z'.val) from other)]

theorem map_asciiLower (text : String) : text.toList.map asciiLower = text.toLower.toList := by
  unfold String.toLower
  rw [String.toList_map]
  exact List.map_congr_left fun c _ => asciiLower_eq_toLower c

/-! ### Trimming -/

theorem dropBlank_eq_self {cs : List Char} (kept : ∀ c ∈ cs.head?, isBlank c = false) :
    dropBlank cs = cs := by
  cases cs with
  | nil => rfl
  | cons c cs => rw [dropBlank, List.dropWhile_cons_of_neg (by simp [kept c rfl])]

theorem head?_dropBlank (cs : List Char) : ∀ c ∈ (dropBlank cs).head?, isBlank c = false := by
  intro c first
  have kept := List.head?_dropWhile_not isBlank cs
  rw [show cs.dropWhile isBlank = dropBlank cs from rfl, Option.mem_def.mp first] at kept
  simpa using kept

/-- Trimmed text has no white space at either end. -/
theorem head?_trimList (cs : List Char) : ∀ c ∈ (trimList cs).head?, isBlank c = false := by
  have front : trimList cs <+: dropBlank cs := by
    rw [← List.reverse_suffix, trimList, List.reverse_reverse]
    exact List.dropWhile_suffix isBlank
  intro c first
  refine head?_dropBlank cs c ?_
  obtain ⟨rest, whole⟩ := front
  rw [← whole, List.head?_append, Option.mem_def.mp first]
  rfl

theorem getLast?_trimList (cs : List Char) : ∀ c ∈ (trimList cs).getLast?, isBlank c = false := by
  rw [trimList, List.getLast?_reverse]
  exact head?_dropBlank _

theorem trimList_eq_self {cs : List Char} (first : ∀ c ∈ cs.head?, isBlank c = false)
    (last : ∀ c ∈ cs.getLast?, isBlank c = false) : trimList cs = cs := by
  rw [← List.head?_reverse] at last
  rw [trimList, dropBlank_eq_self first, dropBlank_eq_self last, List.reverse_reverse]

theorem trimList_trimList (cs : List Char) : trimList (trimList cs) = trimList cs :=
  trimList_eq_self (head?_trimList cs) (getLast?_trimList cs)

@[simp] theorem trim_trim (text : String) : trim (trim text) = trim text := by
  rw [trim, trim, String.toList_ofList, trimList_trimList]

/-- What is trimmed is white space. -/
theorem trimList_around (cs : List Char) :
    ∃ front back, cs = front ++ (trimList cs ++ back) ∧ (∀ c ∈ front, isBlank c = true) ∧
      ∀ c ∈ back, isBlank c = true := by
  refine ⟨cs.takeWhile isBlank, ((dropBlank cs).reverse.takeWhile isBlank).reverse, ?_,
    fun c member => List.all_eq_true.mp List.all_takeWhile c member,
    fun c member => List.all_eq_true.mp List.all_takeWhile c (List.mem_reverse.mp member)⟩
  unfold trimList dropBlank
  rw [← List.reverse_append, List.takeWhile_append_dropWhile, List.reverse_reverse,
    List.takeWhile_append_dropWhile]

/-- White space around a text is trimmed. -/
theorem trimList_of_around {front cs back : List Char} (first : ∀ c ∈ front, isBlank c = true)
    (last : ∀ c ∈ back, isBlank c = true) : trimList (front ++ (cs ++ back)) = trimList cs := by
  have behind : dropBlank (dropBlank (cs ++ back)).reverse = dropBlank (dropBlank cs).reverse := by
    unfold dropBlank
    rw [List.dropWhile_append]
    split
    · rename_i nothing
      have none : (back ++ []).dropWhile isBlank = [].dropWhile isBlank :=
        List.dropWhile_append_of_pos last
      rw [List.append_nil] at none
      rw [none, List.isEmpty_iff.mp nothing]
      rfl
    · rw [List.reverse_append, List.dropWhile_append_of_pos]
      exact fun c member => last c (List.mem_reverse.mp member)
  unfold trimList
  rw [← behind]
  unfold dropBlank
  rw [List.dropWhile_append_of_pos first]

/-! ### Digits -/

theorem isDigit_toDigits {n : Nat} {c : Char} (member : c ∈ Nat.toDigits 10 n) :
    isDigit c = true := by
  have digit := Nat.isDigit_of_mem_toDigits (by decide) (by decide) member
  exact digit

theorem decimal_toDigits (n : Nat) : decimal (Nat.toDigits 10 n) = n :=
  Nat.ofDigitChars_ten_toDigits

theorem head?_toDigits_pos {n : Nat} (positive : 0 < n) :
    (Nat.toDigits 10 n).head? ≠ some '0' := by
  induction n using Nat.strongRecOn with
  | ind n ih =>
    by_cases small : n < 10
    · have digits : ∀ k < 10, 0 < k → [Nat.digitChar k].head? ≠ some '0' := by decide
      rw [Nat.toDigits_of_lt_base small]
      exact digits n small positive
    · have front := ih (n / 10) (by omega) (by omega)
      rw [Nat.toDigits_of_base_le (by decide) (by omega), List.head?_append]
      cases head : (Nat.toDigits 10 (n / 10)).head? with
      | none => exact absurd (List.head?_eq_none_iff.mp head) Nat.toDigits_ne_nil
      | some c =>
        rw [head] at front
        exact front

/-- No zeros stand in front. -/
theorem head?_toDigits {n : Nat} (long : (Nat.toDigits 10 n).length ≠ 1) :
    (Nat.toDigits 10 n).head? ≠ some '0' := by
  refine head?_toDigits_pos (Nat.pos_of_ne_zero ?_)
  rintro rfl
  exact long rfl

theorem toDigits_cons (n : Nat) :
    ∃ d ds, Nat.toDigits 10 n = d :: ds ∧ isDigit d = true := by
  cases digits : Nat.toDigits 10 n with
  | nil => exact absurd digits Nat.toDigits_ne_nil
  | cons d ds =>
    refine ⟨d, ds, rfl, isDigit_toDigits (n := n) ?_⟩
    rw [digits]
    exact List.mem_cons_self

theorem decimal_concat (ds : List Char) (d : Char) :
    decimal (ds ++ [d]) = 10 * decimal ds + (d.toNat - 48) := by
  simp [decimal]

theorem digitChar_of_isDigit {d : Char} (digit : isDigit d = true) :
    d.toNat - 48 < 10 ∧ Nat.digitChar (d.toNat - 48) = d := by
  have all : ∀ n < 58, 48 ≤ n → n - 48 < 10 ∧ Nat.digitChar (n - 48) = Char.ofNat n := by decide
  rw [isDigit, Bool.and_eq_true, decide_eq_true_eq, decide_eq_true_eq] at digit
  have least : 48 ≤ d.toNat := digit.1
  have most : d.toNat ≤ 57 := digit.2
  have same := all d.toNat (by omega) least
  rwa [Char.ofNat_toNat] at same

/-- A number is written as the digits that it is read from, if no zeros stand in front. -/
theorem toDigits_decimal {ds : List Char} (nonempty : ds ≠ []) (digits : ∀ d ∈ ds, isDigit d = true)
    (plain : ds.head? = some '0' → ds.length = 1) : Nat.toDigits 10 (decimal ds) = ds := by
  induction ds using List.reverseRecOn with
  | nil => exact absurd rfl nonempty
  | append_singleton ds d ih =>
    have member : d ∈ ds ++ [d] := List.mem_append_right _ List.mem_cons_self
    obtain ⟨small, same⟩ := digitChar_of_isDigit (digits d member)
    rw [decimal_concat]
    by_cases front : ds = []
    · subst front
      rw [show decimal [] = 0 from rfl, Nat.mul_zero, Nat.zero_add, Nat.toDigits_of_lt_base small, same]
      rfl
    · have head : (ds ++ [d]).head? = ds.head? := by
        rw [List.head?_append, List.head?_eq_some_head front]
        rfl
      have long : (ds ++ [d]).length ≠ 1 := by
        have filled := List.length_pos_iff.mpr front
        rw [List.length_append, List.length_singleton]
        omega
      have unzeroed : ds.head? ≠ some '0' := fun zero => long (plain (head.trans zero))
      have written := ih front (fun d member => digits d (List.mem_append_left _ member))
        fun zero => absurd zero unzeroed
      have positive : decimal ds ≠ 0 := by
        intro zero
        rw [zero] at written
        exact unzeroed (written ▸ rfl)
      have tens : (10 * decimal ds + (d.toNat - 48)) / 10 = decimal ds := by omega
      have ones : (10 * decimal ds + (d.toNat - 48)) % 10 = d.toNat - 48 := by omega
      rw [Nat.toDigits_of_base_le (by decide) (by omega), tens, ones, written, same]

end DeviceSessions.Text
