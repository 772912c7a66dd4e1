import DeviceSessions.Proofs.Text
import DeviceSessions.Text.Lowercase

/-!
# Lower case and white space

Lower case does not touch white space, and white space ends a word like the end of the text does. So
it makes no difference which of the two comes first, trimming or lower case; but a text with white
space around it keeps it in lower case.
-/

namespace DeviceSessions.Text

/-! ### What the tables say about white space -/

def blanks : List Nat :=
  [9, 10, 11, 12, 13, 0x20, 0x85, 0xa0, 0x1680, 0x2000, 0x2001, 0x2002, 0x2003, 0x2004, 0x2005,
    0x2006, 0x2007, 0x2008, 0x2009, 0x200a, 0x2028, 0x2029, 0x202f, 0x205f, 0x3000]

theorem isBlank_iff {c : Char} : isBlank c = true ↔ c.toNat ∈ blanks := by
  simp [isBlank, blanks]
  omega

theorem blanks_plain :
    ∀ n ∈ blanks, inRanges casedRanges n = false ∧ inRanges caseIgnorableRanges n = false := by
  decide +kernel

theorem isCased_of_blank {c : Char} (blank : isBlank c = true) : isCased c = false :=
  (blanks_plain _ (isBlank_iff.mp blank)).1

theorem isCaseIgnorable_of_blank {c : Char} (blank : isBlank c = true) : isCaseIgnorable c = false :=
  (blanks_plain _ (isBlank_iff.mp blank)).2

/-- No white space lies between the first and the last of a run, nor between their lower cases. -/
theorem runs_filled : ∀ r ∈ lowercaseRuns, ∀ n ∈ blanks,
    (r.2.1 < n ∨ n < r.1) ∧ (r.2.1 - r.1 + r.2.2.2 < n ∨ n < r.2.2.2) := by
  decide +kernel

theorem not_blank_ofNat {n : Nat} (other : n ∉ blanks) : isBlank (Char.ofNat n) = false := by
  rw [← Bool.not_eq_true, isBlank_iff]
  unfold Char.ofNat
  by_cases valid : n.isValidChar
  · rw [dif_pos valid]
    exact other
  · rw [dif_neg valid]
    decide

theorem isBlank_lowerChar (c : Char) : isBlank (lowerChar c) = isBlank c := by
  unfold lowerChar
  dsimp only
  split
  · rename_i first last step target found
    have member := List.mem_of_find?_eq_some found
    have within := List.find?_some found
    simp only [Bool.and_eq_true, decide_eq_true_eq] at within
    have filled := fun n blank => runs_filled _ member n blank
    have low : isBlank c = false := by
      rw [← Bool.not_eq_true, isBlank_iff]
      intro blank
      have apart := (filled _ blank).1
      dsimp only at apart
      omega
    rw [low]
    refine not_blank_ofNat fun blank => ?_
    have apart := (filled _ blank).2
    dsimp only at apart
    omega
  · rfl

theorem isBlank_lowerAt {before after : List Char} {c d : Char} (member : d ∈ lowerAt before c after) :
    isBlank d = isBlank c := by
  unfold lowerAt at member
  split at member
  · rename_i sigma
    rw [List.mem_singleton] at member
    rw [member, sigma]
    split <;> decide
  · split at member
    · rename_i dotted
      have plain : isBlank c = false := by
        rw [← Bool.not_eq_true, isBlank_iff, dotted]
        decide
      simp only [List.mem_cons, List.not_mem_nil, or_false] at member
      rw [plain]
      rcases member with rfl | rfl <;> decide
    · rw [List.mem_singleton] at member
      rw [member, isBlank_lowerChar]

theorem lowerAt_ne_nil (before : List Char) (c : Char) (after : List Char) :
    lowerAt before c after ≠ [] := by
  unfold lowerAt
  split
  · exact List.cons_ne_nil _ _
  · split <;> exact List.cons_ne_nil _ _

/-! ### The end of a word -/

/-- A list that is empty or begins with white space. -/
def Ends (cs : List Char) : Prop := ∀ c ∈ cs.head?, isBlank c = true

theorem meetsCased_append {cs rest : List Char} (ends : Ends rest) :
    meetsCased (cs ++ rest) = meetsCased cs := by
  induction cs with
  | nil =>
    cases rest with
    | nil => rfl
    | cons c rest =>
      have blank := ends c rfl
      simp [meetsCased, isCaseIgnorable_of_blank blank, isCased_of_blank blank]
  | cons c cs ih =>
    unfold meetsCased at ih ⊢
    rw [List.cons_append, List.dropWhile_cons, List.dropWhile_cons]
    cases isCaseIgnorable c with
    | true => exact ih
    | false => rfl

theorem lowerAt_append (before : List Char) (c : Char) {after rest : List Char} (ends : Ends rest) :
    lowerAt before c (after ++ rest) = lowerAt before c after := by
  unfold lowerAt
  rw [meetsCased_append ends]

theorem lowerList_append (before : List Char) (cs : List Char) {rest : List Char} (ends : Ends rest) :
    lowerList before (cs ++ rest) = lowerList before cs ++ lowerList (cs.reverse ++ before) rest := by
  induction cs generalizing before with
  | nil => rfl
  | cons c cs ih =>
    rw [List.cons_append, lowerList, lowerList, lowerAt_append before c ends, ih, List.append_assoc,
      List.reverse_cons, List.append_assoc]
    rfl

theorem lowerList_before (before : List Char) {far : List Char} (ends : Ends far) (cs : List Char) :
    lowerList (before ++ far) cs = lowerList before cs := by
  induction cs generalizing before with
  | nil => rfl
  | cons c cs ih =>
    have here : lowerAt (before ++ far) c cs = lowerAt before c cs := by
      unfold lowerAt
      rw [meetsCased_append ends]
    rw [lowerList, lowerList, here, ← List.cons_append, ih]

theorem lowerList_blank_append (before : List Char) {front : List Char}
    (blank : ∀ c ∈ front, isBlank c = true) (cs : List Char) :
    lowerList before (front ++ cs) = lowerList before front ++ lowerList (front.reverse ++ before) cs := by
  induction front generalizing before with
  | nil => rfl
  | cons c front ih =>
    -- What follows a character matters to a sigma only.
    have noSigma : c ≠ capitalSigma := by
      rintro rfl
      exact absurd (blank _ List.mem_cons_self) (by decide)
    have here : lowerAt before c (front ++ cs) = lowerAt before c front := by
      unfold lowerAt
      rw [if_neg noSigma, if_neg noSigma]
    rw [List.cons_append, lowerList, lowerList, here,
      ih (c :: before) fun d member => blank d (List.mem_cons_of_mem _ member), List.append_assoc,
      List.reverse_cons, List.append_assoc]
    rfl

/-! ### Trimming -/

variable {front back : List Char}

theorem lowerList_around (first : ∀ c ∈ front, isBlank c = true) (last : ∀ c ∈ back, isBlank c = true)
    (cs : List Char) :
    lowerList [] (front ++ (cs ++ back)) =
      lowerList [] front ++ (lowerList [] cs ++ lowerList (cs.reverse ++ front.reverse) back) := by
  have ends : Ends back := fun c here => last c (List.mem_of_mem_head? here)
  have far : Ends front.reverse := fun c here =>
    first c (List.mem_reverse.mp (List.mem_of_mem_head? here))
  have bare : lowerList (front.reverse ++ []) cs = lowerList [] cs := by
    rw [List.append_nil]
    exact lowerList_before [] far cs
  rw [lowerList_blank_append [] first, lowerList_append _ cs ends, bare, List.append_nil]

theorem mem_lowerList {before cs : List Char} {d : Char} (member : d ∈ lowerList before cs) :
    ∃ c ∈ cs, isBlank d = isBlank c := by
  induction cs generalizing before with
  | nil => cases member
  | cons c cs ih =>
    rw [lowerList, List.mem_append] at member
    rcases member with here | there
    · exact ⟨c, List.mem_cons_self, isBlank_lowerAt here⟩
    · obtain ⟨e, inside, same⟩ := ih there
      exact ⟨e, List.mem_cons_of_mem _ inside, same⟩

theorem lowerList_blank {before cs : List Char} (blank : ∀ c ∈ cs, isBlank c = true) :
    ∀ d ∈ lowerList before cs, isBlank d = true := by
  intro d member
  obtain ⟨c, inside, same⟩ := mem_lowerList member
  exact same.trans (blank c inside)

theorem head?_lowerList {before cs : List Char} (first : ∀ c ∈ cs.head?, isBlank c = false) :
    ∀ d ∈ (lowerList before cs).head?, isBlank d = false := by
  cases cs with
  | nil => exact fun d here => nomatch here
  | cons c cs =>
    intro d here
    obtain ⟨e, rest, made⟩ := List.exists_cons_of_ne_nil (lowerAt_ne_nil before c cs)
    have inside : e ∈ lowerAt before c cs := by rw [made]; exact List.mem_cons_self
    rw [lowerList, made] at here
    cases here
    exact (isBlank_lowerAt inside).trans (first c rfl)

theorem lowerList_ne_nil {before cs : List Char} (nonempty : cs ≠ []) : lowerList before cs ≠ [] := by
  cases cs with
  | nil => exact absurd rfl nonempty
  | cons c cs => exact List.append_ne_nil_of_left_ne_nil (lowerAt_ne_nil before c cs) _

theorem getLast?_lowerList {before cs : List Char} (last : ∀ c ∈ cs.getLast?, isBlank c = false) :
    ∀ d ∈ (lowerList before cs).getLast?, isBlank d = false := by
  induction cs generalizing before with
  | nil => exact fun d here => nomatch here
  | cons c cs ih =>
    cases cs with
    | nil =>
      intro d here
      rw [lowerList, lowerList, List.append_nil] at here
      exact (isBlank_lowerAt (List.mem_of_mem_getLast? here)).trans (last c rfl)
    | cons next cs =>
      intro d here
      rw [lowerList, List.getLast?_append] at here
      have ending : ∀ e ∈ (lowerList (c :: before) (next :: cs)).getLast?, isBlank e = false :=
        ih fun e behind => last e (by rwa [List.getLast?_cons_cons])
      cases found : (lowerList (c :: before) (next :: cs)).getLast? with
      | none =>
        exact absurd (List.getLast?_eq_none_iff.mp found) (lowerList_ne_nil (List.cons_ne_nil _ _))
      | some e =>
        rw [found] at here
        exact ending d (found.trans here)

theorem length_le_lowerList (before cs : List Char) : cs.length ≤ (lowerList before cs).length := by
  induction cs generalizing before with
  | nil => exact Nat.le_refl _
  | cons c cs ih =>
    have some := List.length_pos_iff.mpr (lowerAt_ne_nil before c cs)
    have rest := ih (c :: before)
    rw [lowerList, List.length_append, List.length_cons]
    omega

theorem trimList_lowerList (cs : List Char) :
    trimList (lowerList [] cs) = lowerList [] (trimList cs) := by
  obtain ⟨front, back, whole, first, last⟩ := trimList_around cs
  have bare : trimList (lowerList [] (trimList cs)) = lowerList [] (trimList cs) :=
    trimList_eq_self (head?_lowerList (head?_trimList cs)) (getLast?_lowerList (getLast?_trimList cs))
  rw [← bare]
  conv => lhs; rw [whole, lowerList_around first last]
  exact trimList_of_around (lowerList_blank first) (lowerList_blank last)

/-- It makes no difference whether a text is trimmed before it is put into lower case or after. -/
theorem lower_trim (text : String) : lower (trim text) = trim (lower text) := by
  unfold lower trim
  rw [String.toList_ofList, String.toList_ofList, trimList_lowerList]

/-- White space around a text is not lost in lower case. -/
theorem lower_trim_eq_lower_iff {text : String} : lower (trim text) = lower text ↔ trim text = text := by
  refine ⟨fun same => ?_, fun same => by rw [same]⟩
  obtain ⟨front, back, whole, first, last⟩ := trimList_around text.toList
  have lists : lowerList [] (trimList text.toList) = lowerList [] text.toList := by
    have lists := congrArg String.toList same
    unfold lower trim at lists
    rwa [String.toList_ofList, String.toList_ofList, String.toList_ofList] at lists
  have around := lowerList_around first last (trimList text.toList)
  rw [← whole, ← lists] at around
  -- Lower case never shortens, so there is room for nothing on either side.
  have lengths := congrArg List.length around
  have before := length_le_lowerList [] front
  have after := length_le_lowerList ((trimList text.toList).reverse ++ front.reverse) back
  rw [List.length_append, List.length_append] at lengths
  have noFront : front = [] := List.length_eq_zero_iff.mp (by omega)
  have noBack : back = [] := List.length_eq_zero_iff.mp (by omega)
  rw [noFront, noBack, List.nil_append, List.append_nil] at whole
  rw [trim, ← whole, String.ofList_toList]

/-! ### Letter case of ASCII -/

theorem asciiLower_cases (c : Char) :
    asciiLower c = c ∨ 65 ≤ c.toNat ∧ c.toNat < 91 ∧ asciiLower c = Char.ofNat (c.toNat + 32) := by
  unfold asciiLower
  split
  · rename_i capital
    have least : 65 ≤ c.toNat := capital.1
    have most : c.toNat ≤ 90 := capital.2
    exact Or.inr ⟨least, by omega, rfl⟩
  · exact Or.inl rfl

/-- The tables treat a capital of ASCII like its lower case. -/
theorem capitals_alike : ∀ n < 91, 65 ≤ n →
    isCased (Char.ofNat (n + 32)) = isCased (Char.ofNat n) ∧
      lowerChar (Char.ofNat (n + 32)) = lowerChar (Char.ofNat n) ∧
      ∀ m ∈ [n, n + 32], Char.ofNat m ≠ capitalSigma ∧ (Char.ofNat m).toNat ≠ 0x130 := by
  decide +kernel

/-- Case rules do not look through letters of ASCII. -/
theorem letters_seen : ∀ r ∈ caseIgnorableRanges, (r.2 < 65 ∨ 90 < r.1) ∧ (r.2 < 97 ∨ 122 < r.1) := by
  decide +kernel

theorem isCaseIgnorable_letter {c : Char}
    (letter : 65 ≤ c.toNat ∧ c.toNat ≤ 90 ∨ 97 ≤ c.toNat ∧ c.toNat ≤ 122) :
    isCaseIgnorable c = false := by
  refine List.any_eq_false.mpr fun r member within => ?_
  have apart := letters_seen r member
  simp only [Bool.and_eq_true, decide_eq_true_eq] at within
  omega

theorem isCased_asciiLower (c : Char) : isCased (asciiLower c) = isCased c := by
  rcases asciiLower_cases c with same | ⟨least, most, made⟩
  · rw [same]
  · have alike := (capitals_alike _ most least).1
    rwa [Char.ofNat_toNat, ← made] at alike

theorem isCaseIgnorable_asciiLower (c : Char) : isCaseIgnorable (asciiLower c) = isCaseIgnorable c := by
  rcases asciiLower_cases c with same | ⟨least, most, made⟩
  · rw [same]
  · have code : (asciiLower c).toNat = c.toNat + 32 := by
      have valid : (c.toNat + 32).isValidChar := Or.inl (by omega)
      rw [made, Char.ofNat, dif_pos valid]
      rfl
    rw [isCaseIgnorable_letter (Or.inl ⟨least, by omega⟩),
      isCaseIgnorable_letter (Or.inr ⟨by omega, by omega⟩)]

theorem meetsCased_asciiLower (cs : List Char) : meetsCased (cs.map asciiLower) = meetsCased cs := by
  induction cs with
  | nil => rfl
  | cons c cs ih =>
    unfold meetsCased at ih ⊢
    rw [List.map_cons, List.dropWhile_cons, List.dropWhile_cons, isCaseIgnorable_asciiLower]
    cases isCaseIgnorable c with
    | true => exact ih
    | false => exact isCased_asciiLower c

theorem lowerAt_asciiLower (before : List Char) (c : Char) (after : List Char) :
    lowerAt (before.map asciiLower) (asciiLower c) (after.map asciiLower) = lowerAt before c after := by
  unfold lowerAt
  rw [meetsCased_asciiLower, meetsCased_asciiLower]
  rcases asciiLower_cases c with same | ⟨least, most, made⟩
  · rw [same]
  · obtain ⟨-, alike, others⟩ := capitals_alike _ most least
    obtain ⟨noSigma, noDot⟩ := others c.toNat (by simp)
    obtain ⟨noSigma', noDot'⟩ := others (c.toNat + 32) (by simp)
    rw [Char.ofNat_toNat] at alike noSigma noDot
    rw [made, if_neg noSigma, if_neg noSigma', if_neg noDot, if_neg noDot', alike]

theorem lowerList_asciiLower (before cs : List Char) :
    lowerList (before.map asciiLower) (cs.map asciiLower) = lowerList before cs := by
  induction cs generalizing before with
  | nil => rfl
  | cons c cs ih =>
    rw [List.map_cons, lowerList, lowerList, lowerAt_asciiLower, ← ih (c :: before), List.map_cons]

/-- Texts that differ in the case of ASCII letters only have one lower case. -/
theorem lower_eq_of_asciiLower {s t : String}
    (same : s.toList.map asciiLower = t.toList.map asciiLower) : lower s = lower t := by
  have left := lowerList_asciiLower [] s.toList
  have right := lowerList_asciiLower [] t.toList
  rw [same] at left
  unfold lower
  rw [← left, ← right]

end DeviceSessions.Text
