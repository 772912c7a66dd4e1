import DeviceSessions.Proofs.Settings.Layers
import DeviceSessions.Proofs.Text
import DeviceSessions.Settings.Environment

/-!
# Laws of variables

Where the last variable for a setting stands in the layer of the environment, and which texts are
the same when the value that was read from them is written again. Texts that no number and no truth
value is written as are, and so are the integers of 64 bits in their usual form.
-/

namespace DeviceSessions.Environment

/-! ### The layer of the variables -/

section Layer

variable {after : List (String × String)} {v : String × String} {key : String} {value : Setting}

/-- The entries with one put behind them, in place of those for the same setting. -/
def put (entries : List (String × Setting)) (e : String × Setting) : List (String × Setting) :=
  entries.filter (fun old => old.1 ≠ e.1) ++ [e]

theorem layer_eq (vars : List (String × String)) :
    layer vars = (vars.filterMap entry?).foldl put [] := rfl

/-- Entries for other settings leave an entry in, and come to stand behind it. -/
theorem foldl_put {entry : String × Setting} {es : List (String × Setting)}
    (others : ∀ e ∈ es, e.1 ≠ entry.1) (front back : List (String × Setting)) :
    ∃ front' back', es.foldl put (front ++ entry :: back) = front' ++ entry :: back' ∧
      ∀ e ∈ back', e ∈ back ∨ e ∈ es := by
  induction es generalizing front back with
  | nil => exact ⟨front, back, rfl, fun e member => Or.inl member⟩
  | cons e es ih =>
    -- Only what stands for the same setting as `e` is taken out, and `entry` does not.
    have kept : put (front ++ entry :: back) e =
        front.filter (fun old => old.1 ≠ e.1) ++ entry :: put back e := by
      simp [put, Ne.symm (others e List.mem_cons_self)]
    obtain ⟨front', back', same, origin⟩ :=
      ih (fun e member => others e (List.mem_cons_of_mem _ member)) _ (put back e)
    rw [List.foldl_cons, kept]
    refine ⟨front', back', same, fun d member => ?_⟩
    rcases origin d member with old | new
    · rcases List.mem_append.mp old with before | own
      · exact Or.inl (List.mem_filter.mp before).1
      · exact Or.inr (List.mem_singleton.mp own ▸ List.mem_cons_self)
    · exact Or.inr (List.mem_cons_of_mem _ new)

/-- The last variable for a setting has its entry in the layer, and behind it there are only entries
of variables that come later. -/
theorem layer_split (before : List (String × String)) (sets : entry? v = some (key, value))
    (last : ∀ other ∈ after, ∀ e, entry? other = some e → e.1 ≠ key) :
    ∃ front back, layer (before ++ v :: after) = front ++ (key, value) :: back ∧
      ∀ e ∈ back, ∃ other ∈ after, entry? other = some e := by
  have others : ∀ e ∈ after.filterMap entry?, e.1 ≠ (key, value).1 := by
    intro e member
    obtain ⟨other, inside, entry⟩ := List.mem_filterMap.mp member
    exact last other inside e entry
  obtain ⟨front, back, same, origin⟩ := foldl_put others
    (((before.filterMap entry?).foldl put []).filter fun old => old.1 ≠ key) []
  refine ⟨front, back, ?_, fun e member => ?_⟩
  · rw [← same, layer_eq, List.filterMap_append, List.filterMap_cons_some sets, List.foldl_append,
      List.foldl_cons]
    rfl
  · rcases origin e member with none | inside
    · cases none
    · exact List.mem_filterMap.mp inside

theorem mem_foldl_put {e : String × Setting} (es : List (String × Setting))
    {entries : List (String × Setting)} (member : e ∈ es.foldl put entries) :
    e ∈ entries ∨ e ∈ es := by
  induction es generalizing entries with
  | nil => exact .inl member
  | cons first es ih =>
    rcases ih member with old | new
    · rcases List.mem_append.mp old with before | own
      · exact .inl (List.mem_filter.mp before).1
      · exact .inr (List.mem_singleton.mp own ▸ List.mem_cons_self)
    · exact .inr (List.mem_cons_of_mem _ new)

/-- All entries of the layer are of variables. -/
theorem exists_of_mem_layer {vars : List (String × String)} {e : String × Setting}
    (member : e ∈ layer vars) : ∃ v ∈ vars, entry? v = some e := by
  rw [layer_eq] at member
  rcases mem_foldl_put _ member with none | inside
  · cases none
  · exact List.mem_filterMap.mp inside

/-- The last variable for a setting puts its value there, over whatever was there before. -/
theorem at?_layer (names : ∀ step ∈ Setting.pathOf key, ∃ n, step = .key n) (flat : value.Flat)
    (sets : entry? v = some (key, value))
    (last : ∀ other ∈ after, ∀ e, entry? other = some e →
      Setting.Apart (Setting.pathOf e.1) (Setting.pathOf key))
    (before : List (String × String)) (lower : Setting) :
    Setting.at? (Setting.pathOf key) (lower.addLayer (layer (before ++ v :: after))) =
      some value := by
  have others : ∀ other ∈ after, ∀ e, entry? other = some e → e.1 ≠ key := by
    intro other inside e entry same
    have apart := last other inside e entry
    rw [same] at apart
    exact apart.ne rfl
  obtain ⟨front, back, split, origin⟩ := layer_split before sets others
  have clear : Setting.Clear back (Setting.pathOf key) := by
    intro e member
    obtain ⟨other, inside, entry⟩ := origin e member
    exact last other inside e entry
  rw [split]
  exact Setting.at?_addLayer front names flat clear lower

end Layer

/-! ### The texts of values -/

/-- The text that is made of a text when it is given for a setting that is one. -/
def shown (text : String) : String := ((value text).toText?).getD ""

theorem toText?_value (text : String) : (value text).toText? = some (shown text) := by
  have texts : ∃ shown, (value text).toText? = some shown := by
    unfold value
    dsimp only
    split
    · exact ⟨_, rfl⟩
    split
    · exact ⟨_, rfl⟩
    split
    · exact ⟨_, rfl⟩
    split
    · exact ⟨_, rfl⟩
    · exact ⟨_, rfl⟩
  obtain ⟨_, same⟩ := texts
  rw [shown, same, Option.getD_some]

theorem flat_value (text : String) : (value text).Flat := by
  unfold value
  dsimp only
  split
  · trivial
  split
  · trivial
  split
  · trivial
  split
  · trivial
  · trivial

/-! ### Texts that are taken as they stand -/

/-- The characters that numbers are written with, apart from words. -/
def isNumberChar (c : Char) : Bool := Text.isDigit c || ['+', '-', '.', 'e', 'E'].contains c

/-- The text without its sign. -/
def unsigned : List Char → List Char
  | '-' :: cs => cs
  | '+' :: cs => cs
  | cs => cs

/-- A text that is no word for a truth value or a number, and has a character no number has. -/
structure Plain (text : String) : Prop where
  noTruth : Text.lower text ≠ "true" ∧ Text.lower text ≠ "false"
  noNumber : String.ofList ((unsigned text.toList).map Text.asciiLower) ∉ ["inf", "infinity", "nan"]
  odd : ∃ c ∈ text.toList, isNumberChar c = false

section Odd

variable {c : Char} {cs : List Char}

theorem not_isDigit_of_odd (odd : isNumberChar c = false) : Text.isDigit c = false := by
  simp only [isNumberChar, Bool.or_eq_false_iff] at odd
  exact odd.1

theorem ne_of_odd {d : Char} (odd : isNumberChar c = false) (used : isNumberChar d = true) : c ≠ d := by
  rintro rfl
  rw [odd] at used
  cases used

theorem mem_tail_of_odd {d : Char} (odd : isNumberChar c = false) (used : isNumberChar d = true)
    (member : c ∈ d :: cs) : c ∈ cs :=
  (List.mem_cons.mp member).resolve_left (ne_of_odd odd used)

theorem not_all_isDigit (odd : isNumberChar c = false) (member : c ∈ cs) :
    cs.all Text.isDigit = false := by
  rw [List.all_eq_false]
  exact ⟨c, member, by simp [not_isDigit_of_odd odd]⟩

theorem int?_odd (odd : isNumberChar c = false) (member : c ∈ cs) : int? cs = none := by
  unfold int?
  split
  rename_i negative ds signed
  have inside : c ∈ ds := by
    split at signed
    · cases signed
      exact mem_tail_of_odd odd rfl member
    · cases signed
      exact mem_tail_of_odd odd rfl member
    · cases signed
      exact member
  simp [not_all_isDigit odd inside]

theorem exponent?_odd (odd : isNumberChar c = false) (member : c ∈ cs) :
    Binary64.exponent? cs = none := by
  unfold Binary64.exponent?
  split
  · cases member
  · rename_i d rest
    split
    · rename_i mark
      have used : isNumberChar d = true := by rcases mark with rfl | rfl <;> rfl
      have behind := mem_tail_of_odd odd used member
      split
      rename_i negative ds signed
      have inside : c ∈ ds := by
        split at signed
        · cases signed
          exact mem_tail_of_odd odd rfl behind
        · cases signed
          exact mem_tail_of_odd odd rfl behind
        · cases signed
          exact behind
      simp [not_all_isDigit odd inside]
    · rfl

theorem mem_drop_digits (odd : isNumberChar c = false) (member : c ∈ cs) :
    c ∈ cs.drop (cs.takeWhile Text.isDigit).length := by
  induction cs with
  | nil => cases member
  | cons d rest ih =>
    by_cases digit : Text.isDigit d = true
    · have used : isNumberChar d = true := by simp [isNumberChar, digit]
      rw [List.takeWhile_cons_of_pos digit, List.length_cons, List.drop_succ_cons]
      exact ih (mem_tail_of_odd odd used member)
    · rw [List.takeWhile_cons_of_neg digit]
      exact member

theorem readUnsigned?_odd {negative : Bool} (word : Binary64.ofWord? negative cs = none)
    (odd : isNumberChar c = false) (member : c ∈ cs) :
    Binary64.readUnsigned? negative cs = none := by
  have rest := mem_drop_digits odd member
  unfold Binary64.readUnsigned?
  rw [word]
  dsimp only
  split
  · rename_i tail same
    rw [same] at rest
    have behind := mem_drop_digits odd (mem_tail_of_odd odd rfl rest)
    dsimp only
    rw [exponent?_odd odd behind]
    exact ite_self _
  · dsimp only
    rw [exponent?_odd odd rest]
    exact ite_self _

end Odd

theorem ofWord?_none {cs : List Char} (negative : Bool)
    (other : String.ofList (cs.map Text.asciiLower) ∉ ["inf", "infinity", "nan"]) :
    Binary64.ofWord? negative cs = none := by
  simp only [List.mem_cons, List.not_mem_nil, or_false, not_or] at other
  unfold Binary64.ofWord?
  simp [other]

theorem Plain.value {text : String} (plain : Plain text) : value text = .text text := by
  obtain ⟨⟨noTrue, noFalse⟩, noNumber, c, member, odd⟩ := plain
  -- Neither kind of number gets past the odd character.
  have number : Binary64.read? text.toList = none := by
    unfold Binary64.read?
    unfold unsigned at noNumber
    split
    · rename_i cs same
      rw [same] at noNumber member
      exact readUnsigned?_odd (ofWord?_none true noNumber) odd (mem_tail_of_odd odd rfl member)
    · rename_i cs same
      rw [same] at noNumber member
      exact readUnsigned?_odd (ofWord?_none false noNumber) odd (mem_tail_of_odd odd rfl member)
    · rename_i minus plus
      split at noNumber
      · rename_i cs same
        exact absurd same (minus cs)
      · rename_i cs same
        exact absurd same (plus cs)
      · exact readUnsigned?_odd (ofWord?_none false noNumber) odd member
  unfold Environment.value
  dsimp only
  rw [if_neg noTrue, if_neg noFalse, int?_odd odd member, number]

theorem Plain.shown {text : String} (plain : Plain text) : shown text = text := by
  rw [Environment.shown, plain.value]
  rfl

/-! ### Integers -/

theorem toList_toString (n : Int) : (toString n).toList =
    if n < 0 then '-' :: Nat.toDigits 10 n.natAbs else Nat.toDigits 10 n.natAbs := by
  cases n with
  | ofNat m => exact Nat.toList_repr
  | negSucc m =>
    have same : toString (Int.negSucc m) = "-" ++ Nat.repr (m + 1) := rfl
    rw [same, String.toList_append, Nat.toList_repr, if_pos (Int.negSucc_lt_zero m)]
    rfl

/-- A text that begins with a sign or a digit is no word for a truth value. -/
theorem not_truth {text : String} {c : Char} {cs : List Char} (written : text.toList = c :: cs)
    (used : c = '-' ∨ Text.isDigit c = true) :
    Text.lower text ≠ "true" ∧ Text.lower text ≠ "false" := by
  have digits : ∀ n < 58, n = 45 ∨ 48 ≤ n →
      Char.ofNat n ≠ Text.capitalSigma ∧ (Char.ofNat n).toNat ≠ 0x130 ∧
        Text.lowerChar (Char.ofNat n) ≠ 't' ∧ Text.lowerChar (Char.ofNat n) ≠ 'f' := by
    decide +kernel
  have range : c.toNat < 58 ∧ (c.toNat = 45 ∨ 48 ≤ c.toNat) := by
    rcases used with rfl | digit
    · decide
    · simp only [Text.isDigit, Bool.and_eq_true, decide_eq_true_eq] at digit
      have least : 48 ≤ c.toNat := digit.1
      have most : c.toNat ≤ 57 := digit.2
      omega
  obtain ⟨noSigma, noDot, noT, noF⟩ := digits c.toNat range.1 range.2
  rw [Char.ofNat_toNat] at noSigma noDot noT noF
  have lower : (Text.lower text).toList = Text.lowerChar c :: Text.lowerList [c] cs := by
    rw [Text.lower, String.toList_ofList, written, Text.lowerList, Text.lowerAt, if_neg noSigma,
      if_neg noDot]
    rfl
  constructor
  · intro same
    rw [same] at lower
    exact noT (List.cons.inj lower).1.symm
  · intro same
    rw [same] at lower
    exact noF (List.cons.inj lower).1.symm

open Text in
theorem int?_digits (negative : Bool) (m : Nat) {cs : List Char}
    (written : cs = if negative then '-' :: Nat.toDigits 10 m else Nat.toDigits 10 m)
    (fits : Int64.minValue.toInt ≤ (if negative then -(m : Int) else m) ∧
      (if negative then -(m : Int) else m) ≤ Int64.maxValue.toInt) :
    int? cs = some (if negative then -(m : Int) else m) := by
  obtain ⟨d, ds, digits, digit⟩ := toDigits_cons m
  have all : (Nat.toDigits 10 m).all isDigit = true :=
    List.all_eq_true.mpr fun c member => isDigit_toDigits member
  have present : (Nat.toDigits 10 m).isEmpty = false :=
    List.isEmpty_eq_false_iff.mpr Nat.toDigits_ne_nil
  unfold int?
  split
  rename_i negative' ds' signed
  obtain ⟨rfl, rfl⟩ : negative = negative' ∧ Nat.toDigits 10 m = ds' := by
    cases negative with
    | true =>
      subst written
      cases signed
      exact ⟨rfl, rfl⟩
    | false =>
      subst written
      rw [if_neg (by decide), digits] at signed
      split at signed
      · rename_i same; cases same; cases digit
      · rename_i same; cases same; cases digit
      · cases signed
        exact ⟨rfl, digits⟩
  dsimp only
  rw [decimal_toDigits, all, present, decide_eq_true fits.1, decide_eq_true fits.2]
  rfl

/-- An integer of 64 bits in its usual form is written again as it was read. -/
theorem shown_int (n : Int64) : shown (toString n.toInt) = toString n.toInt := by
  have least := n.minValue_le_toInt
  have most := n.toInt_le
  generalize n.toInt = i at least most
  have written := toList_toString i
  have back : (if decide (i < 0) then -(i.natAbs : Int) else i.natAbs) = i := by
    by_cases negative : i < 0
    · rw [decide_eq_true negative, if_pos rfl]
      omega
    · rw [decide_eq_false negative, if_neg (by decide)]
      omega
  have read : int? (toString i).toList = some i := by
    have read := int?_digits (decide (i < 0)) i.natAbs
      (written.trans (by simp)) (by rw [back]; exact ⟨least, most⟩)
    rwa [back] at read
  obtain ⟨c, cs, first, used⟩ : ∃ c cs, (toString i).toList = c :: cs ∧
      (c = '-' ∨ Text.isDigit c = true) := by
    obtain ⟨d, ds, digits, digit⟩ := Text.toDigits_cons i.natAbs
    by_cases negative : i < 0
    · rw [if_pos negative] at written
      exact ⟨_, _, written, Or.inl rfl⟩
    · rw [if_neg negative, digits] at written
      exact ⟨d, ds, written, Or.inr digit⟩
  obtain ⟨noTrue, noFalse⟩ := not_truth first used
  have value : value (toString i) = .int i := by
    unfold Environment.value
    dsimp only
    rw [if_neg noTrue, if_neg noFalse, read]
  rw [shown, value]
  rfl

/-! ### Other numbers -/

theorem value_float {text : String} {x : Binary64}
    (noTruth : Text.lower text ≠ "true" ∧ Text.lower text ≠ "false") (noInt : int? text.toList = none)
    (read : Binary64.read? text.toList = some x) : value text = .float x := by
  unfold value
  dsimp only
  rw [if_neg noTruth.1, if_neg noTruth.2, noInt, read]

/-! ### All texts that are taken as they stand -/

/-- Texts that are written again as they were read. -/
inductive Kept : String → Prop
  | plain {text : String} (plain : Plain text) : Kept text
  | int (n : Int64) : Kept (toString n.toInt)
  | bool (b : Bool) : Kept (toString b)

theorem Kept.shown {text : String} (kept : Kept text) : shown text = text := by
  cases kept with
  | plain plain => exact plain.shown
  | int n => exact shown_int n
  | bool b => cases b <;> decide

end DeviceSessions.Environment
