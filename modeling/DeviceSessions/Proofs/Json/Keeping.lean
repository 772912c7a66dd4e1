import DeviceSessions.Proofs.Json.Passing

/-!
# Values that are passed over safely

A value without exponents and without halves of surrogate pairs is passed over up to its end. If its
numbers are in range and it does not nest too deep, it is kept as it stands.
-/

namespace DeviceSessions.Json

open Text

section

variable {cs mid tail rest : List Symbol}

theorem no_fault_of_text {q : Quoted} (read : readQuoted cs = some (q, rest))
    (whole : q ≠ .loneSurrogate) : quotedFault? cs = none := by
  obtain ⟨ps, quotes, rfl⟩ := quotes_of_readQuoted read
  cases fault : quotedFault? cs with
  | none => rfl
  | some stop =>
    refine absurd ?_ whole
    unfold quotedOf
    rw [joinPieces_of_fault fault quotes]

theorem passQuoted_text {q : Quoted} (read : readQuoted cs = some (q, rest)) (whole : q ≠ .loneSurrogate) :
    passQuoted cs = (q.text?.map ofText, rest) := by
  unfold passQuoted
  rw [no_fault_of_text read whole, read]

/-- A value without parts, whose text is of characters and whose number has no exponent. -/
def Plain : Json → Prop
  | .number n => n.plain = true
  | .string q => q.text?.isSome
  | .array items => items = []
  | .object entries => entries = []
  | .null | .bool _ => True

theorem whole_of_text {q : Quoted} (text : q.text?.isSome) : q ≠ .loneSurrogate := by
  rintro rfl
  cases text

theorem Reads.items_ne_nil {items : List Json} (h : Reads cs (.items items) rest) : items ≠ [] := by
  generalize part : Part.items items = p at h
  cases h <;> cases part <;> simp

theorem Reads.entries_ne_nil {entries : List (Quoted × Json)} (h : Reads cs (.entries entries) rest) :
    entries ≠ [] := by
  generalize part : Part.entries entries = p at h
  cases h <;> cases part <;> simp

theorem Reads.passScalar_plain {j : Json} (reads : Reads cs (.value j) rest) (plain : Plain j)
    (breaks : Breaks rest) : (passScalar cs).2 = rest := by
  cases reads with
  | word known =>
    have read := passValue_word known 0 0 rest
    unfold passScalar
    simp only [words, List.mem_cons, List.not_mem_nil, or_false, Prod.mk.injEq] at known
    rcases known with ⟨rfl, rfl, rfl⟩ | ⟨rfl, rfl, rfl⟩ | ⟨rfl, rfl, rfl⟩ <;> exact congrArg Prod.snd read
  | string read =>
    change (passQuoted _).2 = rest
    rw [passQuoted_text read (whole_of_text plain)]
  | negative read =>
    change (passNumber ([some '-'] ++ _)).2 = rest
    rw [passNumber_plain (signed_minus _) read plain breaks]
  | @digits c cs rest n digit read =>
    have number : passScalar (some c :: cs) = passNumber (some c :: cs) := by
      rw [passScalar, passValue_digits digit]
      all_goals
        rintro tail same
        cases same
        exact absurd digit (by decide)
    rw [number]
    exact congrArg Prod.snd (passNumber_plain (signed_digits digit _) read plain breaks)
  | emptyArray front => simp [passScalar, leaveList, front]
  | emptyObject front => simp [passScalar, leaveObject, front]
  | array inside => exact absurd plain inside.items_ne_nil
  | object inside => exact absurd plain inside.entries_ne_nil

/-- A part that can be kept: its texts are of characters, its numbers have no exponents and are in
range, and it does not nest too deep. -/
def Part.Whole (bound : Nat) : Part → Prop
  | .value j => Faithful j ∧ isSound bound j = true
  | .items js => FaithfulItems js ∧ areSound bound js = true
  | .entries es => FaithfulEntries es ∧ entriesSound bound es = true

namespace Part.Whole

variable {bound : Nat} {js : List Json} {es : List (Quoted × Json)} {key : Quoted} {j : Json}

theorem number {n : Number} (whole : (Part.value (.number n)).Whole bound) :
    n.plain = true ∧ n.float?.isSome := by
  obtain ⟨simple, range⟩ := whole
  rw [Faithful] at simple
  rw [isSound] at range
  exact ⟨simple.1, range⟩

theorem array (whole : (Part.value (.array js)).Whole bound) :
    ∃ less, bound = less + 1 ∧ (Part.items js).Whole less := by
  obtain ⟨faithful, deep⟩ := whole
  rw [Faithful] at faithful
  rw [isSound, Bool.and_eq_true, decide_eq_true_eq] at deep
  exact ⟨bound - 1, by omega, faithful, deep.2⟩

theorem object (whole : (Part.value (.object es)).Whole bound) :
    ∃ less, bound = less + 1 ∧ (Part.entries es).Whole less := by
  obtain ⟨faithful, deep⟩ := whole
  rw [Faithful] at faithful
  rw [isSound, Bool.and_eq_true, decide_eq_true_eq] at deep
  exact ⟨bound - 1, by omega, faithful, deep.2⟩

theorem items (whole : (Part.items (j :: js)).Whole bound) :
    (Part.value j).Whole bound ∧ (Part.items js).Whole bound := by
  obtain ⟨faithful, deep⟩ := whole
  rw [FaithfulItems] at faithful
  rw [areSound, Bool.and_eq_true] at deep
  exact ⟨⟨faithful.1, deep.1⟩, faithful.2, deep.2⟩

theorem entries (whole : (Part.entries ((key, j) :: es)).Whole bound) :
    key.text?.isSome ∧ (Part.value j).Whole bound ∧ (Part.entries es).Whole bound := by
  obtain ⟨faithful, deep⟩ := whole
  rw [FaithfulEntries] at faithful
  rw [entriesSound, Bool.and_eq_true, Bool.and_eq_true] at deep
  exact ⟨faithful.1, ⟨faithful.2.1, deep.1.2⟩, faithful.2.2, deep.2⟩

end Part.Whole

/-- That a part is kept as it stands. -/
def Part.IsKept (fuel bound : Nat) (cs rest : List Symbol) : Part → Prop
  | .value j => Breaks rest → passValue fuel bound cs = (some j, rest)
  | .items js => passItems fuel bound cs = (some js, rest)
  | .entries es => passEntries fuel bound cs = (some es, rest)

theorem passQuoted_whole {q : Quoted} (read : readQuoted cs = some (q, rest)) (text : q.text?.isSome) :
    passQuoted cs = (some (.string q), rest) := by
  rw [passQuoted_text read (whole_of_text text)]
  cases q with
  | text s => rfl
  | strayBytes => cases text
  | loneSurrogate => cases text

section Steps

variable {fuel bound : Nat} {item value : Json} {items : List Json} {key : Quoted}
  {entries : List (Quoted × Json)} {behind next : List Symbol}

theorem passValue_array {c : Char} (front : skipSpace cs = some c :: tail) (starts : startsValue c = true)
    (inside : passItems fuel bound (skipSpace cs) = (some items, rest)) :
    passValue (fuel + 1) (bound + 1) (some '[' :: cs) = (some (.array items), rest) := by
  obtain ⟨-, bracket, -⟩ := not_startsValue starts
  rw [front] at inside
  simp [passValue, front, bracket, inside]

theorem passValue_object (front : skipSpace cs = some '"' :: tail)
    (inside : passEntries fuel bound (skipSpace cs) = (some entries, rest)) :
    passValue (fuel + 1) (bound + 1) (some '\x7b' :: cs) = (some (.object entries), rest) := by
  rw [front] at inside
  simp [passValue, front, inside]

theorem passItems_last (first : passValue fuel bound cs = (some item, mid))
    (front : skipSpace mid = some ']' :: rest) :
    passItems (fuel + 1) bound cs = (some [item], rest) := by
  simp [passItems, first, front]

theorem passItems_next (first : passValue fuel bound cs = (some item, mid))
    (front : skipSpace mid = some ',' :: tail)
    (others : passItems fuel bound (skipSpace tail) = (some items, rest)) :
    passItems (fuel + 1) bound cs = (some (item :: items), rest) := by
  simp [passItems, first, front, others]

theorem passEntries_last (named : passQuoted cs = (some (.string key), mid))
    (colon : skipSpace mid = some ':' :: tail)
    (first : passValue fuel bound (skipSpace tail) = (some value, behind))
    (front : skipSpace behind = some '\x7d' :: rest) :
    passEntries (fuel + 1) bound (some '"' :: cs) = (some [(key, value)], rest) := by
  simp [passEntries, named, colon, first, front]

theorem passEntries_next (named : passQuoted cs = (some (.string key), mid))
    (colon : skipSpace mid = some ':' :: tail)
    (first : passValue fuel bound (skipSpace tail) = (some value, behind))
    (front : skipSpace behind = some ',' :: next)
    (others : passEntries fuel bound (skipSpace next) = (some entries, rest)) :
    passEntries (fuel + 1) bound (some '"' :: cs) = (some ((key, value) :: entries), rest) := by
  simp [passEntries, named, colon, first, front, others]

end Steps

theorem passNumber_whole {negative : Bool} {sign ds : List Symbol} {n : Number}
    (signed : Signed negative sign ds) (read : readNumber negative ds = some (n, rest))
    (plain : n.plain = true) (range : n.float?.isSome) (breaks : Breaks rest) :
    passNumber (sign ++ ds) = (some (.number n), rest) := by
  rw [passNumber_plain signed read plain breaks]
  cases float : n.float? with
  | none => rw [float] at range; cases range
  | some x => rfl

/-- Every step that keeps a part uses up a symbol. -/
theorem Reads.isKept {part : Part} (h : Reads cs part rest) {fuel bound : Nat} (whole : part.Whole bound)
    (enough : cs.length ≤ fuel + rest.length) : part.IsKept fuel bound cs rest := by
  have less := h.length_lt
  induction fuel generalizing cs rest part bound with
  | zero => omega
  | succ fuel ih =>
    cases h with
    | word known => exact fun _ => passValue_word known fuel bound _
    | string read =>
      obtain ⟨text, -⟩ := whole
      rw [Faithful] at text
      exact fun _ => passQuoted_whole read text
    | negative read =>
      obtain ⟨plain, range⟩ := whole.number
      exact passNumber_whole (signed_minus _) read plain range
    | digits digit read =>
      obtain ⟨plain, range⟩ := whole.number
      intro breaks
      rw [passValue_digits digit]
      exact passNumber_whole (signed_digits digit _) read plain range breaks
    | emptyArray front =>
      obtain ⟨bound, rfl, -⟩ := whole.array
      exact fun _ => by simp [passValue, front]
    | emptyObject front =>
      obtain ⟨bound, rfl, -⟩ := whole.object
      exact fun _ => by simp [passValue, front]
    | @array cs _ _ inside =>
      obtain ⟨bound, rfl, whole⟩ := whole.array
      have least := length_skipSpace_le cs
      simp only [List.length_cons] at enough
      obtain ⟨c, tail, front, starts⟩ := inside.starts
      exact fun _ => passValue_array front starts (ih inside whole (by omega) inside.length_lt)
    | @object cs _ _ inside =>
      obtain ⟨bound, rfl, whole⟩ := whole.object
      have least := length_skipSpace_le cs
      simp only [List.length_cons] at enough
      obtain ⟨tail, front⟩ := inside.starts_entries
      exact fun _ => passValue_object front (ih inside whole (by omega) inside.length_lt)
    | last first front =>
      have behind := length_behind front
      have breaks := breaks_of_skipSpace front (by decide)
      exact passItems_last (ih first whole.items.1 (by omega) first.length_lt breaks) front
    | next first front others =>
      have inner := first.length_lt
      have more := others.length_lt
      have behind := length_next front
      have breaks := breaks_of_skipSpace front (by decide)
      exact passItems_next (ih first whole.items.1 (by omega) inner breaks) front
        (ih others whole.items.2 (by omega) more)
    | lastEntry named colon first front =>
      obtain ⟨text, value, -⟩ := whole.entries
      have start := length_named named colon
      have behind := length_behind front
      have breaks := breaks_of_skipSpace front (by decide)
      simp only [List.length_cons] at enough
      exact passEntries_last (passQuoted_whole named text) colon
        (ih first value (by omega) first.length_lt breaks) front
    | nextEntry named colon first front others =>
      obtain ⟨text, value, rest⟩ := whole.entries
      have start := length_named named colon
      have inner := first.length_lt
      have more := others.length_lt
      have behind := length_next front
      have breaks := breaks_of_skipSpace front (by decide)
      simp only [List.length_cons] at enough
      exact passEntries_next (passQuoted_whole named text) colon (ih first value (by omega) inner breaks)
        front (ih others rest (by omega) more)

end

end DeviceSessions.Json
