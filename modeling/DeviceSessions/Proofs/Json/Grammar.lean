import DeviceSessions.Json.Resume
import DeviceSessions.Proofs.Json.RoundTrip

/-!
# The grammar of JSON

What stands in an input is a relation between the input, what is read there and the input behind it.
The reader follows this relation: what it reads stands there, and what stands there it reads, given a
step for every symbol of it. So there is at most one way to read an input.
-/

namespace DeviceSessions.Json

open Text

/-- What a stretch of input is read as. -/
inductive Part where
  | value (j : Json)
  | items (items : List Json)
  | entries (entries : List (Quoted × Json))

/-- The words that are values, by their first letters. -/
def words : List (Char × String × Json) :=
  [('n', "ull", .null), ('t', "rue", .bool true), ('f', "alse", .bool false)]

/-- `Reads cs part rest`: the input `cs` starts with `part`, and `rest` stands behind it. Items and
entries stand there up to the bracket or brace that closes them. -/
inductive Reads : List Symbol → Part → List Symbol → Prop
  | word {c : Char} {word : String} {j : Json} {rest : List Symbol} (known : (c, word, j) ∈ words) :
    Reads (some c :: (word.toList.map some ++ rest)) (.value j) rest
  | string {cs rest : List Symbol} {s : Quoted} (read : readQuoted cs = some (s, rest)) :
    Reads (some '"' :: cs) (.value (.string s)) rest
  | negative {cs rest : List Symbol} {n : Number} (read : readNumber true cs = some (n, rest)) :
    Reads (some '-' :: cs) (.value (.number n)) rest
  | digits {c : Char} {cs rest : List Symbol} {n : Number} (digit : isDigit c = true)
    (read : readNumber false (some c :: cs) = some (n, rest)) :
    Reads (some c :: cs) (.value (.number n)) rest
  | emptyArray {cs rest : List Symbol} (closes : skipSpace cs = some ']' :: rest) :
    Reads (some '[' :: cs) (.value (.array [])) rest
  | array {cs rest : List Symbol} {items : List Json} (inside : Reads (skipSpace cs) (.items items) rest) :
    Reads (some '[' :: cs) (.value (.array items)) rest
  | emptyObject {cs rest : List Symbol} (closes : skipSpace cs = some '\x7d' :: rest) :
    Reads (some '\x7b' :: cs) (.value (.object [])) rest
  | object {cs rest : List Symbol} {entries : List (Quoted × Json)}
    (inside : Reads (skipSpace cs) (.entries entries) rest) :
    Reads (some '\x7b' :: cs) (.value (.object entries)) rest
  | last {cs mid rest : List Symbol} {item : Json} (first : Reads cs (.value item) mid)
    (closes : skipSpace mid = some ']' :: rest) : Reads cs (.items [item]) rest
  | next {cs mid tail rest : List Symbol} {item : Json} {items : List Json}
    (first : Reads cs (.value item) mid) (comma : skipSpace mid = some ',' :: tail)
    (others : Reads (skipSpace tail) (.items items) rest) : Reads cs (.items (item :: items)) rest
  | lastEntry {cs mid tail behind rest : List Symbol} {key : Quoted} {value : Json}
    (named : readQuoted cs = some (key, mid)) (colon : skipSpace mid = some ':' :: tail)
    (first : Reads (skipSpace tail) (.value value) behind)
    (closes : skipSpace behind = some '\x7d' :: rest) :
    Reads (some '"' :: cs) (.entries [(key, value)]) rest
  | nextEntry {cs mid tail behind next rest : List Symbol} {key : Quoted} {value : Json}
    {entries : List (Quoted × Json)} (named : readQuoted cs = some (key, mid))
    (colon : skipSpace mid = some ':' :: tail) (first : Reads (skipSpace tail) (.value value) behind)
    (comma : skipSpace behind = some ',' :: next)
    (others : Reads (skipSpace next) (.entries entries) rest) :
    Reads (some '"' :: cs) (.entries ((key, value) :: entries)) rest

/-- That the reader reads this part with so many steps. -/
def Part.IsRead (fuel : Nat) (cs rest : List Symbol) : Part → Prop
  | .value j => readValue fuel cs = some (j, rest)
  | .items js => readItems fuel cs = some (js, rest)
  | .entries es => readEntries fuel cs = some (es, rest)

/-! ### What the reader reads stands there -/

theorem readWord_some {word : String} {cs rest : List Symbol} (h : readWord word cs = some rest) :
    cs = word.toList.map some ++ rest := by
  unfold readWord at h
  dsimp only at h
  split at h
  · rename_i front
    rw [← Option.some.inj h]
    exact List.prefix_iff_eq_append.mp (List.isPrefixOf_iff_prefix.mp front) |>.symm
  · cases h

theorem reads_word {c : Char} {word : String} {v j : Json} {cs rest : List Symbol}
    (known : (c, word, v) ∈ words) (h : (readWord word cs).map (v, ·) = some (j, rest)) :
    Reads (some c :: cs) (.value j) rest := by
  obtain ⟨tail, read, same⟩ := Option.map_eq_some_iff.mp h
  cases same
  rw [readWord_some read]
  exact .word known

section Steps

variable {fuel : Nat} {cs rest : List Symbol}

theorem reads_value {j : Json}
    (readsItems : ∀ {cs rest items}, readItems fuel cs = some (items, rest) → Reads cs (.items items) rest)
    (readsEntries : ∀ {cs rest entries}, readEntries fuel cs = some (entries, rest) →
      Reads cs (.entries entries) rest)
    (read : readValue (fuel + 1) cs = some (j, rest)) : Reads cs (.value j) rest := by
  rcases cs with _ | ⟨_ | c, cs⟩
  · cases read
  · cases read
  · rw [readValue] at read
    split at read
    · subst c
      obtain ⟨⟨s, tail⟩, quoted, same⟩ := Option.bind_eq_some_iff.mp read
      cases same
      exact .string quoted
    split at read
    · subst c
      split at read
      · rename_i closes
        cases read
        exact .emptyArray closes
      · obtain ⟨⟨items, tail⟩, inside, same⟩ := Option.bind_eq_some_iff.mp read
        cases same
        exact .array (readsItems inside)
    split at read
    · subst c
      split at read
      · rename_i closes
        cases read
        exact .emptyObject closes
      · obtain ⟨⟨entries, tail⟩, inside, same⟩ := Option.bind_eq_some_iff.mp read
        cases same
        exact .object (readsEntries inside)
    split at read
    · subst c
      obtain ⟨⟨n, tail⟩, number, same⟩ := Option.bind_eq_some_iff.mp read
      cases same
      exact .negative number
    split at read
    · rename_i digit
      obtain ⟨⟨n, tail⟩, number, same⟩ := Option.bind_eq_some_iff.mp read
      cases same
      exact .digits digit number
    split at read
    · subst c
      exact reads_word (by simp [words]) read
    split at read
    · subst c
      exact reads_word (by simp [words]) read
    split at read
    · subst c
      exact reads_word (by simp [words]) read
    · cases read

theorem reads_items {items : List Json}
    (readsValue : ∀ {cs rest j}, readValue fuel cs = some (j, rest) → Reads cs (.value j) rest)
    (readsItems : ∀ {cs rest items}, readItems fuel cs = some (items, rest) → Reads cs (.items items) rest)
    (read : readItems (fuel + 1) cs = some (items, rest)) : Reads cs (.items items) rest := by
  rw [readItems] at read
  obtain ⟨⟨item, mid⟩, first, read⟩ := Option.bind_eq_some_iff.mp read
  dsimp only at read
  split at read
  · rename_i closes
    cases read
    exact .last (readsValue first) closes
  · rename_i comma
    obtain ⟨⟨others, tail⟩, more, same⟩ := Option.bind_eq_some_iff.mp read
    cases same
    exact .next (readsValue first) comma (readsItems more)
  · cases read

theorem reads_entries {entries : List (Quoted × Json)}
    (readsValue : ∀ {cs rest j}, readValue fuel cs = some (j, rest) → Reads cs (.value j) rest)
    (readsEntries : ∀ {cs rest entries}, readEntries fuel cs = some (entries, rest) →
      Reads cs (.entries entries) rest)
    (read : readEntries (fuel + 1) cs = some (entries, rest)) : Reads cs (.entries entries) rest := by
  rw [readEntries.eq_def] at read
  dsimp only at read
  split at read
  · obtain ⟨⟨key, mid⟩, named, read⟩ := Option.bind_eq_some_iff.mp read
    dsimp only at read
    split at read
    · rename_i colon
      obtain ⟨⟨value, behind⟩, first, read⟩ := Option.bind_eq_some_iff.mp read
      dsimp only at read
      split at read
      · rename_i closes
        cases read
        exact .lastEntry named colon (readsValue first) closes
      · rename_i comma
        obtain ⟨⟨others, tail⟩, more, same⟩ := Option.bind_eq_some_iff.mp read
        cases same
        exact .nextEntry named colon (readsValue first) comma (readsEntries more)
      · cases read
    · cases read
  · cases read

end Steps

theorem reads_of_isRead (fuel : Nat) :
    ∀ (part : Part) {cs rest : List Symbol}, part.IsRead fuel cs rest → Reads cs part rest := by
  induction fuel with
  | zero =>
    intro part cs rest read
    cases part with
    | value j => cases cs <;> simp [Part.IsRead, readValue] at read
    | items items => simp [Part.IsRead, readItems] at read
    | entries entries => simp [Part.IsRead, readEntries] at read
  | succ fuel ih =>
    intro part cs rest read
    cases part with
    | value j => exact reads_value (fun h => ih (.items _) h) (fun h => ih (.entries _) h) read
    | items items => exact reads_items (fun h => ih (.value _) h) (fun h => ih (.items _) h) read
    | entries entries => exact reads_entries (fun h => ih (.value _) h) (fun h => ih (.entries _) h) read

/-! ### What is read is used up -/

/-- The characters of numbers. -/
def isNumeral (c : Char) : Bool := isDigit c || ".eE+-".toList.contains c

theorem readDigits_append_eq (cs : List Symbol) :
    (readDigits cs).1.map some ++ (readDigits cs).2 = cs ∧ ∀ c ∈ (readDigits cs).1, isDigit c = true := by
  fun_induction readDigits cs with
  | case1 c rest digit ds tail split ih =>
    rw [split] at ih
    refine ⟨by simp [ih.1], ?_⟩
    intro d member
    rcases List.mem_cons.mp member with rfl | behind
    · exact digit
    · exact ih.2 d behind
  | case2 c rest other => simp
  | case3 cs other => simp

theorem readNumber_cases {negative : Bool} {cs rest : List Symbol} {n : Number}
    (h : readNumber negative cs = some (n, rest)) :
    ∃ whole behind fraction tail exponent, readDigits cs = (whole, behind) ∧ whole ≠ [] ∧
      readFraction behind = some (fraction, tail) ∧ readExponent tail = some (exponent, rest) ∧
      n.plain = (fraction.isNone && exponent.isNone) := by
  unfold readNumber at h
  cases digits : readDigits cs with
  | mk whole behind =>
    rw [digits] at h
    dsimp only at h
    split at h
    · cases h
    · rename_i proper
      obtain ⟨⟨fraction, tail⟩, point, h⟩ := Option.bind_eq_some_iff.mp h
      obtain ⟨⟨exponent, last⟩, power, same⟩ := Option.bind_eq_some_iff.mp h
      cases same
      refine ⟨whole, behind, fraction, tail, exponent, rfl, ?_, point, power, rfl⟩
      rintro rfl
      simp at proper

/-- What a part of a number uses up. -/
def Numeric (cs rest : List Symbol) : Prop :=
  ∃ used : List Char, cs = used.map some ++ rest ∧ ∀ c ∈ used, isNumeral c = true

theorem numeric_readDigits {cs rest : List Symbol} {ds : List Char} (h : readDigits cs = (ds, rest)) :
    Numeric cs rest := by
  have same := readDigits_append_eq cs
  rw [h] at same
  exact ⟨ds, same.1.symm, fun c member => by simp [isNumeral, same.2 c member]⟩

theorem Numeric.trans {cs mid rest : List Symbol} (first : Numeric cs mid) (second : Numeric mid rest) :
    Numeric cs rest := by
  obtain ⟨used, rfl, numeral⟩ := first
  obtain ⟨more, rfl, numeral'⟩ := second
  refine ⟨used ++ more, by simp, fun c member => ?_⟩
  exact (List.mem_append.mp member).elim (numeral c) (numeral' c)

theorem Numeric.refl (cs : List Symbol) : Numeric cs cs := ⟨[], rfl, by simp⟩

theorem numeric_cons {c : Char} (numeral : isNumeral c = true) (cs : List Symbol) :
    Numeric (some c :: cs) cs := ⟨[c], rfl, by simpa using numeral⟩

theorem numeric_readFraction {cs rest : List Symbol} {fraction : Option (List Char)}
    (h : readFraction cs = some (fraction, rest)) : Numeric cs rest := by
  unfold readFraction at h
  split at h
  · rename_i tail
    dsimp only at h
    split at h
    · cases h
    · cases h
      exact (numeric_cons (by decide) _).trans (numeric_readDigits rfl)
  · cases h
    exact .refl _

/-- What an exponent is: a letter, perhaps a sign, and digits. -/
theorem readExponent_cases {cs rest : List Symbol} {exponent : Option Int}
    (h : readExponent cs = some (exponent, rest)) :
    (cs = rest ∧ ∀ c tail, rest = some c :: tail → ¬(c = 'e' ∨ c = 'E')) ∨
      exponent.isNone = false ∧ ∃ c tail digits, cs = some c :: tail ∧ (c = 'e' ∨ c = 'E') ∧
        rest = (readDigits digits).2 ∧
        (tail = some '-' :: digits ∨ tail = some '+' :: digits ∨
          (tail = digits ∧ ∀ t, tail ≠ some '+' :: t)) := by
  unfold readExponent at h
  split at h
  · rename_i c tail
    split at h
    · rename_i mark
      refine Or.inr ?_
      split at h
      rename_i sign
      dsimp only at h
      split at h
      · cases h
      · cases h
        split at sign
        · cases sign
          exact ⟨rfl, c, _, _, rfl, mark, rfl, Or.inl rfl⟩
        · cases sign
          exact ⟨rfl, c, _, _, rfl, mark, rfl, Or.inr (Or.inl rfl)⟩
        · rename_i plus
          cases sign
          exact ⟨rfl, c, _, _, rfl, mark, rfl, Or.inr (Or.inr ⟨rfl, plus⟩)⟩
    · rename_i mark
      cases h
      refine Or.inl ⟨rfl, fun d tail same => ?_⟩
      cases same
      exact mark
  · rename_i other
    cases h
    exact Or.inl ⟨rfl, fun d tail same => absurd same (other d tail)⟩

theorem numeric_readExponent {cs rest : List Symbol} {exponent : Option Int}
    (h : readExponent cs = some (exponent, rest)) : Numeric cs rest := by
  rcases readExponent_cases h with ⟨rfl, -⟩ | ⟨-, c, tail, digits, rfl, mark, rfl, sign⟩
  · exact .refl _
  · have numeral : isNumeral c = true := by rcases mark with rfl | rfl <;> decide
    refine (numeric_cons numeral _).trans ?_
    rcases sign with rfl | rfl | ⟨rfl, -⟩
    · exact (numeric_cons (by decide) _).trans (numeric_readDigits rfl)
    · exact (numeric_cons (by decide) _).trans (numeric_readDigits rfl)
    · exact numeric_readDigits rfl

theorem numeric_readNumber {negative : Bool} {cs rest : List Symbol} {n : Number}
    (h : readNumber negative cs = some (n, rest)) : Numeric cs rest := by
  obtain ⟨whole, behind, fraction, tail, exponent, digits, -, point, power, -⟩ := readNumber_cases h
  exact ((numeric_readDigits digits).trans (numeric_readFraction point)).trans (numeric_readExponent power)

theorem Numeric.length_le {cs rest : List Symbol} (h : Numeric cs rest) : rest.length ≤ cs.length := by
  obtain ⟨used, rfl, -⟩ := h
  simp

theorem length_readNumber {negative : Bool} {cs rest : List Symbol} {n : Number}
    (h : readNumber negative cs = some (n, rest)) : rest.length < cs.length := by
  obtain ⟨whole, behind, fraction, tail, exponent, digits, some, point, power, -⟩ := readNumber_cases h
  have front := readDigits_append_eq cs
  rw [digits] at front
  have later := ((numeric_readFraction point).trans (numeric_readExponent power)).length_le
  have size := congrArg List.length front.1
  have positive := List.length_pos_iff.mpr some
  simp only [List.length_append, List.length_map] at size
  omega

/-- `Quotes cs ps rest`: behind an opening quote, the input `cs` is a text of the pieces `ps`, and
`rest` stands behind its closing quote. -/
inductive Quotes : List Symbol → List Piece → List Symbol → Prop
  | closes {rest : List Symbol} : Quotes (some '"' :: rest) [] rest
  | unit {a b c d : Symbol} {tail rest : List Symbol} {n : Nat} {ps : List Piece}
    (hex : hexUnit? a b c d = some n) (more : Quotes tail ps rest) :
    Quotes (some '\\' :: some 'u' :: a :: b :: c :: d :: tail) (.unit n :: ps) rest
  | escape {e c : Char} {tail rest : List Symbol} {ps : List Piece} (known : simpleEscape? e = some c)
    (more : Quotes tail ps rest) : Quotes (some '\\' :: some e :: tail) (.char c :: ps) rest
  | stray {tail rest : List Symbol} {ps : List Piece} (more : Quotes tail ps rest) :
    Quotes (none :: tail) (.stray :: ps) rest
  | char {c : Char} {tail rest : List Symbol} {ps : List Piece} (quote : c ≠ '"') (slash : c ≠ '\\')
    (more : Quotes tail ps rest) : Quotes (some c :: tail) (.char c :: ps) rest

theorem quotes_of_readPieces {cs rest : List Symbol} {ps : List Piece}
    (h : readPieces cs = some (ps, rest)) : Quotes cs ps rest := by
  fun_induction readPieces cs generalizing ps rest with
  | case1 => cases h
  | case2 tail =>
    cases h
    exact .closes
  | case3 a b c d tail ih =>
    simp only [Option.bind_eq_bind, Option.bind_eq_some_iff] at h
    obtain ⟨p, first, q, second, r, third, s, fourth, ⟨more, tail'⟩, read, same⟩ := h
    cases same
    exact .unit (by simp [hexUnit?, first, second, third, fourth]) (ih read)
  | case4 e tail other ih =>
    obtain ⟨c, known, h⟩ := Option.bind_eq_some_iff.mp h
    obtain ⟨⟨more, tail'⟩, read, same⟩ := Option.bind_eq_some_iff.mp h
    cases same
    exact .escape known (ih read)
  | case5 tail ih =>
    obtain ⟨⟨more, tail'⟩, read, same⟩ := Option.bind_eq_some_iff.mp h
    cases same
    exact .stray (ih read)
  | case6 => cases h
  | case7 c tail quote _ _ plain ih =>
    obtain ⟨⟨more, tail'⟩, read, same⟩ := Option.bind_eq_some_iff.mp h
    cases same
    exact .char quote (fun same => plain (Or.inl same)) (ih read)

theorem Quotes.of_unit {a b c d : Symbol} {tail rest : List Symbol} {ps : List Piece}
    (h : Quotes (some '\\' :: some 'u' :: a :: b :: c :: d :: tail) ps rest) :
    ∃ n more, hexUnit? a b c d = some n ∧ ps = .unit n :: more ∧ Quotes tail more rest := by
  cases h with
  | unit hex more => exact ⟨_, _, hex, rfl, more⟩
  | escape known _ => cases known
  | char _ slash _ => exact absurd rfl slash

theorem Quotes.of_hex {a b c d : Symbol} {tail rest : List Symbol} {ps : List Piece} {n : Nat}
    (h : Quotes (some '\\' :: some 'u' :: a :: b :: c :: d :: tail) ps rest)
    (hex : hexUnit? a b c d = some n) : ∃ more, ps = .unit n :: more ∧ Quotes tail more rest := by
  obtain ⟨m, more, read, rfl, behind⟩ := h.of_unit
  cases hex.symm.trans read
  exact ⟨more, rfl, behind⟩

theorem Quotes.of_escape {s : Symbol} {tail rest : List Symbol} {ps : List Piece}
    (h : Quotes (some '\\' :: s :: tail) ps rest)
    (single : ∀ a b c d cs, s = some 'u' → tail = a :: b :: c :: d :: cs → False) :
    ∃ c more, ps = .char c :: more ∧ Quotes tail more rest := by
  cases h with
  | unit => exact absurd rfl (single _ _ _ _ _ rfl)
  | escape _ more => exact ⟨_, _, rfl, more⟩
  | char _ slash _ => exact absurd rfl slash

theorem Quotes.of_other {s : Symbol} {tail rest : List Symbol} {ps : List Piece}
    (h : Quotes (s :: tail) ps rest) (quote : s ≠ some '"') (slash : s ≠ some '\\') :
    ∃ p more, ps = p :: more ∧ (∀ n, p ≠ .unit n) ∧ Quotes tail more rest := by
  cases h with
  | closes => exact absurd rfl quote
  | unit => exact absurd rfl slash
  | escape => exact absurd rfl slash
  | stray more => exact ⟨_, _, rfl, by simp, more⟩
  | char _ _ more => exact ⟨_, _, rfl, by simp, more⟩

theorem quotes_of_readQuoted {cs rest : List Symbol} {s : Quoted} (h : readQuoted cs = some (s, rest)) :
    ∃ ps, Quotes cs ps rest ∧ s = quotedOf ps := by
  obtain ⟨⟨ps, tail⟩, read, same⟩ := Option.bind_eq_some_iff.mp h
  cases same
  exact ⟨ps, quotes_of_readPieces read, rfl⟩

theorem Quotes.length_lt {cs rest : List Symbol} {ps : List Piece} (h : Quotes cs ps rest) :
    rest.length < cs.length := by
  induction h with
  | closes => simp
  | unit _ _ ih | escape _ _ ih | stray _ ih | char _ _ _ ih =>
    simp only [List.length_cons]
    omega

theorem length_skipSpace_le (cs : List Symbol) : (skipSpace cs).length ≤ cs.length :=
  (List.dropWhile_suffix _).length_le

theorem length_behind {cs tail : List Symbol} {c : Symbol} (front : skipSpace cs = c :: tail) :
    tail.length < cs.length := by
  have least := length_skipSpace_le cs
  rw [front, List.length_cons] at least
  omega

theorem length_next {cs tail : List Symbol} {c : Symbol} (front : skipSpace cs = c :: tail) :
    (skipSpace tail).length < cs.length :=
  Nat.lt_of_le_of_lt (length_skipSpace_le tail) (length_behind front)

theorem length_named {cs mid tail : List Symbol} {key : Quoted} {c : Symbol}
    (named : readQuoted cs = some (key, mid)) (colon : skipSpace mid = c :: tail) :
    (skipSpace tail).length < cs.length := by
  obtain ⟨ps, quotes, -⟩ := quotes_of_readQuoted named
  exact Nat.lt_trans (length_next colon) quotes.length_lt

theorem Reads.length_lt {cs rest : List Symbol} {part : Part} (h : Reads cs part rest) :
    rest.length < cs.length := by
  induction h with
  | word =>
    simp only [List.length_cons, List.length_append]
    omega
  | string read =>
    obtain ⟨ps, quotes, -⟩ := quotes_of_readQuoted read
    exact Nat.lt_succ_of_lt quotes.length_lt
  | negative read => exact Nat.lt_succ_of_lt (length_readNumber read)
  | digits _ read => exact length_readNumber read
  | emptyArray closes | emptyObject closes => exact Nat.lt_succ_of_lt (length_behind closes)
  | array _ ih | object _ ih =>
    exact Nat.lt_succ_of_lt (Nat.lt_of_lt_of_le ih (length_skipSpace_le _))
  | last _ closes ih => exact Nat.lt_trans (length_behind closes) ih
  | next _ comma _ ih ih' => exact Nat.lt_trans ih' (Nat.lt_trans (length_next comma) ih)
  | lastEntry named colon _ closes ih =>
    have value := Nat.lt_trans ih (length_named named colon)
    exact Nat.lt_succ_of_lt (Nat.lt_trans (length_behind closes) value)
  | nextEntry named colon _ comma _ ih ih' =>
    have value := Nat.lt_trans ih (length_named named colon)
    exact Nat.lt_succ_of_lt (Nat.lt_trans ih' (Nat.lt_trans (length_next comma) value))

/-! ### The reader reads what stands there -/

/-- The items of a list start with a value. -/
theorem Reads.starts {cs rest : List Symbol} {part : Part} (h : Reads cs part rest) :
    ∃ c tail, cs = some c :: tail ∧ startsValue c = true := by
  induction h with
  | @word c word j rest known =>
    refine ⟨c, _, rfl, ?_⟩
    simp only [words, List.mem_cons, List.not_mem_nil, or_false, Prod.mk.injEq] at known
    rcases known with ⟨rfl, -⟩ | ⟨rfl, -⟩ | ⟨rfl, -⟩ <;> decide
  | digits digit _ => exact ⟨_, _, rfl, by simp [startsValue, digit]⟩
  | last _ _ ih => exact ih
  | next _ _ _ ih _ => exact ih
  | _ => exact ⟨_, _, rfl, by decide⟩

theorem Reads.starts_entries {cs rest : List Symbol} {entries : List (Quoted × Json)}
    (h : Reads cs (.entries entries) rest) : ∃ tail, cs = some '"' :: tail := by
  cases h with
  | lastEntry => exact ⟨_, rfl⟩
  | nextEntry => exact ⟨_, rfl⟩

theorem readValue_word {c : Char} {word : String} {j : Json} (known : (c, word, j) ∈ words) (fuel : Nat)
    (rest : List Symbol) :
    readValue (fuel + 1) (some c :: (word.toList.map some ++ rest)) = some (j, rest) := by
  have read := readWord_append word rest
  simp only [words, List.mem_cons, List.not_mem_nil, or_false, Prod.mk.injEq] at known
  rcases known with ⟨rfl, rfl, rfl⟩ | ⟨rfl, rfl, rfl⟩ | ⟨rfl, rfl, rfl⟩ <;>
    (simp [readValue, isDigit]; exact read)

theorem readValue_digits {c : Char} {cs rest : List Symbol} {n : Number} (digit : isDigit c = true)
    (read : readNumber false (some c :: cs) = some (n, rest)) (fuel : Nat) :
    readValue (fuel + 1) (some c :: cs) = some (.number n, rest) := by
  have other : ∀ d, isDigit d = false → c ≠ d := by
    rintro d foreign rfl
    rw [digit] at foreign
    cases foreign
  simp [readValue, read, other '"' (by decide), other '[' (by decide), other '\x7b' (by decide),
    other '-' (by decide), digit]

/-- Every step of the reader uses up a symbol. -/
theorem Reads.isRead {cs rest : List Symbol} {part : Part} (h : Reads cs part rest) {fuel : Nat}
    (enough : cs.length ≤ fuel + rest.length) : part.IsRead fuel cs rest := by
  have less := h.length_lt
  -- The steps are counted down, as the reader does; `less` leaves one for the part itself.
  induction fuel generalizing cs rest part with
  | zero => omega
  | succ fuel ih =>
    cases h with
    | word known => exact readValue_word known fuel _
    | string read => simp [Part.IsRead, readValue, read]
    | negative read => simp [Part.IsRead, readValue, read]
    | digits digit read => exact readValue_digits digit read fuel
    | emptyArray closes => simp [Part.IsRead, readValue, closes]
    | emptyObject closes => simp [Part.IsRead, readValue, closes]
    | @array cs _ _ inside =>
      have least := length_skipSpace_le cs
      simp only [List.length_cons] at enough
      obtain ⟨c, tail, front, starts⟩ := inside.starts
      have read := ih inside (by omega) inside.length_lt
      rw [front] at read
      exact readValue_array front starts read
    | @object cs _ _ inside =>
      have least := length_skipSpace_le cs
      simp only [List.length_cons] at enough
      obtain ⟨tail, front⟩ := inside.starts_entries
      have read := ih inside (by omega) inside.length_lt
      rw [front] at read
      exact readValue_object front read
    | last first closes =>
      have behind := length_behind closes
      exact readItems_last (ih first (by omega) first.length_lt) closes
    | next first comma others =>
      have inner := first.length_lt
      have more := others.length_lt
      have behind := length_next comma
      exact readItems_next (ih first (by omega) inner) comma (ih others (by omega) more)
    | lastEntry named colon first closes =>
      have value := length_named named colon
      have behind := length_behind closes
      simp only [List.length_cons] at enough
      exact readEntries_last named colon (ih first (by omega) first.length_lt) closes
    | nextEntry named colon first comma others =>
      have value := length_named named colon
      have inner := first.length_lt
      have more := others.length_lt
      have behind := length_next comma
      simp only [List.length_cons] at enough
      exact readEntries_next named colon (ih first (by omega) inner) comma (ih others (by omega) more)

/-- Two readings of one input agree, whatever steps they were given. -/
theorem readValue_unique {fuel fuel' : Nat} {cs rest rest' : List Symbol} {j j' : Json}
    (h : readValue fuel cs = some (j, rest)) (h' : readValue fuel' cs = some (j', rest')) :
    j' = j ∧ rest' = rest := by
  have read : readValue (cs.length) cs = some (j, rest) :=
    (reads_of_isRead fuel (.value j) h).isRead (by omega)
  have read' : readValue (cs.length) cs = some (j', rest') :=
    (reads_of_isRead fuel' (.value j') h').isRead (by omega)
  rw [read] at read'
  cases read'
  exact ⟨rfl, rfl⟩

end DeviceSessions.Json
