import DeviceSessions.Json.Reader
import DeviceSessions.Json.Writer
import DeviceSessions.Proofs.Text

/-!
# JSON round trip

What is written in the shortest form is read back, whatever stands behind it, as long as that does
not go on with a number.
-/

namespace DeviceSessions.Json

open Text

/-! ### Quoted texts -/

/-- The piece that the written form of a character is read as. -/
def pieceOf (c : Char) : Piece :=
  if c.toNat < 0x20 ∧ c ≠ '\n' ∧ c ≠ '\r' ∧ c ≠ '\t' ∧ c ≠ '\x08' ∧ c ≠ '\x0c' then .unit c.toNat
  else .char c

theorem hexSymbol?_hexDigit : ∀ n < 16, hexSymbol? (some (Bytes.hexDigit n)) = some n := by decide

/-- A written character is read as one piece. -/
theorem readPieces_escapeChar (c : Char) (cs : List Symbol) :
    readPieces ((escapeChar c).map some ++ cs) =
      (readPieces cs).map fun (pieces, rest) => (pieceOf c :: pieces, rest) := by
  by_cases quote : c = '"'
  · subst quote
    simp [escapeChar, pieceOf, readPieces, simpleEscape?, Option.map_eq_bind, Function.comp_def]
  by_cases slash : c = '\\'
  · subst slash
    simp [escapeChar, pieceOf, readPieces, simpleEscape?, Option.map_eq_bind, Function.comp_def]
  by_cases named : c ∈ ['\n', '\r', '\t', '\x08', '\x0c']
  · simp only [List.mem_cons, List.not_mem_nil, or_false] at named
    rcases named with rfl | rfl | rfl | rfl | rfl <;>
      simp [escapeChar, pieceOf, readPieces, simpleEscape?, Option.map_eq_bind, Function.comp_def]
  · simp only [List.mem_cons, List.not_mem_nil, or_false, not_or] at named
    obtain ⟨n, r, t, b, f⟩ := named
    by_cases control : c.toNat < 0x20
    · have escape : escapeChar c = ['\\', 'u', '0', '0'] ++ Bytes.hexPair (UInt8.ofNat c.toNat) := by
        simp only [escapeChar, quote, slash, n, r, t, b, f, control, if_false, if_true]
      have piece : pieceOf c = .unit c.toNat := by simp [pieceOf, control, n, r, t, b, f]
      have byte : (UInt8.ofNat c.toNat).toNat = c.toNat := by
        rw [UInt8.toNat_ofNat']
        omega
      have zero := hexSymbol?_hexDigit 0 (by decide)
      have high := hexSymbol?_hexDigit (c.toNat / 16) (by omega)
      have low := hexSymbol?_hexDigit (c.toNat % 16) (by omega)
      have value : 4096 * 0 + 256 * 0 + 16 * (c.toNat / 16) + c.toNat % 16 = c.toNat := by omega
      rw [escape, piece, Bytes.hexPair, byte]
      change readPieces (some '\\' :: some 'u' :: some (Bytes.hexDigit 0) ::
        some (Bytes.hexDigit 0) :: some (Bytes.hexDigit (c.toNat / 16)) ::
        some (Bytes.hexDigit (c.toNat % 16)) :: cs) = _
      simp only [readPieces, zero, high, low, value, Option.bind_eq_bind, Option.bind_some]
      cases readPieces cs <;> rfl
    · have escape : escapeChar c = [c] := by
        simp only [escapeChar, quote, slash, n, r, t, b, f, control, if_false]
      have piece : pieceOf c = .char c := by simp [pieceOf, control]
      rw [escape, piece]
      change readPieces (some c :: cs) = _
      rw [readPieces]
      · rw [if_neg (by simp only [slash, control, or_self, not_false_iff])]
        cases readPieces cs <;> rfl
      · exact fun same => quote same
      · intros
        exact slash (by assumption)
      · intros
        exact slash (by assumption)

theorem readPieces_escaped (cs : List Char) (rest : List Symbol) :
    readPieces ((cs.flatMap escapeChar).map some ++ some '"' :: rest) =
      some (cs.map pieceOf, rest) := by
  induction cs with
  | nil => simp [readPieces]
  | cons c cs ih =>
    rw [List.flatMap_cons, List.map_append, List.append_assoc, readPieces_escapeChar, ih]
    rfl

/-- A unit that is no half of a pair stands for itself, whatever is behind it. -/
theorem joinPieces_unit {n : Nat} (single : ¬(0xd800 ≤ n ∧ n < 0xe000)) (pieces : List Piece) :
    joinPieces (.unit n :: pieces) = (joinPieces pieces).map (some (Char.ofNat n) :: ·) := by
  have low : ¬(0xd800 ≤ n ∧ n < 0xdc00) := by omega
  have high : ¬(0xdc00 ≤ n ∧ n < 0xe000) := by omega
  rcases pieces with _ | ⟨_ | _ | _, rest⟩
  · simp only [joinPieces, single, if_false]
  · simp only [joinPieces, single, if_false]
  · rw [joinPieces, if_neg low, if_neg high]
  · simp only [joinPieces, single, if_false]

theorem pieceOf_cases (c : Char) :
    pieceOf c = .char c ∨ (pieceOf c = .unit c.toNat ∧ c.toNat < 0x20) := by
  unfold pieceOf
  split
  · exact Or.inr ⟨rfl, (‹_ ∧ _›).1⟩
  · exact Or.inl rfl

theorem joinPieces_pieceOf (cs : List Char) : joinPieces (cs.map pieceOf) = some (cs.map some) := by
  induction cs with
  | nil => rfl
  | cons c cs ih =>
    rw [List.map_cons, List.map_cons]
    rcases pieceOf_cases c with plain | ⟨unit, control⟩
    · rw [plain, joinPieces, ih]
      rfl
    · rw [unit, joinPieces_unit (by omega), ih, Char.ofNat_toNat]
      rfl

theorem mapM_id_map_some (cs : List Char) : (cs.map some).mapM (id : Symbol → Symbol) = some cs := by
  induction cs with
  | nil => rfl
  | cons c cs ih =>
    rw [List.map_cons, List.mapM_cons, ih]
    rfl

theorem readQuoted_writeText (s : String) (rest : List Symbol) :
    readQuoted ((s.toList.flatMap escapeChar).map some ++ some '"' :: rest) =
      some (.text s, rest) := by
  unfold readQuoted
  rw [readPieces_escaped]
  simp only [Option.bind_eq_bind, Option.bind_some, quotedOf, joinPieces_pieceOf, mapM_id_map_some,
    String.ofList_toList]
  rfl

/-! ### Numbers -/

/-- Input that does not go on with a number. -/
def EndsNumber (cs : List Symbol) : Prop :=
  ∀ c rest, cs = some c :: rest → isDigit c = false ∧ c ≠ '.' ∧ c ≠ 'e' ∧ c ≠ 'E'

theorem readDigits_append {ds : List Char} {rest : List Symbol} (digits : ∀ c ∈ ds, isDigit c = true)
    (ends : ∀ c cs, rest = some c :: cs → isDigit c = false) :
    readDigits (ds.map some ++ rest) = (ds, rest) := by
  induction ds with
  | nil =>
    cases rest with
    | nil => rfl
    | cons x cs =>
      cases x with
      | none => rfl
      | some c => simp [readDigits, ends c cs rfl]
  | cons d ds ih =>
    have rest := ih fun c member => digits c (List.mem_cons_of_mem _ member)
    rw [List.map_cons, List.cons_append, readDigits, if_pos (digits d List.mem_cons_self), rest]

/-- A number that was written without a point and without an exponent. -/
def Number.Simple (n : Number) : Prop := n.plain = true ∧ n.scale = 0

theorem readNumber_toDigits {n : Number} {rest : List Symbol} (simple : n.Simple)
    (ends : EndsNumber rest) :
    readNumber n.negative ((Nat.toDigits 10 n.digits).map some ++ rest) = some (n, rest) := by
  have digits := readDigits_append (fun _ => isDigit_toDigits (n := n.digits))
    (fun c cs found => (ends c cs found).1)
  have present : (Nat.toDigits 10 n.digits).isEmpty = false :=
    List.isEmpty_eq_false_iff.mpr Nat.toDigits_ne_nil
  have fraction : readFraction rest = some (none, rest) := by
    unfold readFraction
    split
    · rename_i found
      exact absurd rfl (ends _ _ rfl).2.1
    · rfl
  have exponent : readExponent rest = some (none, rest) := by
    unfold readExponent
    split
    · rename_i c cs
      rw [if_neg]
      exact fun h => h.elim (ends c cs rfl).2.2.1 (ends c cs rfl).2.2.2
    · rfl
  have front : ((Nat.toDigits 10 n.digits).head? == some '0' &&
      decide ((Nat.toDigits 10 n.digits).length ≠ 1)) = false := by
    by_cases long : (Nat.toDigits 10 n.digits).length ≠ 1
    · simp [head?_toDigits long]
    · simp [long]
  obtain ⟨plain, scale⟩ := simple
  have decimal : decimal (Nat.toDigits 10 n.digits ++ []) = n.digits := by
    rw [List.append_nil, decimal_toDigits]
  unfold readNumber
  rw [digits]
  simp only [present, front, fraction, exponent, Bool.or_self, Bool.false_eq_true, if_false,
    Option.bind_eq_bind, Option.bind_some, Option.getD_none, decimal]
  obtain ⟨negative, digits, scale, plain⟩ := n
  simp_all

/-! ### Values -/

mutual

/-- A value that its written form stands for: its texts are of characters, and its numbers have
neither a point nor an exponent. -/
def Faithful : Json → Prop
  | .number n => n.Simple
  | .string s => s.text?.isSome
  | .array items => FaithfulItems items
  | .object entries => FaithfulEntries entries
  | .null | .bool _ => True

/-- Faithful values. -/
def FaithfulItems : List Json → Prop
  | [] => True
  | item :: items => Faithful item ∧ FaithfulItems items

/-- Faithful values under keys of characters. -/
def FaithfulEntries : List (Quoted × Json) → Prop
  | [] => True
  | (key, value) :: entries => key.text?.isSome ∧ Faithful value ∧ FaithfulEntries entries

end

theorem readQuoted_writeQuoted {s : Quoted} (faithful : s.text?.isSome) (rest : List Symbol) :
    ∃ cs, (writeQuoted s).map some ++ rest = some '"' :: cs ∧ readQuoted cs = some (s, rest) := by
  cases s with
  | text s =>
    refine ⟨(s.toList.flatMap escapeChar).map some ++ some '"' :: rest, ?_, readQuoted_writeText s rest⟩
    simp [writeQuoted, writeText, Quoted.text?]
  | strayBytes => cases faithful
  | loneSurrogate => cases faithful

theorem skipSpace_cons {x : Symbol} {cs : List Symbol} (mark : isSpace x = false) :
    skipSpace (x :: cs) = x :: cs := by
  unfold skipSpace
  rw [List.dropWhile_cons_of_neg (by simp [mark])]

theorem endsNumber_cons {c : Char} (cs : List Symbol)
    (other : isDigit c = false ∧ c ≠ '.' ∧ c ≠ 'e' ∧ c ≠ 'E') : EndsNumber (some c :: cs) := by
  intro d rest same
  cases same
  exact other

theorem readWord_append (word : String) (rest : List Symbol) :
    readWord word (word.toList.map some ++ rest) = some rest := by
  unfold readWord
  rw [if_pos (List.isPrefixOf_iff_prefix.mpr (List.prefix_append _ _)), List.drop_left]

/-- The characters that a value can start with. -/
def startsValue (c : Char) : Bool := isDigit c || "\"[\x7b-ntf".toList.contains c

theorem not_startsValue {c : Char} (starts : startsValue c = true) :
    isSpace (some c) = false ∧ c ≠ ']' ∧ c ≠ '\x7d' := by
  refine ⟨?_, ?_, ?_⟩
  · cases space : isSpace (some c) with
    | false => rfl
    | true =>
      simp only [isSpace, Bool.or_eq_true, beq_iff_eq] at space
      rcases space with ((rfl | rfl) | rfl) | rfl <;> exact absurd starts (by decide)
  · rintro rfl
    exact absurd starts (by decide)
  · rintro rfl
    exact absurd starts (by decide)

theorem writeNumber_cons {n : Number} : ∃ c cs, writeNumber n = c :: cs ∧ startsValue c = true := by
  obtain ⟨d, ds, digits, digit⟩ := toDigits_cons n.digits
  unfold writeNumber
  cases n.negative with
  | true => exact ⟨'-', _, rfl, by decide⟩
  | false =>
    rw [digits]
    exact ⟨d, _, rfl, by simp [startsValue, digit]⟩

theorem writeList_cons (j : Json) : ∃ c cs, writeList j = c :: cs ∧ startsValue c = true := by
  cases j with
  | null => exact ⟨'n', _, by rw [writeList]; rfl, by decide⟩
  | bool b => cases b <;> exact ⟨_, _, by rw [writeList]; rfl, by decide⟩
  | number n =>
    rw [writeList]
    exact writeNumber_cons
  | string s => exact ⟨'"', _, by rw [writeList]; rfl, by decide⟩
  | array items =>
    cases items with
    | nil => exact ⟨'[', _, by rw [writeList], by decide⟩
    | cons item items => exact ⟨'[', _, by rw [writeList]; rfl, by decide⟩
  | object entries =>
    rcases entries with _ | ⟨⟨key, value⟩, entries⟩
    · exact ⟨'\x7b', _, by rw [writeList], by decide⟩
    · exact ⟨'\x7b', _, by rw [writeList]; rfl, by decide⟩

theorem readValue_writeNumber {n : Number} (simple : n.Simple) (fuel : Nat) {rest : List Symbol}
    (ends : EndsNumber rest) :
    readValue (fuel + 1) ((writeNumber n).map some ++ rest) = some (.number n, rest) := by
  have number := readNumber_toDigits simple ends
  have written : writeNumber n = (if n.negative then ['-'] else []) ++ Nat.toDigits 10 n.digits := by
    simp [writeNumber, simple.1]
  rw [written]
  cases sign : n.negative with
  | true =>
    rw [sign] at number
    simp [readValue, number]
  | false =>
    rw [sign] at number
    obtain ⟨d, ds, digits, digit⟩ := toDigits_cons n.digits
    have other : ∀ c, isDigit c = false → d ≠ c := by
      rintro c foreign rfl
      rw [digit] at foreign
      cases foreign
    rw [digits] at number ⊢
    simp only [List.map_cons, List.cons_append] at number
    simp [readValue, number, other '"' (by decide), other '[' (by decide),
      other '\x7b' (by decide), other '-' (by decide), digit]

theorem readValue_writeQuoted {s : Quoted} (faithful : s.text?.isSome) (fuel : Nat)
    (rest : List Symbol) :
    readValue (fuel + 1) ((writeQuoted s).map some ++ rest) = some (.string s, rest) := by
  obtain ⟨cs, written, read⟩ := readQuoted_writeQuoted faithful rest
  rw [written]
  simp [readValue, read]

/-- Where a value is written, there is no white space to pass over. -/
theorem skipSpace_writeList (j : Json) (rest : List Symbol) :
    skipSpace ((writeList j).map some ++ rest) = (writeList j).map some ++ rest := by
  obtain ⟨c, cs, written, starts⟩ := writeList_cons j
  rw [written, List.map_cons, List.cons_append]
  exact skipSpace_cons (not_startsValue starts).1

theorem skipSpace_writeQuoted {s : Quoted} (rest : List Symbol) :
    skipSpace ((writeQuoted s).map some ++ rest) = (writeQuoted s).map some ++ rest := by
  unfold writeQuoted writeText
  rw [List.cons_append, List.map_cons, List.cons_append]
  exact skipSpace_cons (by decide)

section Steps

variable {fuel : Nat} {c : Char} {cs mid behind tail rest : List Symbol} {item value : Json}
  {items : List Json} {key : Quoted} {entries : List (Quoted × Json)}

theorem readValue_array (inside : skipSpace cs = some c :: tail) (starts : startsValue c = true)
    (read : readItems fuel (some c :: tail) = some (items, rest)) :
    readValue (fuel + 1) (some '[' :: cs) = some (.array items, rest) := by
  obtain ⟨-, bracket, -⟩ := not_startsValue starts
  simp [readValue, inside, bracket, read]

theorem readValue_object (inside : skipSpace cs = some '"' :: tail)
    (read : readEntries fuel (some '"' :: tail) = some (entries, rest)) :
    readValue (fuel + 1) (some '\x7b' :: cs) = some (.object entries, rest) := by
  simp [readValue, inside, read]

theorem readItems_last (first : readValue fuel cs = some (item, mid))
    (closes : skipSpace mid = some ']' :: rest) :
    readItems (fuel + 1) cs = some ([item], rest) := by
  simp [readItems, first, closes]

theorem readItems_next (first : readValue fuel cs = some (item, mid))
    (comma : skipSpace mid = some ',' :: tail)
    (others : readItems fuel (skipSpace tail) = some (items, rest)) :
    readItems (fuel + 1) cs = some (item :: items, rest) := by
  simp [readItems, first, comma, others]

theorem readEntries_last (named : readQuoted cs = some (key, mid))
    (colon : skipSpace mid = some ':' :: tail)
    (first : readValue fuel (skipSpace tail) = some (value, behind))
    (closes : skipSpace behind = some '\x7d' :: rest) :
    readEntries (fuel + 1) (some '"' :: cs) = some ([(key, value)], rest) := by
  simp [readEntries, named, colon, first, closes]

theorem readEntries_next {next : List Symbol} (named : readQuoted cs = some (key, mid))
    (colon : skipSpace mid = some ':' :: tail)
    (first : readValue fuel (skipSpace tail) = some (value, behind))
    (comma : skipSpace behind = some ',' :: next)
    (others : readEntries fuel (skipSpace next) = some (entries, rest)) :
    readEntries (fuel + 1) (some '"' :: cs) = some ((key, value) :: entries, rest) := by
  simp [readEntries, named, colon, first, comma, others]

end Steps

theorem ends_comma (cs : List Symbol) : EndsNumber (some ',' :: cs) :=
  endsNumber_cons cs (by decide)

theorem ends_bracket (cs : List Symbol) : EndsNumber (some ']' :: cs) :=
  endsNumber_cons cs (by decide)

theorem ends_brace (cs : List Symbol) : EndsNumber (some '\x7d' :: cs) :=
  endsNumber_cons cs (by decide)

/-- With so many steps every written value is read back. -/
def ReadsValue (fuel : Nat) : Prop :=
  ∀ j, Faithful j → (writeList j).length ≤ fuel → ∀ rest, EndsNumber rest →
    readValue fuel ((writeList j).map some ++ rest) = some (j, rest)

/-- With so many steps all written values up to a bracket are read back. -/
def ReadsItems (fuel : Nat) : Prop :=
  ∀ item items, Faithful item → FaithfulItems items →
    (writeList item).length + (writeItems items).length ≤ fuel → ∀ rest,
    readItems fuel ((writeList item).map some ++ ((writeItems items).map some ++ rest)) =
      some (item :: items, rest)

/-- With so many steps all written entries up to a brace are read back. -/
def ReadsEntries (fuel : Nat) : Prop :=
  ∀ key value entries, key.text?.isSome → Faithful value → FaithfulEntries entries →
    (writeQuoted key).length + (writeList value).length + (writeEntries entries).length ≤ fuel →
    ∀ rest, readEntries fuel ((writeQuoted key).map some ++ some ':' ::
        ((writeList value).map some ++ ((writeEntries entries).map some ++ rest))) =
      some ((key, value) :: entries, rest)

theorem writeItems_cons (item : Json) (items : List Json) (rest : List Symbol) :
    (writeItems (item :: items)).map some ++ rest =
      some ',' :: ((writeList item).map some ++ ((writeItems items).map some ++ rest)) := by
  simp [writeItems]

theorem writeEntries_cons (key : Quoted) (value : Json) (entries : List (Quoted × Json))
    (rest : List Symbol) :
    (writeEntries ((key, value) :: entries)).map some ++ rest =
      some ',' :: ((writeQuoted key).map some ++ some ':' ::
        ((writeList value).map some ++ ((writeEntries entries).map some ++ rest))) := by
  simp [writeEntries]

theorem readsValue_succ {fuel : Nat} (readsItems : ReadsItems fuel)
    (readsEntries : ReadsEntries fuel) : ReadsValue (fuel + 1) := by
  intro j faithful enough rest ends
  cases j with
  | null =>
    have word := readWord_append "ull" rest
    have digit : isDigit 'n' = false := by decide
    change readValue (fuel + 1) (some 'n' :: ("ull".toList.map some ++ rest)) = _
    simp only [readValue, word, digit]
    rfl
  | bool b =>
    cases b with
    | true =>
      have word := readWord_append "rue" rest
      have digit : isDigit 't' = false := by decide
      change readValue (fuel + 1) (some 't' :: ("rue".toList.map some ++ rest)) = _
      simp only [readValue, word, digit]
      rfl
    | false =>
      have word := readWord_append "alse" rest
      have digit : isDigit 'f' = false := by decide
      change readValue (fuel + 1) (some 'f' :: ("alse".toList.map some ++ rest)) = _
      simp only [readValue, word, digit]
      rfl
  | number n =>
    rw [Faithful] at faithful
    rw [writeList]
    exact readValue_writeNumber faithful fuel ends
  | string s =>
    rw [Faithful] at faithful
    rw [writeList]
    exact readValue_writeQuoted faithful fuel rest
  | array items =>
    cases items with
    | nil => simp [writeList, readValue, skipSpace, isSpace]
    | cons item items =>
      rw [Faithful, FaithfulItems] at faithful
      rw [writeList, List.length_append, List.length_cons] at enough
      have read := readsItems item items faithful.1 faithful.2 (by omega) rest
      obtain ⟨c, cs, written, starts⟩ := writeList_cons item
      rw [written] at read
      have text : (writeList (.array (item :: items))).map some ++ rest =
          some '[' :: some c :: (cs.map some ++ ((writeItems items).map some ++ rest)) := by
        simp [writeList, written]
      rw [text]
      exact readValue_array (skipSpace_cons (not_startsValue starts).1) starts read
  | object entries =>
    rcases entries with _ | ⟨⟨key, value⟩, entries⟩
    · simp [writeList, readValue, skipSpace, isSpace]
    · rw [Faithful, FaithfulEntries] at faithful
      simp only [writeList, List.length_append, List.length_cons] at enough
      have read := readsEntries key value entries faithful.1 faithful.2.1 faithful.2.2 (by omega)
        rest
      obtain ⟨cs, written, -⟩ := readQuoted_writeQuoted faithful.1 (some ':' ::
        ((writeList value).map some ++ ((writeEntries entries).map some ++ rest)))
      rw [written] at read
      have text : (writeList (.object ((key, value) :: entries))).map some ++ rest =
          some '\x7b' :: some '"' :: cs := by
        rw [← written]
        simp [writeList]
      rw [text]
      exact readValue_object (skipSpace_cons (by decide)) read

theorem readsItems_succ {fuel : Nat} (readsValue : ReadsValue fuel)
    (readsItems : ReadsItems fuel) : ReadsItems (fuel + 1) := by
  intro item items faithful others enough rest
  cases items with
  | nil =>
    rw [writeItems] at enough ⊢
    rw [List.length_singleton] at enough
    exact readItems_last (readsValue item faithful (by omega) _ (ends_bracket rest))
      (skipSpace_cons (by decide))
  | cons next items =>
    rw [FaithfulItems] at others
    rw [writeItems_cons]
    simp only [writeItems, List.length_append, List.length_cons] at enough
    refine readItems_next (readsValue item faithful (by omega) _ (ends_comma _))
      (skipSpace_cons (by decide)) ?_
    rw [skipSpace_writeList]
    exact readsItems next items others.1 others.2 (by omega) rest

theorem readsEntries_succ {fuel : Nat} (readsValue : ReadsValue fuel)
    (readsEntries : ReadsEntries fuel) : ReadsEntries (fuel + 1) := by
  intro key value entries named faithful others enough rest
  obtain ⟨cs, written, read⟩ := readQuoted_writeQuoted named
    (some ':' :: ((writeList value).map some ++ ((writeEntries entries).map some ++ rest)))
  have space := skipSpace_writeList value ((writeEntries entries).map some ++ rest)
  rw [written]
  rcases entries with _ | ⟨⟨nextKey, nextValue⟩, entries⟩
  · rw [writeEntries] at enough space read
    rw [List.length_singleton] at enough
    refine readEntries_last read (skipSpace_cons (by decide)) ?_ (skipSpace_cons (by decide))
    rw [space]
    exact readsValue value faithful (by omega) _ (ends_brace rest)
  · rw [FaithfulEntries] at others
    simp only [writeEntries, List.length_append, List.length_cons] at enough
    have next := readsEntries nextKey nextValue entries others.1 others.2.1 others.2.2 (by omega)
      rest
    have first := readsValue value faithful (by omega) _ (ends_comma ((writeQuoted nextKey).map some
      ++ some ':' :: ((writeList nextValue).map some ++ ((writeEntries entries).map some ++ rest))))
    rw [writeEntries_cons] at space read
    rw [← space] at first
    refine readEntries_next read (skipSpace_cons (by decide)) first (skipSpace_cons (by decide)) ?_
    rw [skipSpace_writeQuoted]
    exact next

theorem reads (fuel : Nat) : ReadsValue fuel ∧ ReadsItems fuel ∧ ReadsEntries fuel := by
  have written : ∀ j : Json, 0 < (writeList j).length := by
    intro j
    obtain ⟨c, cs, written, -⟩ := writeList_cons j
    rw [written]
    exact Nat.succ_pos _
  induction fuel with
  | zero =>
    refine ⟨?_, ?_, ?_⟩
    · intro j _ enough
      have := written j
      omega
    · intro item items _ _ enough
      have := written item
      omega
    · intro key value entries _ _ _ enough
      have := written value
      omega
  | succ fuel ih =>
    obtain ⟨readsValue, readsItems, readsEntries⟩ := ih
    exact ⟨readsValue_succ readsItems readsEntries, readsItems_succ readsValue readsItems,
      readsEntries_succ readsValue readsEntries⟩

/-- What is written is read back. -/
theorem read?_write {j : Json} (faithful : Faithful j) :
    read? ((writeList j).map some) = some j := by
  have nothing : EndsNumber [] := by
    intro c rest same
    cases same
  have read := (reads (((writeList j).map some).length + 1)).1 j faithful
    (by rw [List.length_map]; omega) [] nothing
  have space := skipSpace_writeList j []
  rw [List.append_nil] at read space
  unfold read?
  rw [space, read]
  rfl

end DeviceSessions.Json
