import DeviceSessions.Proofs.Json.Balance

/-!
# Values that are given up

A reader that passes over a value ends behind it, or somewhere within it. Where it ends within it, it is
lost, or in front of something that can stand neither behind a value nor at the end.
-/

namespace DeviceSessions.Json

open Text

/-! ### Quoted texts -/

theorem joinPieces_low {n : Nat} (low : 0xdc00 ≤ n ∧ n < 0xe000) (ps : List Piece) :
    joinPieces (.unit n :: ps) = none := by
  have high : ¬(0xd800 ≤ n ∧ n < 0xdc00) := by omega
  have any : 0xd800 ≤ n ∧ n < 0xe000 := by omega
  rcases ps with _ | ⟨_ | _ | _, ps⟩
  · simp only [joinPieces, any, and_self, if_true]
  · simp only [joinPieces, any, and_self, if_true]
  · rw [joinPieces, if_neg high, if_pos low]
  · simp only [joinPieces, any, and_self, if_true]

theorem joinPieces_high {n : Nat} (high : 0xd800 ≤ n ∧ n < 0xdc00) {ps : List Piece}
    (alone : ∀ m more, ps = .unit m :: more → ¬(0xdc00 ≤ m ∧ m < 0xe000)) :
    joinPieces (.unit n :: ps) = none := by
  have any : 0xd800 ≤ n ∧ n < 0xe000 := by omega
  rcases ps with _ | ⟨_ | m | _, ps⟩
  · simp only [joinPieces, any, and_self, if_true]
  · simp only [joinPieces, any, and_self, if_true]
  · rw [joinPieces, if_pos high, if_neg (alone m ps rfl)]
  · simp only [joinPieces, any, and_self, if_true]

theorem joinPieces_pair {n m : Nat} (high : 0xd800 ≤ n ∧ n < 0xdc00) (low : 0xdc00 ≤ m ∧ m < 0xe000)
    {ps : List Piece} (broken : joinPieces ps = none) :
    joinPieces (.unit n :: .unit m :: ps) = none := by
  rw [joinPieces, if_pos high, if_pos low, broken]
  rfl

/-- A text that is given up has half a pair of surrogates. -/
theorem joinPieces_of_fault {cs stop rest : List Symbol} {ps : List Piece}
    (fault : quotedFault? cs = some stop) (quotes : Quotes cs ps rest) : joinPieces ps = none := by
  -- Digits that are none cannot be quoted; a half that finds its partner leaves the fault to the rest.
  fun_induction quotedFault? cs generalizing ps with
  | case1 => cases fault
  | case2 => cases fault
  | case3 a b c d tail unread =>
    obtain ⟨n, more, hex, -⟩ := quotes.of_unit
    rw [unread] at hex
    cases hex
  | case4 a b c d tail n read low =>
    obtain ⟨more, rfl, -⟩ := quotes.of_hex read
    exact joinPieces_low low more
  | case5 a b c d n read _ high a' b' c' d' tail unread =>
    obtain ⟨more, -, behind⟩ := quotes.of_hex read
    obtain ⟨m, more', hex, -⟩ := behind.of_unit
    rw [unread] at hex
    cases hex
  | case6 a b c d n read _ high a' b' c' d' tail m read' low ih =>
    obtain ⟨more, rfl, behind⟩ := quotes.of_hex read
    obtain ⟨more', rfl, behind'⟩ := behind.of_hex read'
    exact joinPieces_pair high low (ih fault behind')
  | case7 a b c d n read _ high a' b' c' d' tail m read' other =>
    obtain ⟨more, rfl, behind⟩ := quotes.of_hex read
    obtain ⟨more', rfl, -⟩ := behind.of_hex read'
    refine joinPieces_high high fun k more same => ?_
    cases same
    exact other
  | case8 a b c d n read _ high tail single =>
    obtain ⟨more, rfl, behind⟩ := quotes.of_hex read
    refine joinPieces_high high fun k more' same => ?_
    subst same
    cases behind with
    | unit => exact absurd rfl (single _ _ _ _ _)
  | case9 a b c d n read _ high tail _ slash =>
    obtain ⟨more, rfl, behind⟩ := quotes.of_hex read
    refine joinPieces_high high fun k more' same => ?_
    subst same
    cases behind with
    | unit => exact absurd rfl (slash _)
  | case10 a b c d tail n read low high ih =>
    obtain ⟨more, rfl, behind⟩ := quotes.of_hex read
    rw [joinPieces_unit (by omega), ih fault behind]
    rfl
  | case11 s tail single ih =>
    obtain ⟨c, more, rfl, behind⟩ := quotes.of_escape single
    rw [joinPieces, ih fault behind]
    rfl
  | case12 s tail quote _ slash ih =>
    have proper : s ≠ some '\\' := by
      rintro rfl
      cases tail with
      | nil => cases fault
      | cons t tail => exact slash t tail rfl rfl
    obtain ⟨p, more, rfl, single, behind⟩ := quotes.of_other quote proper
    have broken := ih fault behind
    cases p with
    | char c =>
      rw [joinPieces, broken]
      rfl
    | unit n => exact absurd rfl (single n)
    | stray =>
      rw [joinPieces, broken]
      rfl

theorem dropByte_quoted {depth : Nat} {s : Symbol} {cs : List Symbol}
    (closes : (Stand.quoted depth).Closes cs) : (Stand.quoted depth).Closes (dropByte (s :: cs)) := by
  cases s with
  | none => exact closes
  | some c =>
    rw [dropByte]
    split
    · exact closes
    · exact (Stand.closes_quoted (by simp) (by simp)).mpr closes

/-- Where a text is given up one stands within it, unless its closing quote was taken. -/
theorem stand_of_fault {depth : Nat} {cs stop : List Symbol} (closes : (Stand.quoted depth).Closes cs)
    (fault : quotedFault? cs = some stop) :
    stop = [] ∨ (Stand.quoted depth).Closes stop ∨
      ((Stand.plain depth).Closes stop ∧ ∀ ps rest, Quotes cs ps rest → rest = stop) := by
  fun_induction quotedFault? cs with
  | case1 => cases fault
  | case2 => cases fault
  | case3 =>
    cases fault
    exact Or.inl rfl
  | case4 a b c d tail n read _ =>
    cases fault
    exact Or.inr (Or.inl ((Stand.closes_hex read).mp closes))
  | case5 =>
    cases fault
    exact Or.inl rfl
  | case6 a b c d n read _ _ a' b' c' d' tail m read' _ ih =>
    rw [Stand.closes_hex read, Stand.closes_hex read'] at closes
    refine (ih closes fault).imp_right (Or.imp_right fun ⟨outside, only⟩ => ⟨outside, ?_⟩)
    intro ps rest quotes
    obtain ⟨_, _, -, -, behind⟩ := quotes.of_unit
    obtain ⟨_, more, -, -, behind'⟩ := behind.of_unit
    exact only more rest behind'
  | case7 a b c d n read _ _ a' b' c' d' tail m read' _ =>
    cases fault
    rw [Stand.closes_hex read, Stand.closes_hex read'] at closes
    exact Or.inr (Or.inl closes)
  | case8 a b c d n read _ _ tail _ =>
    cases fault
    rw [Stand.closes_hex read] at closes
    cases tail with
    | nil => exact Or.inl rfl
    | cons s tail => exact Or.inr (Or.inl (dropByte_quoted (Stand.closes_escape.mp closes)))
  | case9 a b c d n read _ _ tail _ slash =>
    cases fault
    rw [Stand.closes_hex read] at closes
    cases tail with
    | nil => exact Or.inl rfl
    | cons s tail =>
      -- The byte that is taken behind a lone half can be the closing quote.
      by_cases quote : s = some '"'
      · subst quote
        refine Or.inr (Or.inr ⟨Stand.closes_unquote.mp closes, fun ps rest quotes => ?_⟩)
        obtain ⟨_, more, -, -, behind⟩ := quotes.of_unit
        cases behind with
        | closes => rfl
        | char quote _ _ => exact absurd rfl quote
      · have proper : s ≠ some '\\' := by
          rintro rfl
          exact slash tail rfl
        exact Or.inr (Or.inl (dropByte_quoted ((Stand.closes_quoted quote proper).mp closes)))
  | case10 a b c d tail n read _ _ ih =>
    rw [Stand.closes_hex read] at closes
    refine (ih closes fault).imp_right (Or.imp_right fun ⟨outside, only⟩ => ⟨outside, ?_⟩)
    intro ps rest quotes
    obtain ⟨_, more, -, -, behind⟩ := quotes.of_unit
    exact only more rest behind
  | case11 s tail single ih =>
    rw [Stand.closes_escape] at closes
    refine (ih closes fault).imp_right (Or.imp_right fun ⟨outside, only⟩ => ⟨outside, ?_⟩)
    intro ps rest quotes
    obtain ⟨_, more, -, behind⟩ := quotes.of_escape single
    exact only more rest behind
  | case12 s tail quote _ slash ih =>
    have proper : s ≠ some '\\' := by
      rintro rfl
      cases tail with
      | nil => cases fault
      | cons t tail => exact slash t tail rfl rfl
    rw [Stand.closes_quoted quote proper] at closes
    refine (ih closes fault).imp_right (Or.imp_right fun ⟨outside, only⟩ => ⟨outside, ?_⟩)
    intro ps rest quotes
    obtain ⟨_, more, -, -, behind⟩ := quotes.of_other quote proper
    exact only more rest behind

/-- Outside of quotes there are no escapes to find fault with. -/
theorem no_fault_outside {depth : Nat} {cs : List Symbol} (closes : (Stand.plain depth).Closes cs) :
    quotedFault? cs = none := by
  cases fault : quotedFault? cs with
  | none => rfl
  | some stop =>
    fun_induction quotedFault? cs generalizing depth with
    | case1 => cases fault
    | case2 => cases fault
    | case12 s tail quote _ slash ih =>
      cases s with
      | none => exact ih ((Stand.closes_plain rfl).mp closes) fault
      | some c =>
        have proper : c ≠ '\\' := by
          rintro rfl
          exact Stand.not_closes_backslash closes
        obtain ⟨deeper, closes⟩ := Stand.closes_plain_char (by rintro rfl; exact quote rfl) proper closes
        exact ih closes fault
    | _ => exact absurd closes Stand.not_closes_backslash

/-! ### Numbers -/

/-- The symbols that are passed over in front of a power of ten. -/
def isMantissa (s : Symbol) : Bool := s.any fun c => isDigit c || c == '-' || c == '.'

theorem numeric_dropWhile (cs : List Symbol) : Numeric cs (cs.dropWhile isMantissa) := by
  induction cs with
  | nil => exact .refl _
  | cons s cs ih =>
    cases mantissa : isMantissa s with
    | false =>
      rw [List.dropWhile_cons_of_neg (by simp [mantissa])]
      exact .refl _
    | true =>
      rw [List.dropWhile_cons_of_pos mantissa]
      cases s with
      | none => cases mantissa
      | some c =>
        refine (numeric_cons ?_ cs).trans ih
        simp only [isMantissa, Option.any_some, Bool.or_eq_true, beq_iff_eq] at mantissa
        rcases mantissa with (digit | rfl) | rfl
        · simp [isNumeral, digit]
        · decide
        · decide

theorem exponentFault?_cases {power : Nat} {cs stop : List Symbol}
    (fault : exponentFault? power cs = some stop) :
    Numeric cs stop ∧ (stop = (readDigits cs).2 ∨ ∃ d tail, stop = some d :: tail ∧ isDigit d = true) := by
  induction cs generalizing power with
  | nil => cases fault
  | cons s rest ih =>
    cases s with
    | none => cases fault
    | some c =>
      rw [exponentFault?] at fault
      split at fault
      · rename_i digit
        have numeric : Numeric (some c :: rest) rest := numeric_cons (by simp [isNumeral, digit]) rest
        rw [readDigits, if_pos digit]
        dsimp only at fault
        split at fault
        · obtain rfl : rest = stop := Option.some.inj fault
          refine ⟨numeric, ?_⟩
          fun_cases readDigits rest with
          | case1 d tail digit' => exact Or.inr ⟨d, tail, rfl, digit'⟩
          | case2 d tail other => exact Or.inl rfl
          | case3 other => exact Or.inl rfl
        · obtain ⟨behind, where'⟩ := ih fault
          exact ⟨numeric.trans behind, where'⟩
      · cases fault

theorem powerFault?_cases {cs stop : List Symbol} (fault : powerFault? cs = some stop) :
    ∃ c tail behind, cs.dropWhile isMantissa = some c :: tail ∧ (c = 'e' ∨ c = 'E') ∧
      (behind = tail ∨ tail = some '+' :: behind) ∧ exponentFault? 0 behind = some stop := by
  unfold powerFault? at fault
  rw [show (fun s : Symbol => s.any fun c => isDigit c || c == '-' || c == '.') = isMantissa from rfl]
    at fault
  split at fault
  · rename_i c tail front
    split at fault
    · rename_i mark
      split at fault
      · cases fault
      · rename_i behind
        exact ⟨c, _, behind, front, mark, Or.inr rfl, fault⟩
      · exact ⟨c, tail, tail, front, mark, Or.inl rfl, fault⟩
    · cases fault
  · cases fault

theorem numeric_powerFault? {cs stop : List Symbol} (fault : powerFault? cs = some stop) :
    Numeric cs stop := by
  obtain ⟨c, tail, behind, front, mark, sign, fault⟩ := powerFault?_cases fault
  have numeral : isNumeral c = true := by rcases mark with rfl | rfl <;> decide
  have first := numeric_dropWhile cs
  rw [front] at first
  have last := (exponentFault?_cases fault).1
  rcases sign with rfl | rfl
  · exact (first.trans (numeric_cons numeral _)).trans last
  · exact (first.trans (numeric_cons numeral _)).trans ((numeric_cons (by decide) _).trans last)

/-- What can stand behind a value: nothing with which a number could go on. -/
def Breaks (cs : List Symbol) : Prop := ∀ s tail, cs = s :: tail → isMantissa s = false

theorem dropWhile_readDigits {cs behind : List Symbol} {ds : List Char}
    (digits : readDigits cs = (ds, behind)) : cs.dropWhile isMantissa = behind.dropWhile isMantissa := by
  have same := readDigits_append_eq cs
  rw [digits] at same
  rw [← same.1, List.dropWhile_append_of_pos]
  intro s member
  obtain ⟨c, inside, rfl⟩ := List.mem_map.mp member
  simp [isMantissa, same.2 c inside]

theorem dropWhile_readFraction {cs tail : List Symbol} {fraction : Option (List Char)}
    (point : readFraction cs = some (fraction, tail)) :
    cs.dropWhile isMantissa = tail.dropWhile isMantissa := by
  unfold readFraction at point
  split at point
  · rw [List.dropWhile_cons_of_pos (by decide)]
    dsimp only at point
    split at point
    · cases point
    · cases point
      exact dropWhile_readDigits rfl
  · cases point
    rfl

/-- A power of ten is found too large at a digit of it, so it is there. -/
theorem powerFault?_number {negative : Bool} {sign cs rest stop : List Symbol} {n : Number}
    (signed : ∀ s ∈ sign, isMantissa s = true) (read : readNumber negative cs = some (n, rest))
    (breaks : Breaks rest) (fault : powerFault? (sign ++ cs) = some stop) :
    n.plain = false ∧ (stop = rest ∨ ∃ d tail, stop = some d :: tail ∧ isDigit d = true) := by
  obtain ⟨c, tail, behind, front, mark, plus, fault⟩ := powerFault?_cases fault
  obtain ⟨whole, more, fraction, last, exponent, digits, -, point, power, plain⟩ := readNumber_cases read
  rw [List.dropWhile_append_of_pos signed, dropWhile_readDigits digits, dropWhile_readFraction point]
    at front
  rcases readExponent_cases power with ⟨rfl, none⟩ | ⟨there, e, tail', ds, rfl, letter, rfl, form⟩
  · cases last with
    | nil => cases front
    | cons s last =>
      rw [List.dropWhile_cons_of_neg (by simp [breaks s last rfl])] at front
      cases front
      exact absurd mark (none c _ rfl)
  · have unsigned : isMantissa (some e) = false := by rcases letter with rfl | rfl <;> decide
    rw [List.dropWhile_cons_of_neg (by simp [unsigned])] at front
    cases front
    have found : behind = ds → stop = (readDigits ds).2 ∨ ∃ d tail, stop = some d :: tail ∧ isDigit d = true := by
      rintro rfl
      exact (exponentFault?_cases fault).2
    refine ⟨by rw [plain, there, Bool.and_false], ?_⟩
    rcases form with rfl | rfl | ⟨rfl, unsigned⟩
    · rcases plus with rfl | same
      · cases fault
      · cases same
    · rcases plus with rfl | same
      · cases fault
      · cases same
        exact found rfl
    · rcases plus with rfl | same
      · exact found rfl
      · exact absurd same (unsigned behind)

/-! ### Lost readers -/

/-- That a reader is lost or has nothing left to read. -/
def Done (depth : Nat) (cs : List Symbol) : Prop := cs = [] ∨ Lost depth cs

section Lost

variable {depth : Nat} {cs rest : List Symbol}

theorem done_passQuoted (lost : Lost depth (some '"' :: cs)) : Done depth (passQuoted cs).2 := by
  unfold passQuoted
  cases fault : quotedFault? cs with
  | some stop =>
    rcases lost with ⟨d, closes⟩ | ⟨d, most, closes⟩
    · rw [no_fault_outside (Stand.closes_unquote.mp closes)] at fault
      cases fault
    · rcases stand_of_fault (Stand.closes_quote.mp closes) fault with nothing | inside | ⟨outside, -⟩
      · exact Or.inl nothing
      · exact Or.inr (Or.inl ⟨d, inside⟩)
      · exact Or.inr (Or.inr ⟨d, most, outside⟩)
  | none =>
    cases read : readQuoted cs with
    | none => exact Or.inl rfl
    | some result =>
      obtain ⟨s, rest⟩ := result
      obtain ⟨ps, quotes, -⟩ := quotes_of_readQuoted read
      exact Or.inr (tracks_lost.quotes quotes lost)

theorem done_passNumber (lost : Lost depth cs) : Done depth (passNumber cs).2 := by
  unfold passNumber
  split
  rename_i negative ds sign
  have here : Lost depth ds := by
    split at sign
    · cases sign
      exact tracks_lost.quiet rfl lost
    · cases sign
      exact lost
  cases read : readNumber negative ds with
  | none => exact Or.inl rfl
  | some result =>
    obtain ⟨n, rest⟩ := result
    have behind : Lost depth rest := tracks_lost.numeric (numeric_readNumber read) here
    dsimp only
    cases fault : powerFault? cs with
    | none => exact Or.inr behind
    | some stop =>
      dsimp only
      split
      · exact Or.inr behind
      · exact Or.inr (tracks_lost.numeric (numeric_powerFault? fault) lost)

theorem done_leaveList (done : Done (depth + 1) cs) : Done depth (leaveList cs).2 := by
  rcases done with rfl | lost
  · exact Or.inl rfl
  · unfold leaveList
    split
    · rename_i front
      exact Or.inr (tracks_lost.leave front (Or.inl rfl) lost)
    · rename_i front
      exact Or.inr ((tracks_lost.behind front (by decide) lost).mono (Nat.le_succ depth))
    · exact Or.inr ((tracks_lost.skipSpace lost).mono (Nat.le_succ depth))

theorem done_leaveObject (done : Done (depth + 1) cs) : Done depth (leaveObject cs).2 := by
  rcases done with rfl | lost
  · exact Or.inl rfl
  · unfold leaveObject
    split
    · rename_i front
      exact Or.inr (tracks_lost.leave front (Or.inr rfl) lost)
    · exact Or.inr ((tracks_lost.skipSpace lost).mono (Nat.le_succ depth))

/-- Behind items or entries that were all passed their bracket is closed; behind others it is not. -/
def Inside {α : Type} (depth : Nat) : Option α × List Symbol → Prop
  | (some _, rest) => Done depth rest
  | (none, rest) => Done (depth + 1) rest

theorem done_passValue_succ {fuel bound : Nat}
    (items : ∀ bound {depth cs}, Lost (depth + 1) cs → Inside depth (passItems fuel bound cs))
    (entries : ∀ bound {depth cs}, Lost (depth + 1) cs → Inside depth (passEntries fuel bound cs))
    (lost : Lost depth cs) : Done depth (passValue (fuel + 1) bound cs).2 := by
  unfold passValue
  split
  · exact done_passQuoted lost
  · split
    · exact Or.inr lost
    · rename_i less
      have inside := tracks_lost.enter (Or.inl rfl) lost
      split
      · rename_i front
        rw [front] at inside
        exact Or.inr (tracks_lost.closes (Or.inl rfl) inside)
      · have passed := items less inside
        split
        · rename_i same
          rw [same] at passed
          exact passed
        · rename_i same
          rw [same] at passed
          exact done_leaveList passed
  · split
    · exact Or.inr lost
    · rename_i less
      have inside := tracks_lost.enter (Or.inr rfl) lost
      split
      · rename_i front
        rw [front] at inside
        exact Or.inr (tracks_lost.closes (Or.inr rfl) inside)
      · have passed := entries less inside
        split
        · rename_i same
          rw [same] at passed
          exact passed
        · rename_i same
          rw [same] at passed
          exact done_leaveObject passed
  · split
    · exact done_passNumber lost
    · split
      · rename_i read
        exact Or.inr (tracks_lost.reads (reads_of_isRead 1 (.value _) read) lost)
      · exact Or.inl rfl
  · exact Or.inl rfl

theorem inside_passItems_succ {fuel bound : Nat}
    (value : ∀ bound {depth cs}, Lost depth cs → Done depth (passValue fuel bound cs).2)
    (items : ∀ bound {depth cs}, Lost (depth + 1) cs → Inside depth (passItems fuel bound cs))
    (lost : Lost (depth + 1) cs) : Inside depth (passItems (fuel + 1) bound cs) := by
  have first := value bound lost
  unfold passItems
  split
  · rename_i same
    rw [same] at first
    exact first
  · rename_i item mid same
    rw [same] at first
    rcases first with nothing | here
    · dsimp only at nothing
      subst nothing
      exact Or.inl rfl
    · split
      · rename_i front
        exact Or.inr (tracks_lost.leave front (Or.inl rfl) here)
      · rename_i front
        have others := items bound (tracks_lost.behind front (by decide) here)
        split
        · rename_i same
          rw [same] at others
          exact others
        · rename_i same
          rw [same] at others
          exact others
      · exact Or.inr (tracks_lost.skipSpace here)

theorem inside_passEntries_succ {fuel bound : Nat}
    (value : ∀ bound {depth cs}, Lost depth cs → Done depth (passValue fuel bound cs).2)
    (entries : ∀ bound {depth cs}, Lost (depth + 1) cs → Inside depth (passEntries fuel bound cs))
    (lost : Lost (depth + 1) cs) : Inside depth (passEntries (fuel + 1) bound cs) := by
  unfold passEntries
  split
  · rename_i tail
    have key := done_passQuoted lost
    split
    · rename_i same
      rw [same] at key
      rcases key with nothing | here
      · dsimp only at nothing
        subst nothing
        exact Or.inl rfl
      · split
        · rename_i front
          have there := tracks_lost.behind front (by decide) here
          have passed := value bound there
          split
          · rename_i same
            rw [same] at passed
            exact passed
          · rename_i same
            rw [same] at passed
            rcases passed with nothing | behind
            · dsimp only at nothing
              subst nothing
              exact Or.inl rfl
            · split
              · rename_i front
                exact Or.inr (tracks_lost.leave front (Or.inr rfl) behind)
              · rename_i front
                have others := entries bound (tracks_lost.behind front (by decide) behind)
                split
                · rename_i same
                  rw [same] at others
                  exact others
                · rename_i same
                  rw [same] at others
                  exact others
              · exact Or.inr (tracks_lost.skipSpace behind)
        · exact Or.inr (tracks_lost.skipSpace here)
    · rename_i same
      rw [same] at key
      exact key
  · exact Or.inr lost

/-- A lost reader that passes over a value stays lost. -/
theorem done_pass (fuel : Nat) :
    (∀ bound {depth cs}, Lost depth cs → Done depth (passValue fuel bound cs).2) ∧
    (∀ bound {depth cs}, Lost (depth + 1) cs → Inside depth (passItems fuel bound cs)) ∧
    ∀ bound {depth cs}, Lost (depth + 1) cs → Inside depth (passEntries fuel bound cs) := by
  induction fuel with
  | zero => refine ⟨?_, ?_, ?_⟩ <;> (intros; exact Or.inl rfl)
  | succ fuel ih =>
    obtain ⟨value, items, entries⟩ := ih
    exact ⟨fun _ => done_passValue_succ items entries, fun _ => inside_passItems_succ value items,
      fun _ => inside_passEntries_succ value entries⟩

theorem done_passScalar (lost : Lost depth cs) : Done depth (passScalar cs).2 := by
  unfold passScalar
  split
  · exact done_leaveList (Or.inr (tracks_lost.opens (Or.inl rfl) lost))
  · exact done_leaveObject (Or.inr (tracks_lost.opens (Or.inr rfl) lost))
  · exact (done_pass 1).1 0 lost

end Lost

end DeviceSessions.Json
