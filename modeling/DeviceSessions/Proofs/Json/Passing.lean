import DeviceSessions.Json.Record
import DeviceSessions.Proofs.Json.GivingUp

/-!
# Passing over values

A value that can be read is passed over up to its end, and then it is the value that is read or is given
up, or the reader is astray: it is lost or cannot go on.
-/

namespace DeviceSessions.Json

open Text

/-- That a reader stands at the end, or before what can only be the start of a value. -/
def Stuck (cs : List Symbol) : Prop := cs = [] ∨ ∃ c tail, cs = some c :: tail ∧ startsValue c = true

/-- That a reader that should be behind so many open brackets cannot get there again. -/
def Astray (depth : Nat) (cs : List Symbol) : Prop := Stuck cs ∨ Lost (depth + 1) cs

/-- Neither a text nor a list of texts. -/
def NoTexts (j : Json) : Prop :=
  j.text? = none ∧ ∀ items, j = .array items → ∃ item ∈ items, item.text? = none

/-- How a value is passed over that ends in front of `rest`. -/
inductive Passes (depth : Nat) (j : Json) (rest : List Symbol) : Passed → Prop
  | kept : Passes depth j rest (some j, rest)
  | dropped (other : NoTexts j) : Passes depth j rest (none, rest)
  | astray {stop : List Symbol} (gone : Astray depth stop) : Passes depth j rest (none, stop)

section

variable {depth : Nat} {cs mid tail rest stop : List Symbol} {s : Symbol}

theorem Done.astray (done : Done (depth + 1) cs) : Astray depth cs :=
  done.elim (fun nothing => Or.inl (Or.inl nothing)) Or.inr

theorem astray_of_closes (closes : (Stand.plain (depth + 1)).Closes cs) : Astray depth cs :=
  Or.inr (Or.inr ⟨depth + 1, Nat.le_refl _, closes⟩)

theorem Stuck.skipSpace (stuck : Stuck cs) : skipSpace cs = cs := by
  rcases stuck with rfl | ⟨c, tail, rfl, starts⟩
  · rfl
  · exact skipSpace_cons (not_startsValue starts).1

theorem leaveList_stuck (stuck : Stuck (skipSpace cs)) : leaveList cs = (none, skipSpace cs) := by
  unfold leaveList
  rcases stuck with nothing | ⟨c, tail, front, starts⟩
  · rw [nothing]
  · obtain ⟨-, bracket, -⟩ := not_startsValue starts
    have comma : c ≠ ',' := by
      rintro rfl
      exact absurd starts (by decide)
    simp [front, bracket, comma]

theorem leaveObject_stuck (stuck : Stuck (skipSpace cs)) : leaveObject cs = (none, skipSpace cs) := by
  unfold leaveObject
  rcases stuck with nothing | ⟨c, tail, front, starts⟩
  · rw [nothing]
  · obtain ⟨-, -, brace⟩ := not_startsValue starts
    simp [front, brace]

theorem leaveList_eq (cs : List Symbol) : leaveList cs = (none, (leaveList cs).2) := by
  unfold Json.leaveList
  split <;> rfl

theorem leaveObject_eq (cs : List Symbol) : leaveObject cs = (none, (leaveObject cs).2) := by
  unfold Json.leaveObject
  split <;> rfl

theorem Astray.leaveList (astray : Astray (depth + 1) cs) :
    ∃ stop, leaveList cs = (none, stop) ∧ Astray depth stop := by
  rcases astray with stuck | lost
  · rw [← stuck.skipSpace] at stuck
    exact ⟨_, leaveList_stuck stuck, Or.inl stuck⟩
  · exact ⟨_, leaveList_eq cs, (done_leaveList (Or.inr lost)).astray⟩

theorem Astray.leaveObject (astray : Astray (depth + 1) cs) :
    ∃ stop, leaveObject cs = (none, stop) ∧ Astray depth stop := by
  rcases astray with stuck | lost
  · rw [← stuck.skipSpace] at stuck
    exact ⟨_, leaveObject_stuck stuck, Or.inl stuck⟩
  · exact ⟨_, leaveObject_eq cs, (done_leaveObject (Or.inr lost)).astray⟩

theorem breaks_of_skipSpace (front : skipSpace cs = s :: tail) (mark : isMantissa s = false) :
    Breaks cs := by
  rintro t more rfl
  cases space : isSpace t with
  | false =>
    rw [skipSpace_cons space] at front
    cases front
    exact mark
  | true =>
    cases t with
    | none => cases space
    | some c =>
      simp only [isSpace, Bool.or_eq_true, beq_iff_eq] at space
      rcases space with ((rfl | rfl) | rfl) | rfl <;> rfl

/-! ### Texts and numbers -/

theorem passes_quoted {q : Quoted} (closes : (Stand.plain depth).Closes (some '"' :: cs))
    (read : readQuoted cs = some (q, rest)) : Passes depth (.string q) rest (passQuoted cs) := by
  obtain ⟨ps, quotes, rfl⟩ := quotes_of_readQuoted read
  unfold passQuoted
  cases fault : quotedFault? cs with
  | some stop =>
    have broken : quotedOf ps = .loneSurrogate := by
      unfold quotedOf
      rw [joinPieces_of_fault fault quotes]
    rw [broken]
    rcases stand_of_fault (Stand.closes_quote.mp closes) fault with nothing | inside | ⟨-, only⟩
    · exact .astray (Or.inl (Or.inl nothing))
    · exact .astray (Or.inr (Or.inl ⟨depth, inside⟩))
    · rw [← only ps rest quotes]
      exact .dropped ⟨rfl, by simp⟩
  | none =>
    rw [read]
    cases q : quotedOf ps with
    | text s => exact .kept
    | strayBytes => exact .dropped ⟨rfl, by simp⟩
    | loneSurrogate => exact .dropped ⟨rfl, by simp⟩

/-- That a number starts with this sign. -/
def Signed (negative : Bool) (sign ds : List Symbol) : Prop :=
  negative = true ∧ sign = [some '-'] ∨ negative = false ∧ sign = [] ∧ ∀ tail, ds ≠ some '-' :: tail

theorem signed_minus (cs : List Symbol) : Signed true [some '-'] cs := Or.inl ⟨rfl, rfl⟩

theorem signed_digits {c : Char} (digit : isDigit c = true) (cs : List Symbol) :
    Signed false [] (some c :: cs) := by
  refine Or.inr ⟨rfl, rfl, fun tail same => ?_⟩
  cases same
  exact absurd digit (by decide)

section Numbers

variable {negative : Bool} {sign ds : List Symbol} {n : Number}

theorem Signed.mantissa (signed : Signed negative sign ds) : ∀ s ∈ sign, isMantissa s = true := by
  rcases signed with ⟨-, rfl⟩ | ⟨-, rfl, -⟩ <;> simp [isMantissa]

theorem passNumber_eq (signed : Signed negative sign ds) (read : readNumber negative ds = some (n, rest)) :
    passNumber (sign ++ ds) =
      match powerFault? (sign ++ ds) with
      | some stop => if n.digits = 0 then (some (.number n), rest) else (none, stop)
      | none => (n.float?.map fun _ => .number n, rest) := by
  unfold passNumber
  split
  rename_i minus ds' front
  have cut : minus = negative ∧ ds' = ds := by
    rcases signed with ⟨rfl, rfl⟩ | ⟨rfl, rfl, plain⟩
    · cases front
      exact ⟨rfl, rfl⟩
    · simp only [List.nil_append] at front
      cases front
      exact ⟨rfl, rfl⟩
  obtain ⟨rfl, rfl⟩ := cut
  generalize readNumber minus ds' = r at read
  subst read
  rfl

theorem passes_number (signed : Signed negative sign ds) (read : readNumber negative ds = some (n, rest))
    (breaks : Breaks rest) : Passes depth (.number n) rest (passNumber (sign ++ ds)) := by
  have dropped : Passes depth (.number n) rest (none, rest) := .dropped ⟨rfl, by simp⟩
  rw [passNumber_eq signed read]
  cases fault : powerFault? (sign ++ ds) with
  | none =>
    cases n.float? with
    | none => exact dropped
    | some x => exact .kept
  | some stop =>
    dsimp only
    split
    · exact .kept
    · obtain ⟨-, rfl | ⟨d, tail, rfl, digit⟩⟩ := powerFault?_number signed.mantissa read breaks fault
      · exact dropped
      · exact .astray (Or.inl (Or.inr ⟨d, tail, rfl, by simp [startsValue, digit]⟩))

theorem passNumber_plain (signed : Signed negative sign ds)
    (read : readNumber negative ds = some (n, rest)) (plain : n.plain = true) (breaks : Breaks rest) :
    passNumber (sign ++ ds) = (n.float?.map fun _ => .number n, rest) := by
  rw [passNumber_eq signed read]
  cases fault : powerFault? (sign ++ ds) with
  | none => rfl
  | some stop =>
    have exponent := (powerFault?_number signed.mantissa read breaks fault).1
    rw [plain] at exponent
    cases exponent

end Numbers

/-! ### Values, items and entries -/

/-- How a part is passed over that ends in front of `rest`. Where not all items or entries are, the
list or object around them is left. -/
def Part.Passes (depth fuel bound : Nat) (cs rest : List Symbol) : Part → Prop
  | .value j => Breaks rest → Json.Passes depth j rest (passValue fuel bound cs)
  | .items js => passItems fuel bound cs = (some js, rest) ∨
    ∃ mid, passItems fuel bound cs = (none, mid) ∧
      (leaveList mid = (none, rest) ∧ (∃ item ∈ js, item.text? = none) ∨
        ∃ stop, leaveList mid = (none, stop) ∧ Astray depth stop)
  | .entries es => passEntries fuel bound cs = (some es, rest) ∨
    ∃ mid, passEntries fuel bound cs = (none, mid) ∧
      (leaveObject mid = (none, rest) ∨ ∃ stop, leaveObject mid = (none, stop) ∧ Astray depth stop)

theorem astray_mark {c : Char} (starts : startsValue c = true) : Astray depth (some c :: cs) :=
  Or.inl (Or.inr ⟨c, cs, rfl, starts⟩)

theorem passes_emptyArray (front : skipSpace cs = some ']' :: rest) (fuel bound : Nat) :
    Passes depth (.array []) rest (passValue (fuel + 1) bound (some '[' :: cs)) := by
  cases bound with
  | zero => exact .astray (astray_mark (by decide))
  | succ bound =>
    rw [passValue, front]
    exact .kept

theorem passes_array {fuel : Nat} {items : List Json} {c : Char}
    (front : skipSpace cs = some c :: tail) (starts : startsValue c = true)
    (inside : ∀ bound, (Part.items items).Passes depth fuel bound (skipSpace cs) rest) (bound : Nat) :
    Passes depth (.array items) rest (passValue (fuel + 1) bound (some '[' :: cs)) := by
  cases bound with
  | zero => exact .astray (astray_mark (by decide))
  | succ bound =>
    rw [passValue]
    split
    · rename_i closed
      rw [front] at closed
      cases closed
      exact absurd starts (by decide)
    · rcases inside bound with all | ⟨mid, passed, ⟨left, item, member, foreign⟩ | ⟨stop, left, gone⟩⟩
      · rw [all]
        exact .kept
      · rw [passed]
        dsimp only
        rw [left]
        refine .dropped ⟨rfl, fun js same => ?_⟩
        cases same
        exact ⟨item, member, foreign⟩
      · rw [passed]
        dsimp only
        rw [left]
        exact .astray gone

theorem passes_emptyObject (front : skipSpace cs = some '\x7d' :: rest) (fuel bound : Nat) :
    Passes depth (.object []) rest (passValue (fuel + 1) bound (some '\x7b' :: cs)) := by
  cases bound with
  | zero => exact .astray (astray_mark (by decide))
  | succ bound =>
    rw [passValue, front]
    exact .kept

theorem passes_object {fuel : Nat} {entries : List (Quoted × Json)}
    (front : skipSpace cs = some '"' :: tail)
    (inside : ∀ bound, (Part.entries entries).Passes depth fuel bound (skipSpace cs) rest) (bound : Nat) :
    Passes depth (.object entries) rest (passValue (fuel + 1) bound (some '\x7b' :: cs)) := by
  cases bound with
  | zero => exact .astray (astray_mark (by decide))
  | succ bound =>
    rw [passValue]
    split
    · rename_i closed
      rw [front] at closed
      cases closed
    · rcases inside bound with all | ⟨mid, passed, left | ⟨stop, left, gone⟩⟩
      · rw [all]
        exact .kept
      · rw [passed]
        dsimp only
        rw [left]
        exact .dropped ⟨rfl, by simp⟩
      · rw [passed]
        dsimp only
        rw [left]
        exact .astray gone

theorem passes_last {fuel bound : Nat} {item : Json}
    (first : Passes (depth + 1) item mid (passValue fuel bound cs))
    (front : skipSpace mid = some ']' :: rest) :
    (Part.items [item]).Passes depth (fuel + 1) bound cs rest := by
  unfold Part.Passes
  rw [passItems]
  generalize passValue fuel bound cs = passed at first
  cases first with
  | kept =>
    dsimp only
    rw [front]
    exact Or.inl rfl
  | dropped other =>
    exact Or.inr ⟨mid, rfl, Or.inl ⟨by simp [leaveList, front], item, by simp, other.1⟩⟩
  | astray gone => exact Or.inr ⟨_, rfl, Or.inr gone.leaveList⟩

theorem passes_next {fuel bound : Nat} {item : Json} {items : List Json}
    (first : Passes (depth + 1) item mid (passValue fuel bound cs))
    (front : skipSpace mid = some ',' :: tail)
    (closes : (Stand.plain (depth + 1)).Closes (skipSpace tail))
    (others : (Part.items items).Passes depth fuel bound (skipSpace tail) rest) :
    (Part.items (item :: items)).Passes depth (fuel + 1) bound cs rest := by
  unfold Part.Passes at others ⊢
  rw [passItems]
  generalize passValue fuel bound cs = passed at first
  cases first with
  | kept =>
    dsimp only
    rw [front]
    rcases others with all | ⟨last, passed, ⟨left, other, member, foreign⟩ | gone⟩
    · exact Or.inl (by simp [all])
    · exact Or.inr ⟨last, by simp [passed], Or.inl ⟨left, other, List.mem_cons_of_mem _ member, foreign⟩⟩
    · exact Or.inr ⟨last, by simp [passed], Or.inr gone⟩
  | dropped other =>
    exact Or.inr ⟨mid, rfl, Or.inr ⟨skipSpace tail, by simp [leaveList, front], astray_of_closes closes⟩⟩
  | astray gone => exact Or.inr ⟨_, rfl, Or.inr gone.leaveList⟩

theorem leaveObject_open {c : Char} (front : skipSpace cs = some c :: tail) (other : c ≠ '\x7d') :
    leaveObject cs = (none, some c :: tail) := by
  simp [leaveObject, front, other]

theorem passes_entry {fuel bound : Nat} {key : Quoted} {value : Json} {entries : List (Quoted × Json)}
    {behind : List Symbol}
    (named : Passes (depth + 1) (.string key) mid (passQuoted cs))
    (colon : skipSpace mid = some ':' :: tail)
    (start : (Stand.plain (depth + 1)).Closes (some ':' :: tail))
    (first : Passes (depth + 1) value behind (passValue fuel bound (skipSpace tail)))
    (last : skipSpace behind = some '\x7d' :: rest ∧ entries = [(key, value)] ∨
      ∃ next more, skipSpace behind = some ',' :: next ∧ entries = (key, value) :: more ∧
        (Stand.plain (depth + 1)).Closes (some ',' :: next) ∧
        (Part.entries more).Passes depth fuel bound (skipSpace next) rest) :
    (Part.entries entries).Passes depth (fuel + 1) bound (some '"' :: cs) rest := by
  unfold Part.Passes
  rw [passEntries]
  generalize passQuoted cs = passed at named
  cases named with
  | astray gone => exact Or.inr ⟨_, rfl, Or.inr gone.leaveObject⟩
  | dropped other =>
    exact Or.inr ⟨mid, rfl, Or.inr ⟨_, leaveObject_open colon (by decide), astray_of_closes start⟩⟩
  | kept =>
    dsimp only
    rw [colon]
    simp only
    generalize passValue fuel bound (skipSpace tail) = passed at first
    cases first with
    | kept =>
      dsimp only
      rcases last with ⟨front, rfl⟩ | ⟨next, more, front, rfl, -, others⟩
      · rw [front]
        exact Or.inl rfl
      · rw [front]
        rcases others with all | ⟨last, passed, left⟩
        · exact Or.inl (by simp [all])
        · exact Or.inr ⟨last, by simp [passed], left⟩
    | dropped other =>
      rcases last with ⟨front, rfl⟩ | ⟨next, more, front, rfl, closes, others⟩
      · exact Or.inr ⟨behind, rfl, Or.inl (by simp [leaveObject, front])⟩
      · exact Or.inr ⟨behind, rfl, Or.inr ⟨_, leaveObject_open front (by decide), astray_of_closes closes⟩⟩
    | astray gone => exact Or.inr ⟨_, rfl, Or.inr gone.leaveObject⟩

/-- Without a step nothing is passed over. -/
theorem passes_zero (part : Part) (bound : Nat) : part.Passes depth 0 bound cs rest := by
  have nothing : Astray depth [] := Or.inl (Or.inl rfl)
  cases part with
  | value j => exact fun _ => .astray nothing
  | items js => exact Or.inr ⟨[], rfl, Or.inr ⟨[], rfl, nothing⟩⟩
  | entries es => exact Or.inr ⟨[], rfl, Or.inr ⟨[], rfl, nothing⟩⟩

theorem passValue_word {c : Char} {word : String} {j : Json} (known : (c, word, j) ∈ words)
    (fuel bound : Nat) (rest : List Symbol) :
    passValue (fuel + 1) bound (some c :: (word.toList.map some ++ rest)) = (some j, rest) := by
  have read := readValue_word known 0 rest
  simp only [words, List.mem_cons, List.not_mem_nil, or_false, Prod.mk.injEq] at known
  rcases known with ⟨rfl, rfl, rfl⟩ | ⟨rfl, rfl, rfl⟩ | ⟨rfl, rfl, rfl⟩ <;>
    (rw [passValue, if_neg (by decide), read] <;> simp)

theorem passValue_digits {c : Char} (digit : isDigit c = true) (fuel bound : Nat) :
    passValue (fuel + 1) bound (some c :: cs) = passNumber (some c :: cs) := by
  rw [passValue, if_pos (by simp [digit])]
  all_goals
    rintro rfl
    exact absurd digit (by decide)

/-- What can be read is passed over up to its end, or leads the reader astray. -/
theorem Reads.passes {part : Part} (reads : Reads cs part rest)
    (closes : (Stand.plain (depth + part.inside)).Closes cs) (fuel bound : Nat) :
    part.Passes depth fuel bound cs rest := by
  induction fuel generalizing cs rest part depth bound with
  | zero => exact passes_zero part bound
  | succ fuel ih =>
    cases reads with
    | word known =>
      intro _
      rw [passValue_word known]
      exact .kept
    | string read => exact fun _ => passes_quoted closes read
    | negative read => exact fun breaks => passes_number (signed_minus _) read breaks
    | digits digit read =>
      intro breaks
      rw [passValue_digits digit]
      exact passes_number (signed_digits digit _) read breaks
    | emptyArray front => exact fun _ => passes_emptyArray front fuel bound
    | array inside =>
      have entered := tracks_closes.enter (Or.inl rfl) closes
      obtain ⟨c, tail, front, starts⟩ := inside.starts
      exact fun _ => passes_array front starts (ih inside entered) bound
    | emptyObject front => exact fun _ => passes_emptyObject front fuel bound
    | object inside =>
      have entered := tracks_closes.enter (Or.inr rfl) closes
      obtain ⟨tail, front⟩ := inside.starts_entries
      exact fun _ => passes_object front (ih inside entered) bound
    | last first front =>
      have breaks := breaks_of_skipSpace front (by decide)
      exact passes_last (ih first closes bound breaks) front
    | next first front others =>
      have breaks := breaks_of_skipSpace front (by decide)
      have behind := tracks_closes.behind front (by decide) (tracks_closes.reads first closes)
      exact passes_next (ih first closes bound breaks) front behind (ih others behind bound)
    | lastEntry named colon first front =>
      obtain ⟨ps, quotes, -⟩ := quotes_of_readQuoted named
      have key := tracks_closes.skipSpace (tracks_closes.quotes quotes closes)
      rw [colon] at key
      have value := tracks_closes.skipSpace (tracks_closes.quiet (by decide) key)
      have breaks := breaks_of_skipSpace front (by decide)
      exact passes_entry (passes_quoted closes named) colon key (ih first value bound breaks)
        (Or.inl ⟨front, rfl⟩)
    | nextEntry named colon first front others =>
      obtain ⟨ps, quotes, -⟩ := quotes_of_readQuoted named
      have key := tracks_closes.skipSpace (tracks_closes.quotes quotes closes)
      rw [colon] at key
      have value := tracks_closes.skipSpace (tracks_closes.quiet (by decide) key)
      have breaks := breaks_of_skipSpace front (by decide)
      have comma := tracks_closes.skipSpace (tracks_closes.reads first value)
      rw [front] at comma
      have next := tracks_closes.skipSpace (tracks_closes.quiet (by decide) comma)
      exact passes_entry (passes_quoted closes named) colon key (ih first value bound breaks)
        (Or.inr ⟨_, _, front, rfl, comma, ih others next bound⟩)

/-- Where a value ends that was passed over. -/
def Ends (depth : Nat) (rest : List Symbol) (passed : Passed) : Prop :=
  passed.2 = rest ∨ Astray depth passed.2

theorem Passes.ends {j : Json} {passed : Passed} (passes : Passes depth j rest passed) :
    Ends depth rest passed := by
  cases passes with
  | kept => exact Or.inl rfl
  | dropped => exact Or.inl rfl
  | astray gone => exact Or.inr gone

theorem Reads.ends_scalar {j : Json} (reads : Reads cs (.value j) rest)
    (closes : (Stand.plain depth).Closes cs) (breaks : Breaks rest) : Ends depth rest (passScalar cs) := by
  have passes : Passes depth j rest (passValue 1 0 cs) := reads.passes closes 1 0 breaks
  unfold passScalar
  split
  · cases reads with
    | emptyArray front => exact Or.inl (by simp [leaveList, front])
    | array inside =>
      obtain ⟨c, tail, front, starts⟩ := inside.starts
      rw [leaveList_stuck (Or.inr ⟨c, tail, front, starts⟩)]
      exact Or.inr (Or.inl (Or.inr ⟨c, tail, front, starts⟩))
    | digits digit => cases digit
    | word known => simp [words] at known
  · cases reads with
    | emptyObject front => exact Or.inl (by simp [leaveObject, front])
    | object inside =>
      obtain ⟨tail, front⟩ := inside.starts_entries
      rw [leaveObject_stuck (Or.inr ⟨_, tail, front, by decide⟩)]
      exact Or.inr (Or.inl (Or.inr ⟨_, tail, front, by decide⟩))
    | digits digit => cases digit
    | word known => simp [words] at known
  · exact passes.ends

end

end DeviceSessions.Json
