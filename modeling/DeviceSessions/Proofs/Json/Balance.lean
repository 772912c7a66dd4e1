import DeviceSessions.Proofs.Json.Grammar

/-!
# Quotes and brackets

In an input that can be read all quotes and brackets close. A reader that stands within quotes where
the input is outside of them, or behind more open brackets than it knows of, is lost: whatever it reads
or gives up from there on, it stays lost, and never gets to the end of the input.
-/

namespace DeviceSessions.Json

open Text

/-- Where one stands in an input if one minds nothing but quotes and brackets: outside of quotes,
within them, or behind a backslash within them, with so many brackets and braces open. -/
inductive Stand where
  | plain (depth : Nat)
  | quoted (depth : Nat)
  | escaped (depth : Nat)
  deriving DecidableEq

/-- The symbols that move one. -/
def isMark (s : Symbol) : Bool := s.any fun c => "\"\\[]\x7b\x7d".toList.contains c

namespace Stand

/-- Where one stands behind a symbol. A backslash outside of quotes and a bracket that closes nothing
belong to no input that can be read. -/
def step : Stand → Symbol → Option Stand
  | plain depth, s =>
    if s = some '"' then some (quoted depth)
    else if s = some '\\' then none
    else if s = some '[' ∨ s = some '\x7b' then some (plain (depth + 1))
    else if s = some ']' ∨ s = some '\x7d' then
      if depth = 0 then none else some (plain (depth - 1))
    else some (plain depth)
  | quoted depth, s =>
    if s = some '"' then some (plain depth)
    else if s = some '\\' then some (escaped depth)
    else some (quoted depth)
  | escaped depth, _ => some (quoted depth)

/-- All that is open closes by the end of the input. -/
def Closes : Stand → List Symbol → Prop
  | stand, [] => stand = plain 0
  | stand, s :: cs => ∃ next, stand.step s = some next ∧ next.Closes cs

variable {depth : Nat} {s : Symbol} {cs rest : List Symbol} {ps : List Piece}

theorem closes_quote : (plain depth).Closes (some '"' :: cs) ↔ (quoted depth).Closes cs := by
  simp [Closes, step]

theorem closes_unquote : (quoted depth).Closes (some '"' :: cs) ↔ (plain depth).Closes cs := by
  simp [Closes, step]

theorem closes_escape : (quoted depth).Closes (some '\\' :: s :: cs) ↔ (quoted depth).Closes cs := by
  simp [Closes, step]

theorem not_closes_backslash : ¬(plain depth).Closes (some '\\' :: cs) := by
  simp [Closes, step]

theorem closes_open {c : Char} (opens : c = '[' ∨ c = '\x7b') :
    (plain depth).Closes (some c :: cs) ↔ (plain (depth + 1)).Closes cs := by
  rcases opens with rfl | rfl <;> simp [Closes, step]

theorem closes_close {c : Char} (closes : c = ']' ∨ c = '\x7d') :
    (plain (depth + 1)).Closes (some c :: cs) ↔ (plain depth).Closes cs := by
  rcases closes with rfl | rfl <;> simp [Closes, step]

theorem closes_plain (quiet : isMark s = false) :
    (plain depth).Closes (s :: cs) ↔ (plain depth).Closes cs := by
  cases s with
  | none => simp [Closes, step]
  | some c =>
    simp [isMark] at quiet
    simp [Closes, step, quiet]

theorem closes_quoted (quote : s ≠ some '"') (slash : s ≠ some '\\') :
    (quoted depth).Closes (s :: cs) ↔ (quoted depth).Closes cs := by
  simp [Closes, step, quote, slash]

theorem hexSymbol?_unmarked {n : Nat} (hex : hexSymbol? s = some n) : s ≠ some '"' ∧ s ≠ some '\\' := by
  constructor
  · rintro rfl
    cases hex
  · rintro rfl
    cases hex

theorem closes_hex {a b c d : Symbol} {n : Nat} (hex : hexUnit? a b c d = some n) :
    (quoted depth).Closes (some '\\' :: some 'u' :: a :: b :: c :: d :: cs) ↔ (quoted depth).Closes cs := by
  simp only [hexUnit?, Option.bind_eq_bind, Option.bind_eq_some_iff] at hex
  obtain ⟨p, first, q, second, r, third, t, fourth, -⟩ := hex
  have skip : ∀ {s : Symbol} {n : Nat} {cs : List Symbol}, hexSymbol? s = some n →
      ((quoted depth).Closes (s :: cs) ↔ (quoted depth).Closes cs) := fun hex =>
    closes_quoted (hexSymbol?_unmarked hex).1 (hexSymbol?_unmarked hex).2
  rw [closes_escape, skip first, skip second, skip third, skip fourth]

/-- Behind the closing quote one is where one was in front of the opening one. -/
theorem closes_quotes (quotes : Quotes cs ps rest) :
    (quoted depth).Closes cs ↔ (plain depth).Closes rest := by
  induction quotes with
  | closes => exact closes_unquote
  | unit hex _ ih => exact (closes_hex hex).trans ih
  | escape _ _ ih => exact closes_escape.trans ih
  | stray _ ih => exact (closes_quoted (by simp) (by simp)).trans ih
  | char quote slash _ ih => exact (closes_quoted (by simpa using quote) (by simpa using slash)).trans ih

theorem closes_plain_char {c : Char} (quote : c ≠ '"') (slash : c ≠ '\\')
    (closes : (plain depth).Closes (some c :: cs)) : ∃ depth, (plain depth).Closes cs := by
  obtain ⟨next, step, closes⟩ := closes
  simp only [Stand.step, Option.some.injEq, quote, slash, if_false] at step
  split at step
  · cases step
    exact ⟨_, closes⟩
  split at step
  · split at step
    · cases step
    · cases step
      exact ⟨_, closes⟩
  · cases step
    exact ⟨_, closes⟩

/-- A text that opens where the input closes one ends where the input opens the next. -/
theorem closes_between (quotes : Quotes cs ps rest) (closes : (plain depth).Closes cs) :
    ∃ depth, (quoted depth).Closes rest := by
  induction quotes generalizing depth with
  | closes => exact ⟨depth, closes_quote.mp closes⟩
  | unit => exact absurd closes not_closes_backslash
  | escape => exact absurd closes not_closes_backslash
  | stray more ih => exact ih ((closes_plain rfl).mp closes)
  | char quote slash more ih =>
    obtain ⟨depth, closes⟩ := closes_plain_char quote slash closes
    exact ih closes

end Stand

/-! ### Readers keep their balance -/

/-- What a reader preserves that knows how many brackets are open. -/
structure Tracks (R : Nat → List Symbol → Prop) : Prop where
  quiet : ∀ {depth s cs}, isMark s = false → R depth (s :: cs) → R depth cs
  quotes : ∀ {depth cs ps rest}, Quotes cs ps rest → R depth (some '"' :: cs) → R depth rest
  opens : ∀ {depth c cs}, c = '[' ∨ c = '\x7b' → R depth (some c :: cs) → R (depth + 1) cs
  closes : ∀ {depth c cs}, c = ']' ∨ c = '\x7d' → R (depth + 1) (some c :: cs) → R depth cs

/-- How many brackets this part is read behind. -/
def Part.inside : Part → Nat
  | .value _ => 0
  | .items _ | .entries _ => 1

namespace Tracks

variable {R : Nat → List Symbol → Prop} {depth : Nat} {c : Char} {cs tail rest : List Symbol}
  {part : Part}

theorem skipSpace (tracks : Tracks R) (here : R depth cs) : R depth (skipSpace cs) := by
  induction cs with
  | nil => exact here
  | cons s cs ih =>
    cases space : isSpace s with
    | false => rwa [skipSpace_cons space]
    | true =>
      have quiet : isMark s = false := by
        cases s with
        | none => rfl
        | some c =>
          simp only [isSpace, Bool.or_eq_true, beq_iff_eq] at space
          rcases space with ((rfl | rfl) | rfl) | rfl <;> decide
      rw [show Json.skipSpace (s :: cs) = Json.skipSpace cs from List.dropWhile_cons_of_pos space]
      exact ih (tracks.quiet quiet here)

theorem isMark_numeral (numeral : isNumeral c = true) : isMark (some c) = false := by
  cases mark : isMark (some c) with
  | false => rfl
  | true =>
    simp [isMark] at mark
    rcases mark with rfl | rfl | rfl | rfl | rfl | rfl <;> exact absurd numeral (by decide)

theorem quietly (tracks : Tracks R) {used : List Char} (quiet : ∀ c ∈ used, isMark (some c) = false)
    (here : R depth (used.map some ++ rest)) : R depth rest := by
  induction used with
  | nil => exact here
  | cons c used ih =>
    refine ih (fun d member => quiet d (List.mem_cons_of_mem _ member)) ?_
    exact tracks.quiet (quiet c List.mem_cons_self) here

theorem numeric (tracks : Tracks R) (number : Numeric cs rest) (here : R depth cs) : R depth rest := by
  obtain ⟨used, rfl, numeral⟩ := number
  exact tracks.quietly (fun c member => isMark_numeral (numeral c member)) here

theorem behind (tracks : Tracks R) (front : Json.skipSpace cs = some c :: tail)
    (quiet : isMark (some c) = false) (here : R depth cs) : R depth (Json.skipSpace tail) := by
  have there := tracks.skipSpace here
  rw [front] at there
  exact tracks.skipSpace (tracks.quiet quiet there)

theorem enter (tracks : Tracks R) (opens : c = '[' ∨ c = '\x7b') (here : R depth (some c :: cs)) :
    R (depth + 1) (Json.skipSpace cs) := tracks.skipSpace (tracks.opens opens here)

theorem leave (tracks : Tracks R) (front : Json.skipSpace cs = some c :: tail)
    (closes : c = ']' ∨ c = '\x7d') (here : R (depth + 1) cs) : R depth tail := by
  have there := tracks.skipSpace here
  rw [front] at there
  exact tracks.closes closes there

theorem word (tracks : Tracks R) {word : String} {j : Json} (known : (c, word, j) ∈ words)
    (here : R depth (some c :: (word.toList.map some ++ rest))) : R depth rest := by
  have quiet : (c :: word.toList).all (fun d => !isMark (some d)) = true := by
    simp only [words, List.mem_cons, List.not_mem_nil, or_false, Prod.mk.injEq] at known
    rcases known with ⟨rfl, rfl, -⟩ | ⟨rfl, rfl, -⟩ | ⟨rfl, rfl, -⟩ <;> decide
  have unmarked : ∀ d ∈ c :: word.toList, isMark (some d) = false :=
    fun d member => by simpa using List.all_eq_true.mp quiet d member
  exact tracks.quietly unmarked here

/-- Behind a value a reader is where it was, and behind items and entries it is out of the bracket
that they stand in. -/
theorem reads (tracks : Tracks R) (reads : Reads cs part rest) (here : R (depth + part.inside) cs) :
    R depth rest := by
  induction reads generalizing depth with
  | word known => exact tracks.word known here
  | string read =>
    obtain ⟨ps, quotes, -⟩ := quotes_of_readQuoted read
    exact tracks.quotes quotes here
  | negative read => exact tracks.numeric (numeric_readNumber read) (tracks.quiet rfl here)
  | digits _ read => exact tracks.numeric (numeric_readNumber read) here
  | emptyArray closes => exact tracks.leave closes (Or.inl rfl) (tracks.opens (Or.inl rfl) here)
  | array _ ih => exact ih (tracks.enter (Or.inl rfl) here)
  | emptyObject closes => exact tracks.leave closes (Or.inr rfl) (tracks.opens (Or.inr rfl) here)
  | object _ ih => exact ih (tracks.enter (Or.inr rfl) here)
  | last _ closes ih => exact tracks.leave closes (Or.inl rfl) (ih here)
  | next _ comma _ ih ih' => exact ih' (tracks.behind comma (by decide) (ih here))
  | lastEntry named colon _ closes ih =>
    obtain ⟨ps, quotes, -⟩ := quotes_of_readQuoted named
    have key := tracks.quotes quotes here
    exact tracks.leave closes (Or.inr rfl) (ih (tracks.behind colon (by decide) key))
  | nextEntry named colon _ comma _ ih ih' =>
    obtain ⟨ps, quotes, -⟩ := quotes_of_readQuoted named
    have key := tracks.quotes quotes here
    have value := ih (tracks.behind colon (by decide) key)
    exact ih' (tracks.behind comma (by decide) value)

end Tracks

/-- The reader of an input that closes knows where it is. -/
theorem tracks_closes : Tracks fun depth cs => (Stand.plain depth).Closes cs where
  quiet quiet here := (Stand.closes_plain quiet).mp here
  quotes quotes here := (Stand.closes_quotes quotes).mp (Stand.closes_quote.mp here)
  opens opens here := (Stand.closes_open opens).mp here
  closes closes here := (Stand.closes_close closes).mp here

/-- So does the reader of an input that does not. -/
theorem tracks_not_closes : Tracks fun depth cs => ¬(Stand.plain depth).Closes cs where
  quiet quiet here closes := here ((Stand.closes_plain quiet).mpr closes)
  quotes quotes here closes := here (Stand.closes_quote.mpr ((Stand.closes_quotes quotes).mpr closes))
  opens opens here closes := here ((Stand.closes_open opens).mpr closes)
  closes bracket here closes := here ((Stand.closes_close bracket).mpr closes)

/-- The entries of an object that is a whole input. -/
theorem reads_of_read? {cs : List Symbol} {entries : List (Quoted × Json)}
    (h : read? cs = some (.object entries)) :
    ∃ tail, skipSpace cs = some '\x7b' :: tail ∧ (Stand.plain 1).Closes (skipSpace tail) ∧
      (entries = [] ∧ (∃ rest, skipSpace tail = some '\x7d' :: rest) ∨
        ∃ rest, Reads (skipSpace tail) (.entries entries) rest ∧ skipSpace rest = []) := by
  obtain ⟨⟨j, rest⟩, read, ends⟩ := Option.bind_eq_some_iff.mp h
  dsimp only at ends
  split at ends
  · rename_i empty
    cases ends
    have empty : skipSpace rest = [] := List.isEmpty_iff.mp empty
    have reads : Reads (skipSpace cs) (.value (.object entries)) rest :=
      reads_of_isRead _ (.value _) read
    -- A reader tracks inputs that do not close their brackets, too, and the empty input closes them.
    have closes : (Stand.plain 0).Closes (skipSpace cs) := by
      refine Classical.byContradiction fun open' => ?_
      have behind := tracks_not_closes.skipSpace (tracks_not_closes.reads reads open')
      rw [empty] at behind
      exact behind rfl
    generalize skipSpace cs = input at reads closes
    cases reads with
    | emptyObject front =>
      exact ⟨_, rfl, tracks_closes.enter (Or.inr rfl) closes, Or.inl ⟨rfl, _, front⟩⟩
    | object inside =>
      exact ⟨_, rfl, tracks_closes.enter (Or.inr rfl) closes, Or.inr ⟨rest, inside, empty⟩⟩
    | word known => simp [words] at known
  · cases ends

/-! ### Being lost -/

/-- That a reader that knows of so many open brackets stands within quotes where the input is outside
of them, or behind at least so many. -/
def Lost (depth : Nat) (cs : List Symbol) : Prop :=
  (∃ d, (Stand.quoted d).Closes cs) ∨ ∃ d, depth ≤ d ∧ (Stand.plain d).Closes cs

theorem Lost.mono {depth less : Nat} {cs : List Symbol} (lost : Lost depth cs) (le : less ≤ depth) :
    Lost less cs := by
  rcases lost with quoted | ⟨d, most, closes⟩
  · exact Or.inl quoted
  · exact Or.inr ⟨d, by omega, closes⟩

/-- A lost reader is not at the end. -/
theorem not_lost_nil (depth : Nat) : ¬Lost (depth + 1) [] := by
  rintro (⟨d, closes⟩ | ⟨d, most, closes⟩)
  · cases closes
  · cases closes
    omega

theorem tracks_lost : Tracks Lost where
  quiet := by
    rintro depth s cs quiet (⟨d, closes⟩ | ⟨d, most, closes⟩)
    · have unmarked : s ≠ some '"' ∧ s ≠ some '\\' := by
        constructor <;> (rintro rfl; exact absurd quiet (by decide))
      exact Or.inl ⟨d, (Stand.closes_quoted unmarked.1 unmarked.2).mp closes⟩
    · exact Or.inr ⟨d, most, (Stand.closes_plain quiet).mp closes⟩
  quotes := by
    rintro depth cs ps rest quotes (⟨d, closes⟩ | ⟨d, most, closes⟩)
    · exact Or.inl (Stand.closes_between quotes (Stand.closes_unquote.mp closes))
    · exact Or.inr ⟨d, most, (Stand.closes_quotes quotes).mp (Stand.closes_quote.mp closes)⟩
  opens := by
    rintro depth c cs opens (⟨d, closes⟩ | ⟨d, most, closes⟩)
    · have unmarked : some c ≠ some '"' ∧ some c ≠ some '\\' := by
        rcases opens with rfl | rfl <;> decide
      exact Or.inl ⟨d, (Stand.closes_quoted unmarked.1 unmarked.2).mp closes⟩
    · exact Or.inr ⟨d + 1, by omega, (Stand.closes_open opens).mp closes⟩
  closes := by
    rintro depth c cs bracket (⟨d, closes⟩ | ⟨d, most, closes⟩)
    · have unmarked : some c ≠ some '"' ∧ some c ≠ some '\\' := by
        rcases bracket with rfl | rfl <;> decide
      exact Or.inl ⟨d, (Stand.closes_quoted unmarked.1 unmarked.2).mp closes⟩
    · obtain ⟨d, rfl⟩ : ∃ k, d = k + 1 := ⟨d - 1, by omega⟩
      exact Or.inr ⟨d, by omega, (Stand.closes_close bracket).mp closes⟩

end DeviceSessions.Json
