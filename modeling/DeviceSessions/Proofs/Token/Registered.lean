import DeviceSessions.Proofs.Json.Keeping
import DeviceSessions.Proofs.Token.RoundTrip
import Mathlib.Data.List.Forall2

/-!
# The second pass over claims

The claims of a payload are read a second time, and then a time or an audience that cannot be used is
passed over. Such a value can lead the reader astray. Where it does not, the second pass meets the
entries of the payload that the first one reads, and no others; where it does, the payload is refused.
-/

namespace DeviceSessions

open Json

/-- `Meets cs met rest`: the second pass gets through the claims `met` up to the closing brace, at least
one, and `rest` stands behind it. -/
inductive Meets : List Symbol → Met → List Symbol → Prop
  | last {cs mid tail behind rest : List Symbol} {name : String} {passed : Option Json}
    (named : readQuoted cs = some (.text name, mid)) (colon : skipSpace mid = some ':' :: tail)
    (passes : passClaim name (skipSpace tail) = some (passed, behind))
    (closes : skipSpace behind = some '\x7d' :: rest) : Meets (some '"' :: cs) [(name, passed)] rest
  | next {cs mid tail behind next rest : List Symbol} {name : String} {passed : Option Json} {met : Met}
    (named : readQuoted cs = some (.text name, mid)) (colon : skipSpace mid = some ':' :: tail)
    (passes : passClaim name (skipSpace tail) = some (passed, behind))
    (comma : skipSpace behind = some ',' :: next) (others : Meets (skipSpace next) met rest) :
    Meets (some '"' :: cs) ((name, passed) :: met) rest

/-- The second pass gets to the end of a payload, and these are the claims it meets. -/
def GetsThrough (cs : List Symbol) (met : Met) : Prop :=
  ∃ tail rest, skipSpace cs = some '\x7b' :: tail ∧ Meets (skipSpace tail) met rest ∧ skipSpace rest = []

/-- The registered claims among those that were met, if none of them was met twice. -/
def keepClaims? : Met → Option Met
  | [] => some []
  | (name, passed) :: met => (keepClaims? met).bind (keepClaim name passed)

theorem quoted_text {q : Quoted} {name : String} (text : q.text? = some name) : q = .text name := by
  cases q with
  | text s => exact congrArg Quoted.text (Option.some.inj text)
  | strayBytes => cases text
  | loneSurrogate => cases text

theorem keepClaim_of_kept {name : String} {passed : Option Json} {claims kept : Met}
    {rest stop : List Symbol}
    (h : (if !registeredNames.contains name then some (claims, rest)
      else if (claims.lookup name).isSome then none
      else some ((name, passed) :: claims, rest)) = some (kept, stop)) :
    keepClaim name passed claims = some kept ∧ rest = stop := by
  unfold keepClaim
  split at h
  · rename_i unknown
    cases h
    exact ⟨if_pos unknown, rfl⟩
  · rename_i known
    split at h
    · cases h
    · rename_i new
      cases h
      rw [if_neg known, if_neg new]
      exact ⟨rfl, rfl⟩

/-- What the second pass returns is what it keeps of the claims it meets. -/
theorem meets_of_readClaims? {fuel : Nat} {cs rest : List Symbol} {kept : Met}
    (h : readClaims? fuel cs = some (kept, rest)) :
    ∃ met, Meets cs met rest ∧ keepClaims? met = some kept := by
  induction fuel generalizing cs kept rest with
  | zero => cases h
  | succ fuel ih =>
    rw [readClaims?.eq_def] at h
    dsimp only at h
    split at h
    · rename_i same
      cases same
    · rename_i same
      cases same
      obtain ⟨⟨key, mid⟩, named, h⟩ := Option.bind_eq_some_iff.mp h
      obtain ⟨name, text, h⟩ := Option.bind_eq_some_iff.mp h
      obtain rfl : key = .text name := quoted_text text
      dsimp only at h
      split at h
      · rename_i colon
        obtain ⟨⟨passed, behind⟩, passes, h⟩ := Option.bind_eq_some_iff.mp h
        dsimp only at h
        split at h
        · rename_i closes
          obtain ⟨keeps, rfl⟩ := keepClaim_of_kept h
          exact ⟨_, .last named colon passes closes, keeps⟩
        · rename_i comma
          obtain ⟨⟨claims, stop⟩, others, h⟩ := Option.bind_eq_some_iff.mp h
          obtain ⟨met, meets, kept⟩ := ih others
          obtain ⟨keeps, rfl⟩ := keepClaim_of_kept h
          refine ⟨_, .next named colon passes comma meets, ?_⟩
          rw [keepClaims?, kept]
          exact keeps
        · cases h
      · cases h
    · cases h

theorem readClaims?_of_meets {cs rest : List Symbol} {met kept : Met} (meets : Meets cs met rest)
    (keeps : keepClaims? met = some kept) {fuel : Nat} (enough : met.length ≤ fuel) :
    readClaims? fuel cs = some (kept, rest) := by
  induction meets generalizing fuel kept with
  | last named colon passes closes =>
    obtain ⟨fuel, rfl⟩ : ∃ k, fuel = k + 1 := ⟨fuel - 1, by simp at enough; omega⟩
    have keeps : keepClaim _ _ [] = some kept := keeps
    rw [readClaims?_last named colon passes closes, keeps]
    rfl
  | next named colon passes comma others ih =>
    simp only [List.length_cons] at enough
    obtain ⟨fuel, rfl⟩ : ∃ k, fuel = k + 1 := ⟨fuel - 1, by omega⟩
    obtain ⟨claims, behind, keeps⟩ := Option.bind_eq_some_iff.mp keeps
    rw [readClaims?_next named colon passes comma (ih behind (by omega)), keeps]
    rfl

/-! ### Claims that are kept -/

/-- No registered name comes twice among these. -/
def Unrepeated (names : List String) : Prop := (names.filter registeredNames.contains).Nodup

theorem unrepeated_cons {name : String} {names : List String} :
    Unrepeated (name :: names) ↔
      (registeredNames.contains name = true → name ∉ names) ∧ Unrepeated names := by
  unfold Unrepeated
  by_cases known : registeredNames.contains name = true
  · rw [List.filter_cons_of_pos known, List.nodup_cons, List.mem_filter]
    exact ⟨fun ⟨new, rest⟩ => ⟨fun _ member => new ⟨member, known⟩, rest⟩,
      fun ⟨new, rest⟩ => ⟨fun ⟨member, _⟩ => new known member, rest⟩⟩
  · rw [List.filter_cons_of_neg known]
    exact ⟨fun rest => ⟨fun yes => absurd yes known, rest⟩, fun ⟨_, rest⟩ => rest⟩

theorem keepClaims?_lookup {met kept : Met} (keeps : keepClaims? met = some kept) {name : String}
    (known : registeredNames.contains name = true) : kept.lookup name = met.lookup name := by
  induction met generalizing kept with
  | nil =>
    cases keeps
    rfl
  | cons claim met ih =>
    obtain ⟨first, passed⟩ := claim
    obtain ⟨others, rest, keeps⟩ := Option.bind_eq_some_iff.mp keeps
    unfold keepClaim at keeps
    split at keeps
    · rename_i unknown
      cases keeps
      have other : (name == first) = false := by
        refine beq_eq_false_iff_ne.mpr ?_
        rintro rfl
        rw [known] at unknown
        cases unknown
      rw [ih rest, List.lookup_cons, other]
    · split at keeps
      · cases keeps
      · cases keeps
        rw [List.lookup_cons, List.lookup_cons, ih rest]

theorem lookup_isSome_iff {α : Type} {met : List (String × α)} {name : String} :
    (met.lookup name).isSome ↔ name ∈ met.map Prod.fst := by
  induction met with
  | nil => simp
  | cons claim met ih =>
    rw [List.lookup_cons, List.map_cons, List.mem_cons, ← ih]
    cases same : name == claim.1 with
    | true => simp [beq_iff_eq.mp same]
    | false => simp [beq_eq_false_iff_ne.mp same]

/-- The claims are kept if and only if no registered one was met twice. -/
theorem keepClaims?_iff (met : Met) :
    (∃ kept, keepClaims? met = some kept) ↔ Unrepeated (met.map Prod.fst) := by
  induction met with
  | nil => simp [keepClaims?, Unrepeated]
  | cons claim met ih =>
    obtain ⟨name, passed⟩ := claim
    rw [List.map_cons, unrepeated_cons, ← ih]
    constructor
    · rintro ⟨kept, keeps⟩
      obtain ⟨others, rest, keeps⟩ := Option.bind_eq_some_iff.mp keeps
      refine ⟨fun known member => ?_, others, rest⟩
      unfold keepClaim at keeps
      rw [known, keepClaims?_lookup rest known, lookup_isSome_iff.mpr member] at keeps
      cases keeps
    · rintro ⟨new, others, rest⟩
      rw [keepClaims?, rest, Option.bind_some, keepClaim]
      by_cases known : registeredNames.contains name = true
      · have fresh : (others.lookup name).isSome = false := by
          rw [keepClaims?_lookup rest known, Bool.eq_false_iff]
          exact fun found => new known (lookup_isSome_iff.mp found)
        rw [known, fresh]
        exact ⟨_, rfl⟩
      · rw [Bool.eq_false_iff.mpr known]
        exact ⟨_, rfl⟩

/-! ### Going astray -/

theorem done_passClaim {depth : Nat} {cs behind : List Symbol} {name : String} {passed : Option Json}
    (lost : Lost depth cs) (passes : passClaim name cs = some (passed, behind)) : Done depth behind := by
  unfold passClaim at passes
  split at passes
  · have done := done_passScalar lost
    rw [Option.some.inj passes] at done
    exact done
  · split at passes
    · have done := (done_pass (cs.length + 1)).1 (maxDepth - 1) lost
      rw [Option.some.inj passes] at done
      exact done
    · obtain ⟨⟨j, rest⟩, read, same⟩ := Option.map_eq_some_iff.mp passes
      cases same
      exact Or.inr (tracks_lost.reads (reads_of_isRead _ (.value j) read) lost)

theorem lost_of_done {depth : Nat} {cs tail : List Symbol} {s : Symbol} (done : Done depth cs)
    (front : skipSpace cs = s :: tail) : Lost depth cs := by
  rcases done with rfl | lost
  · cases front
  · exact lost

/-- A reader that is lost among claims does not get out of them. -/
theorem Meets.lost {depth : Nat} {cs rest : List Symbol} {met : Met} (meets : Meets cs met rest)
    (lost : Lost (depth + 1) cs) : Lost depth rest := by
  induction meets with
  | last named colon passes closes =>
    obtain ⟨ps, quotes, -⟩ := quotes_of_readQuoted named
    have start := tracks_lost.behind colon (by decide) (tracks_lost.quotes quotes lost)
    exact tracks_lost.leave closes (Or.inr rfl) (lost_of_done (done_passClaim start passes) closes)
  | next named colon passes comma _ ih =>
    obtain ⟨ps, quotes, -⟩ := quotes_of_readQuoted named
    have start := tracks_lost.behind colon (by decide) (tracks_lost.quotes quotes lost)
    exact ih (tracks_lost.behind comma (by decide) (lost_of_done (done_passClaim start passes) comma))

theorem isAudience_noTexts {j : Json} (other : NoTexts j) : isAudience j = false := by
  obtain ⟨text, items⟩ := other
  cases j with
  | string q =>
    cases q with
    | text s => cases text
    | strayBytes => rfl
    | loneSurrogate => rfl
  | array js =>
    obtain ⟨item, member, foreign⟩ := items js rfl
    rw [isAudience, List.all_eq_false]
    exact ⟨item, member, by simp [foreign]⟩
  | _ => rfl

/-- The value of a claim is passed over up to its end, and then it is seen whether it is an audience,
or the reader goes astray. -/
theorem passClaim_cases {depth : Nat} {cs rest behind : List Symbol} {name : String} {j : Json}
    {passed : Option Json} (reads : Reads cs (.value j) rest) (closes : (Stand.plain depth).Closes cs)
    (breaks : Breaks rest) (passes : passClaim name cs = some (passed, behind)) :
    (behind = rest ∧ (name = "aud" → passed.any isAudience = isAudience j)) ∨ Astray depth behind := by
  unfold passClaim at passes
  split at passes
  · rename_i time
    have ends := reads.ends_scalar closes breaks
    rw [Option.some.inj passes] at ends
    refine ends.imp_left fun same => ⟨same, ?_⟩
    rintro rfl
    exact absurd time (by decide)
  · split at passes
    · have here := reads.passes closes (cs.length + 1) (maxDepth - 1) breaks
      rw [Option.some.inj passes] at here
      cases here with
      | kept => exact Or.inl ⟨rfl, fun _ => rfl⟩
      | dropped other => exact Or.inl ⟨rfl, fun _ => (isAudience_noTexts other).symm⟩
      | astray gone => exact Or.inr gone
    · rename_i other
      obtain ⟨⟨j', rest'⟩, read, same⟩ := Option.map_eq_some_iff.mp passes
      cases same
      have again : readValue cs.length cs = some (j, rest) := reads.isRead (by omega)
      obtain ⟨rfl, rfl⟩ := readValue_unique again read
      exact Or.inl ⟨rfl, fun aud => absurd aud other⟩

theorem not_stuck {cs tail : List Symbol} {c : Char} (stuck : Stuck cs)
    (front : skipSpace cs = some c :: tail) (mark : startsValue c = false) : False := by
  rw [stuck.skipSpace] at front
  rcases stuck with rfl | ⟨d, _, rfl, starts⟩
  · cases front
  · cases front
    rw [starts] at mark
    cases mark

/-! ### Agreement -/

/-- That a claim that was met is an entry that was read, and an audience if that is one. -/
structure Agrees (entry : Quoted × Json) (claim : String × Option Json) : Prop where
  name : entry.1 = .text claim.1
  audience : claim.1 = "aud" → claim.2.any isAudience = isAudience entry.2

section Agreement

variable {cs mid tail rest behind stop : List Symbol} {name : String} {j : Json} {passed : Option Json}
  {entries : List (Quoted × Json)} {met : Met}

theorem agrees_or_astray (closes : (Stand.plain 1).Closes (some '"' :: cs))
    (named : readQuoted cs = some (.text name, mid)) (colon : skipSpace mid = some ':' :: tail)
    (reads : Reads (skipSpace tail) (.value j) rest) (breaks : Breaks rest)
    (passes : passClaim name (skipSpace tail) = some (passed, behind)) :
    (behind = rest ∧ Agrees (.text name, j) (name, passed)) ∨ Astray 1 behind := by
  obtain ⟨ps, quotes, -⟩ := quotes_of_readQuoted named
  have start := tracks_closes.behind colon (by decide) (tracks_closes.quotes quotes closes)
  exact (passClaim_cases reads start breaks passes).imp_left
    fun ⟨same, audience⟩ => ⟨same, rfl, audience⟩

/-- Behind a value that led the reader astray no brace leads out of the claims. -/
theorem lost_of_brace (astray : Astray 1 behind) (brace : skipSpace behind = some '\x7d' :: rest) :
    Lost 1 rest := by
  rcases astray with stuck | lost
  · exact (not_stuck stuck brace (by decide)).elim
  · exact tracks_lost.leave brace (Or.inr rfl) lost

theorem lost_of_comma (astray : Astray 1 behind) (comma : skipSpace behind = some ',' :: rest) :
    Lost 2 (skipSpace rest) := by
  rcases astray with stuck | lost
  · exact (not_stuck stuck comma (by decide)).elim
  · exact tracks_lost.behind comma (by decide) lost

theorem not_lost_end (ends : skipSpace rest = []) : ¬Lost 1 rest := by
  intro lost
  have there := tracks_lost.skipSpace lost
  rw [ends] at there
  exact not_lost_nil 0 there

theorem first_entry {key : Quoted} (reads : Reads (some '"' :: cs) (.entries entries) rest)
    (named : readQuoted cs = some (key, mid)) (colon : skipSpace mid = some ':' :: tail) :
    ∃ value behind others, entries = (key, value) :: others ∧
      Reads (skipSpace tail) (.value value) behind ∧ Breaks behind ∧
      (others = [] ∧ skipSpace behind = some '\x7d' :: rest ∨
        ∃ next, skipSpace behind = some ',' :: next ∧ Reads (skipSpace next) (.entries others) rest) := by
  cases reads with
  | lastEntry named' colon' first brace =>
    cases named.symm.trans named'
    cases colon.symm.trans colon'
    exact ⟨_, _, _, rfl, first, breaks_of_skipSpace brace (by decide), Or.inl ⟨rfl, brace⟩⟩
  | nextEntry named' colon' first comma others =>
    cases named.symm.trans named'
    cases colon.symm.trans colon'
    exact ⟨_, _, _, rfl, first, breaks_of_skipSpace comma (by decide), Or.inr ⟨_, comma, others⟩⟩

/-- Where the second pass gets to the end, it meets the entries that the first one reads. -/
theorem Meets.agrees (meets : Meets cs met stop) (ends : skipSpace stop = [])
    (reads : Reads cs (.entries entries) rest) (closes : (Stand.plain 1).Closes cs) :
    List.Forall₂ Agrees entries met := by
  -- Both passes stand at the same entry; one that a value led astray would not get to the end.
  induction meets generalizing entries with
  | last named colon passes brace =>
    obtain ⟨value, behind, others, rfl, first, breaks, after⟩ := first_entry reads named colon
    rcases agrees_or_astray closes named colon first breaks passes with ⟨rfl, agrees⟩ | astray
    · rcases after with ⟨rfl, -⟩ | ⟨next, comma, -⟩
      · exact .cons agrees .nil
      · cases brace.symm.trans comma
    · exact absurd (lost_of_brace astray brace) (not_lost_end ends)
  | next named colon passes comma others ih =>
    obtain ⟨value, behind, more, rfl, first, breaks, after⟩ := first_entry reads named colon
    rcases agrees_or_astray closes named colon first breaks passes with ⟨rfl, agrees⟩ | astray
    · rcases after with ⟨-, brace⟩ | ⟨next, comma', more⟩
      · cases comma.symm.trans brace
      · cases comma.symm.trans comma'
        obtain ⟨ps, quotes, -⟩ := quotes_of_readQuoted named
        have start := tracks_closes.behind colon (by decide) (tracks_closes.quotes quotes closes)
        have next := tracks_closes.behind comma (by decide) (tracks_closes.reads first start)
        exact .cons agrees (ih ends more next)
    · exact absurd (others.lost (lost_of_comma astray comma)) (not_lost_end ends)

theorem Meets.quote (meets : Meets cs met stop) : ∃ tail, cs = some '"' :: tail := by
  cases meets with
  | last => exact ⟨_, rfl⟩
  | next => exact ⟨_, rfl⟩

theorem GetsThrough.agrees (read : read? cs = some (.object entries)) (through : GetsThrough cs met) :
    List.Forall₂ Agrees entries met := by
  obtain ⟨tail, rest, brace, meets, ends⟩ := through
  obtain ⟨tail', brace', closes, ⟨-, rest', empty⟩ | ⟨rest', reads, -⟩⟩ := reads_of_read? read
  · cases brace.symm.trans brace'
    obtain ⟨start, quote⟩ := meets.quote
    cases quote.symm.trans empty
  · cases brace.symm.trans brace'
    exact meets.agrees ends reads closes

/-! ### What the second pass finds -/

/-- The names of entries. -/
def namesOf (entries : List (Quoted × Json)) : List String := entries.filterMap fun entry => entry.1.text?

theorem namesOf_agrees (agrees : List.Forall₂ Agrees entries met) : namesOf entries = met.map Prod.fst := by
  induction agrees with
  | nil => rfl
  | cons first _ ih =>
    rw [namesOf, List.filterMap_cons, first.name]
    exact congrArg _ ih

theorem mem_met {entry : Quoted × Json} (agrees : List.Forall₂ Agrees entries met)
    (member : entry ∈ entries) (text : entry.1 = .text name) : name ∈ met.map Prod.fst := by
  rw [← namesOf_agrees agrees]
  exact List.mem_filterMap.mpr ⟨entry, member, by rw [text]; rfl⟩

/-- If no registered name comes twice, the audience that is kept is the one that was read. -/
theorem audience_agrees (agrees : List.Forall₂ Agrees entries met)
    (unrepeated : Unrepeated (met.map Prod.fst)) :
    (met.lookup "aud").any (·.any isAudience) = true ↔
      ∃ j, (.text "aud", j) ∈ entries ∧ isAudience j = true := by
  induction agrees with
  | nil => simp
  | @cons entry claim entries met first rest ih =>
    rw [List.map_cons, unrepeated_cons] at unrepeated
    obtain ⟨new, unrepeated⟩ := unrepeated
    obtain ⟨key, j⟩ := entry
    obtain ⟨name, passed⟩ := claim
    obtain ⟨rfl, audience⟩ := first
    by_cases aud : name = "aud"
    -- An audience that is met first is the only one, for the name is registered.
    · subst aud
      rw [List.lookup_cons_self, Option.any_some, audience rfl]
      constructor
      · exact fun yes => ⟨j, List.mem_cons_self, yes⟩
      · rintro ⟨j', member, yes⟩
        rcases List.mem_cons.mp member with same | behind
        · cases same
          exact yes
        · exact absurd (mem_met rest behind rfl) (new (show registeredNames.contains "aud" = true by decide))
    · have other : ("aud" == name) = false := beq_eq_false_iff_ne.mpr (Ne.symm aud)
      rw [List.lookup_cons, other, ih unrepeated]
      constructor
      · rintro ⟨j', member, yes⟩
        exact ⟨j', List.mem_cons_of_mem _ member, yes⟩
      · rintro ⟨j', member, yes⟩
        rcases List.mem_cons.mp member with same | behind
        · cases same
          exact absurd rfl aud
        · exact ⟨j', behind, yes⟩

theorem length_entries (reads : Reads cs (.entries entries) rest) : entries.length ≤ cs.length := by
  induction entries generalizing cs with
  | nil => exact Nat.zero_le _
  | cons entry entries ih =>
    have less := reads.length_lt
    cases reads with
    | lastEntry =>
      simp only [List.length_cons, List.length_nil]
      omega
    | nextEntry named colon first comma others =>
      have value := length_named named colon
      have inner := first.length_lt
      have behind := length_next comma
      have more := ih others
      simp only [List.length_cons]
      omega

theorem getsThrough_of_registered? {kept : Met} (h : registered? cs = some kept) :
    ∃ met, GetsThrough cs met ∧ keepClaims? met = some kept := by
  unfold registered? at h
  split at h
  · rename_i tail brace
    obtain ⟨⟨claims, rest⟩, read, h⟩ := Option.bind_eq_some_iff.mp h
    dsimp only at h
    split at h
    · rename_i ends
      cases h
      obtain ⟨met, meets, keeps⟩ := meets_of_readClaims? read
      exact ⟨met, ⟨tail, rest, brace, meets, List.isEmpty_iff.mp ends⟩, keeps⟩
    · cases h
  · cases h

theorem registered?_of_getsThrough {kept : Met} (read : read? cs = some (.object entries))
    (through : GetsThrough cs met) (keeps : keepClaims? met = some kept) : registered? cs = some kept := by
  have size := (through.agrees read).length_eq
  obtain ⟨tail, rest, brace, meets, ends⟩ := through
  obtain ⟨tail', brace', -, ⟨-, rest', empty⟩ | ⟨rest', reads, -⟩⟩ := reads_of_read? read
  · cases brace.symm.trans brace'
    obtain ⟨start, quote⟩ := meets.quote
    cases quote.symm.trans empty
  · cases brace.symm.trans brace'
    have least := length_entries reads
    have least' := length_skipSpace_le tail
    have behind := length_behind brace
    unfold registered?
    rw [brace]
    simp [readClaims?_of_meets meets keeps (show met.length ≤ cs.length + 1 by omega), ends]

/-- The second pass accepts a payload if it gets to its end and no registered claim comes twice. -/
theorem registered?_iff (read : read? cs = some (.object entries)) :
    (∃ kept, registered? cs = some kept) ↔
      (∃ met, GetsThrough cs met) ∧ Unrepeated (namesOf entries) := by
  constructor
  · rintro ⟨kept, second⟩
    obtain ⟨met, through, keeps⟩ := getsThrough_of_registered? second
    refine ⟨⟨met, through⟩, ?_⟩
    rw [namesOf_agrees (through.agrees read)]
    exact (keepClaims?_iff met).mp ⟨kept, keeps⟩
  · rintro ⟨⟨met, through⟩, unrepeated⟩
    rw [namesOf_agrees (through.agrees read)] at unrepeated
    obtain ⟨kept, keeps⟩ := (keepClaims?_iff met).mpr unrepeated
    exact ⟨kept, registered?_of_getsThrough read through keeps⟩

/-- That a payload names an audience. -/
def Addressed (entries : List (Quoted × Json)) : Prop :=
  ∃ j, (.text "aud", j) ∈ entries ∧ isAudience j = true

/-- The second pass finds an audience if the payload names one. -/
theorem registered?_audience {kept : Met} (read : read? cs = some (.object entries))
    (second : registered? cs = some kept) :
    (kept.lookup "aud").any (·.any isAudience) = true ↔ Addressed entries := by
  obtain ⟨met, through, keeps⟩ := getsThrough_of_registered? second
  rw [keepClaims?_lookup keeps (show registeredNames.contains "aud" = true by decide)]
  exact audience_agrees (through.agrees read) ((keepClaims?_iff met).mp ⟨kept, keeps⟩)

end Agreement

/-! ### Claims that do not lead astray -/

/-- An entry that the second pass gets past: the times that it looks at are without parts and without
exponents, and an audience can be kept as it stands. -/
structure Ordinary (entry : Quoted × Json) : Prop where
  key : entry.1.text?.isSome
  time : entry.1 = .text "exp" ∨ entry.1 = .text "nbf" → Plain entry.2
  audience : entry.1 = .text "aud" → (Part.value entry.2).Whole (maxDepth - 1)

section Ordinary

variable {cs rest : List Symbol} {entries : List (Quoted × Json)}

theorem passClaim_ordinary {name : String} {j : Json} (reads : Reads cs (.value j) rest)
    (breaks : Breaks rest) (ordinary : Ordinary (.text name, j)) :
    ∃ passed, passClaim name cs = some (passed, rest) := by
  unfold passClaim
  split
  · rename_i time
    have plain := ordinary.time (time.imp (congrArg _) (congrArg _))
    exact ⟨_, congrArg some (Prod.ext rfl (reads.passScalar_plain plain breaks))⟩
  · split
    · rename_i aud
      have whole := ordinary.audience (congrArg _ aud)
      exact ⟨_, congrArg some (reads.isKept whole (by omega) breaks)⟩
    · have read : readValue (cs.length + 1) cs = some (j, rest) := reads.isRead (by omega)
      rw [read]
      exact ⟨_, rfl⟩

theorem meets_of_ordinary (reads : Reads cs (.entries entries) rest)
    (ordinary : ∀ entry ∈ entries, Ordinary entry) : ∃ met, Meets cs met rest := by
  induction entries generalizing cs with
  | nil => exact absurd rfl reads.entries_ne_nil
  | cons entry entries ih =>
    have first := ordinary _ List.mem_cons_self
    have others := fun entry member => ordinary entry (List.mem_cons_of_mem _ member)
    cases reads with
    | lastEntry named colon value closes =>
      obtain ⟨name, text⟩ := Option.isSome_iff_exists.mp first.key
      cases quoted_text text
      have breaks := breaks_of_skipSpace closes (by decide)
      obtain ⟨passed, passes⟩ := passClaim_ordinary value breaks first
      exact ⟨_, .last named colon passes closes⟩
    | nextEntry named colon value comma more =>
      obtain ⟨name, text⟩ := Option.isSome_iff_exists.mp first.key
      cases quoted_text text
      have breaks := breaks_of_skipSpace comma (by decide)
      obtain ⟨passed, passes⟩ := passClaim_ordinary value breaks first
      obtain ⟨met, meets⟩ := ih more others
      exact ⟨_, .next named colon passes comma meets⟩

/-- The second pass gets to the end of a payload of ordinary claims. -/
theorem getsThrough_of_ordinary (read : read? cs = some (.object entries))
    (filled : entries ≠ []) (ordinary : ∀ entry ∈ entries, Ordinary entry) : ∃ met, GetsThrough cs met := by
  obtain ⟨tail, brace, -, ⟨empty, -⟩ | ⟨rest, reads, ends⟩⟩ := reads_of_read? read
  · exact absurd empty filled
  · obtain ⟨met, meets⟩ := meets_of_ordinary reads ordinary
    exact ⟨met, tail, rest, brace, meets, ends⟩

theorem knownEntries?_cons {names : List String} {r : Record} {key : Quoted} {j : Json}
    (h : knownEntries? names ((key, j) :: entries) = some r) :
    ∃ name others, key = .text name ∧ knownEntries? names entries = some others ∧
      (name ∉ names ∧ r = others ∨ others.lookup name = none ∧ r = (name, j) :: others) := by
  obtain ⟨name, text, h⟩ := Option.bind_eq_some_iff.mp h
  obtain ⟨others, known, h⟩ := Option.bind_eq_some_iff.mp h
  refine ⟨name, others, quoted_text text, known, ?_⟩
  split at h
  · rename_i foreign
    rw [Bool.not_eq_true', List.contains_eq_mem, decide_eq_false_iff_not] at foreign
    exact Or.inl ⟨foreign, (Option.some.inj h).symm⟩
  · split at h
    · cases h
    · rename_i new
      exact Or.inr ⟨Option.not_isSome_iff_eq_none.mp new, (Option.some.inj h).symm⟩

theorem knownEntries?_text {names : List String} {r : Record} (h : knownEntries? names entries = some r)
    {key : Quoted} {j : Json} (member : (key, j) ∈ entries) :
    ∃ name, key = .text name ∧ (name ∈ names → r.lookup name = some j) := by
  induction entries generalizing r with
  | nil => cases member
  | cons entry entries ih =>
    obtain ⟨first, value⟩ := entry
    obtain ⟨name, others, rfl, known, kept⟩ := knownEntries?_cons h
    rcases List.mem_cons.mp member with same | behind
    · cases same
      refine ⟨name, rfl, fun inside => ?_⟩
      rcases kept with ⟨foreign, -⟩ | ⟨-, rfl⟩
      · exact absurd inside foreign
      · exact List.lookup_cons_self
    · obtain ⟨later, rfl, found⟩ := ih known behind
      refine ⟨later, rfl, fun inside => ?_⟩
      rcases kept with ⟨-, rfl⟩ | ⟨new, rfl⟩
      · exact found inside
      · have other : (later == name) = false := by
          refine beq_eq_false_iff_ne.mpr ?_
          rintro rfl
          rw [found inside] at new
          cases new
        rw [List.lookup_cons, other, found inside]

theorem plain_of_int64? {j : Json} {n : Int64} (h : int64? j = some n) : Plain j := by
  obtain ⟨i, int, -⟩ := Option.map_eq_some_iff.mp h
  unfold int? at int
  split at int
  · rename_i number
    split at int
    · rename_i i' read
      unfold Number.int? at read
      split at read
      · cases read
      · rename_i unusual
        simp only [Bool.or_eq_true, not_or, Bool.not_eq_true', Bool.not_eq_false] at unusual
        exact unusual.1
    · cases int
  · cases int

/-- The entries of claims are ordinary if those for a start and an audience are. -/
theorem ordinary_of_claims {c : Claims} (claims : Claims.ofJson? (.object entries) = some c)
    (notBefore : ∀ j, (.text "nbf", j) ∈ entries → Plain j)
    (audience : ∀ j, (.text "aud", j) ∈ entries → (Part.value j).Whole (maxDepth - 1)) :
    ∀ entry ∈ entries, Ordinary entry := by
  obtain ⟨r, record, claims⟩ := Option.bind_eq_some_iff.mp claims
  obtain ⟨subject, -, claims⟩ := Option.bind_eq_some_iff.mp claims
  obtain ⟨issuer, -, claims⟩ := Option.bind_eq_some_iff.mp claims
  obtain ⟨issued, -, claims⟩ := Option.bind_eq_some_iff.mp claims
  obtain ⟨expires, ends, claims⟩ := Option.bind_eq_some_iff.mp claims
  rintro ⟨key, j⟩ member
  obtain ⟨name, rfl, found⟩ := knownEntries?_text record member
  refine ⟨rfl, ?_, fun aud => audience j (aud ▸ member)⟩
  rintro (exp | nbf)
  · cases exp
    have there := found (by decide)
    unfold Record.field? at ends
    rw [there] at ends
    exact plain_of_int64? ends
  · exact notBefore j (nbf ▸ member)

end Ordinary

end DeviceSessions
