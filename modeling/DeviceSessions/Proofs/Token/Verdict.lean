import DeviceSessions.Proofs.Token.Registered

/-!
# Which tokens are accepted

What has to hold of a token for it to be accepted, and which error the first thing that does not hold
leads to. Nothing here follows the steps of the check: tokens are related to the bytes that their parts
encode, and payloads to the entries that stand in them.
-/

namespace DeviceSessions

open Json

/-- `Heads token p name`: the token is these three parts with points between them, and the first part
is a header that names this algorithm. -/
structure Heads (token : String) (p : TokenParts) (name : String) : Prop where
  joined : token = p.message ++ "." ++ p.signature
  payload : '.' ∉ p.payload.toList
  signature : '.' ∉ p.signature.toList
  header : ∃ bs, p.header = Issuer.encodePart bs ∧ (ofBytes? bs).bind Header.algorithm? = some name

/-- `Signed a token p`: the header names the one algorithm, and the signature is that of `a`. -/
structure Signed (a : Issuer) (token : String) (p : TokenParts) : Prop where
  heads : Heads token p Header.algorithm
  right : p.signature = Issuer.encodePart (a.signature p.message)

/-- `Tells payload entries c`: the payload encodes an object of these entries, which are read as the
claims `c`. No registered claim comes twice among them, and the second pass gets to their end. -/
structure Tells (payload : String) (entries : List (Quoted × Json)) (c : Claims) : Prop where
  claims : Claims.ofJson? (.object entries) = some c
  unrepeated : Unrepeated (namesOf entries)
  bytes : ∃ bs, payload = Issuer.encodePart bs ∧ ofBytes? bs = some (.object entries) ∧
    ∃ met, GetsThrough (Symbol.ofBytes bs) met

namespace Issuer

variable {a : Issuer} {token payload : String} {p : TokenParts} {name : String}
  {entries : List (Quoted × Json)} {c : Claims} {now : Instant} {fault : TokenFault}

/-- All that has to hold of a token for it to be accepted. -/
def Accepts (a : Issuer) (token : String) (now : Instant) (c : Claims) : Prop :=
  ∃ p entries, Signed a token p ∧ Tells p.payload entries c ∧ 0 ≤ c.expires.toInt ∧
    now.secs - 5 ≤ c.expires.toInt ∧ c.issuer = a.name ∧ ¬Addressed entries

/-- Why a token is refused: the first thing that does not hold of it. -/
inductive Refuses (a : Issuer) (token : String) (now : Instant) : TokenFault → Prop
  | headless (never : ∀ p name, ¬Heads token p name) : Refuses a token now .malformed
  | foreign {p : TokenParts} {name : String} (heads : Heads token p name)
    (other : name ≠ Header.algorithm) : Refuses a token now .algorithm
  | unsigned {p : TokenParts} (heads : Heads token p Header.algorithm)
    (never : ∀ bs, p.signature ≠ encodePart bs) : Refuses a token now .malformed
  | forged {p : TokenParts} {bs : Bytes} (heads : Heads token p Header.algorithm)
    (signature : p.signature = encodePart bs) (wrong : bs ≠ a.signature p.message) :
    Refuses a token now .signature
  | mute {p : TokenParts} (signed : Signed a token p) (never : ∀ entries c, ¬Tells p.payload entries c) :
    Refuses a token now .malformed
  | endless {p : TokenParts} {entries : List (Quoted × Json)} {c : Claims} (signed : Signed a token p)
    (tells : Tells p.payload entries c) (negative : c.expires.toInt < 0) :
    Refuses a token now .missingClaim
  | expired {p : TokenParts} {entries : List (Quoted × Json)} {c : Claims} (signed : Signed a token p)
    (tells : Tells p.payload entries c) (positive : 0 ≤ c.expires.toInt)
    (late : c.expires.toInt < now.secs - 5) : Refuses a token now .expired
  | strange {p : TokenParts} {entries : List (Quoted × Json)} {c : Claims} (signed : Signed a token p)
    (tells : Tells p.payload entries c) (positive : 0 ≤ c.expires.toInt)
    (current : now.secs - 5 ≤ c.expires.toInt) (other : c.issuer ≠ a.name) : Refuses a token now .issuer
  | addressed {p : TokenParts} {entries : List (Quoted × Json)} {c : Claims} (signed : Signed a token p)
    (tells : Tells p.payload entries c) (positive : 0 ≤ c.expires.toInt)
    (current : now.secs - 5 ≤ c.expires.toInt) (own : c.issuer = a.name) (audience : Addressed entries) :
    Refuses a token now .malformed

/-! ### Parts -/

theorem decodePart?_iff {part : String} {cs : List Symbol} :
    decodePart? part = some cs ↔ ∃ bs, part = encodePart bs ∧ cs = Symbol.ofBytes bs := by
  constructor
  · intro h
    obtain ⟨bs, decoded, same⟩ := Option.bind_eq_some_iff.mp h
    exact ⟨bs, (Base64.decode?_eq_some_iff Base64.urlSafe_sound part bs).mp decoded,
      (Option.some.inj same).symm⟩
  · rintro ⟨bs, rfl, rfl⟩
    unfold decodePart? encodePart
    rw [Base64.decode?_encode Base64.urlSafe_sound]
    rfl

theorem decodeJson?_iff {part : String} {j : Json} :
    decodeJson? part = some j ↔ ∃ bs, part = encodePart bs ∧ ofBytes? bs = some j := by
  constructor
  · intro h
    obtain ⟨cs, decoded, read⟩ := Option.bind_eq_some_iff.mp h
    obtain ⟨bs, same, rfl⟩ := decodePart?_iff.mp decoded
    exact ⟨bs, same, read⟩
  · rintro ⟨bs, same, read⟩
    unfold decodeJson?
    rw [decodePart?_iff.mpr ⟨bs, same, rfl⟩]
    exact read

theorem ofText?_some (h : TokenParts.ofText? token = some p) :
    token = p.message ++ "." ++ p.signature ∧ '.' ∉ p.payload.toList ∧ '.' ∉ p.signature.toList := by
  obtain ⟨⟨message, signature⟩, outer, h⟩ := Option.bind_eq_some_iff.mp h
  obtain ⟨⟨header, payload⟩, inner, same⟩ := Option.bind_eq_some_iff.mp h
  obtain rfl := Option.some.inj same
  obtain ⟨text, second⟩ := Text.cutLast_some outer
  obtain ⟨rfl, first⟩ := Text.cutLast_some inner
  refine ⟨?_, by rwa [String.toList_ofList], by rwa [String.toList_ofList]⟩
  have back := congrArg String.ofList text
  rw [String.ofList_toList] at back
  rw [back]
  apply String.toList_inj.mp
  simp [TokenParts.message]

theorem heads_iff :
    Heads token p name ↔
      TokenParts.ofText? token = some p ∧ (decodeJson? p.header).bind Header.algorithm? = some name := by
  constructor
  · rintro ⟨rfl, payload, signature, bs, encoded, named⟩
    refine ⟨ofText?_join p.header payload signature, ?_⟩
    obtain ⟨j, read, known⟩ := Option.bind_eq_some_iff.mp named
    rw [decodeJson?_iff.mpr ⟨bs, encoded, read⟩]
    exact known
  · rintro ⟨cut, named⟩
    obtain ⟨joined, payload, signature⟩ := ofText?_some cut
    obtain ⟨j, decoded, known⟩ := Option.bind_eq_some_iff.mp named
    obtain ⟨bs, encoded, read⟩ := decodeJson?_iff.mp decoded
    exact ⟨joined, payload, signature, bs, encoded, by rw [read]; exact known⟩

/-- Behind an opening brace stands an object. -/
theorem object_of_brace {cs tail : List Symbol} {j : Json} (read : read? cs = some j)
    (brace : skipSpace cs = some '\x7b' :: tail) : ∃ entries, j = .object entries := by
  obtain ⟨⟨j', rest⟩, value, ends⟩ := Option.bind_eq_some_iff.mp read
  dsimp only at ends
  split at ends
  · cases ends
    have reads : Reads (skipSpace cs) (.value j) rest := reads_of_isRead _ (.value _) value
    rw [brace] at reads
    cases reads with
    | word known => simp [words] at known
    | digits digit _ => exact absurd digit (by decide)
    | emptyObject => exact ⟨_, rfl⟩
    | object => exact ⟨_, rfl⟩
  · cases ends

theorem tells_iff :
    Tells payload entries c ↔ Claims.ofJson? (.object entries) = some c ∧
      ∃ cs kept, decodePart? payload = some cs ∧ read? cs = some (.object entries) ∧
        registered? cs = some kept := by
  constructor
  · rintro ⟨claims, unrepeated, bs, encoded, read, through⟩
    obtain ⟨kept, second⟩ := (registered?_iff read).mpr ⟨through, unrepeated⟩
    exact ⟨claims, _, kept, decodePart?_iff.mpr ⟨bs, encoded, rfl⟩, read, second⟩
  · rintro ⟨claims, cs, kept, decoded, read, second⟩
    obtain ⟨bs, encoded, rfl⟩ := decodePart?_iff.mp decoded
    obtain ⟨through, unrepeated⟩ := (registered?_iff read).mp ⟨kept, second⟩
    exact ⟨claims, unrepeated, bs, encoded, read, through⟩

/-! ### The steps of the check -/

/-- The steps behind the one for the signature. -/
def checkPayload (a : Issuer) (payload : String) (now : Instant) : Except TokenFault Claims := do
  let payload ← orMalformed (decodePart? payload)
  let claims ← orMalformed ((read? payload).bind Claims.ofJson?)
  let registered ← orMalformed (registered? payload)
  if claims.expires.toInt < 0 then throw .missingClaim
  if hasExpired claims.expires now then throw .expired
  if claims.issuer ≠ a.name then throw .issuer
  if (registered.lookup "aud").any (·.any isAudience) then throw .malformed
  return claims

theorem check_headless (never : ∀ p name, ¬Heads token p name) :
    a.check token now = .error .malformed := by
  unfold check
  cases cut : TokenParts.ofText? token with
  | none => rfl
  | some p =>
    cases named : (decodeJson? p.header).bind Header.algorithm? with
    | none => simp only [orMalformed, bind, Except.bind, named]
    | some name => exact absurd (heads_iff.mpr ⟨cut, named⟩) (never p name)

theorem check_heads (heads : Heads token p name) :
    a.check token now =
      if name ≠ Header.algorithm then .error .algorithm
      else match Base64.decode? Base64.urlSafe p.signature with
        | none => .error .malformed
        | some signature =>
          if signature ≠ a.signature p.message then .error .signature
          else a.checkPayload p.payload now := by
  obtain ⟨cut, named⟩ := heads_iff.mp heads
  unfold check
  rw [cut]
  simp only [orMalformed, bind, Except.bind, named]
  by_cases other : name ≠ Header.algorithm
  · rw [if_pos other, if_pos other]
    rfl
  · rw [if_neg other, if_neg other]
    cases Base64.decode? Base64.urlSafe p.signature with
    | none => rfl
    | some signature => rfl

theorem check_signed (signed : Signed a token p) :
    a.check token now = a.checkPayload p.payload now := by
  have decoded : Base64.decode? Base64.urlSafe p.signature = some (a.signature p.message) :=
    (Base64.decode?_eq_some_iff Base64.urlSafe_sound _ _).mpr signed.right
  rw [check_heads signed.heads, decoded]
  simp

theorem checkPayload_mute (never : ∀ entries c, ¬Tells payload entries c) :
    a.checkPayload payload now = .error .malformed := by
  unfold checkPayload
  cases decoded : decodePart? payload with
  | none => rfl
  | some cs =>
    cases read : (read? cs).bind Claims.ofJson? with
    | none => simp only [orMalformed, bind, Except.bind, read]
    | some c =>
      cases second : registered? cs with
      | none => simp only [orMalformed, bind, Except.bind, read, second]
      | some kept =>
        -- Claims may be read from a list as well, but the second pass asks for a brace.
        obtain ⟨j, value, claims⟩ := Option.bind_eq_some_iff.mp read
        obtain ⟨met, ⟨tail, rest, brace, -⟩, -⟩ := getsThrough_of_registered? second
        obtain ⟨entries, rfl⟩ := object_of_brace value brace
        exact absurd (tells_iff.mpr ⟨claims, cs, kept, decoded, value, second⟩) (never entries c)

/-- What the last steps look at is what the payload tells. -/
theorem checkPayload_tells (a : Issuer) (now : Instant) (tells : Tells payload entries c) :
    ∃ addressed : Bool, (addressed = true ↔ Addressed entries) ∧
      a.checkPayload payload now =
        if c.expires.toInt < 0 then .error .missingClaim
        else if hasExpired c.expires now then .error .expired
        else if c.issuer ≠ a.name then .error .issuer
        else if addressed then .error .malformed
        else .ok c := by
  obtain ⟨claims, cs, kept, decoded, value, second⟩ := tells_iff.mp tells
  have read : (read? cs).bind Claims.ofJson? = some c := by
    rw [value]
    exact claims
  refine ⟨_, registered?_audience value second, ?_⟩
  unfold checkPayload
  simp only [orMalformed, bind, Except.bind, decoded, read, second]
  rfl

/-- Of a token that is signed wrongly the payload is not looked at. -/
theorem check_wrong (cut : TokenParts.ofText? token = some p)
    (wrong : p.signature ≠ encodePart (a.signature p.message)) :
    a.check token now = (do
      let algorithm ← orMalformed ((decodeJson? p.header).bind Header.algorithm?)
      if algorithm ≠ Header.algorithm then throw .algorithm
      let _ ← orMalformed (Base64.decode? Base64.urlSafe p.signature)
      throw .signature) := by
  unfold check
  rw [cut]
  simp only [orMalformed, bind, Except.bind]
  cases (decodeJson? p.header).bind Header.algorithm? with
  | none => rfl
  | some name =>
    dsimp only
    by_cases foreign : name ≠ Header.algorithm
    · rw [if_pos foreign, if_pos foreign]
      rfl
    · rw [if_neg foreign, if_neg foreign]
      cases decoded : Base64.decode? Base64.urlSafe p.signature with
      | none => rfl
      | some bs =>
        have other : bs ≠ a.signature p.message := by
          rintro rfl
          exact wrong ((Base64.decode?_eq_some_iff Base64.urlSafe_sound _ _).mp decoded)
        dsimp only
        rw [if_pos other]
        rfl

/-! ### Verdicts -/

theorem hasExpired_iff {ends : Int64} (positive : 0 ≤ ends.toInt) (late : 5 ≤ now.secs) :
    hasExpired ends now = true ↔ ends.toInt < now.secs - 5 := by
  rw [hasExpired_eq positive late, decide_eq_true_eq]
  omega

theorem check_of_accepts (late : 5 ≤ now.secs) (accepts : a.Accepts token now c) :
    a.check token now = .ok c := by
  obtain ⟨p, entries, signed, tells, positive, current, own, nobody⟩ := accepts
  obtain ⟨addressed, known, last⟩ := checkPayload_tells a now tells
  have fresh := mt (hasExpired_iff positive late).mp (Int.not_lt.mpr current)
  rw [check_signed signed, last, if_neg (Int.not_lt.mpr positive), if_neg fresh,
    if_neg (not_not.mpr own), if_neg (mt known.mp nobody)]

theorem check_of_refuses (late : 5 ≤ now.secs) (refuses : a.Refuses token now fault) :
    a.check token now = .error fault := by
  cases refuses with
  | headless never => exact check_headless never
  | foreign heads other => rw [check_heads heads, if_pos other]
  | unsigned heads never =>
    rw [check_heads heads, if_neg (not_not.mpr rfl)]
    cases decoded : Base64.decode? Base64.urlSafe _ with
    | none => rfl
    | some bs => exact absurd ((Base64.decode?_eq_some_iff Base64.urlSafe_sound _ _).mp decoded) (never bs)
  | forged heads signature wrong =>
    rw [check_heads heads, if_neg (not_not.mpr rfl),
      (Base64.decode?_eq_some_iff Base64.urlSafe_sound _ _).mpr signature]
    exact if_pos wrong
  | mute signed never => rw [check_signed signed, checkPayload_mute never]
  | endless signed tells negative =>
    obtain ⟨addressed, -, last⟩ := checkPayload_tells a now tells
    rw [check_signed signed, last, if_pos negative]
  | expired signed tells positive past =>
    obtain ⟨addressed, -, last⟩ := checkPayload_tells a now tells
    have ended := (hasExpired_iff positive late).mpr past
    rw [check_signed signed, last, if_neg (Int.not_lt.mpr positive), if_pos ended]
  | strange signed tells positive current other =>
    obtain ⟨addressed, -, last⟩ := checkPayload_tells a now tells
    have fresh := mt (hasExpired_iff positive late).mp (Int.not_lt.mpr current)
    rw [check_signed signed, last, if_neg (Int.not_lt.mpr positive), if_neg fresh, if_pos other]
  | addressed signed tells positive current own audience =>
    obtain ⟨addressed, known, last⟩ := checkPayload_tells a now tells
    have fresh := mt (hasExpired_iff positive late).mp (Int.not_lt.mpr current)
    rw [check_signed signed, last, if_neg (Int.not_lt.mpr positive), if_neg fresh,
      if_neg (not_not.mpr own), if_pos (known.mpr audience)]

/-- A token whose signature is right is accepted, or there is a first thing that does not hold of it. -/
theorem accepts_or_refuses_signed (signed : Signed a token p) :
    (∃ c, a.Accepts token now c) ∨ ∃ fault, a.Refuses token now fault := by
  by_cases told : ∃ entries c, Tells p.payload entries c
  · obtain ⟨entries, c, tells⟩ := told
    by_cases positive : 0 ≤ c.expires.toInt
    · by_cases current : now.secs - 5 ≤ c.expires.toInt
      · by_cases own : c.issuer = a.name
        · by_cases audience : Addressed entries
          · exact Or.inr ⟨_, .addressed signed tells positive current own audience⟩
          · exact Or.inl ⟨c, p, entries, signed, tells, positive, current, own, audience⟩
        · exact Or.inr ⟨_, .strange signed tells positive current own⟩
      · exact Or.inr ⟨_, .expired signed tells positive (by omega)⟩
    · exact Or.inr ⟨_, .endless signed tells (by omega)⟩
  · exact Or.inr ⟨_, .mute signed fun entries c tells => told ⟨entries, c, tells⟩⟩

theorem accepts_or_refuses (a : Issuer) (token : String) (now : Instant) :
    (∃ c, a.Accepts token now c) ∨ ∃ fault, a.Refuses token now fault := by
  by_cases headed : ∃ p name, Heads token p name
  · obtain ⟨p, name, heads⟩ := headed
    by_cases known : name = Header.algorithm
    · subst known
      by_cases encoded : ∃ bs, p.signature = encodePart bs
      · obtain ⟨bs, signature⟩ := encoded
        by_cases right : bs = a.signature p.message
        · exact accepts_or_refuses_signed ⟨heads, right ▸ signature⟩
        · exact Or.inr ⟨_, .forged heads signature right⟩
      · exact Or.inr ⟨_, .unsigned heads fun bs signature => encoded ⟨bs, signature⟩⟩
    · exact Or.inr ⟨_, .foreign heads known⟩
  · exact Or.inr ⟨_, .headless fun p name heads => headed ⟨p, name, heads⟩⟩

theorem check_ok_iff (late : 5 ≤ now.secs) : a.check token now = .ok c ↔ a.Accepts token now c := by
  refine ⟨fun checked => ?_, check_of_accepts late⟩
  rcases accepts_or_refuses a token now with ⟨d, accepts⟩ | ⟨fault, refuses⟩
  · cases checked.symm.trans (check_of_accepts late accepts)
    exact accepts
  · cases checked.symm.trans (check_of_refuses late refuses)

theorem check_error_iff (late : 5 ≤ now.secs) :
    a.check token now = .error fault ↔ a.Refuses token now fault := by
  refine ⟨fun checked => ?_, check_of_refuses late⟩
  rcases accepts_or_refuses a token now with ⟨d, accepts⟩ | ⟨fault, refuses⟩
  · cases checked.symm.trans (check_of_accepts late accepts)
  · cases checked.symm.trans (check_of_refuses late refuses)
    exact refuses

/-! ### What is answered -/

theorem parse_of_fault (checked : a.check token now = .error fault) :
    a.parse token now = .error fault.error := by
  unfold parse
  rw [checked]

theorem check_sign_fresh (own : c.issuer = a.name) (positive : 0 ≤ c.expires.toInt)
    (fresh : hasExpired c.expires now = false) : a.check (a.sign c) now = .ok c := by
  rw [check_sign_own own positive, fresh]
  rfl

theorem parse_ok_iff (late : 5 ≤ now.secs) : a.parse token now = .ok c ↔ a.Accepts token now c := by
  rw [← check_ok_iff late]
  unfold parse
  cases a.check token now with
  | ok d => simp
  | error fault => simp

theorem parse_error_iff (late : 5 ≤ now.secs) {e : Error} :
    a.parse token now = .error e ↔ ∃ fault, a.Refuses token now fault ∧ e = fault.error := by
  simp only [← check_error_iff late]
  unfold parse
  cases a.check token now with
  | ok d => simp
  | error fault => simp [eq_comm]

theorem check_wrong_alike {header payload' signature : String} (first : '.' ∉ payload.toList)
    (first' : '.' ∉ payload'.toList) (second : '.' ∉ signature.toList)
    (wrong : signature ≠ encodePart (a.signature (header ++ "." ++ payload)))
    (wrong' : signature ≠ encodePart (a.signature (header ++ "." ++ payload'))) (now now' : Instant) :
    a.check (header ++ "." ++ payload ++ "." ++ signature) now =
      a.check (header ++ "." ++ payload' ++ "." ++ signature) now' := by
  rw [check_wrong (ofText?_join header first second) wrong,
    check_wrong (ofText?_join header first' second) wrong']

theorem getsThrough_of_claims {cs : List Symbol} (read : read? cs = some (.object entries))
    (claims : Claims.ofJson? (.object entries) = some c)
    (notBefore : ∀ j, (.text "nbf", j) ∈ entries → Plain j)
    (audience : ∀ j, (.text "aud", j) ∈ entries → (Part.value j).Whole (maxDepth - 1)) :
    ∃ met, GetsThrough cs met := by
  refine getsThrough_of_ordinary read ?_ (ordinary_of_claims claims notBefore audience)
  rintro rfl
  cases claims

/-- From the first seconds of 1970 on, a token is accepted with the claims for which all holds that has
to hold, and it is refused for the first thing that does not. To the answer to a token that is signed
wrongly it does not matter what the payload says. The second pass gets to the end of every payload of
claims whose start is plain and whose audience can be kept as it stands, where they are there. -/
theorem parse_verdict (a : Issuer) {now : Instant} (late : 5 ≤ now.secs) :
    (∀ token c, a.parse token now = .ok c ↔ a.Accepts token now c) ∧
    (∀ token e, a.parse token now = .error e ↔
      ∃ fault, a.Refuses token now fault ∧ e = ⟨.invalidToken, fault.message, false⟩) ∧
    (∀ header payload payload' signature : String, '.' ∉ payload.toList → '.' ∉ payload'.toList →
      '.' ∉ signature.toList → signature ≠ encodePart (a.signature (header ++ "." ++ payload)) →
      signature ≠ encodePart (a.signature (header ++ "." ++ payload')) →
      a.parse (header ++ "." ++ payload ++ "." ++ signature) now =
        a.parse (header ++ "." ++ payload' ++ "." ++ signature) now) ∧
    ∀ bs entries c, ofBytes? bs = some (.object entries) → Claims.ofJson? (.object entries) = some c →
      (∀ j, (.text "nbf", j) ∈ entries → Plain j) →
      (∀ j, (.text "aud", j) ∈ entries → Faithful j ∧ isSound (maxDepth - 1) j = true) →
      ∃ met, GetsThrough (Symbol.ofBytes bs) met := by
  refine ⟨fun token c => parse_ok_iff late, fun token e => parse_error_iff late, ?_, ?_⟩
  · intro header payload payload' signature first first' second wrong wrong'
    unfold parse
    rw [check_wrong_alike first first' second wrong wrong' now now]
  · intro bs entries c read claims notBefore audience
    exact getsThrough_of_claims read claims notBefore audience

/-- An issuer. -/
def keeper : Issuer := ⟨"0123456789abcdef0123456789abcdef", "keeper", 900, 604800⟩

/-- Claims of a token that it issued. -/
def keeperClaims : Claims :=
  { subject := ⟨List.replicate 16 3, rfl⟩, issuer := "keeper", issued := 1000, expires := 1600,
    id := ⟨List.replicate 16 4, rfl⟩, kind := .access }

/-- A token is accepted up to the end of the leeway. -/
theorem parse_verdict_keeper :
    5 ≤ (Instant.ofSecs 1605).secs ∧
      keeper.Accepts (keeper.sign keeperClaims) (.ofSecs 1605) keeperClaims := by
  have late : 5 ≤ (Instant.ofSecs 1605).secs := by decide
  have fresh : hasExpired keeperClaims.expires (.ofSecs 1605) = false := by decide
  have checked := check_sign_fresh (show keeperClaims.issuer = keeper.name from rfl) (by decide) fresh
  exact ⟨late, ((parse_verdict keeper late).1 _ _).mp (parse_of_check checked)⟩

/-! ### A payload that leads astray -/

/-- The parts of a token with any payload. -/
def partsOf (a : Issuer) (payload : Bytes) : TokenParts :=
  ⟨encodeJson Header.json, encodePart payload,
    encodePart (a.signature (encodeJson Header.json ++ "." ++ encodePart payload))⟩

theorem signed_partsOf (a : Issuer) (payload : Bytes) :
    Signed a ((a.partsOf payload).message ++ "." ++ (a.partsOf payload).signature)
      (a.partsOf payload) := by
  obtain ⟨bs, encoded, read⟩ := decodeJson?_iff.mp (decodeJson?_encodeJson faithful_header)
  refine ⟨⟨rfl, point_not_mem_encode _, point_not_mem_encode _, bs, encoded, ?_⟩, rfl⟩
  rw [read]
  exact algorithm?_json

theorem check_unregistered {j : Json} (signed : Signed a token p) (payload : p.payload = encodeJson j)
    (second : registered? ((writeList j).map some) = none) (now : Instant) :
    a.check token now = .error .malformed := by
  rw [check_signed signed, payload]
  refine checkPayload_mute fun entries c tells => ?_
  obtain ⟨-, cs, kept, decoded, -, found⟩ := tells_iff.mp tells
  cases (decodePart?_encodeJson j).symm.trans decoded
  cases second.symm.trans found

/-- Entries of claims, and a start that is a list. -/
def astrayEntries : List (Quoted × Json) :=
  textEntries [("sub", ofUuid keeperClaims.subject), ("iss", ofText "keeper"), ("iat", ofInt 1000),
    ("exp", ofInt 1600), ("jti", ofUuid keeperClaims.id), ("typ", TokenKind.access.toJson),
    ("nbf", .array [ofInt 1])]

/-- The bytes of these entries. -/
def astrayPayload : Bytes := Bytes.ofText (write (.object astrayEntries))

theorem ofBytes?_astray : ofBytes? astrayPayload = some (.object astrayEntries) := by
  have faithful : Faithful (.object astrayEntries) := by
    simp [astrayEntries, textEntries, TokenKind.toJson, ofUuid, ofText, ofInt, Faithful,
      FaithfulEntries, FaithfulItems, Quoted.text?, simple_ofInt]
  unfold ofBytes? astrayPayload
  rw [Symbol.ofBytes_ofText, Symbol.ofText, write, String.toList_ofList, read?_write faithful]

/-- A start has no part in the check, but a token can be refused for it. -/
theorem astray_refused :
    5 ≤ (Instant.ofSecs 1000).secs ∧
      Signed keeper ((keeper.partsOf astrayPayload).message ++ "." ++
        (keeper.partsOf astrayPayload).signature) (keeper.partsOf astrayPayload) ∧
      (keeper.partsOf astrayPayload).payload = encodePart astrayPayload ∧
      ofBytes? astrayPayload = some (.object astrayEntries) ∧
      Claims.ofJson? (.object astrayEntries) = some keeperClaims ∧
      Unrepeated (namesOf astrayEntries) ∧ 0 ≤ keeperClaims.expires.toInt ∧
      (Instant.ofSecs 1000).secs - 5 ≤ keeperClaims.expires.toInt ∧
      keeperClaims.issuer = keeper.name ∧ ¬Addressed astrayEntries ∧
      keeper.parse ((keeper.partsOf astrayPayload).message ++ "." ++
        (keeper.partsOf astrayPayload).signature) (.ofSecs 1000) =
          .error ⟨.invalidToken, "Malformed token", false⟩ := by
  have signed := signed_partsOf keeper astrayPayload
  have claims : Claims.ofJson? (.object astrayEntries) = some keeperClaims := by decide +kernel
  have unrepeated : Unrepeated (namesOf astrayEntries) := by
    unfold Unrepeated
    decide
  have nobody : ¬Addressed astrayEntries := by
    rintro ⟨j, member, -⟩
    simp [astrayEntries, textEntries] at member
  have second : registered? ((writeList (.object astrayEntries)).map some) = none := by decide +kernel
  exact ⟨by decide, signed, rfl, ofBytes?_astray, claims, unrepeated, by decide, by decide, rfl, nobody,
    parse_of_fault (check_unregistered signed rfl second _)⟩

end Issuer

end DeviceSessions
