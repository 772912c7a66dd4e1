import DeviceSessions.Proofs.Base64
import DeviceSessions.Proofs.Bytes
import DeviceSessions.Proofs.Json.RoundTrip
import DeviceSessions.Token.Check

/-!
# Token round trip

A token that was signed with some claims is checked to these claims, at any time at which it has not
expired.
-/

namespace DeviceSessions

open Json

/-! ### Claims in JSON -/

theorem int?_ofInt {low high n : Int} (above : low ≤ n) (below : n ≤ high) :
    int? low high (ofInt n) = some n := by
  have read : (Number.ofInt n).int? = some n := by
    by_cases negative : n < 0
    · have digits : n.natAbs ≠ 0 := by omega
      have sign : -(n.natAbs : Int) = n := by omega
      simp only [Number.int?, Number.ofInt, negative, decide_true, beq_iff_eq, digits,
        Bool.not_true, Bool.true_and, Bool.false_or, if_true, if_false, sign]
    · have sign : (n.natAbs : Int) = n := by omega
      simp only [Number.int?, Number.ofInt, negative, decide_false, Bool.false_and, Bool.not_true,
        Bool.or_self, if_false, Bool.false_eq_true, sign]
  simp [int?, ofInt, read, above, below]

theorem int64?_ofInt (n : Int64) : int64? (ofInt n.toInt) = some n := by
  have low := n.le_toInt
  have high := n.toInt_lt
  unfold int64?
  rw [int?_ofInt (by omega) (by omega), Option.map_some, Int64.ofInt_toInt]

theorem uuid?_ofUuid (u : Uuid) : uuid? (ofUuid u) = some u := by
  simp [uuid?, ofUuid, ofText, text?, Quoted.text?, Uuid.read_text]

theorem TokenKind.ofJson?_toJson (k : TokenKind) : TokenKind.ofJson? k.toJson = some k := by
  cases k <;> rfl

theorem Claims.ofJson?_toJson (c : Claims) : Claims.ofJson? c.toJson = some c := by
  obtain ⟨subject, issuer, issued, expires, id, kind⟩ := c
  have record : record? ["sub", "iss", "iat", "exp", "jti", "typ"]
      (Claims.toJson ⟨subject, issuer, issued, expires, id, kind⟩) =
        some [("sub", ofUuid subject), ("iss", ofText issuer), ("iat", ofInt issued.toInt),
          ("exp", ofInt expires.toInt), ("jti", ofUuid id), ("typ", kind.toJson)] := rfl
  have text : text? (ofText issuer) = some issuer := rfl
  unfold Claims.ofJson?
  rw [record]
  simp [Record.field?, List.lookup_cons, uuid?_ofUuid, int64?_ofInt, text, TokenKind.ofJson?_toJson]

theorem simple_ofInt (n : Int) : (Number.ofInt n).Simple := ⟨rfl, rfl⟩

theorem faithful_claims (c : Claims) : Faithful c.toJson := by
  simp [Claims.toJson, TokenKind.toJson, ofFields, ofUuid, ofText, ofInt, Faithful, FaithfulEntries,
    Quoted.text?, simple_ofInt]

/-! ### Parts -/

theorem decodePart?_encodeJson (j : Json) :
    decodePart? (Issuer.encodeJson j) = some ((writeList j).map some) := by
  unfold decodePart? Issuer.encodeJson Issuer.encodePart
  rw [Base64.decode?_encode Base64.urlSafe_sound]
  simp [Symbol.ofBytes_ofText, Symbol.ofText, Json.write]

theorem decodeJson?_encodeJson {j : Json} (faithful : Faithful j) :
    decodeJson? (Issuer.encodeJson j) = some j := by
  unfold decodeJson?
  rw [decodePart?_encodeJson, Option.bind_eq_bind, Option.bind_some, read?_write faithful]

theorem point_not_mem_encode (bs : Bytes) : '.' ∉ (Issuer.encodePart bs).toList := by
  unfold Issuer.encodePart Base64.encode
  rw [String.toList_ofList]
  exact Base64.not_mem_encodeList Base64.urlSafe_sound (by decide) bs

/-- The parts of a token can be told apart. -/
theorem ofText?_join (header : String) {payload signature : String} (first : '.' ∉ payload.toList)
    (second : '.' ∉ signature.toList) :
    TokenParts.ofText? (header ++ "." ++ payload ++ "." ++ signature) =
      some ⟨header, payload, signature⟩ := by
  have text : (header ++ "." ++ payload ++ "." ++ signature).toList =
      (header.toList ++ '.' :: payload.toList) ++ '.' :: signature.toList := by
    simp
  unfold TokenParts.ofText?
  rw [text, Text.cutLast_append second]
  simp only [Option.bind_eq_bind, Option.bind_some]
  rw [Text.cutLast_append first]
  simp

namespace Issuer

variable (a : Issuer) (c : Claims)

/-- The parts of a signed token. -/
def parts : TokenParts :=
  ⟨encodeJson Header.json, encodeJson c.toJson,
    encodePart (a.signature (encodeJson Header.json ++ "." ++ encodeJson c.toJson))⟩

theorem ofText?_sign : TokenParts.ofText? (a.sign c) = some (a.parts c) :=
  ofText?_join _ (point_not_mem_encode _) (point_not_mem_encode _)

/-- The claims of a signed token can be read without a check. -/
theorem claims_sign : (decodeJson? (a.parts c).payload).bind Claims.ofJson? = some c := by
  rw [show (a.parts c).payload = encodeJson c.toJson from rfl,
    decodeJson?_encodeJson (faithful_claims c), Option.bind_some, Claims.ofJson?_toJson]

/-- Tokens with different claims are different. -/
theorem sign_injective {c d : Claims} (same : a.sign c = a.sign d) : c = d := by
  have parts : some (a.parts c) = some (a.parts d) := by
    rw [← ofText?_sign, ← ofText?_sign, same]
  have read := claims_sign a c
  rw [Option.some.inj parts, claims_sign] at read
  exact (Option.some.inj read).symm

end Issuer

/-! ### The second pass over the claims -/

/-- An entry that the second pass gets through. -/
structure Passable (name : String) (value : Json) : Prop where
  faithful : Faithful value
  number : name = "exp" ∨ name = "nbf" → ∃ n, value = .number n
  noAudience : name ≠ "aud"

theorem writeNumber_mem {n : Number} (simple : n.Simple) {c : Char} (member : c ∈ writeNumber n) :
    Text.isDigit c = true ∨ c = '-' := by
  simp only [writeNumber, simple.1, if_true, List.append_nil, List.mem_append] at member
  rcases member with sign | digit
  · split at sign
    · exact Or.inr (List.mem_singleton.mp sign)
    · cases sign
  · exact Or.inl (Text.isDigit_toDigits digit)

theorem powerFault?_writeNumber {n : Number} (simple : n.Simple) {c : Char}
    (mark : c = ',' ∨ c = '\x7d') (rest : List Symbol) :
    powerFault? ((writeNumber n).map some ++ some c :: rest) = none := by
  have passed : ∀ s ∈ (writeNumber n).map some,
      s.any (fun c => Text.isDigit c || c == '-' || c == '.') = true := by
    intro s member
    obtain ⟨d, inside, rfl⟩ := List.mem_map.mp member
    rcases writeNumber_mem simple inside with digit | rfl
    · simp [digit]
    · rfl
  unfold powerFault?
  rw [List.dropWhile_append_of_pos passed]
  rcases mark with rfl | rfl <;> simp [List.dropWhile, Text.isDigit]

theorem passNumber_writeNumber {n : Number} (simple : n.Simple) {c : Char}
    (mark : c = ',' ∨ c = '\x7d') (rest : List Symbol) :
    ∃ value, passNumber ((writeNumber n).map some ++ some c :: rest) = (value, some c :: rest) := by
  have ends : EndsNumber (some c :: rest) := by
    rcases mark with rfl | rfl
    · exact ends_comma rest
    · exact ends_brace rest
  have read := readNumber_toDigits simple ends
  have fault := powerFault?_writeNumber simple mark rest
  have written : writeNumber n = (if n.negative then ['-'] else []) ++ Nat.toDigits 10 n.digits := by
    simp [writeNumber, simple.1]
  unfold passNumber
  rw [fault, written]
  cases sign : n.negative with
  | true =>
    rw [sign] at read
    simp [read]
  | false =>
    rw [sign] at read
    obtain ⟨d, ds, digits, digit⟩ := Text.toDigits_cons n.digits
    have other : d ≠ '-' := by
      rintro rfl
      exact absurd digit (by decide)
    rw [digits] at read ⊢
    simp only [List.map_cons, List.cons_append] at read
    simp [other, read]

theorem passScalar_writeNumber {n : Number} (simple : n.Simple) (rest : List Symbol) :
    passScalar ((writeNumber n).map some ++ rest) = passNumber ((writeNumber n).map some ++ rest) := by
  obtain ⟨d, ds, written, -⟩ := writeNumber_cons (n := n)
  have kind := writeNumber_mem simple (c := d) (by rw [written]; exact List.mem_cons_self)
  have other : ∀ c, Text.isDigit c = false → c ≠ '-' → d ≠ c := by
    rintro c digit sign rfl
    rcases kind with yes | yes
    · rw [digit] at yes
      cases yes
    · exact sign yes
  have number : (Text.isDigit d || d == '-') = true := by
    rcases kind with digit | rfl
    · rw [digit]
      rfl
    · rfl
  rw [written, List.map_cons, List.cons_append]
  simp [passScalar, passValue, other '[' (by decide) (by decide),
    other '\x7b' (by decide) (by decide), other '"' (by decide) (by decide), number]

theorem passClaim_written {name : String} {value : Json} (passable : Passable name value) {c : Char}
    (mark : c = ',' ∨ c = '\x7d') (rest : List Symbol) :
    ∃ passed, passClaim name ((writeList value).map some ++ some c :: rest) =
      some (passed, some c :: rest) := by
  have ends : EndsNumber (some c :: rest) := by
    rcases mark with rfl | rfl
    · exact ends_comma rest
    · exact ends_brace rest
  unfold passClaim
  by_cases time : name = "exp" ∨ name = "nbf"
  · obtain ⟨n, rfl⟩ := passable.number time
    have simple : n.Simple := by
      have faithful := passable.faithful
      rw [Faithful] at faithful
      exact faithful
    obtain ⟨passed, number⟩ := passNumber_writeNumber simple mark rest
    refine ⟨passed, ?_⟩
    rw [if_pos time, writeList, passScalar_writeNumber simple, number]
  · rw [if_neg time, if_neg passable.noAudience]
    have read := (reads (((writeList value).map some ++ some c :: rest).length + 1)).1 value
      passable.faithful (by simp; omega) (some c :: rest) ends
    rw [read]
    exact ⟨_, rfl⟩

/-- Claims by name, with what is left of their values. -/
abbrev Met := List (String × Option Json)

/-- The claims with one that was passed in front of them, if it counts and is new. -/
def keepClaim (name : String) (passed : Option Json) (claims : Met) : Option Met :=
  if !registeredNames.contains name then some claims
  else if (claims.lookup name).isSome then none
  else some ((name, passed) :: claims)

/-- A new claim adds at most its own name. -/
theorem keepClaim_fresh {name : String} (passed : Option Json) {claims : Met}
    (fresh : (claims.lookup name).isSome = false) :
    ∃ kept, keepClaim name passed claims = some kept ∧
      ∀ k, (kept.lookup k).isSome → k = name ∨ (claims.lookup k).isSome := by
  unfold keepClaim
  split
  · exact ⟨claims, rfl, fun k found => Or.inr found⟩
  · rw [fresh]
    refine ⟨(name, passed) :: claims, rfl, fun k found => ?_⟩
    by_cases same : k = name
    · exact Or.inl same
    · have other : (k == name) = false := by simp [same]
      rw [List.lookup_cons, other] at found
      exact Or.inr found

section Steps

variable {fuel : Nat} {name : String} {cs mid rest behind next tail : List Symbol}
  {passed : Option Json} {claims : Met}

theorem readClaims?_last (named : readQuoted cs = some (.text name, mid))
    (colon : skipSpace mid = some ':' :: rest)
    (passes : passClaim name (skipSpace rest) = some (passed, behind))
    (brace : skipSpace behind = some '\x7d' :: tail) :
    readClaims? (fuel + 1) (some '"' :: cs) = (keepClaim name passed []).map (·, tail) := by
  simp only [readClaims?, named, Quoted.text?, colon, passes, brace, keepClaim, Option.bind_eq_bind,
    Option.bind_some, Option.pure_def]
  split
  · rfl
  · rfl

theorem readClaims?_next (named : readQuoted cs = some (.text name, mid))
    (colon : skipSpace mid = some ':' :: rest)
    (passes : passClaim name (skipSpace rest) = some (passed, behind))
    (comma : skipSpace behind = some ',' :: next)
    (others : readClaims? fuel (skipSpace next) = some (claims, tail)) :
    readClaims? (fuel + 1) (some '"' :: cs) = (keepClaim name passed claims).map (·, tail) := by
  simp only [readClaims?, named, Quoted.text?, colon, passes, comma, others, keepClaim,
    Option.bind_eq_bind, Option.bind_some]
  split
  · rfl
  · split <;> rfl

end Steps

/-- The entries of an object whose keys are texts. -/
def textEntries (fields : List (String × Json)) : List (Quoted × Json) :=
  fields.map fun (name, value) => (.text name, value)

/-- The second pass gets through the written entries, and finds no other names in them. -/
theorem readClaims?_written (name : String) (value : Json) (fields : List (String × Json))
    (passable : ∀ f ∈ (name, value) :: fields, Passable f.1 f.2)
    (distinct : (((name, value) :: fields).map Prod.fst).Nodup) {fuel : Nat}
    (enough : fields.length < fuel) (tail : List Symbol) :
    ∃ claims, readClaims? fuel ((writeQuoted (.text name)).map some ++ some ':' ::
        ((writeList value).map some ++ ((writeEntries (textEntries fields)).map some ++ tail))) =
          some (claims, tail) ∧
      ∀ k, (claims.lookup k).isSome → k ∈ ((name, value) :: fields).map Prod.fst := by
  obtain ⟨cs, written, read⟩ := readQuoted_writeQuoted (s := .text name) rfl (some ':' ::
    ((writeList value).map some ++ ((writeEntries (textEntries fields)).map some ++ tail)))
  have space := skipSpace_writeList value ((writeEntries (textEntries fields)).map some ++ tail)
  rw [written]
  obtain ⟨fuel, rfl⟩ : ∃ k, fuel = k + 1 := ⟨fuel - 1, by omega⟩
  induction fields generalizing name value fuel cs with
  | nil =>
    rw [show textEntries [] = [] from rfl, writeEntries] at read space
    obtain ⟨passed, passes⟩ := passClaim_written (passable _ List.mem_cons_self) (Or.inr rfl) tail
    obtain ⟨kept, keeps, names⟩ := keepClaim_fresh passed
      (show (List.lookup name ([] : Met)).isSome = false from rfl)
    refine ⟨kept, ?_, ?_⟩
    · rw [readClaims?_last read (skipSpace_cons (by decide)) ((congrArg _ space).trans passes)
        (skipSpace_cons (by decide)), keeps]
      rfl
    · intro k found
      rcases names k found with rfl | none
      · exact List.mem_cons_self
      · cases none
  | cons field fields ih =>
    obtain ⟨next, nextValue⟩ := field
    rw [show textEntries ((next, nextValue) :: fields) =
      (.text next, nextValue) :: textEntries fields from rfl, writeEntries_cons] at read space
    rw [List.map_cons, List.nodup_cons] at distinct
    obtain ⟨passed, passes⟩ := passClaim_written (passable _ List.mem_cons_self) (Or.inl rfl)
      ((writeQuoted (.text next)).map some ++ some ':' :: ((writeList nextValue).map some ++
        ((writeEntries (textEntries fields)).map some ++ tail)))
    obtain ⟨nextCs, nextWritten, nextRead⟩ := readQuoted_writeQuoted (s := .text next) rfl
      (some ':' :: ((writeList nextValue).map some ++
        ((writeEntries (textEntries fields)).map some ++ tail)))
    have nextSpace := skipSpace_writeList nextValue
      ((writeEntries (textEntries fields)).map some ++ tail)
    simp only [List.length_cons] at enough
    obtain ⟨fuel, rfl⟩ : ∃ k, fuel = k + 1 := ⟨fuel - 1, by omega⟩
    obtain ⟨claims, others, names⟩ := ih next nextValue
      (fun f member => passable f (List.mem_cons_of_mem _ member)) distinct.2 nextCs nextWritten
      nextRead nextSpace fuel (by omega)
    have fresh : (claims.lookup name).isSome = false := by
      cases found : (claims.lookup name).isSome with
      | false => rfl
      | true => exact absurd (names name found) distinct.1
    obtain ⟨kept, keeps, keptNames⟩ := keepClaim_fresh passed fresh
    rw [← nextWritten, ← skipSpace_writeQuoted] at others
    refine ⟨kept, ?_, ?_⟩
    · rw [readClaims?_next read (skipSpace_cons (by decide)) ((congrArg _ space).trans passes)
        (skipSpace_cons (by decide)) others, keeps]
      rfl
    · intro k found
      rcases keptNames k found with rfl | behind
      · exact List.mem_cons_self
      · exact List.mem_cons_of_mem _ (names k behind)

theorem length_writeEntries (fields : List (String × Json)) :
    fields.length ≤ (writeEntries (textEntries fields)).length := by
  induction fields with
  | nil => exact Nat.zero_le _
  | cons field fields ih =>
    change fields.length + 1 ≤ (writeEntries ((.text field.1, field.2) :: textEntries fields)).length
    simp only [writeEntries, List.length_append, List.length_cons]
    omega

theorem registered?_written (name : String) (value : Json) (fields : List (String × Json))
    (passable : ∀ f ∈ (name, value) :: fields, Passable f.1 f.2)
    (distinct : (((name, value) :: fields).map Prod.fst).Nodup) :
    ∃ claims, registered? ((writeList (ofFields ((name, value) :: fields))).map some) = some claims ∧
      ∀ k, (claims.lookup k).isSome → k ∈ ((name, value) :: fields).map Prod.fst := by
  have text : (writeList (ofFields ((name, value) :: fields))).map some =
      some '\x7b' :: ((writeQuoted (.text name)).map some ++ some ':' ::
        ((writeList value).map some ++ ((writeEntries (textEntries fields)).map some ++ []))) := by
    simp [ofFields, textEntries, writeList]
  have size : fields.length <
      ((writeList (ofFields ((name, value) :: fields))).map some).length + 1 := by
    have least := length_writeEntries fields
    rw [text]
    simp only [List.length_append, List.length_cons, List.length_map]
    omega
  obtain ⟨claims, read, names⟩ := readClaims?_written name value fields passable distinct size []
  refine ⟨claims, ?_, names⟩
  have brace : ∀ cs : List Symbol, skipSpace (some '\x7b' :: cs) = some '\x7b' :: cs :=
    fun cs => skipSpace_cons (by decide)
  unfold registered?
  rw [text] at read ⊢
  rw [brace]
  simp only [skipSpace_writeQuoted]
  rw [read]
  rfl

/-- The second pass over signed claims finds no audience. -/
theorem registered?_claims (c : Claims) :
    ∃ claims, registered? ((writeList c.toJson).map some) = some claims ∧
      claims.lookup "aud" = none := by
  have text : ∀ name s, name ≠ "aud" → name ≠ "exp" → name ≠ "nbf" → Passable name (ofText s) :=
    fun name s aud exp nbf => ⟨by simp [ofText, Faithful, Quoted.text?], by simp [exp, nbf], aud⟩
  have number : ∀ name n, name ≠ "aud" → Passable name (ofInt n) :=
    fun name n aud => ⟨by simp [ofInt, Faithful, simple_ofInt], fun _ => ⟨_, rfl⟩, aud⟩
  obtain ⟨claims, read, names⟩ := registered?_written "sub" (ofUuid c.subject)
    [("iss", ofText c.issuer), ("iat", ofInt c.issued.toInt), ("exp", ofInt c.expires.toInt),
      ("jti", ofUuid c.id), ("typ", c.kind.toJson)]
    (by
      simp only [List.mem_cons, List.not_mem_nil, or_false, forall_eq_or_imp, forall_eq]
      exact ⟨text _ _ (by decide) (by decide) (by decide),
        text _ _ (by decide) (by decide) (by decide), number _ _ (by decide),
        number _ _ (by decide), text _ _ (by decide) (by decide) (by decide),
        text _ _ (by decide) (by decide) (by decide)⟩)
    (show ["sub", "iss", "iat", "exp", "jti", "typ"].Nodup by decide)
  refine ⟨claims, read, ?_⟩
  cases found : claims.lookup "aud" with
  | none => rfl
  | some value =>
    have named : "aud" ∈ ["sub", "iss", "iat", "exp", "jti", "typ"] :=
      names "aud" (by rw [found]; rfl)
    exact absurd named (by decide)

/-! ### Checking -/

theorem toNat_toUInt64 {n : Int64} (positive : 0 ≤ n.toInt) : (n.toUInt64.toNat : Int) = n.toInt := by
  have bound := n.toInt_lt
  have word : n.toUInt64.toNat = n.toBitVec.toNat := rfl
  unfold Int64.toInt at *
  rw [BitVec.toInt_eq_toNat_cond] at *
  split at * <;> omega

theorem toInt_ofInt_secs (now : Instant) : (Int64.ofInt now.secs).toInt = now.secs := by
  have low := now.earliest_le
  have high := now.le_latest
  exact Int64.toInt_ofInt_of_le (by omega) (by omega)

/-- From the first seconds of 1970 on, a token has expired when its end and the leeway are over. -/
theorem hasExpired_eq {ends : Int64} {now : Instant} (positive : 0 ≤ ends.toInt)
    (late : 5 ≤ now.secs) : hasExpired ends now = decide (ends.toInt + 5 < now.secs) := by
  have clock := toInt_ofInt_secs now
  have endWord := toNat_toUInt64 positive
  have nowWord := toNat_toUInt64 (n := .ofInt now.secs) (by omega)
  rw [clock] at nowWord
  have enough : leeway ≤ (Int64.ofInt now.secs).toUInt64 := by
    rw [UInt64.le_iff_toNat_le]
    change 5 ≤ _
    omega
  have difference := UInt64.toNat_sub_of_le _ _ enough
  have leewayWord : leeway.toNat = 5 := rfl
  unfold hasExpired
  rw [decide_eq_decide, UInt64.lt_iff_toNat_lt, difference, leewayWord]
  omega

theorem algorithm?_json : Header.algorithm? Header.json = some Header.algorithm := by decide

theorem faithful_header : Faithful Header.json := by
  simp [Header.json, ofFields, ofText, Faithful, FaithfulEntries, Quoted.text?]

/-- Of a signed token of this issuer nothing but its end is in question. -/
theorem Issuer.check_sign_own {a : Issuer} {c : Claims} (own : c.issuer = a.name)
    (positive : 0 ≤ c.expires.toInt) (now : Instant) :
    a.check (a.sign c) now = if hasExpired c.expires now then .error .expired else .ok c := by
  obtain ⟨registered, second, noAudience⟩ := registered?_claims c
  have header : (decodeJson? (a.parts c).header).bind Header.algorithm? = some Header.algorithm := by
    rw [show (a.parts c).header = encodeJson Header.json from rfl,
      decodeJson?_encodeJson faithful_header, Option.bind_some, algorithm?_json]
  have signature : Base64.decode? Base64.urlSafe (a.parts c).signature =
      some (a.signature (a.parts c).message) := Base64.decode?_encode Base64.urlSafe_sound _
  have payload : decodePart? (a.parts c).payload = some ((writeList c.toJson).map some) :=
    decodePart?_encodeJson c.toJson
  have claims : (read? ((writeList c.toJson).map some)).bind Claims.ofJson? = some c := by
    rw [read?_write (faithful_claims c), Option.bind_some, Claims.ofJson?_toJson]
  have stays : ¬c.expires.toInt < 0 := by omega
  unfold Issuer.check
  simp only [orMalformed, ofText?_sign, bind, Except.bind, pure, Except.pure, header, signature,
    payload, claims, second, stays, own, noAudience, ne_eq, not_true, if_false,
    Bool.false_eq_true, Option.any_none]
  cases hasExpired c.expires now with
  | true => rfl
  | false => rfl

/-- A token that was issued passes the check until the leeway after its end is over. -/
theorem Issuer.check_issued (a : Issuer) (kind : TokenKind) (user : Uuid) (issued : Instant)
    {expiresAt now : Instant} (id : Uuid) (late : 5 ≤ now.secs) (positive : 0 ≤ expiresAt.secs) :
    a.check (a.sign (a.claims kind user issued expiresAt id)) now =
      if now.secs ≤ expiresAt.secs + 5 then .ok (a.claims kind user issued expiresAt id)
      else .error .expired := by
  have ends : (a.claims kind user issued expiresAt id).expires.toInt = expiresAt.secs :=
    toInt_ofInt_secs expiresAt
  have claimed : 0 ≤ (a.claims kind user issued expiresAt id).expires.toInt := by omega
  rw [Issuer.check_sign_own rfl claimed, hasExpired_eq claimed late, ends]
  by_cases current : now.secs ≤ expiresAt.secs + 5
  · rw [if_pos current, if_neg (by simpa using current)]
  · rw [if_neg current, if_pos (by simpa using current)]

theorem Issuer.check_claims (a : Issuer) (kind : TokenKind) (user : Uuid) (issued : Instant)
    {expiresAt now : Instant} (id : Uuid) (late : 5 ≤ now.secs) (current : now.secs ≤ expiresAt.secs) :
    a.check (a.sign (a.claims kind user issued expiresAt id)) now =
      .ok (a.claims kind user issued expiresAt id) := by
  rw [a.check_issued kind user issued id late (by omega), if_pos (by omega)]

theorem orMalformed_ok {x : Option α} {v : α} (h : orMalformed x = .ok v) : x = some v := by
  unfold orMalformed at h
  split at h
  · cases h
    rfl
  · cases h

theorem guard_ok {p : Prop} [Decidable p] {fault : TokenFault} {f : Unit → Except TokenFault β}
    {v : β} (h : (if p then throw fault >>= f else f ()) = .ok v) : ¬p ∧ f () = .ok v := by
  split at h
  · cases h
  · exact ⟨‹_›, h⟩

/-- All that holds of a token that passes the check. -/
theorem Issuer.check_cases {a : Issuer} {token : String} {now : Instant} {c : Claims}
    (h : a.check token now = .ok c) :
    ∃ parts payload registered, TokenParts.ofText? token = some parts ∧
      (decodeJson? parts.header).bind Header.algorithm? = some Header.algorithm ∧
      Base64.decode? Base64.urlSafe parts.signature = some (a.signature parts.message) ∧
      decodePart? parts.payload = some payload ∧ (read? payload).bind Claims.ofJson? = some c ∧
      registered? payload = some registered ∧ 0 ≤ c.expires.toInt ∧
      hasExpired c.expires now = false ∧ c.issuer = a.name ∧
      (registered.lookup "aud").any (·.any isAudience) = false := by
  unfold Issuer.check at h
  obtain ⟨parts, cut, h⟩ := bind_ok h
  obtain ⟨algorithm, header, h⟩ := bind_ok h
  obtain ⟨named, h⟩ := guard_ok h
  obtain ⟨signature, decoded, h⟩ := bind_ok h
  obtain ⟨right, h⟩ := guard_ok h
  obtain ⟨payload, part, h⟩ := bind_ok h
  obtain ⟨claims, read, h⟩ := bind_ok h
  obtain ⟨registered, second, h⟩ := bind_ok h
  obtain ⟨positive, h⟩ := guard_ok h
  obtain ⟨current, h⟩ := guard_ok h
  obtain ⟨own, h⟩ := guard_ok h
  obtain ⟨audience, h⟩ := guard_ok h
  have result : claims = c := Except.ok.inj h
  have named : algorithm = Header.algorithm := Decidable.not_not.mp named
  have right : signature = a.signature parts.message := Decidable.not_not.mp right
  subst result named right
  exact ⟨parts, payload, registered, orMalformed_ok cut, orMalformed_ok header,
    orMalformed_ok decoded, orMalformed_ok part, orMalformed_ok read, orMalformed_ok second,
    Int.not_lt.mp positive, Bool.eq_false_iff.mpr current, Decidable.not_not.mp own,
    Bool.eq_false_iff.mpr audience⟩

/-! ### Whose token it is -/

/-- Whose token this is by its own words, which are not checked. -/
def subject? (token : String) : Option Uuid := do
  let parts ← TokenParts.ofText? token
  let claims ← (decodeJson? parts.payload).bind Claims.ofJson?
  return claims.subject

/-- What a token that passes the check says about its subject is what it says without the check. -/
theorem subject?_of_check {a : Issuer} {token : String} {now : Instant} {claims : Claims}
    (checked : a.check token now = .ok claims) : subject? token = some claims.subject := by
  obtain ⟨parts, payload, -, cut, -, -, part, read, -⟩ := Issuer.check_cases checked
  have known : (decodeJson? parts.payload).bind Claims.ofJson? = some claims := by
    rw [← read]
    unfold decodeJson?
    rw [part, Option.bind_eq_bind, Option.bind_some]
  unfold subject?
  rw [cut]
  simp only [Option.bind_eq_bind, Option.bind_some, known]
  rfl

theorem subject?_sign (a : Issuer) (c : Claims) : subject? (a.sign c) = some c.subject := by
  unfold subject?
  rw [Issuer.ofText?_sign]
  simp only [Option.bind_eq_bind, Option.bind_some, Issuer.claims_sign]
  rfl

/-- A signed token that passes the check is checked to its own claims. -/
theorem Issuer.check_sign_eq {a : Issuer} {c claims : Claims} {now : Instant}
    (checked : a.check (a.sign c) now = .ok claims) : claims = c := by
  obtain ⟨parts, payload, -, cut, -, -, part, read, -⟩ := check_cases checked
  obtain rfl : a.parts c = parts := Option.some.inj ((ofText?_sign a c).symm.trans cut)
  have known : (decodeJson? (a.parts c).payload).bind Claims.ofJson? = some claims := by
    rw [← read]
    unfold decodeJson?
    rw [part, Option.bind_eq_bind, Option.bind_some]
  exact Option.some.inj (known.symm.trans (claims_sign a c))

end DeviceSessions
