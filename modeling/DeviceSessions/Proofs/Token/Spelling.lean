import DeviceSessions.Proofs.Controller.History
import DeviceSessions.Proofs.Token.Verdict

/-!
# The one spelling of a token

The signature of a token is the written form of a value that follows from the other two segments, and
a value has one written form. So of an accepted token no other spelling is accepted.
-/

namespace DeviceSessions

/-- What stands between the points of a token. -/
def segments (token : String) : List (List Char) := Text.splitAt '.' token.toList

namespace Issuer

variable {a : Issuer} {s t token : String} {p q : TokenParts} {c d : Claims} {now later : Instant}

/-- A token that is accepted is signed, even where the clock stands before the leeway. -/
theorem signed_of_parse (parsed : a.parse token now = .ok c) : ∃ p, Signed a token p := by
  obtain ⟨p, -, -, cut, named, decoded, -⟩ := check_cases (check_of_parse parsed)
  have heads : Heads token p Header.algorithm := heads_iff.mpr ⟨cut, named⟩
  exact ⟨p, heads, (Base64.decode?_eq_some_iff Base64.urlSafe_sound _ _).mp decoded⟩

/-! ### Segments -/

theorem toList_joined (p : TokenParts) (signature : String) :
    (p.message ++ "." ++ signature).toList =
      p.header.toList ++ '.' :: (p.payload.toList ++ '.' :: signature.toList) := by
  have point : ".".toList = ['.'] := rfl
  unfold TokenParts.message
  simp only [String.toList_append, point, List.append_assoc, List.cons_append, List.nil_append]

theorem Heads.point_not_mem_header {name : String} (heads : Heads token p name) :
    '.' ∉ p.header.toList := by
  obtain ⟨bs, encoded, -⟩ := heads.header
  rw [encoded]
  exact point_not_mem_encode bs

/-- What is put behind a signature does not reach the segments in front of it. -/
theorem segments_joined {name : String} (heads : Heads token p name) (signature : String) :
    segments (p.message ++ "." ++ signature) =
      p.header.toList :: p.payload.toList :: segments signature := by
  unfold segments
  rw [toList_joined, Text.splitAt_append (Heads.point_not_mem_header heads),
    Text.splitAt_append heads.payload]

theorem segments_of_heads {name : String} (heads : Heads token p name) :
    segments token = [p.header.toList, p.payload.toList, p.signature.toList] := by
  have last : segments p.signature = [p.signature.toList] :=
    Text.splitAt_of_not_mem heads.signature
  rw [heads.joined, segments_joined heads, last]

theorem take_segments_append {name : String} (heads : Heads token p name) (tail : String) :
    (segments (token ++ tail)).take 2 = (segments token).take 2 := by
  have longer : token ++ tail = p.message ++ "." ++ (p.signature ++ tail) := by
    rw [heads.joined, String.append_assoc]
  rw [longer, segments_joined heads, segments_of_heads heads]
  rfl

/-! ### One signature for a message -/

/-- A signed token follows from its header and its payload. -/
theorem Signed.eq_of_message (first : Signed a s p) (second : Signed a t q)
    (same : p.message = q.message) : s = t := by
  calc s = p.message ++ "." ++ p.signature := first.heads.joined
    _ = p.message ++ "." ++ encodePart (a.signature p.message) := by rw [first.right]
    _ = q.message ++ "." ++ encodePart (a.signature q.message) := by rw [same]
    _ = q.message ++ "." ++ q.signature := by rw [second.right]
    _ = t := second.heads.joined.symm

theorem Signed.eq_of_segments (first : Signed a s p) (second : Signed a t q)
    (same : (segments s).take 2 = (segments t).take 2) : s = t := by
  rw [segments_of_heads first.heads, segments_of_heads second.heads] at same
  have front : [p.header.toList, p.payload.toList] = [q.header.toList, q.payload.toList] := same
  injection front with header rest
  injection rest with payload
  apply Signed.eq_of_message first second
  unfold TokenParts.message
  rw [String.toList_inj.mp header, String.toList_inj.mp payload]

/-! ### What a store takes -/

theorem isValid_iff_of_tokenHash {store : SessionStore} {user : Uuid} {device : DeviceIdentity}
    {x : Session} (found : store.session? user device.id = some x) (kept : x.tokenHash = hashToken s)
    (apart : hashToken t = hashToken s → t = s) (now : Instant) :
    (store.isValid user device t now).1 = true ↔ t = s ∧ x.isActiveAt now = true := by
  rw [SessionStore.isValid_iff]
  constructor
  · rintro ⟨y, present, accepted⟩
    obtain rfl : x = y := Option.some.inj (found.symm.trans present)
    obtain ⟨active, digests⟩ := Bool.and_eq_true_iff.mp accepted
    have digest : x.tokenHash = hashToken t := beq_iff_eq.mp digests
    exact ⟨apart (digest.symm.trans kept), active⟩
  · rintro ⟨rfl, active⟩
    refine ⟨x, found, ?_⟩
    unfold Session.accepts digestsMatch
    rw [active, kept, beq_self_eq_true]
    rfl

/-- Of an accepted token no other spelling is accepted, whenever it is looked at: what has its header
and its payload for first segments and is accepted is the token itself. And a store that keeps the
digest of the token takes the token as long as its session is active, and nothing else whose digest
is another one. -/
theorem accepted_spelling (parsed : a.parse s now = .ok c) :
    (∀ (t : String) (d : Claims) (later : Instant), a.parse t later = .ok d →
      (segments t).take 2 = (segments s).take 2 → t = s) ∧
    ∀ (store : SessionStore) (user : Uuid) (device : DeviceIdentity) (x : Session),
      store.session? user device.id = some x → x.tokenHash = hashToken s →
      ∀ (t : String) (later : Instant), (hashToken t = hashToken s → t = s) →
        ((store.isValid user device t later).1 = true ↔ t = s ∧ x.isActiveAt later = true) := by
  obtain ⟨p, signed⟩ := signed_of_parse parsed
  constructor
  · intro t d later accepted same
    obtain ⟨q, other⟩ := signed_of_parse accepted
    exact Signed.eq_of_segments other signed same
  · intro store user device x found kept t later apart
    exact isValid_iff_of_tokenHash found kept apart later

/-- A token that is accepted is not accepted with padding behind it. -/
theorem accepted_spelling_padded :
    ∃ token c, (World.small .epoch).issuer.parse token (.ofSecs 5) = .ok c ∧
      ∀ (later : Instant) (d : Claims),
        (World.small .epoch).issuer.parse (token ++ "=") later ≠ .ok d := by
  have current : (Instant.ofSecs 5).secs ≤ (Instant.ofSecs 1800).secs := by decide
  have accepted := parse_of_check ((World.small .epoch).issuer.check_claims .access soleUser.id .epoch
    soleUser.id (by decide) current)
  obtain ⟨p, signed⟩ := signed_of_parse accepted
  refine ⟨_, _, accepted, fun later d padded => ?_⟩
  have same := (accepted_spelling accepted).1 _ d later padded (take_segments_append signed.heads "=")
  have lengths := congrArg String.length same
  rw [String.length_append] at lengths
  have one : "=".length = 1 := rfl
  omega

end Issuer

end DeviceSessions
