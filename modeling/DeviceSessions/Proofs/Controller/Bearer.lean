import DeviceSessions.Proofs.Controller.History

/-!
# Bearers of tokens

What a token says is fixed when it is issued, and how long it is taken follows from its end alone:
the store is not asked. An access token never buys a pair, and a refresh token never lets its bearer
in.
-/

namespace DeviceSessions

/-- The seconds that a kind of token lives under some settings. -/
def AuthSettings.lifetime (s : AuthSettings) : TokenKind → Nat
  | .access => s.accessMinutes.toNat * 60
  | .refresh => s.refreshHours.toNat * 3600

/-- What claims say, with their times in seconds since the start of 1970. -/
structure Claims.Say (c : Claims) (kind : TokenKind) (subject : Uuid) (issuer : String) (id : Uuid)
    (issued ends : Int) : Prop where
  kind : c.kind = kind
  subject : c.subject = subject
  issuer : c.issuer = issuer
  id : c.id = id
  issued : c.issued.toInt = issued
  ends : c.expires.toInt = ends

namespace Issuer

variable {a : Issuer} {s : AuthSettings}

theorem ofSettings_ok (made : ofSettings s = .ok a) :
    a.name = s.issuer ∧ ∀ kind, a.lifetime kind = s.lifetime kind := by
  unfold ofSettings at made
  rw [AuthSettings.accessLifetime_eq, AuthSettings.refreshLifetime_eq] at made
  split at made
  · split at made
    · cases made
      exact ⟨rfl, fun kind => by cases kind <;> rfl⟩
    · cases made
  · cases made

variable {kind : TokenKind} {subject id : Uuid} {now : Instant} {issued : IssuedToken}

theorem issue_ok (done : a.issue kind subject now id = .ok issued) :
    a.expiry kind now = .ok issued.expiresAt ∧
      issued.token = a.sign (a.claims kind subject now issued.expiresAt id) := by
  unfold issue at done
  cases expiry : a.expiry kind now with
  | error e =>
    rw [expiry] at done
    cases done
  | ok expiresAt =>
    rw [expiry] at done
    cases done
    exact ⟨rfl, rfl⟩

theorem claims_say (a : Issuer) (kind : TokenKind) (subject : Uuid) (now expiresAt : Instant)
    (id : Uuid) : (a.claims kind subject now expiresAt id).Say kind subject a.name id now.secs
      expiresAt.secs :=
  ⟨rfl, rfl, rfl, rfl, toInt_ofInt_secs now, toInt_ofInt_secs expiresAt⟩

theorem parse_issued (a : Issuer) (kind : TokenKind) (subject : Uuid) (start : Instant)
    {expiresAt now : Instant} (id : Uuid) (late : 5 ≤ now.secs) (positive : 0 ≤ expiresAt.secs) :
    a.parse (a.sign (a.claims kind subject start expiresAt id)) now =
      if now.secs ≤ expiresAt.secs + 5 then .ok (a.claims kind subject start expiresAt id)
      else .error ⟨.invalidToken, "Token has expired", false⟩ := by
  unfold parse
  rw [a.check_issued kind subject start id late positive]
  by_cases current : now.secs ≤ expiresAt.secs + 5
  · rw [if_pos current, if_pos current]
  · rw [if_neg current, if_neg current]
    rfl

end Issuer

/-- The claims of a token by its own words, which are not checked. -/
def claims? (token : String) : Option Claims := do
  let parts ← TokenParts.ofText? token
  (decodeJson? parts.payload).bind Claims.ofJson?

/-- Whoever checks a token, whenever, finds the same claims in it or none. -/
theorem claims?_of_parse {a : Issuer} {token : String} {now : Instant} {c : Claims}
    (parsed : a.parse token now = .ok c) : claims? token = some c := by
  obtain ⟨parts, payload, -, cut, -, -, part, read, -⟩ :=
    Issuer.check_cases (Issuer.check_of_parse parsed)
  unfold claims? decodeJson?
  rw [cut, ← read]
  simp only [Option.bind_eq_bind, Option.bind_some, part]

namespace World

variable {σ : Type}

variable (b : Backend σ) (w : World σ) (token : String)

/-- The claims that are found in a token here, if they are of a kind. -/
def parseAs (kind : TokenKind) : Option Claims :=
  (w.parse token).toOption.filter fun claims => claims.kind = kind

theorem run_authenticate : (w.run b (Controller.authenticate token)).1 =
    match w.parseAs token .access with
    | some claims => .ok (.ofClaims claims)
    | none => .error Controller.invalidToken := by
  unfold run Controller.authenticate parseAs
  rw [Action.run_bind, Action.run_call, show answer b (.parse token) w = (w.parse token, w) from rfl]
  cases w.parse token with
  | error e => rfl
  | ok claims =>
    obtain ⟨subject, issuer, issued, expires, id, kind⟩ := claims
    cases kind with
    | access => rfl
    | refresh => rfl

theorem run_refreshUser : (w.run b (Controller.refreshUser token)).1 =
    match w.parseAs token .refresh with
    | some claims => .ok claims.subject
    | none => .error Controller.tokenRevoked := by
  unfold run Controller.refreshUser parseAs
  rw [Action.run_bind, Action.run_call, show answer b (.parse token) w = (w.parse token, w) from rfl]
  cases w.parse token with
  | error e => rfl
  | ok claims =>
    obtain ⟨subject, issuer, issued, expires, id, kind⟩ := claims
    cases kind with
    | access => rfl
    | refresh => rfl

variable {b w token} {kind : TokenKind} {claims : Claims}

theorem parse_unfailed (unfailed : w.failure? .parse = none) :
    w.parse token = w.issuer.parse token w.now := by
  unfold parse
  rw [unfailed]

theorem parseAs_some (found : w.parseAs token kind = some claims) :
    claims? token = some claims ∧ claims.kind = kind := by
  unfold parseAs at found
  obtain ⟨parsed, kinds⟩ := Option.filter_eq_some_iff.mp found
  refine ⟨?_, of_decide_eq_true kinds⟩
  unfold parse at parsed
  split at parsed
  · cases parsed
  · cases outcome : w.issuer.parse token w.now with
    | error e =>
      rw [outcome] at parsed
      cases parsed
    | ok c =>
      rw [outcome] at parsed
      cases parsed
      exact claims?_of_parse outcome

/-- Whatever is in the store, a token lets its bearer in if it is one for access and it is taken. -/
theorem authenticate_eq {taken : Prop} [Decidable taken] {e : Error} (unfailed : w.failure? .parse = none)
    (parsed : w.issuer.parse token w.now = if taken then .ok claims else .error e) :
    (w.run b (Controller.authenticate token)).1 =
      if claims.kind = .access ∧ taken then .ok (.ofClaims claims)
      else .error Controller.invalidToken := by
  rw [run_authenticate, parseAs, parse_unfailed unfailed, parsed]
  by_cases still : taken
  · rw [if_pos still]
    obtain ⟨subject, issuer, issued, expires, id, kind⟩ := claims
    cases kind with
    | access =>
      rw [if_pos ⟨rfl, still⟩]
      rfl
    | refresh =>
      rw [if_neg (by simp)]
      rfl
  · rw [if_neg still, if_neg fun both => still both.2]
    rfl

theorem parseAs_of_authenticate {context : AuthContext}
    (accepted : (w.run b (Controller.authenticate token)).1 = .ok context) :
    ∃ claims, w.parseAs token .access = some claims ∧ context = .ofClaims claims := by
  rw [run_authenticate] at accepted
  cases found : w.parseAs token .access with
  | none =>
    rw [found] at accepted
    cases accepted
  | some claims =>
    rw [found] at accepted
    exact ⟨claims, rfl, (Except.ok.inj accepted).symm⟩

theorem parseAs_of_refresh {c : Controller} {origin : DeviceMetadata} {pair : TokenPair}
    (traded : (w.run b (c.refresh token origin)).1 = .ok pair) :
    ∃ claims, w.parseAs token .refresh = some claims := by
  have user := run_refreshUser b w token
  cases found : w.parseAs token .refresh with
  | some claims => exact ⟨claims, rfl⟩
  | none =>
    rw [found] at user
    unfold run Controller.refresh at traded
    rw [Action.run_bind, show (Controller.refreshUser token).run.run (answer b) w =
      (.error Controller.tokenRevoked, (w.run b (Controller.refreshUser token)).2) from
        Prod.ext user rfl] at traded
    cases traded

/-- No token is of both kinds, wherever it is looked at. -/
theorem not_parseAs_both {τ : Type} {w' : World τ} {claims' : Claims}
    (access : w.parseAs token .access = some claims) (refresh : w'.parseAs token .refresh = some claims') :
    False := by
  obtain ⟨read, kind⟩ := parseAs_some access
  obtain ⟨read', kind'⟩ := parseAs_some refresh
  obtain rfl : claims = claims' := Option.some.inj (read.symm.trans read')
  rw [kind] at kind'
  cases kind'

end World

/-- Under any settings with which tokens can be issued, a token that was issued in 1970 or later
reads back as what it was issued for until five seconds after its end, and not after that; an access
token lets its bearer in just as long, whatever is in the store. And no token is good both as an
access token and for a refresh, wherever and whenever it is presented. -/
theorem issued_token_window :
    (∀ (s : AuthSettings) (a : Issuer), Issuer.ofSettings s = .ok a →
      ∀ (kind : TokenKind) (subject : Uuid) (start : Instant) (id : Uuid) (issued : IssuedToken),
        0 ≤ start.secs → a.issue kind subject start id = .ok issued →
        issued.expiresAt.secs = start.secs + s.lifetime kind ∧
        (∃ claims : Claims,
          claims.Say kind subject s.issuer id start.secs (start.secs + s.lifetime kind) ∧
          ∀ now : Instant, 5 ≤ now.secs → a.parse issued.token now =
            if now.secs ≤ start.secs + s.lifetime kind + 5 then .ok claims
            else .error ⟨.invalidToken, "Token has expired", false⟩) ∧
        ∃ context : AuthContext, context.userId = subject ∧ context.tokenId = id ∧
          context.expiresAt = .ofSecs (start.secs + s.lifetime kind) ∧
          context.expiresAt.secs = start.secs + s.lifetime kind ∧
          ∀ (σ : Type) (b : Backend σ) (w : World σ), w.issuer = a → w.failure? .parse = none →
            5 ≤ w.now.secs → (w.run b (Controller.authenticate issued.token)).1 =
              if kind = .access ∧ w.now.secs ≤ start.secs + s.lifetime kind + 5 then .ok context
              else .error Controller.invalidToken) ∧
    ∀ (σ τ : Type) (b : Backend σ) (b' : Backend τ) (w : World σ) (w' : World τ) (c : Controller)
      (token : String) (origin : DeviceMetadata),
      ¬((∃ context, (w.run b (Controller.authenticate token)).1 = .ok context) ∧
        ∃ pair, (w'.run b' (c.refresh token origin)).1 = .ok pair) := by
  constructor
  · intro s a made kind subject start id issued early done
    obtain ⟨name, lifetime⟩ := Issuer.ofSettings_ok made
    obtain ⟨expiry, token⟩ := Issuer.issue_ok done
    have ends := (World.expiry_ok expiry).1
    rw [lifetime] at ends
    have parsed : ∀ now : Instant, 5 ≤ now.secs → a.parse issued.token now =
        if now.secs ≤ start.secs + s.lifetime kind + 5 then
          .ok (a.claims kind subject start issued.expiresAt id)
        else .error ⟨.invalidToken, "Token has expired", false⟩ := by
      intro now late
      rw [token, a.parse_issued kind subject start id late (by omega), ends]
    have say := a.claims_say kind subject start issued.expiresAt id
    rw [name, ends] at say
    have instant : (Instant.ofSecs (a.claims kind subject start issued.expiresAt id).expires.toInt).secs =
        start.secs + s.lifetime kind := by
      rw [say.ends, ← ends, Instant.secs_ofSecs]
    refine ⟨ends, ⟨_, say, parsed⟩, .ofClaims (a.claims kind subject start issued.expiresAt id), rfl,
      rfl, congrArg Instant.ofSecs say.ends, instant, fun σ b w own unfailed late => ?_⟩
    have taken := parsed w.now late
    rw [← own] at taken ⊢
    exact World.authenticate_eq unfailed taken
  · rintro σ τ b b' w w' c token origin ⟨⟨context, accepted⟩, pair, traded⟩
    obtain ⟨claims, access, -⟩ := World.parseAs_of_authenticate accepted
    obtain ⟨claims', refresh⟩ := World.parseAs_of_refresh traded
    exact World.not_parseAs_both access refresh

theorem ofSettings_small (now : Instant) :
    Issuer.ofSettings ⟨"0123456789abcdef0123456789abcdef", "sessionkeeper", 30, 168, 5⟩ =
      .ok (World.small now).issuer := by
  unfold Issuer.ofSettings
  rw [AuthSettings.accessLifetime_eq, AuthSettings.refreshLifetime_eq, if_pos (by decide),
    if_pos (by decide)]
  rfl

/-- Half an hour and five seconds after it was issued an access token still lets its bearer in, and
a second later it does not. -/
theorem issued_token_window_half_hour :
    ∃ issued, (World.small .epoch).issuer.issue .access soleUser.id .epoch soleUser.id = .ok issued ∧
      issued.expiresAt.secs = 1800 ∧
      ((World.small (.ofSecs 1805)).run Memory.backend (Controller.authenticate issued.token)).1 =
        .ok ⟨soleUser.id, soleUser.id, .ofSecs 1800⟩ ∧
      (World.small .epoch).issuer.parse issued.token (.ofSecs 1806) =
        .error ⟨.invalidToken, "Token has expired", false⟩ := by
  obtain ⟨issued, done⟩ : ∃ issued,
      (World.small .epoch).issuer.issue .access soleUser.id .epoch soleUser.id = .ok issued :=
    ⟨_, rfl⟩
  obtain ⟨ends, ⟨claims, -, parsed⟩, ⟨user, token, expiresAt⟩, users, tokens, times, -, admits⟩ :=
    issued_token_window.1 _ _ (ofSettings_small .epoch) .access soleUser.id .epoch soleUser.id issued
      (by decide) done
  refine ⟨issued, done, ends, ?_, ?_⟩
  · rw [admits Memory Memory.backend (World.small (.ofSecs 1805)) rfl rfl (by decide),
      if_pos (by decide)]
    cases users
    cases tokens
    cases times
    rfl
  · rw [parsed (.ofSecs 1806) (by decide), if_neg (by decide)]

end DeviceSessions
