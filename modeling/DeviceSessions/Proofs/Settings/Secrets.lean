import DeviceSessions.Database.Connection
import DeviceSessions.Proofs.Text
import DeviceSessions.Settings.Basic

/-!
# Secrets stay out of diagnostics

A redacted URL keeps everything but the password. Settings that differ in nothing but their secrets
look the same in diagnostics, and lead to the same error where the database cannot be reached.
-/

namespace DeviceSessions

namespace Text

/-- What stands behind the last `sep` in a text; all of it, if there is none. -/
def afterLast (sep : Char) (cs : List Char) : List Char := (cs.reverse.takeWhile (· ≠ sep)).reverse

theorem takeWhile_reverse_append {sep : Char} {back : List Char} (absent : sep ∉ back)
    (rest : List Char) :
    (back.reverse ++ rest).takeWhile (· ≠ sep) = back.reverse ++ rest.takeWhile (· ≠ sep) := by
  apply List.takeWhile_append_of_pos
  intro c member
  rw [List.mem_reverse] at member
  exact decide_eq_true fun same => absent (same ▸ member)

theorem afterLast_of_not_mem {sep : Char} {cs : List Char} (absent : sep ∉ cs) :
    afterLast sep cs = cs := by
  have all := takeWhile_reverse_append absent []
  rw [List.append_nil, List.takeWhile_nil, List.append_nil] at all
  rw [afterLast, all, List.reverse_reverse]

theorem afterLast_append {sep : Char} {back : List Char} (last : sep ∉ back) (front : List Char) :
    afterLast sep (front ++ sep :: back) = back := by
  have turned : (front ++ sep :: back).reverse = back.reverse ++ sep :: front.reverse := by simp
  rw [afterLast, turned, takeWhile_reverse_append last]
  simp

theorem not_mem_afterLast (sep : Char) (cs : List Char) : sep ∉ afterLast sep cs := by
  rw [afterLast, List.mem_reverse]
  intro member
  have other := List.all_eq_true.mp List.all_takeWhile sep member
  simp at other

end Text

/-! ### URLs with a password -/

namespace Url

/-- The URL with a user and a password, and what comes behind them. -/
def withPassword (scheme user password tail : String) : String :=
  scheme ++ "://" ++ user ++ ":" ++ password ++ "@" ++ tail

/-- The scheme of a URL ends at the first mark behind it, and the name of a user at the first colon. -/
structure Begins (scheme user : String) : Prop where
  scheme : ¬ [':', '/', '/'] <:+: scheme.toList
  user : ':' ∉ user.toList

/-- A URL in which no password is found. -/
inductive Plain : String → Prop where
  | unmarked {url : String} (scheme : ¬ [':', '/', '/'] <:+: url.toList) : Plain url
  | userless {scheme rest : String} (free : ¬ [':', '/', '/'] <:+: scheme.toList)
      (user : '@' ∉ rest.toList) : Plain (scheme ++ "://" ++ rest)
  | passwordless {scheme user host : String} (begins : Begins scheme user)
      (last : '@' ∉ host.toList) : Plain (scheme ++ "://" ++ user ++ "@" ++ host)

variable {scheme user host : String}

theorem cutWord_scheme (free : ¬ [':', '/', '/'] <:+: scheme.toList) (rest : List Char) :
    Text.cutWord [':', '/', '/'] (scheme.toList ++ [':', '/', '/'] ++ rest) =
      some (scheme.toList, rest) := by
  refine Text.cutWord_append (by decide) free ?_ rest
  -- no end of the mark is a beginning of it
  have borders : ∀ k < 3, 0 < k → ¬ [':', '/', '/'].drop k <+: [':', '/', '/'] := by decide
  intro a b parts left right border
  have size := congrArg List.length parts
  rw [List.length_append] at size
  refine absurd ?_ (borders a.length ?_ (List.length_pos_iff.mpr left))
  · rwa [parts, List.drop_left, ← parts]
  · have := List.length_pos_iff.mpr right
    change 3 = _ at size
    omega

/-- A redacted URL has another password. -/
theorem redactUrl_withPassword (begins : Begins scheme user) (last : '@' ∉ host.toList)
    (password : String) :
    redactUrl (withPassword scheme user password host) = withPassword scheme user "****" host := by
  have parts : (withPassword scheme user password host).toList =
      scheme.toList ++ [':', '/', '/'] ++
        ((user.toList ++ ':' :: password.toList) ++ '@' :: host.toList) := by
    simp [withPassword]
  unfold redactUrl
  rw [parts, cutWord_scheme begins.scheme]
  dsimp only
  rw [Text.cutLast_append last]
  dsimp only
  rw [Text.cutFirst_append begins.user]
  apply String.toList_injective
  simp [withPassword]

theorem redactUrl_plain {url : String} (plain : Plain url) : redactUrl url = url := by
  cases plain with
  | unmarked scheme =>
    unfold redactUrl
    rw [(Text.cutWord_eq_none_iff (by decide)).mpr scheme]
  | @userless scheme rest free user =>
    have parts : (scheme ++ "://" ++ rest).toList =
        scheme.toList ++ [':', '/', '/'] ++ rest.toList := by simp
    unfold redactUrl
    rw [parts, cutWord_scheme free]
    dsimp only
    rw [Text.cutLast_eq_none_iff.mpr user]
  | @passwordless scheme user host begins last =>
    have parts : (scheme ++ "://" ++ user ++ "@" ++ host).toList =
        scheme.toList ++ [':', '/', '/'] ++ (user.toList ++ '@' :: host.toList) := by simp
    unfold redactUrl
    rw [parts, cutWord_scheme begins.scheme]
    dsimp only
    rw [Text.cutLast_append last]
    dsimp only
    rw [Text.cutFirst_eq_none_iff.mpr begins.user]

/-- Every URL has a password between the first colon and the last at sign, or none. -/
theorem plain_or_withPassword (url : String) :
    Plain url ∨ ∃ scheme user password host, Begins scheme user ∧ '@' ∉ host.toList ∧
      url = withPassword scheme user password host := by
  cases marked : Text.cutWord [':', '/', '/'] url.toList with
  | none => exact .inl (.unmarked ((Text.cutWord_eq_none_iff (by decide)).mp marked))
  | some parts =>
    obtain ⟨scheme, rest⟩ := parts
    obtain ⟨whole, free⟩ := Text.cutWord_some (by decide) marked
    cases named : Text.cutLast '@' rest with
    | none =>
      have same : url = String.ofList scheme ++ "://" ++ String.ofList rest := by
        apply String.toList_injective
        simp [whole]
      rw [same]
      exact .inl (.userless (by simpa using free) (by simpa using Text.cutLast_eq_none_iff.mp named))
    | some parts =>
      obtain ⟨userinfo, host⟩ := parts
      obtain ⟨rfl, last⟩ := Text.cutLast_some named
      cases secret : Text.cutFirst ':' userinfo with
      | none =>
        have same : url = String.ofList scheme ++ "://" ++ String.ofList userinfo ++ "@" ++
            String.ofList host := by
          apply String.toList_injective
          simp [whole]
        rw [same]
        exact .inl (.passwordless
          ⟨by simpa using free, by simpa using Text.cutFirst_eq_none_iff.mp secret⟩
          (by simpa using last))
      | some parts =>
        obtain ⟨user, password⟩ := parts
        obtain ⟨rfl, first⟩ := Text.cutFirst_some secret
        refine .inr ⟨.ofList scheme, .ofList user, .ofList password, .ofList host,
          ⟨by simpa using free, by simpa using first⟩, by simpa using last, ?_⟩
        apply String.toList_injective
        simp [whole, withPassword]

theorem redactUrl_redactUrl (url : String) : redactUrl (redactUrl url) = redactUrl url := by
  obtain plain | ⟨scheme, user, password, host, begins, last, rfl⟩ := plain_or_withPassword url
  · rw [redactUrl_plain plain, redactUrl_plain plain]
  · rw [redactUrl_withPassword begins last, redactUrl_withPassword begins last]

/-- At signs behind the user belong to the password, all but the last. -/
theorem withPassword_afterLast (scheme user password tail : String) :
    ∃ password', withPassword scheme user password tail =
      withPassword scheme user password' (.ofList (Text.afterLast '@' tail.toList)) := by
  cases cut : Text.cutLast '@' tail.toList with
  | none =>
    rw [Text.afterLast_of_not_mem (Text.cutLast_eq_none_iff.mp cut), String.ofList_toList]
    exact ⟨password, rfl⟩
  | some parts =>
    obtain ⟨front, back⟩ := parts
    obtain ⟨whole, last⟩ := Text.cutLast_some cut
    rw [whole, Text.afterLast_append last]
    refine ⟨password ++ "@" ++ String.ofList front, ?_⟩
    apply String.toList_injective
    simp [withPassword, whole]

/-- Whatever comes behind the password, only what follows the last at sign stays of it. -/
theorem redactUrl_tail (begins : Begins scheme user) (password tail : String) :
    redactUrl (withPassword scheme user password tail) =
      withPassword scheme user "****" (.ofList (Text.afterLast '@' tail.toList)) := by
  obtain ⟨password', same⟩ := withPassword_afterLast scheme user password tail
  rw [same, redactUrl_withPassword begins (by simpa using Text.not_mem_afterLast '@' tail.toList)]

/-- Two URLs that are the same but for a password behind the name of the user. -/
inductive Alike : String → String → Prop where
  | same (url : String) : Alike url url
  | apart {scheme user : String} (begins : Begins scheme user) (p q tail : String) :
      Alike (withPassword scheme user p tail) (withPassword scheme user q tail)

theorem Alike.redactUrl {url url' : String} (alike : Alike url url') :
    redactUrl url = redactUrl url' := by
  cases alike with
  | same => rfl
  | apart begins p q tail => rw [redactUrl_tail begins, redactUrl_tail begins]

end Url

/-! ### Settings -/

/-- Settings that are the same but for the secret of tokens and the password of the database. -/
structure Settings.Alike (s s' : Settings) : Prop where
  database : s'.database = { s.database with url := s'.database.url }
  url : Url.Alike s.database.url s'.database.url
  auth : s'.auth = { s.auth with secret := s'.auth.secret }
  logging : s'.logging = s.logging

/-- Neither whether there is an issuer nor what it shows in diagnostics depends on its secret. -/
theorem Issuer.diagnostic_ofSettings (s : AuthSettings) (secret : String) :
    (ofSettings { s with secret }).map diagnostic = (ofSettings s).map diagnostic := by
  have access : AuthSettings.accessLifetime { s with secret } = s.accessLifetime := rfl
  have refresh : AuthSettings.refreshLifetime { s with secret } = s.refreshLifetime := rfl
  unfold ofSettings
  rw [access, refresh]
  cases s.accessLifetime with
  | error e => rfl
  | ok a =>
    cases s.refreshLifetime with
    | error e => rfl
    | ok b => rfl

/-- A redacted URL keeps its scheme, its user and what follows the last at sign, whatever the
password and what comes behind it, and a URL without a password stays as it is; redacting once is
enough. Settings that differ in nothing but the secret of tokens and the password of the database
look the same in diagnostics, as a whole and section by section, and so do the issuers made of them;
where there is no database, both lead to one error. -/
theorem secrets_hidden :
    (∀ {scheme user : String}, Url.Begins scheme user → ∀ p q tail : String,
      redactUrl (Url.withPassword scheme user p tail) =
          redactUrl (Url.withPassword scheme user q tail) ∧
        redactUrl (Url.withPassword scheme user p tail) =
          scheme ++ "://" ++ user ++ ":****@" ++ String.ofList (Text.afterLast '@' tail.toList)) ∧
      (∀ url, redactUrl (redactUrl url) = redactUrl url) ∧
      (∀ {url}, Url.Plain url → redactUrl url = url) ∧
      ∀ {s s' : Settings}, s.Alike s' →
        s.diagnostic = s'.diagnostic ∧ s.auth.diagnostic = s'.auth.diagnostic ∧
        s.database.diagnostic = s'.database.diagnostic ∧
        (Issuer.ofSettings s.auth).map Issuer.diagnostic =
          (Issuer.ofSettings s'.auth).map Issuer.diagnostic ∧
        Database.connect s.database none = Database.connect s'.database none := by
  refine ⟨?_, Url.redactUrl_redactUrl, Url.redactUrl_plain, ?_⟩
  · intro scheme user begins p q tail
    rw [Url.redactUrl_tail begins, Url.redactUrl_tail begins]
    refine ⟨rfl, ?_⟩
    simp only [Url.withPassword, String.append_assoc]
    rfl
  · rintro ⟨database, auth, logging⟩ ⟨database', auth', logging'⟩ ⟨place, url, token, log⟩
    dsimp only at place url token log
    have sections : database.diagnostic = database'.diagnostic := by rw [place]; rfl
    have tokens : auth.diagnostic = auth'.diagnostic := by rw [token]; rfl
    refine ⟨?_, tokens, sections, ?_, ?_⟩
    · unfold Settings.diagnostic
      rw [sections, tokens, log]
    · have issuers := Issuer.diagnostic_ofSettings auth auth'.secret
      rw [← token] at issuers
      exact issuers.symm
    · unfold Database.connect Database.unreachable
      rw [url.redactUrl]

/-- Settings with a secret and a password. -/
def keeperSettings (secret password : String) : Settings :=
  { database := { url := Url.withPassword "postgres" "keeper" password "db:5432/a@b" }
    auth := { secret } }

/-- Two passwords with the marks of a URL in them, before a name of a database with an at sign. -/
theorem secrets_hidden_marks :
    Url.Begins "postgres" "keeper" ∧
      redactUrl (Url.withPassword "postgres" "keeper" "p@ss://w:rd" "db:5432/a@b") =
        "postgres://keeper:****@b" ∧
      Url.Plain "postgres://keeper@db" ∧ redactUrl "postgres://keeper@db" = "postgres://keeper@db" ∧
      (keeperSettings "one" "p@ss://w:rd").Alike (keeperSettings "two" "@:") ∧
      (keeperSettings "one" "p@ss://w:rd").diagnostic = (keeperSettings "two" "@:").diagnostic := by
  obtain ⟨hidden, -, kept, alike⟩ := secrets_hidden
  have begins : Url.Begins "postgres" "keeper" := ⟨by decide +kernel, by decide⟩
  have plain : Url.Plain "postgres://keeper@db" := by
    have parts : "postgres://keeper@db" = "postgres" ++ "://" ++ "keeper" ++ "@" ++ "db" := by decide
    rw [parts]
    exact .passwordless begins (by decide)
  have same : (keeperSettings "one" "p@ss://w:rd").Alike (keeperSettings "two" "@:") :=
    ⟨rfl, .apart begins _ _ _, rfl, rfl⟩
  exact ⟨begins, (hidden begins _ "" _).2.trans (by decide), plain, kept plain, same,
    (alike same).1⟩

end DeviceSessions
