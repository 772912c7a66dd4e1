import DeviceSessions.Proofs.Settings.Environment
import DeviceSessions.Proofs.Settings.Loaded
import DeviceSessions.Proofs.Settings.Reading

/-!
# Texts from the environment

A variable for a setting that is a text decides that setting, but the text is not always the one
that was given: it is read as a truth value or a number if it can be, and that is written again.
Texts that read as the same value are not told apart.
-/

namespace DeviceSessions

/-! ### Settings that are texts -/

/-- The settings that are texts. -/
inductive TextSetting where
  | url
  | secret
  | issuer
  | level

namespace TextSetting

/-- The section and the name of a setting. -/
def names : TextSetting → String × String
  | url => ("database", "url")
  | secret => ("auth", "jwt_secret")
  | issuer => ("auth", "jwt_issuer")
  | level => ("logging", "level")

/-- The name of the variable for a setting, in small letters. -/
def variableName (t : TextSetting) : String :=
  Environment.prefixText ++ t.names.1 ++ "__" ++ t.names.2

def path (t : TextSetting) : List Setting.Step := [.key t.names.1, .key t.names.2]

def get (s : Settings) : TextSetting → String
  | url => s.database.url
  | secret => s.auth.secret
  | issuer => s.auth.issuer
  | level => s.logging.level

/-- The key that the variable for a setting has in its layer. -/
def key (t : TextSetting) : String := t.names.1 ++ "." ++ t.names.2

theorem pathOf_key (t : TextSetting) : Setting.pathOf t.key = t.path := by
  cases t <;> decide

theorem entry?_variable {t : TextSetting} {variable_ : String}
    (named : Text.lower variable_ = t.variableName) (v : String) :
    Environment.entry? (variable_, v) = some (t.key, Environment.value v) := by
  unfold Environment.entry?
  dsimp only
  rw [named]
  cases t <;> rfl

end TextSetting

/-! ### Reading them -/

namespace Setting

theorem tables_of_at? {first second : String} {tree value : Setting}
    (found : at? [.key first, .key second] tree = some value) :
    ∃ entries fields, tree = .table entries ∧ entries.lookup first = some (.table fields) ∧
      fields.lookup second = some value := by
  cases tree with
  | table entries =>
    obtain ⟨inner, outer, found⟩ := Option.bind_eq_some_iff.mp found
    cases inner with
    | table fields =>
      obtain ⟨value', same, last⟩ := Option.bind_eq_some_iff.mp found
      cases last
      exact ⟨entries, fields, rfl, outer, same⟩
    | _ => cases found
  | _ => cases found

end Setting

open Setting in
/-- The value at the path of a setting is what the setting is made of. -/
theorem TextSetting.toText?_of_at? {t : TextSetting} {tree value : Setting} {s : Settings}
    (read : Settings.ofSetting? tree = some s) (found : Setting.at? t.path tree = some value) :
    value.toText? = some (t.get s) := by
  obtain ⟨entries, fields, rfl, outer, inner⟩ := tables_of_at? found
  obtain ⟨database, databaseRead, read⟩ := Option.bind_eq_some_iff.mp read
  obtain ⟨auth, authRead, read⟩ := Option.bind_eq_some_iff.mp read
  obtain ⟨logging, loggingRead, read⟩ := Option.bind_eq_some_iff.mp read
  cases read
  rw [field?_eq] at databaseRead authRead
  rw [fieldOr?_eq] at loggingRead
  cases t with
  | url =>
    obtain ⟨url, -⟩ := DatabaseSettings.fields_of_ofSetting? (convert_of_lookup outer databaseRead)
    exact convert_of_lookup inner url
  | secret =>
    obtain ⟨secret, -⟩ := AuthSettings.fields_of_ofSetting? (convert_of_lookup outer authRead)
    exact convert_of_lookup inner secret
  | issuer =>
    obtain ⟨-, issuer, -⟩ := AuthSettings.fields_of_ofSetting? (convert_of_lookup outer authRead)
    exact convert_of_lookup inner issuer
  | level =>
    obtain ⟨level, -⟩ := LoggingSettings.fields_of_ofSetting? (convert_of_lookup outer loggingRead)
    exact convert_of_lookup inner level

/-- The last variable for a setting puts its value there, over whatever was there before. -/
theorem TextSetting.at?_layer {t : TextSetting} {after : List (String × String)} {x v : String}
    (named : Text.lower x = t.variableName)
    (last : ∀ other ∈ after, ∀ e, Environment.entry? other = some e →
      Setting.Apart (Setting.pathOf e.1) t.path)
    (before : List (String × String)) (lower : Setting) :
    Setting.at? t.path (lower.addLayer (Environment.layer (before ++ (x, v) :: after))) =
      some (Environment.value v) := by
  rw [← t.pathOf_key] at last ⊢
  have names : ∀ step ∈ Setting.pathOf t.key, ∃ n, step = .key n := by
    rw [t.pathOf_key]
    simp [TextSetting.path]
  exact Environment.at?_layer names (Environment.flat_value v) (TextSetting.entry?_variable named v)
    last before lower

/-- A variable decides a setting that is a text, unless a later one interferes: the setting is the
text of the value that was read. That is the text that was given if it is the usual text of a truth
value or of an integer of 64 bits, or if no truth value and no number is written that way. -/
theorem TextSetting.load_variable {t : TextSetting} {files : String → Option String} {name : String}
    {environment : Option String} {before after : List (String × String)} {x v : String}
    {s : Settings} (named : Text.lower x = t.variableName)
    (last : ∀ other ∈ after, ∀ e, Environment.entry? other = some e →
      Setting.Apart (Setting.pathOf e.1) t.path)
    (loaded : Settings.load files name environment (before ++ (x, v) :: after) = .ok s) :
    t.get s = Environment.shown v ∧ (Environment.Kept v → t.get s = v) := by
  obtain ⟨lower, -, read, -, -⟩ := Settings.load_ok loaded
  have found := TextSetting.at?_layer (v := v) named last before (lower.foldl Setting.addLayer (.table []))
  have text := TextSetting.toText?_of_at? read found
  rw [Environment.toText?_value] at text
  have shown : t.get s = Environment.shown v := (Option.some.inj text).symm
  exact ⟨shown, fun kept => shown.trans kept.shown⟩

/-- The variable for the secret comes behind that for the database, which is taken as it was
given. -/
theorem TextSetting.load_variable_fewest :
    (∀ other ∈ fewestVars.tail, ∀ e, Environment.entry? other = some e →
        Setting.Apart (Setting.pathOf e.1) TextSetting.url.path) ∧
      TextSetting.url.get usualSettings = "pg://db" := by
  have last : ∀ other ∈ fewestVars.tail, ∀ e, Environment.entry? other = some e →
      Setting.Apart (Setting.pathOf e.1) TextSetting.url.path := by
    intro other member e entry
    obtain rfl := List.mem_singleton.mp member
    rw [TextSetting.entry?_variable (t := .secret) (by decide)] at entry
    cases entry
    rw [TextSetting.pathOf_key]
    exact .here (by decide)
  have plain : Environment.Plain "pg://db" := ⟨by decide, by decide, ':', by decide, by decide⟩
  have loaded : Settings.load (fun _ => none) "config/default" none
      ([] ++ ("SESSIONKEEPER__DATABASE__URL", "pg://db") :: fewestVars.tail) = .ok usualSettings :=
    load_fewest
  exact ⟨last, (TextSetting.load_variable (t := .url) (by decide) last loaded).2 (.plain plain)⟩

/-! ### Texts that are not told apart -/

theorem Environment.layer_congr {v v' : String} (same : value v = value v')
    (before after : List (String × String)) (x : String) :
    layer (before ++ (x, v) :: after) = layer (before ++ (x, v') :: after) := by
  have entries : entry? (x, v) = entry? (x, v') := by
    unfold entry?
    dsimp only
    rw [same]
  rw [layer_eq, layer_eq, List.filterMap_append, List.filterMap_append, List.filterMap_cons,
    List.filterMap_cons, entries]

/-- Of a variable only the value that is read from it counts. -/
theorem Settings.load_congr {v v' : String} (same : Environment.value v = Environment.value v')
    (files : String → Option String) (name : String) (environment : Option String)
    (before after : List (String × String)) (x : String) :
    load files name environment (before ++ (x, v) :: after) =
      load files name environment (before ++ (x, v') :: after) := by
  unfold load layers?
  rw [Environment.layer_congr same]

/-- Variables with a secret. -/
def secretVars (secret : String) : List (String × String) :=
  [("SESSIONKEEPER__DATABASE__URL", "pg://db"), ("SESSIONKEEPER__AUTH__JWT_SECRET", secret)]

theorem value_digits :
    Environment.value "1234567890123456789012345678901234567890" =
        .float (.finite false 8169684988724960 77) ∧
      Environment.value "1234567890123456789012345678901234567891" =
        .float (.finite false 8169684988724960 77) := by
  constructor
  · exact Environment.value_float (by decide +kernel) (by decide +kernel) (by decide +kernel)
  · exact Environment.value_float (by decide +kernel) (by decide +kernel) (by decide +kernel)

/-- Two secrets of forty digits are taken for one key, which is neither of them. -/
theorem digit_secrets_collide :
    ∃ s, Settings.load (fun _ => none) "config/default" none
          (secretVars "1234567890123456789012345678901234567890") = .ok s ∧
      Settings.load (fun _ => none) "config/default" none
          (secretVars "1234567890123456789012345678901234567891") = .ok s ∧
      s.auth.secret = "1234567890123456800000000000000000000000" := by
  have loaded : Settings.load (fun _ => none) "config/default" none
      (secretVars "1234567890123456789012345678901234567890") =
        .ok { usualSettings with
          auth := { secret := "1234567890123456800000000000000000000000" } } := by
    decide +kernel
  have same := Settings.load_congr (value_digits.1.trans value_digits.2.symm) (fun _ => none)
    "config/default" none [("SESSIONKEEPER__DATABASE__URL", "pg://db")] []
    "SESSIONKEEPER__AUTH__JWT_SECRET"
  exact ⟨_, loaded, same.symm.trans loaded, rfl⟩

end DeviceSessions
