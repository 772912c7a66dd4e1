import DeviceSessions.Proofs.Settings.Distinct
import DeviceSessions.Proofs.Settings.Environment
import DeviceSessions.Proofs.Settings.Loaded
import DeviceSessions.Proofs.Settings.Reading

/-!
# Layers setting by setting

Each setting is decided by the highest layer that gives it: the last variable for it, else the file
for the environment, else the first file. What a layer says of other settings does not count, in
whichever section they are, and neither does a layer that does not give the setting at all.
-/

namespace DeviceSessions

/-! ### Settings one by one -/

namespace Settings

/-- What settings are made of. -/
inductive Kind where
  | text
  | word32
  | word64
  | format

def Kind.Value : Kind → Type
  | text => String
  | word32 => UInt32
  | word64 => UInt64
  | format => LogFormat

def Kind.convert : (kind : Kind) → Setting → Option kind.Value
  | text => Setting.toText?
  | word32 => Setting.toUInt32?
  | word64 => Setting.toUInt64?
  | format => Setting.toNamed? LogFormat.byName

/-- The settings one by one. -/
inductive Field where
  | url
  | maxConnections
  | minConnections
  | connectTimeoutSeconds
  | idleTimeoutSeconds
  | secret
  | issuer
  | accessMinutes
  | refreshHours
  | storeTimeoutSeconds
  | level
  | format

namespace Field

/-- The section and the name of a setting. -/
def names : Field → String × String
  | url => ("database", "url")
  | maxConnections => ("database", "max_connections")
  | minConnections => ("database", "min_connections")
  | connectTimeoutSeconds => ("database", "connect_timeout_seconds")
  | idleTimeoutSeconds => ("database", "idle_timeout_seconds")
  | secret => ("auth", "jwt_secret")
  | issuer => ("auth", "jwt_issuer")
  | accessMinutes => ("auth", "access_ttl_minutes")
  | refreshHours => ("auth", "refresh_ttl_hours")
  | storeTimeoutSeconds => ("auth", "store_timeout_seconds")
  | level => ("logging", "level")
  | format => ("logging", "format")

def kind : Field → Kind
  | url | secret | issuer | level => .text
  | maxConnections | minConnections => .word32
  | connectTimeoutSeconds | idleTimeoutSeconds | accessMinutes | refreshHours
  | storeTimeoutSeconds => .word64
  | format => .format

/-- The value of a setting that no layer gives; some have to be given. -/
def usual : (f : Field) → Option f.kind.Value
  | url | secret => none
  | maxConnections => some (10 : UInt32)
  | minConnections => some (1 : UInt32)
  | connectTimeoutSeconds => some (5 : UInt64)
  | idleTimeoutSeconds => some (600 : UInt64)
  | issuer => some "sessionkeeper"
  | accessMinutes => some (30 : UInt64)
  | refreshHours => some (168 : UInt64)
  | storeTimeoutSeconds => some (5 : UInt64)
  | level => some "info"
  | format => some LogFormat.json

def get : (f : Field) → Settings → f.kind.Value
  | url, s => s.database.url
  | maxConnections, s => s.database.maxConnections
  | minConnections, s => s.database.minConnections
  | connectTimeoutSeconds, s => s.database.connectTimeoutSeconds
  | idleTimeoutSeconds, s => s.database.idleTimeoutSeconds
  | secret, s => s.auth.secret
  | issuer, s => s.auth.issuer
  | accessMinutes, s => s.auth.accessMinutes
  | refreshHours, s => s.auth.refreshHours
  | storeTimeoutSeconds, s => s.auth.storeTimeoutSeconds
  | level, s => s.logging.level
  | format, s => s.logging.format

/-- The name of the variable for a setting, in small letters. -/
def variableName (f : Field) : String :=
  Environment.prefixText ++ f.names.1 ++ "__" ++ f.names.2

def path (f : Field) : List Setting.Step := [.key f.names.1, .key f.names.2]

/-- The key that the variable for a setting has in its layer. -/
def key (f : Field) : String := f.names.1 ++ "." ++ f.names.2

end Field

end Settings

/-! ### What layers give -/

/-- What a value gives. An empty table has no entry to put over another, and gives nothing. -/
def Setting.given? : Setting → Option Setting
  | table [] => none
  | value => some value

namespace Settings

namespace Field

/-- What the last variable for a setting gives. -/
def inVariables? (f : Field) (vars : List (String × String)) : Option Setting :=
  (vars.findRev? fun v => Text.lower v.1 = f.variableName).map fun v => Environment.value v.2

/-- What a layer of a file gives for a setting. -/
def inLayer? (f : Field) (layer : List (String × Setting)) : Option Setting :=
  (Setting.at? f.path (.table layer)).bind Setting.given?

/-- What the file of a name gives for a setting. -/
def inFile? (f : Field) (files : String → Option String) (name : String) : Option Setting :=
  (fileLayer? files name).bind f.inLayer?

/-- What the highest layer that gives a setting gives for it. -/
def highest? (f : Field) (files : String → Option String) (name : String)
    (environment : Option String) (vars : List (String × String)) : Option Setting :=
  (f.inVariables? vars).or ((fileNames name environment).findSomeRev? (f.inFile? files))

/-- What is made of a setting that the layers give, or do not give. -/
def read? (f : Field) (given : Option Setting) : Option f.kind.Value :=
  given.elim f.usual f.kind.convert

end Field

/-- A layer is made of the three sections. -/
def Sectioned (layer : List (String × Setting)) : Prop :=
  ∀ e ∈ layer, e.1 ∈ ["database", "auth", "logging"] ∧ ∃ fields, e.2 = .table fields

instance (value : Setting) : Decidable (∃ fields, value = .table fields) :=
  match value with
  | .table fields => isTrue ⟨fields, rfl⟩
  | .nil | .bool _ | .int _ | .float _ | .text _ | .list _ => isFalse fun ⟨_, same⟩ => nomatch same

instance (layer : List (String × Setting)) : Decidable (Sectioned layer) :=
  inferInstanceAs (Decidable (∀ e ∈ layer, _ ∧ _))

/-- Each variable that is meant for the program is named for a setting. -/
def Named (vars : List (String × String)) : Prop :=
  ∀ v ∈ vars, Environment.prefixText.toList <+: (Text.lower v.1).toList →
    ∃ f : Field, Text.lower v.1 = f.variableName

end Settings

/-! ### One layer over others -/

namespace Setting

variable {layer : List (String × Setting)}

theorem given?_eq_none_iff {value : Setting} : value.given? = none ↔ value = table [] := by
  constructor
  · intro none
    unfold given? at none
    split at none
    · rfl
    · cases none
  · rintro rfl
    rfl

theorem eq_of_given? {value own : Setting} (gives : value.given? = some own) : own = value := by
  unfold given? at gives
  split at gives
  · cases gives
  · exact (Option.some.inj gives).symm

theorem at?_pair (part name : String) (s : Setting) :
    at? [.key part, .key name] s =
      (s.entries.lookup part).bind fun inner => inner.entries.lookup name := by
  rw [at?_key]
  congr 1
  funext inner
  rw [at?_key]
  exact Option.bind_fun_some _

theorem lookup_ne_none {e : String × Setting} (member : e ∈ layer) : layer.lookup e.1 ≠ none := by
  rw [ne_eq, List.lookup_eq_none_iff]
  intro absent
  exact bne_iff_ne.mp (absent e member) rfl

/-- Where a table with one entry comes out, a table that was put over another has that one entry. -/
theorem key_of_overlay_single {entry : String × Setting} {rest below : List (String × Setting)}
    {key : String} {value : Setting} (keys : ((entry :: rest).map Prod.fst).Nodup)
    (single : entriesOver (entry :: rest) (table below) = table [(key, value)]) :
    rest = [] ∧ key = entry.1 := by
  have all : ∀ e ∈ entry :: rest, e.1 = key := by
    intro e member
    obtain ⟨own, found⟩ := Option.ne_none_iff_exists'.mp (lookup_ne_none member)
    have merged := lookup_entriesOver keys (table below) e.1
    rw [single, found, Option.elim_some] at merged
    by_contra other
    rw [entries, lookup_cons_of_ne other] at merged
    cases merged
  have first := all entry List.mem_cons_self
  refine ⟨?_, first.symm⟩
  rw [List.map_cons, List.nodup_cons] at keys
  refine List.eq_nil_iff_forall_not_mem.mpr fun e member => keys.1 ?_
  have later := all e (List.mem_cons_of_mem _ member)
  exact List.mem_map.mpr ⟨e, member, later.trans first.symm⟩

end Setting

namespace Settings

open Setting

theorem Kind.convert_empty (kind : Kind) : kind.convert (table []) = none := by
  cases kind <;> rfl

/-- What is made of a value over another is made of the value alone. -/
theorem Kind.convert_of_overlay {kind : Kind} {value lower : Setting} {a : kind.Value}
    (gives : value.given? = some value) (distinct : value.Distinct)
    (read : kind.convert (overlay value lower) = some a) : kind.convert value = some a := by
  cases distinct with
  | flat flat => rwa [flat.overlay] at read
  | @table own keys inner =>
    rw [overlay_table] at read
    obtain ⟨merged, same⟩ := entriesOver_table own lower.entries
    rw [same] at read
    cases kind with
    | format =>
      -- Only a table with one entry names a format.
      cases own with
      | nil => cases gives
      | cons entry rest =>
        match merged, read, same with
        | [(key, value)], read, same =>
          obtain ⟨rfl, rfl⟩ := key_of_overlay_single keys same
          exact read
    | _ => cases read

theorem Sectioned.pathOf_eq {layer : List (String × Setting)} (sections : Sectioned layer)
    {e : String × Setting} (member : e ∈ layer) : pathOf e.1 = [.key e.1] := by
  have each : ∀ name ∈ ["database", "auth", "logging"], pathOf name = [.key name] := by decide
  exact each e.1 (sections e member).1

/-- Sections are put over one another setting by setting. -/
theorem at?_addLayer_sections {layer : List (String × Setting)} (sections : Sectioned layer)
    (distinct : (table layer).Distinct) (part name : String) (lower : Setting) :
    at? [.key part, .key name] (lower.addLayer layer) =
      (at? [.key part, .key name] (table layer)).elim (at? [.key part, .key name] lower) fun value =>
        some (overlay value ((at? [.key part, .key name] lower).getD nil)) := by
  obtain ⟨keys, inner⟩ := distinct_table_iff.mp distinct
  have direct : ∀ e ∈ layer, pathOf e.1 = [.key e.1] := fun e member => sections.pathOf_eq member
  rw [addLayer_eq_entriesOver direct, at?_pair, at?_pair, at?_pair, lookup_entriesOver keys, entries]
  cases found : layer.lookup part with
  | none => rfl
  | some value =>
    have member := mem_of_lookup found
    obtain ⟨-, fields, same⟩ := sections _ member
    obtain ⟨fieldKeys, -⟩ := distinct_table_iff.mp (same ▸ inner _ member)
    dsimp only at same
    subst same
    have below : ((lower.entries.lookup part).getD nil).entries.lookup name =
        (lower.entries.lookup part).bind fun inner => inner.entries.lookup name := by
      cases lower.entries.lookup part <;> rfl
    rw [Option.elim_some, Option.bind_some, overlay_table, lookup_entriesOver fieldKeys,
      Option.bind_some, ← below]
    rfl

/-! ### Trees of sections -/

/-- All that is in a tree are tables. -/
def Tabular (tree : Setting) : Prop :=
  ∃ entries, tree = table entries ∧
    ∀ name value, entries.lookup name = some value → ∃ fields, value = table fields

theorem tabular_empty : Tabular (table []) := ⟨[], rfl, fun _ _ found => by cases found⟩

variable {tree : Setting}

theorem Tabular.modifyAt (tabular : Tabular tree) {f : Setting → Setting} {rest : List Step}
    (makes : ∀ s, ∃ fields, modifyAt f rest s = table fields) (name : String) :
    Tabular (modifyAt f (.key name :: rest) tree) := by
  obtain ⟨entries, rfl, tables⟩ := tabular
  refine ⟨_, modifyAt_key f name rest _, fun other value found => ?_⟩
  rw [lookup_alter] at found
  split at found
  · cases found
    exact makes _
  · exact tables other value found

/-- The entries of a layer are tables for sections, or lead into sections. -/
def Places (layer : List (String × Setting)) : Prop :=
  ∀ e ∈ layer, ∃ name rest, pathOf e.1 = .key name :: rest ∧
    ∀ s, ∃ fields, Setting.modifyAt (overlay e.2) rest s = table fields

theorem Tabular.addLayer (tabular : Tabular tree) {layer : List (String × Setting)}
    (places : Places layer) : Tabular (tree.addLayer layer) := by
  unfold Setting.addLayer
  induction layer generalizing tree with
  | nil => exact tabular
  | cons entry layer ih =>
    obtain ⟨name, rest, leads, makes⟩ := places entry List.mem_cons_self
    rw [List.foldl_cons, leads]
    exact ih (tabular.modifyAt makes name) fun e member => places e (List.mem_cons_of_mem _ member)

theorem Sectioned.places {layer : List (String × Setting)} (sections : Sectioned layer) :
    Places layer := by
  intro e member
  obtain ⟨-, fields, same⟩ := sections e member
  refine ⟨e.1, [], sections.pathOf_eq member, fun s => ?_⟩
  rw [same, Setting.modifyAt, overlay_table]
  exact entriesOver_table _ _

/-! ### The files -/

variable {f : Field} {given : Option Setting}

/-- What is made of a setting in a tree is made of what the layers gave for it. -/
def Field.Agrees (f : Field) (tree : Setting) (given : Option Setting) : Prop :=
  ∀ a, f.read? (at? f.path tree) = some a → f.read? given = some a

theorem Field.agrees_addLayer {layer : List (String × Setting)} (sections : Sectioned layer)
    (distinct : (table layer).Distinct) (agrees : f.Agrees tree given) :
    f.Agrees (tree.addLayer layer) ((f.inLayer? layer).or given) := by
  intro a read
  rw [path, at?_addLayer_sections sections distinct, ← path] at read
  unfold inLayer?
  cases found : at? f.path (table layer) with
  | none =>
    rw [found] at read
    exact agrees a read
  | some value =>
    rw [found] at read
    cases gives : value.given? with
    | some own =>
      obtain rfl := eq_of_given? gives
      rw [Option.bind_some, gives]
      exact Kind.convert_of_overlay gives (distinct.at? found) read
    | none =>
      -- An empty table leaves a table as it is, and of all else nothing is made then.
      obtain rfl := given?_eq_none_iff.mp gives
      have empty : f.kind.convert (table []) ≠ some a := by
        rw [f.kind.convert_empty]
        exact (Option.some_ne_none a).symm
      rw [Option.bind_some, gives, Option.none_or]
      rw [Option.elim_some, overlay_table, entriesOver] at read
      cases below : at? f.path tree with
      | none =>
        rw [below] at read
        exact absurd read empty
      | some old =>
        rw [below, Option.getD_some] at read
        cases old with
        | table entries => exact agrees a (by rw [below]; exact read)
        | _ => exact absurd read empty

/-- The induction goes up through the layers, with what those before them gave. -/
theorem Field.agrees_files {files : String → Option String} {names : List String}
    {layers : List (List (String × Setting))}
    (sections : ∀ name ∈ names, ∀ layer ∈ fileLayer? files name, Sectioned layer)
    (read : names.mapM (fileLayer? files) = some layers) (tabular : Tabular tree)
    (agrees : f.Agrees tree given) :
    Tabular (layers.foldl Setting.addLayer tree) ∧
      f.Agrees (layers.foldl Setting.addLayer tree)
        ((names.findSomeRev? (f.inFile? files)).or given) := by
  induction names generalizing layers tree given with
  | nil =>
    cases read
    exact ⟨tabular, agrees⟩
  | cons name names ih =>
    rw [List.mapM_cons] at read
    obtain ⟨layer, first, read⟩ := Option.bind_eq_some_iff.mp read
    obtain ⟨layers, others, same⟩ := Option.bind_eq_some_iff.mp read
    cases same
    have own := sections name List.mem_cons_self layer first
    have next := ih (fun name member => sections name (List.mem_cons_of_mem _ member)) others
      (tabular.addLayer own.places) (agrees_addLayer own (distinct_fileLayer? first) agrees)
    have highest : ((name :: names).findSomeRev? (f.inFile? files)).or given =
        (names.findSomeRev? (f.inFile? files)).or ((f.inLayer? layer).or given) := by
      have file : f.inFile? files name = f.inLayer? layer := by
        rw [Field.inFile?, first, Option.bind_some]
      rw [List.findSomeRev?, ← file]
      cases names.findSomeRev? (f.inFile? files) <;> rfl
    rw [List.foldl_cons, highest]
    exact next

/-! ### The variables -/

namespace Field

theorem pathOf_key (f : Field) : pathOf f.key = f.path := by
  cases f <;> decide

theorem entry?_variable {v : String × String} (named : Text.lower v.1 = f.variableName) :
    Environment.entry? v = some (f.key, Environment.value v.2) := by
  unfold Environment.entry?
  rw [named]
  cases f <;> rfl

/-- Settings with variables of their own have paths of their own. -/
theorem apart {f g : Field} (other : f.variableName ≠ g.variableName) : Apart f.path g.path := by
  unfold path
  by_cases part : f.names.1 = g.names.1
  · by_cases name : f.names.2 = g.names.2
    · exact absurd (by rw [variableName, variableName, part, name]) other
    · rw [part]
      exact .there (.here name)
  · exact .here part

end Field

variable {vars : List (String × String)}

theorem Named.entry? (named : Named vars) {v : String × String} (member : v ∈ vars)
    {e : String × Setting} (sets : Environment.entry? v = some e) :
    ∃ f : Field, Text.lower v.1 = f.variableName ∧ e = (f.key, Environment.value v.2) := by
  have own : Environment.prefixText.toList <+: (Text.lower v.1).toList := by
    unfold Environment.entry? at sets
    dsimp only at sets
    split at sets
    · rename_i start
      exact List.isPrefixOf_iff_prefix.mp start
    · cases sets
  obtain ⟨f, name⟩ := named v member own
  rw [Field.entry?_variable name] at sets
  exact ⟨f, name, (Option.some.inj sets).symm⟩

theorem Named.places (named : Named vars) : Places (Environment.layer vars) := by
  intro e member
  obtain ⟨v, inside, sets⟩ := Environment.exists_of_mem_layer member
  obtain ⟨f, -, rfl⟩ := named.entry? inside sets
  refine ⟨f.names.1, [.key f.names.2], f.pathOf_key, fun s => ?_⟩
  exact ⟨_, modifyAt_key _ _ _ s⟩

/-- The last variable for a setting decides it; without one it stays as it was. -/
theorem Named.at?_addLayer (named : Named vars) (f : Field) (lower : Setting) :
    at? f.path (lower.addLayer (Environment.layer vars)) =
      (f.inVariables? vars).or (at? f.path lower) := by
  unfold Field.inVariables?
  rw [List.findRev?_eq_find?_reverse]
  cases found : vars.reverse.find? fun v => Text.lower v.1 = f.variableName with
  | none =>
    have clear : Clear (Environment.layer vars) f.path := by
      intro e member
      obtain ⟨v, inside, sets⟩ := Environment.exists_of_mem_layer member
      obtain ⟨g, name, rfl⟩ := named.entry? inside sets
      have other := List.find?_eq_none.mp found v (List.mem_reverse.mpr inside)
      rw [decide_eq_true_eq, name] at other
      rw [g.pathOf_key]
      exact Field.apart other
    rw [clear.at?_addLayer]
    rfl
  | some v =>
    obtain ⟨name, after, before, split, others⟩ := List.find?_eq_some_iff_append.mp found
    have whole : vars = before.reverse ++ v :: after.reverse := by
      rw [← vars.reverse_reverse, split]
      simp
    have last : ∀ other ∈ after.reverse, ∀ e, Environment.entry? other = some e →
        Apart (pathOf e.1) (pathOf f.key) := by
      intro other inside e sets
      obtain ⟨g, own, rfl⟩ := named.entry? (by rw [whole]; simp [List.mem_reverse.mp inside]) sets
      have different := others other (List.mem_reverse.mp inside)
      rw [Bool.not_eq_true', decide_eq_false_iff_not, own] at different
      rw [g.pathOf_key, f.pathOf_key]
      exact Field.apart different
    have names : ∀ step ∈ pathOf f.key, ∃ n, step = .key n := by
      rw [f.pathOf_key]
      simp [Field.path]
    rw [whole, ← f.pathOf_key]
    exact Environment.at?_layer names (Environment.flat_value v.2)
      (Field.entry?_variable (of_decide_eq_true name)) last before.reverse lower

/-! ### Reading a tree -/

variable {entries fields : List (String × Setting)}

theorem Field.read?_at?_of_section (f : Field)
    (found : entries.lookup f.names.1 = some (table fields)) :
    f.read? (at? f.path (table entries)) = (fields.lookup f.names.2).elim f.usual f.kind.convert := by
  rw [path, at?_pair, Setting.entries, found]
  rfl

theorem Field.read?_at?_of_none (f : Field) (absent : entries.lookup f.names.1 = none) :
    f.read? (at? f.path (table entries)) = f.usual := by
  rw [path, at?_pair, Setting.entries, absent]
  rfl

/-- Each setting is made of what is at its path. -/
theorem Field.read?_at? {s : Settings} (tabular : Tabular tree) (read : ofSetting? tree = some s)
    (f : Field) : f.read? (at? f.path tree) = some (f.get s) := by
  obtain ⟨entries, rfl, tables⟩ := tabular
  obtain ⟨database, databaseRead, read⟩ := Option.bind_eq_some_iff.mp read
  obtain ⟨auth, authRead, read⟩ := Option.bind_eq_some_iff.mp read
  obtain ⟨logging, loggingRead, read⟩ := Option.bind_eq_some_iff.mp read
  cases read
  obtain ⟨databasePart, inDatabase, databaseRead⟩ := Option.bind_eq_some_iff.mp databaseRead
  obtain ⟨authPart, inAuth, authRead⟩ := Option.bind_eq_some_iff.mp authRead
  obtain ⟨databaseFields, rfl⟩ := tables _ _ inDatabase
  obtain ⟨authFields, rfl⟩ := tables _ _ inAuth
  obtain ⟨place, most, least, connects, idles⟩ := DatabaseSettings.fields_of_ofSetting? databaseRead
  obtain ⟨own, named, short, long, waits⟩ := AuthSettings.fields_of_ofSetting? authRead
  rw [fieldOr?_eq] at loggingRead
  have log : level.read? (at? level.path (table entries)) = some logging.level ∧
      format.read? (at? format.path (table entries)) = some logging.format := by
    cases inLogging : entries.lookup "logging" with
    | none =>
      rw [inLogging] at loggingRead
      cases loggingRead
      exact ⟨level.read?_at?_of_none inLogging, format.read?_at?_of_none inLogging⟩
    | some part =>
      obtain ⟨fields, rfl⟩ := tables _ _ inLogging
      rw [inLogging] at loggingRead
      obtain ⟨shown, written⟩ := LoggingSettings.fields_of_ofSetting? loggingRead
      exact ⟨(level.read?_at?_of_section inLogging).trans shown,
        (format.read?_at?_of_section inLogging).trans written⟩
  cases f with
  | url => exact (url.read?_at?_of_section inDatabase).trans place
  | maxConnections => exact (maxConnections.read?_at?_of_section inDatabase).trans most
  | minConnections => exact (minConnections.read?_at?_of_section inDatabase).trans least
  | connectTimeoutSeconds =>
    exact (connectTimeoutSeconds.read?_at?_of_section inDatabase).trans connects
  | idleTimeoutSeconds => exact (idleTimeoutSeconds.read?_at?_of_section inDatabase).trans idles
  | secret => exact (secret.read?_at?_of_section inAuth).trans own
  | issuer => exact (issuer.read?_at?_of_section inAuth).trans named
  | accessMinutes => exact (accessMinutes.read?_at?_of_section inAuth).trans short
  | refreshHours => exact (refreshHours.read?_at?_of_section inAuth).trans long
  | storeTimeoutSeconds => exact (storeTimeoutSeconds.read?_at?_of_section inAuth).trans waits
  | level => exact log.1
  | format => exact log.2

/-! ### What is loaded -/

/-- Settings that were loaded from files of sections, and from variables of which each is for one
setting, were not refused, and each of them is made of what the highest layer gives that gives it at
all: the last variable for it, else the file for the environment, else the first file. One that no
layer gives is as usual. So what layers give for other settings does not count, in the same section
or another, and neither do layers that do not give the setting. -/
theorem load_precedence {files : String → Option String} {name : String}
    {environment : Option String} {vars : List (String × String)} {s : Settings}
    (sections : ∀ file ∈ fileNames name environment, ∀ layer ∈ fileLayer? files file,
      Sectioned layer)
    (named : Named vars) (loaded : load files name environment vars = .ok s) :
    s.database.validate = .ok () ∧ s.auth.validate = .ok () ∧
      ∀ f : Field, f.read? (f.highest? files name environment vars) = some (f.get s) := by
  obtain ⟨layers, files, read, database, auth⟩ := load_ok loaded
  refine ⟨s.database.validate_iff.mpr database, s.auth.validate_iff.mpr auth, fun f => ?_⟩
  have start : f.Agrees (.table []) none := fun a read => read
  obtain ⟨tabular, agrees⟩ := Field.agrees_files sections files tabular_empty start
  have whole := f.read?_at? (tabular.addLayer named.places) read
  rw [named.at?_addLayer] at whole
  unfold Field.highest?
  cases given : f.inVariables? vars with
  | some value =>
    rw [given] at whole
    exact whole
  | none =>
    rw [given, Option.none_or] at whole
    have agreed := agrees _ whole
    rwa [Option.or_none] at agreed

/-- A file, and one for an environment in the other format. -/
def layeredFiles (path : String) : Option String :=
  if path = "config/default.toml" then
    some ("[auth]\njwt_secret = 'a secret of no less than 32 bytes'\nrefresh_ttl_hours = 24\n" ++
      "[database]\nurl = 'pg://db'\nmax_connections = 20\n")
  else if path = "config/production.json" then
    some ("\x7b\"auth\": \x7b\"access_ttl_minutes\": 5, \"refresh_ttl_hours\": 48\x7d, " ++
      "\"logging\": \x7b\x7d\x7d")
  else none

/-- A variable for a setting that both files give, one for a setting that neither gives, and one that
is not meant for the program. -/
def layeredVars : List (String × String) :=
  [("SESSIONKEEPER__AUTH__REFRESH_TTL_HOURS", "72"), ("SessionKeeper__Logging__Format", "pretty"),
    ("HOME", "/root")]

def layeredSettings : Settings where
  database := { url := "pg://db", maxConnections := 20 }
  auth :=
    { secret := "a secret of no less than 32 bytes", accessMinutes := 5, refreshHours := 72 }
  logging := { format := .pretty }

theorem load_layered :
    load layeredFiles "config/default" (some "production") layeredVars = .ok layeredSettings := by
  decide +kernel

theorem sectioned_layered :
    ∀ file ∈ fileNames "config/default" (some "production"), ∀ layer ∈ fileLayer? layeredFiles file,
      Sectioned layer := by
  decide +kernel

theorem named_layered : Named layeredVars := by
  intro v member own
  simp only [layeredVars, List.mem_cons, List.not_mem_nil, or_false] at member
  rcases member with rfl | rfl | rfl
  · exact ⟨.refreshHours, by decide +kernel⟩
  · exact ⟨.format, by decide +kernel⟩
  · exact absurd own (by decide +kernel)

/-- The section of tokens comes from all three layers, and the section of the database from the lowest
alone. -/
theorem load_precedence_layered :
    (∀ file ∈ fileNames "config/default" (some "production"),
        ∀ layer ∈ fileLayer? layeredFiles file, Sectioned layer) ∧
      Named layeredVars ∧
      load layeredFiles "config/default" (some "production") layeredVars = .ok layeredSettings ∧
      ∀ f : Field, f.read?
          (f.highest? layeredFiles "config/default" (some "production") layeredVars) =
        some (f.get layeredSettings) :=
  ⟨sectioned_layered, named_layered, load_layered,
    (load_precedence sectioned_layered named_layered load_layered).2.2⟩

end Settings

end DeviceSessions
