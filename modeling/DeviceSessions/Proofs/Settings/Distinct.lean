import DeviceSessions.Proofs.Settings.Layers
import DeviceSessions.Settings.Load

/-!
# Keys of what is read are distinct

No table of a file has a key twice, nor has a table within it, in whichever format the file is: TOML
refuses a second value for a key, and of the entries of a JSON object with one key only the last is
kept. So a path leads to one value at most.
-/

namespace DeviceSessions

/-! ### Values -/

namespace Setting

/-- No table has a key twice, from the value itself down to the tables in tables. -/
inductive Distinct : Setting → Prop
  | flat {value : Setting} (flat : value.Flat) : Distinct value
  | table {entries : List (String × Setting)} (keys : (entries.map Prod.fst).Nodup)
      (inner : ∀ e ∈ entries, Distinct e.2) : Distinct (table entries)

variable {entries : List (String × Setting)} {name : String} {value : Setting}

theorem distinct_table_iff :
    Distinct (table entries) ↔ (entries.map Prod.fst).Nodup ∧ ∀ e ∈ entries, Distinct e.2 := by
  constructor
  · intro distinct
    cases distinct with
    | flat flat => cases flat
    | table keys inner => exact ⟨keys, inner⟩
  · rintro ⟨keys, inner⟩
    exact .table keys inner

theorem distinct_empty : Distinct (table []) := .table .nil (by simp)

theorem mem_of_lookup (found : entries.lookup name = some value) : (name, value) ∈ entries := by
  obtain ⟨front, back, rfl, -⟩ := List.lookup_eq_some_iff.mp found
  exact List.mem_append_right _ List.mem_cons_self

theorem mem_alter {e : String × Setting} (member : e ∈ alter name (fun _ => value) entries) :
    e ∈ entries ∨ e = (name, value) := by
  induction entries with
  | nil => exact .inr (List.mem_singleton.mp member)
  | cons entry rest ih =>
    obtain ⟨key, old⟩ := entry
    unfold alter at member
    split at member
    · rename_i same
      rcases List.mem_cons.mp member with first | later
      · exact .inr (same ▸ first)
      · exact .inl (List.mem_cons_of_mem _ later)
    · rcases List.mem_cons.mp member with first | later
      · exact .inl (first ▸ List.mem_cons_self)
      · exact (ih later).imp_left (List.mem_cons_of_mem _)

theorem nodup_alter (keys : (entries.map Prod.fst).Nodup) :
    ((alter name (fun _ => value) entries).map Prod.fst).Nodup := by
  induction entries with
  | nil => exact List.nodup_cons.mpr ⟨List.not_mem_nil, .nil⟩
  | cons entry rest ih =>
    obtain ⟨key, old⟩ := entry
    rw [List.map_cons, List.nodup_cons] at keys
    unfold alter
    split
    · exact List.nodup_cons.mpr keys
    · rename_i other
      refine List.nodup_cons.mpr ⟨?_, ih keys.2⟩
      intro member
      obtain ⟨e, inside, same⟩ := List.mem_map.mp member
      rcases mem_alter inside with old | new
      · exact keys.1 (List.mem_map.mpr ⟨e, old, same⟩)
      · exact other (same.symm.trans (congrArg Prod.fst new))

theorem Distinct.alter (distinct : Distinct (.table entries)) (inner : value.Distinct) (name : String) :
    Distinct (.table (alter name (fun _ => value) entries)) := by
  obtain ⟨keys, all⟩ := distinct_table_iff.mp distinct
  refine .table (nodup_alter keys) fun e member => ?_
  rcases mem_alter member with old | new
  · exact all e old
  · rwa [new]

theorem Distinct.at? {path : List Step} {s : Setting} (distinct : s.Distinct)
    (found : Setting.at? path s = some value) : value.Distinct := by
  induction path generalizing s with
  | nil =>
    cases found
    exact distinct
  | cons step path ih =>
    cases distinct with
    | flat flat =>
      unfold Setting.at? at found
      split at found
      · rename_i same; cases same
      · cases flat
      · cases found
    | table keys inner =>
      cases step with
      | key name =>
        obtain ⟨part, entry, found⟩ := Option.bind_eq_some_iff.mp found
        exact ih (inner _ (mem_of_lookup entry)) found
      | index i => cases found

/-! ### JSON -/

theorem distinct_ofEntries {parts : List (Json.Quoted × Json)}
    (inner : ∀ part ∈ parts, (ofJson part.2).Distinct) (before : List (String × Setting))
    (distinct : Distinct (table before)) : Distinct (table (ofEntries before parts)) := by
  induction parts generalizing before with
  | nil => exact distinct
  | cons part parts ih =>
    obtain ⟨key, value⟩ := part
    exact ih (fun part member => inner part (List.mem_cons_of_mem _ member)) _
      (distinct.alter (inner (key, value) List.mem_cons_self) _)

theorem distinct_ofJson : ∀ json : Json, (ofJson json).Distinct
  | .null | .bool _ | .string _ | .array _ => .flat trivial
  | .number n => by
    unfold ofJson
    split
    · split
      · exact .flat trivial
      · exact .flat trivial
    · exact .flat trivial
  | .object parts => by
    unfold ofJson
    exact distinct_ofEntries (fun part member => distinct_ofJson part.2) [] distinct_empty
termination_by json => sizeOf json
decreasing_by
  have inside := List.sizeOf_lt_of_mem member
  have whole : sizeOf part = 1 + sizeOf part.1 + sizeOf part.2 := rfl
  rw [Json.object.sizeOf_spec]
  omega

end Setting

/-! ### TOML -/

namespace Toml

namespace Entries

/-- No table of these parts has a key twice. -/
def Distinct (entries : Entries) : Prop := (Setting.table (entriesToSettings entries)).Distinct

variable {entries entries' : Entries} {name : String} {node : Node} {value : Setting}

theorem entriesToSettings_set (name : String) (node : Node) (entries : Entries) :
    entriesToSettings (set name node entries) =
      Setting.alter name (fun _ => node.toSetting) (entriesToSettings entries) := by
  induction entries with
  | nil => rfl
  | cons entry rest ih =>
    obtain ⟨key, old⟩ := entry
    rw [entriesToSettings, Setting.alter, set]
    split
    · rfl
    · rw [entriesToSettings, ih]

theorem Distinct.set (distinct : entries.Distinct) (name : String) {node : Node}
    (part : node.toSetting.Distinct) : (Entries.set name node entries).Distinct := by
  unfold Distinct
  rw [entriesToSettings_set]
  exact Setting.Distinct.alter distinct part name

theorem Distinct.setLeaf (distinct : entries.Distinct) (name : String) (part : value.Distinct) :
    (Entries.set name (.leaf value) entries).Distinct :=
  distinct.set name part

theorem Distinct.setTable (distinct : entries.Distinct) (name : String) (origin : Origin)
    {inner : Entries} (part : inner.Distinct) :
    (Entries.set name (.table origin inner) entries).Distinct :=
  distinct.set name part

theorem Distinct.setSeries (distinct : entries.Distinct) (name : String) (tables : List Entries) :
    (Entries.set name (.series tables) entries).Distinct :=
  distinct.set name (.flat trivial)

theorem Distinct.get? (distinct : entries.Distinct) (found : entries.get? name = some node) :
    node.toSetting.Distinct := by
  obtain ⟨-, all⟩ := Setting.distinct_table_iff.mp distinct
  clear distinct
  induction entries with
  | nil => cases found
  | cons entry rest ih =>
    obtain ⟨key, first⟩ := entry
    unfold Entries.get? at found
    split at found
    · cases found
      exact all (key, node.toSetting) List.mem_cons_self
    · exact ih found fun e member => all e (List.mem_cons_of_mem _ member)

/-- A change keeps keys distinct. -/
def Keeps (change : Entries → Option Entries) : Prop :=
  ∀ {entries entries' : Entries}, change entries = some entries' → entries.Distinct →
    entries'.Distinct

theorem Keeps.at? {change : Entries → Option Entries} (keeps : Keeps change) (path : List String) :
    Keeps (at? change path) := by
  intro entries entries' changed distinct
  induction path generalizing entries entries' with
  | nil => exact keeps changed distinct
  | cons name path ih =>
    unfold Entries.at? at changed
    split at changed
    · obtain ⟨inner, made, same⟩ := Option.bind_eq_some_iff.mp changed
      cases same
      exact distinct.setTable name .passage (ih made Setting.distinct_empty)
    · rename_i found
      obtain ⟨inner, made, same⟩ := Option.bind_eq_some_iff.mp changed
      cases same
      exact distinct.setTable name _ (ih made (distinct.get? found))
    · obtain ⟨inner, made, same⟩ := Option.bind_eq_some_iff.mp changed
      cases same
      exact distinct.setSeries name _
    · cases changed

theorem keeps_add? (distinct : value.Distinct) (path : List String) (name : String) :
    Keeps (add? path name value) := by
  intro entries entries' added before
  induction path generalizing entries entries' with
  | nil =>
    unfold add? addHere? at added
    split at added
    · cases added
      exact before.setLeaf name distinct
    · cases added
  | cons key path ih =>
    unfold add? at added
    split at added
    · obtain ⟨inner, made, same⟩ := Option.bind_eq_some_iff.mp added
      cases same
      exact before.setTable key .dotted (ih made Setting.distinct_empty)
    · cases added
    · rename_i found
      obtain ⟨inner, made, same⟩ := Option.bind_eq_some_iff.mp added
      cases same
      exact before.setTable key .dotted (ih made (before.get? found))
    · split at added
      · cases added
      · obtain ⟨inner, made, same⟩ := Option.bind_eq_some_iff.mp added
        cases same
        exact before.setSeries key _
    · cases added

theorem keeps_openTable? (path : List String) (name : String) : Keeps (openTable? path name) := by
  refine Keeps.at? (fun {entries entries'} opened distinct => ?_) path
  split at opened
  · cases opened
    exact distinct.setTable name .header Setting.distinct_empty
  · rename_i found
    cases opened
    exact distinct.setTable name .header (distinct.get? found)
  · cases opened

theorem keeps_openSeries? (path : List String) (name : String) : Keeps (openSeries? path name) := by
  refine Keeps.at? (fun {entries entries'} opened distinct => ?_) path
  split at opened
  · cases opened
    exact distinct.setSeries name _
  · cases opened
    exact distinct.setSeries name _
  · cases opened

end Entries

/-! ### Values of TOML

A word is no table, and a table in braces is built entry by entry. -/

open Setting

/-- Whatever is read is no table. -/
def ReadsFlat (read : Option Setting) : Prop := ∀ value, read = some value → value.Flat

theorem ReadsFlat.none : ReadsFlat none := fun value read => by cases read

theorem ReadsFlat.some {value : Setting} (flat : value.Flat) : ReadsFlat (some value) :=
  fun value read => by cases read; exact flat

theorem ReadsFlat.bind {α : Type} {x : Option α} {f : α → Option Setting}
    (each : ∀ a, ReadsFlat (f a)) : ReadsFlat (x >>= f) := by
  intro value read
  obtain ⟨a, -, made⟩ := Option.bind_eq_some_iff.mp read
  exact each a value made

theorem readsFlat_finite? (x : Binary64) : ReadsFlat (finite? x) := by
  cases x with
  | infinite _ => exact .none
  | _ => exact .some trivial

theorem readsFlat_bounded? (negative : Bool) (n : Nat) : ReadsFlat (bounded? negative n) := by
  unfold bounded?
  generalize (if negative then -(n : Int) else n) = i
  dsimp only
  by_cases fits : Int64.minValue.toInt ≤ i ∧ i ≤ Int64.maxValue.toInt
  · rw [if_pos fits]
    exact .some trivial
  · rw [if_neg fits]
    exact .none

theorem readsFlat_int? (cs : List Char) : ReadsFlat (int? cs) := by
  unfold int?
  split
  all_goals exact .bind fun digits => readsFlat_bounded? _ _

theorem readsFlat_float? (cs : List Char) : ReadsFlat (float? cs) := by
  unfold float?
  dsimp only
  split
  · exact .some trivial
  split
  · exact .some trivial
  -- All other ways lead to the number at the end, or to nothing.
  refine .bind fun whole => ?_
  repeat' first
    | exact readsFlat_finite? _
    | refine .bind fun _ => ?_
    | split

theorem readsFlat_moment? (cs : List Char) : ReadsFlat (moment? cs) := by
  unfold moment?
  split
  · exact .some trivial
  · split
    · exact .bind fun time => .bind fun offset => .some trivial
    · exact .none
  · refine .bind fun time => ?_
    dsimp only
    split
    · exact .some trivial
    · exact .none

theorem readsFlat_word? (cs : List Char) : ReadsFlat (word? cs) := by
  unfold word?
  split
  · exact .some trivial
  split
  · exact .some trivial
  intro value read
  rcases Option.or_eq_some_iff.mp read with int | ⟨-, other⟩
  · exact readsFlat_int? cs value int
  · rcases Option.or_eq_some_iff.mp other with float | ⟨-, moment⟩
    · exact readsFlat_float? cs value float
    · exact readsFlat_moment? cs value moment

/-- The induction is on the steps that are left, for values and tables in braces at once. -/
theorem distinct_read (fuel : Nat) :
    (∀ {depth cs value rest}, value? fuel depth cs = some (value, rest) → value.Distinct) ∧
    ∀ {depth entries cs entries' rest}, inline? fuel depth entries cs = some (entries', rest) →
      entries.Distinct → entries'.Distinct := by
  induction fuel with
  | zero =>
    constructor
    · intro depth cs value rest read
      unfold value? at read
      cases read
    · intro depth entries cs entries' rest read
      unfold inline? at read
      cases read
  | succ fuel ih =>
    obtain ⟨ihValue, ihInline⟩ := ih
    constructor
    · intro depth cs value rest read
      unfold value? at read
      split at read
      · obtain ⟨_, -, same⟩ := Option.map_eq_some_iff.mp read
        cases same
        exact .flat trivial
      · obtain ⟨_, -, same⟩ := Option.map_eq_some_iff.mp read
        cases same
        exact .flat trivial
      · obtain ⟨_, -, same⟩ := Option.bind_eq_some_iff.mp read
        cases same
        exact .flat trivial
      · obtain ⟨_, made, same⟩ := Option.bind_eq_some_iff.mp read
        cases same
        exact ihInline made distinct_empty
      · obtain ⟨_, made, same⟩ := Option.bind_eq_some_iff.mp read
        cases same
        exact .flat (readsFlat_word? _ _ made)
    · intro depth entries cs entries' rest read distinct
      unfold inline? at read
      split at read
      · cases read
        exact distinct
      obtain ⟨⟨path, name, rest⟩, -, read⟩ := Option.bind_eq_some_iff.mp read
      dsimp only at read
      split at read
      · obtain ⟨⟨value, rest⟩, made, read⟩ := Option.bind_eq_some_iff.mp read
        obtain ⟨added, add, read⟩ := Option.bind_eq_some_iff.mp read
        have grown := Entries.keeps_add? (ihValue made) path name add distinct
        split at read
        · cases read
          exact grown
        · exact ihInline read grown
        · cases read
      · cases read

/-! ### Documents of TOML -/

variable {d d' : Document} {cs rest : List Char}

theorem Document.distinct_of_header {series : Bool} (read : d.header? series cs = some (d', rest))
    (distinct : d.entries.Distinct) : d'.entries.Distinct := by
  unfold Document.header? at read
  obtain ⟨⟨path, name, rest⟩, -, read⟩ := Option.bind_eq_some_iff.mp read
  cases series with
  | false =>
    simp only [Bool.false_eq_true, if_false] at read
    split at read
    · cases read
    · obtain ⟨entries, opened, same⟩ := Option.bind_eq_some_iff.mp read
      cases same
      exact Entries.keeps_openTable? path name opened distinct
  | true =>
    simp only [if_true] at read
    split at read
    · cases read
    · obtain ⟨entries, opened, same⟩ := Option.bind_eq_some_iff.mp read
      cases same
      exact Entries.keeps_openSeries? path name opened distinct

theorem Document.distinct_of_entry (read : d.entry? cs = some (d', rest))
    (distinct : d.entries.Distinct) : d'.entries.Distinct := by
  unfold Document.entry? at read
  obtain ⟨⟨path, name, rest⟩, -, read⟩ := Option.bind_eq_some_iff.mp read
  dsimp only at read
  split at read
  · obtain ⟨⟨value, rest⟩, made, read⟩ := Option.bind_eq_some_iff.mp read
    obtain ⟨entries, added, same⟩ := Option.bind_eq_some_iff.mp read
    cases same
    have keeps : Entries.Keeps (Entries.add? path name value) :=
      Entries.keeps_add? ((distinct_read _).1 made) path name
    exact keeps.at? d.current added distinct
  · cases read

theorem Document.distinct_of_lines {fuel : Nat} (read : d.lines? fuel cs = some d')
    (distinct : d.entries.Distinct) : d'.entries.Distinct := by
  induction fuel generalizing d cs with
  | zero =>
    unfold Document.lines? at read
    cases read
  | succ fuel ih =>
    unfold Document.lines? at read
    split at read
    · cases read
      exact distinct
    · obtain ⟨⟨d, rest⟩, opened, read⟩ := Option.bind_eq_some_iff.mp read
      obtain ⟨rest, -, read⟩ := Option.bind_eq_some_iff.mp read
      exact ih read (distinct_of_header opened distinct)
    · obtain ⟨⟨d, rest⟩, opened, read⟩ := Option.bind_eq_some_iff.mp read
      obtain ⟨rest, -, read⟩ := Option.bind_eq_some_iff.mp read
      exact ih read (distinct_of_header opened distinct)
    · obtain ⟨⟨d, rest⟩, added, read⟩ := Option.bind_eq_some_iff.mp read
      obtain ⟨rest, -, read⟩ := Option.bind_eq_some_iff.mp read
      exact ih read (distinct_of_entry added distinct)

end Toml

/-! ### Files -/

namespace Settings

variable {files : String → Option String} {name : String} {layer : List (String × Setting)}

theorem FileFormat.distinct_read? {format : FileFormat} {text : String}
    (read : format.read? text = some layer) : (Setting.table layer).Distinct := by
  cases format with
  | toml =>
    obtain ⟨d, lines, same⟩ := Option.bind_eq_some_iff.mp read
    cases same
    exact Toml.Document.distinct_of_lines lines Setting.distinct_empty
  | json =>
    obtain ⟨json, -, sound⟩ := Option.bind_eq_some_iff.mp read
    have distinct := Setting.distinct_ofJson json
    split at sound
    · rename_i entries same
      rw [same] at distinct
      split at sound
      · cases sound
        exact distinct
      · cases sound
    · cases sound

/-- The layer of a file is a table without a key twice, and so are the tables in it. -/
theorem distinct_fileLayer? (read : fileLayer? files name = some layer) :
    (Setting.table layer).Distinct := by
  unfold fileLayer? at read
  split at read
  · exact FileFormat.distinct_read? read
  · cases read
    exact Setting.distinct_empty

end Settings

end DeviceSessions
