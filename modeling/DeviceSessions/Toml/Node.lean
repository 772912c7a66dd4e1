import DeviceSessions.Settings.Value

/-!
# Tables of a TOML document

The tree that the lines of a document build. A table remembers how it came about, because that
decides who may still add to it: each table has at most one header, and dotted keys do not add to
tables that have one.
-/

namespace DeviceSessions.Toml

/-- How a table came about: named on the way to another, by a header of its own, or by a dotted
key. -/
inductive Origin where
  | passage
  | header
  | dotted
  deriving DecidableEq, Repr

/-- A part of a document: a finished value, a table, or a series of tables of one header. -/
inductive Node where
  | leaf (value : Setting)
  | table (origin : Origin) (entries : List (String × Node))
  | series (tables : List (List (String × Node)))
  deriving Repr

/-- The entries of a table. -/
abbrev Entries := List (String × Node)

namespace Entries

/-- The part under a key. -/
def get? (name : String) : Entries → Option Node
  | [] => none
  | (key, node) :: rest => if key = name then some node else get? name rest

/-- Sets the part under a key. -/
def set (name : String) (node : Node) : Entries → Entries
  | [] => [(name, node)]
  | (key, old) :: rest =>
    if key = name then (key, node) :: rest else (key, old) :: set name node rest

/-- Changes the table at the end of the path of a header. Tables that are not there yet are made on
the way; of a series the last table is meant. -/
def at? (change : Entries → Option Entries) : List String → Entries → Option Entries
  | [], entries => change entries
  | name :: path, entries =>
    match get? name entries with
    | none => do
      return set name (.table .passage (← at? change path [])) entries
    | some (.table origin inner) => do
      return set name (.table origin (← at? change path inner)) entries
    | some (.series tables) => do
      let inner ← at? change path (tables.getLast?.getD [])
      return set name (.series (tables.dropLast ++ [inner])) entries
    | some (.leaf _) => none

/-- Adds a value under a name, which must not be there. -/
def addHere? (name : String) (value : Setting) (entries : Entries) : Option Entries :=
  match get? name entries with
  | none => some (set name (.leaf value) entries)
  | some _ => none

/-- Adds a value under a dotted key, which must not be there. Tables named on the way to another are
from then on those of a dotted key. A key may lead through the last table of a series, but does not
add to that table itself. -/
def add? (path : List String) (name : String) (value : Setting) (entries : Entries) :
    Option Entries :=
  match path with
  | [] => addHere? name value entries
  | key :: path =>
    match get? key entries with
    | none => do
      return set key (.table .dotted (← add? path name value [])) entries
    | some (.table .header _) => none
    | some (.table _ inner) => do
      return set key (.table .dotted (← add? path name value inner)) entries
    | some (.series tables) =>
      if path.isEmpty then none
      else do
        let inner ← add? path name value (tables.getLast?.getD [])
        return set key (.series (tables.dropLast ++ [inner])) entries
    | some (.leaf _) => none

/-- Opens the table of a header. -/
def openTable? (path : List String) (name : String) : Entries → Option Entries :=
  at? (fun entries =>
    match get? name entries with
    | none => some (set name (.table .header []) entries)
    | some (.table .passage inner) => some (set name (.table .header inner) entries)
    | some _ => none) path

/-- Opens one more table of a series. -/
def openSeries? (path : List String) (name : String) : Entries → Option Entries :=
  at? (fun entries =>
    match get? name entries with
    | none => some (set name (.series [[]]) entries)
    | some (.series tables) => some (set name (.series (tables ++ [[]])) entries)
    | some _ => none) path

end Entries

mutual

/-- The value of a part. -/
def Node.toSetting : Node → Setting
  | .leaf value => value
  | .table _ entries => .table (entriesToSettings entries)
  | .series tables => .list (seriesToSettings tables)

/-- The values of the entries of a table. -/
def entriesToSettings : List (String × Node) → List (String × Setting)
  | [] => []
  | (name, node) :: rest => (name, node.toSetting) :: entriesToSettings rest

/-- The values of the tables of a series. -/
def seriesToSettings : List (List (String × Node)) → List Setting
  | [] => []
  | entries :: rest => .table (entriesToSettings entries) :: seriesToSettings rest

end

end DeviceSessions.Toml
