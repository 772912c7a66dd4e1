import DeviceSessions.Json.Basic

/-!
# Records in JSON

Reading records from JSON values. A record is an object, in which other fields than its own are
passed over but none of its own may come twice, or an array of its fields in order. A name from a
fixed list is a text, or an object with that one key and `null`.
-/

namespace DeviceSessions.Json

/-- A text. -/
def text? : Json → Option String
  | .string s => s.text?
  | _ => none

/-- A truth value. -/
def bool? : Json → Option Bool
  | .bool b => some b
  | _ => none

/-- An integer between two bounds. -/
def int? (low high : Int) : Json → Option Int
  | .number n =>
    match n.int? with
    | some i => if low ≤ i ∧ i ≤ high then some i else none
    | none => none
  | _ => none

/-- An integer of 64 bits with a sign. -/
def int64? (j : Json) : Option Int64 :=
  (int? (-9223372036854775808) 9223372036854775807 j).map Int64.ofInt

/-- A natural number of 64 bits. -/
def uint64? (j : Json) : Option UInt64 :=
  (int? 0 18446744073709551615 j).map fun n => UInt64.ofNat n.toNat

/-- A natural number of 32 bits. -/
def uint32? (j : Json) : Option UInt32 :=
  (int? 0 4294967295 j).map fun n => UInt32.ofNat n.toNat

/-- One of the named values. -/
def named? (values : List (String × α)) : Json → Option α
  | .string (.text s) => values.lookup s
  | .object [(.text s, .null)] => values.lookup s
  | _ => none

/-- The fields of a record that are present, with their values. -/
abbrev Record := List (String × Json)

/-- The entries with one of the names; `none` if a key stands for no characters or a name comes
twice. -/
def knownEntries? (names : List String) : List (Quoted × Json) → Option Record
  | [] => some []
  | (key, value) :: rest => do
    let key ← key.text?
    let record ← knownEntries? names rest
    if !names.contains key then some record
    else if (record.lookup key).isSome then none
    else some ((key, value) :: record)

/-- Reads a value as a record with these field names. -/
def record? (names : List String) : Json → Option Record
  | .object entries => knownEntries? names entries
  | .array items => if items.length ≤ names.length then some (names.zip items) else none
  | _ => none

namespace Record

/-- A field that has to be there. -/
def field? (r : Record) (name : String) (read : Json → Option α) : Option α :=
  (r.lookup name).bind read

/-- A field with a value for the case that it is not there. -/
def fieldOr? (r : Record) (name : String) (absent : α) (read : Json → Option α) : Option α :=
  match r.lookup name with
  | some value => read value
  | none => some absent

end Record

end DeviceSessions.Json
