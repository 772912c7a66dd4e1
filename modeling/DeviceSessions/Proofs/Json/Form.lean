import DeviceSessions.Proofs.Time.Rfc3339
import DeviceSessions.Proofs.Token.RoundTrip

/-!
# JSON forms

What it means for the values of a type to be read back from their texts, with or without a field
that is left out, and how that follows from laws about JSON values. A record is read back field by
field.
-/

namespace DeviceSessions

namespace Json

/-! ### Forms -/

/-- A JSON form: how values are written, and how they are read. -/
structure Form (α : Type) where
  toJson : α → Json
  ofJson? : Json → Option α

/-- An object with one more field, at a place among the others. -/
def withField (name : String) (value : Json) (place : Nat) : Json → Json
  | .object entries => .object (entries.take place ++ (.text name, value) :: entries.drop place)
  | j => j

namespace Form

variable {α : Type}

/-- The text of a value. -/
def write (f : Form α) (a : α) : String := (f.toJson a).write

/-- Reads a text. -/
def read? (f : Form α) (text : String) : Option α := (ofString? text).bind f.ofJson?

/-- The written form of what a text is read as. -/
def normal? (f : Form α) (text : String) : Option String := (f.read? text).map f.write

/-- The form with the field `name`, which is otherwise left out, put in at a place. -/
def completed (f : Form α) (name : String) (field : α → String) (place : Nat) : Form α :=
  { f with toJson := fun a => withField name (ofText (field a)) place (f.toJson a) }

/-- Texts are read as values that fit, each of which is read back from its own text. So a text that
is read at all can be replaced by its written form: that is read as the same value, and stays. -/
structure RoundTrips (f : Form α) (Fits : α → Prop) : Prop where
  readBack : ∀ a, Fits a → f.read? (f.write a) = some a
  fitting : ∀ {text a}, f.read? text = some a → Fits a
  settles : ∀ {text written}, f.normal? text = some written →
    f.read? written = f.read? text ∧ f.normal? written = some written

/-- Every value round-trips. -/
def RoundTripsAll (f : Form α) : Prop := f.RoundTrips fun _ => True

/-- The written form does not depend on the field `name`, without which nothing can be read. With
that field put in anywhere the form round-trips. -/
structure Withholds (f : Form α) (name : String) (field : α → String) (replace : String → α → α)
    (Fits : α → Prop) : Prop where
  independent : ∀ s a, f.write (replace s a) = f.write a
  unread : ∀ a, f.read? (f.write a) = none
  completes : ∀ place, (f.completed name field place).RoundTrips Fits

/-- A form whose values survive on the level of JSON values. -/
structure Lawful (f : Form α) (Fits : α → Prop) : Prop where
  faithful : ∀ a, Faithful (f.toJson a)
  readBack : ∀ a, Fits a → f.ofJson? (f.toJson a) = some a
  fitting : ∀ {j a}, f.ofJson? j = some a → Fits a

theorem read?_write (f : Form α) {a : α} (faithful : Faithful (f.toJson a)) :
    f.read? (f.write a) = f.ofJson? (f.toJson a) := by
  unfold read? write ofString? Symbol.ofText Json.write
  rw [String.toList_ofList, Json.read?_write faithful, Option.bind_some]

variable {f : Form α} {Fits : α → Prop}

theorem Lawful.roundTrips (lawful : f.Lawful Fits) : f.RoundTrips Fits := by
  have back : ∀ a, Fits a → f.read? (f.write a) = some a := fun a fits => by
    rw [read?_write f (lawful.faithful a), lawful.readBack a fits]
  have fitting : ∀ {text a}, f.read? text = some a → Fits a := fun read => by
    obtain ⟨j, -, ofJson⟩ := Option.bind_eq_some_iff.mp read
    exact lawful.fitting ofJson
  refine ⟨back, fitting, fun {text written} normal => ?_⟩
  obtain ⟨a, read, rfl⟩ := Option.map_eq_some_iff.mp normal
  have again := back a (fitting read)
  refine ⟨again.trans read.symm, ?_⟩
  rw [normal?, again, Option.map_some]

theorem RoundTripsAll.of_readBack (faithful : ∀ a, Faithful (f.toJson a))
    (readBack : ∀ a, f.ofJson? (f.toJson a) = some a) : f.RoundTripsAll :=
  Lawful.roundTrips ⟨faithful, fun a _ => readBack a, fun _ => trivial⟩

end Form

/-! ### Values of fields -/

theorem bool?_bool (b : Bool) : bool? (.bool b) = some b := rfl

theorem text?_ofText (s : String) : text? (ofText s) = some s := rfl

theorem instant?_ofInstant (t : Instant) : instant? (ofInstant t) = some t :=
  onward (text?_ofText _) (Rfc3339.read?_write t)

theorem uint64?_ofNat (n : UInt64) : uint64? (ofNat n.toNat) = some n := by
  have small := n.toNat_lt
  rw [uint64?, ofNat, int?_ofInt (by omega) (by omega), Option.map_some, Int.toNat_natCast,
    UInt64.ofNat_toNat]

theorem uint32?_ofNat (n : UInt32) : uint32? (ofNat n.toNat) = some n := by
  have small := n.toNat_lt
  rw [uint32?, ofNat, int?_ofInt (by omega) (by omega), Option.map_some, Int.toNat_natCast,
    UInt32.ofNat_toNat]

@[simp] theorem faithful_ofText (s : String) : Faithful (ofText s) := by
  simp [ofText, Faithful, Quoted.text?]

@[simp] theorem faithful_ofInt (n : Int) : Faithful (ofInt n) := by
  simp [ofInt, Faithful, simple_ofInt]

@[simp] theorem faithful_ofNat (n : Nat) : Faithful (ofNat n) := faithful_ofInt n

@[simp] theorem faithful_ofUuid (u : Uuid) : Faithful (ofUuid u) := faithful_ofText _

@[simp] theorem faithful_ofInstant (t : Instant) : Faithful (ofInstant t) := faithful_ofText _

@[simp] theorem faithful_bool (b : Bool) : Faithful (.bool b) := by simp [Faithful]

theorem faithfulEntries_iff {entries : List (Quoted × Json)} :
    FaithfulEntries entries ↔ ∀ e ∈ entries, e.1.text?.isSome ∧ Faithful e.2 := by
  induction entries with
  | nil => simp [FaithfulEntries]
  | cons entry entries ih => rw [FaithfulEntries, ih, List.forall_mem_cons, and_assoc]

theorem faithful_ofFields {fields : List (String × Json)} (values : ∀ f ∈ fields, Faithful f.2) :
    Faithful (ofFields fields) := by
  rw [ofFields, Faithful, faithfulEntries_iff]
  intro entry member
  obtain ⟨field, inside, rfl⟩ := List.mem_map.mp member
  exact ⟨rfl, values field inside⟩

theorem faithful_withField {name s : String} {place : Nat} {j : Json} (faithful : Faithful j) :
    Faithful (withField name (ofText s) place j) := by
  cases j with
  | object entries =>
    rw [Faithful, faithfulEntries_iff] at faithful
    rw [withField, Faithful, faithfulEntries_iff]
    intro entry member
    rcases List.mem_append.mp member with front | rest
    · exact faithful entry (List.mem_of_mem_take front)
    · rcases List.mem_cons.mp rest with rfl | back
      · exact ⟨rfl, faithful_ofText s⟩
      · exact faithful entry (List.mem_of_mem_drop back)
  | _ => exact faithful

/-! ### Records -/

theorem lookup_eq_none {record : Record} {name : String} (absent : name ∉ record.map Prod.fst) :
    record.lookup name = none := by
  rw [List.lookup_eq_none_iff]
  intro entry member
  have other : name ≠ entry.1 := by
    rintro rfl
    exact absent (List.mem_map_of_mem member)
  simpa using other

/-- An object with some of the names as keys, each once, is read as the record of its fields. -/
theorem record?_ofFields {names keys : List String} {fields : List (String × Json)}
    (own : (fields.map Prod.fst).Perm keys) (distinct : keys.Nodup) (known : keys ⊆ names) :
    record? names (ofFields fields) = some fields := by
  have ownKnown : ∀ f ∈ fields, f.1 ∈ names := fun f member =>
    known (own.mem_iff.mp (List.mem_map_of_mem member))
  have ownDistinct := own.nodup_iff.mpr distinct
  unfold record? ofFields
  dsimp only
  clear own
  induction fields with
  | nil => rfl
  | cons field fields ih =>
    rw [List.map_cons, List.nodup_cons] at ownDistinct
    have rest := ih (fun f member => ownKnown f (List.mem_cons_of_mem _ member)) ownDistinct.2
    have named := ownKnown field List.mem_cons_self
    simp only [List.map_cons, knownEntries?, Quoted.text?]
    rw [rest]
    simp [named, lookup_eq_none ownDistinct.1]

/-- An object with all of the names as keys, in some order. -/
theorem record?_all {names : List String} {fields : List (String × Json)}
    (own : (fields.map Prod.fst).Perm names) (distinct : names.Nodup) :
    record? names (ofFields fields) = some fields :=
  record?_ofFields own distinct (List.Subset.refl names)

section Place

variable {name : String} {value : Json} {place : Nat} {fields : List (String × Json)}

theorem withField_ofFields : withField name value place (ofFields fields) =
    ofFields (fields.take place ++ (name, value) :: fields.drop place) := by
  simp [withField, ofFields, List.map_take, List.map_drop]

theorem insert_perm : (fields.take place ++ (name, value) :: fields.drop place).Perm
    ((name, value) :: fields) := by
  have moved : (fields.take place ++ (name, value) :: fields.drop place).Perm
      ((name, value) :: (fields.take place ++ fields.drop place)) := List.perm_middle
  rwa [List.take_append_drop] at moved

/-- A new field is found, and so are the others, wherever it was put in. -/
theorem lookup_insert (absent : name ∉ fields.map Prod.fst) (key : String) :
    (fields.take place ++ (name, value) :: fields.drop place).lookup key =
      List.lookup key ((name, value) :: fields) := by
  have front : (fields.take place).lookup name = none :=
    lookup_eq_none fun inside => absent (by
      rw [List.map_take] at inside
      exact List.mem_of_mem_take inside)
  rw [List.lookup_append, List.lookup_cons, List.lookup_cons]
  by_cases same : key = name
  · subst same
    simp [front]
  · have other : (key == name) = false := by simpa using same
    rw [other]
    dsimp only
    rw [← List.lookup_append, List.take_append_drop]

end Place

section Fields

variable {α : Type} {record : Record} {name : String} {value : Json} {read : Json → Option α}
  {a : α}

theorem field?_of_lookup (found : record.lookup name = some value) (reads : read value = some a) :
    record.field? name read = some a := by
  rw [Record.field?, found, Option.bind_some, reads]

theorem fieldOr?_of_lookup (absent : α) (found : record.lookup name = some value)
    (reads : read value = some a) : record.fieldOr? name absent read = some a := by
  rw [Record.fieldOr?, found]
  exact reads

end Fields

end Json

end DeviceSessions
