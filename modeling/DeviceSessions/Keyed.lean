/-!
# Values under keys

A finite map as a list of entries with distinct keys. A new key goes to the end; a key that is there
keeps its place. `get?` is the view: each operation is described by what it does to it.
-/

namespace DeviceSessions

/-- Values under distinct keys. -/
structure Keyed (κ ν : Type) where
  entries : List (κ × ν) := []
  distinct : (entries.map Prod.fst).Nodup := by simp
  deriving DecidableEq, Repr

namespace Keyed

variable {κ ν : Type}

/-- No values. -/
def empty : Keyed κ ν := {}

instance : Inhabited (Keyed κ ν) := ⟨empty⟩

/-- The values in the order of their entries. -/
def values (m : Keyed κ ν) : List ν := m.entries.map Prod.snd

/-- Changes every value, knowing its key. -/
def mapValues (m : Keyed κ ν) (f : κ → ν → ν) : Keyed κ ν :=
  ⟨m.entries.map fun e => (e.1, f e.1 e.2), by
    simpa [List.map_map, Function.comp_def] using m.distinct⟩

variable [DecidableEq κ]

/-- The first value under a key in a list of entries. -/
def find? (k : κ) : List (κ × ν) → Option ν
  | [] => none
  | (k', v) :: rest => if k' = k then some v else find? k rest

/-- The value under a key. -/
def get? (m : Keyed κ ν) (k : κ) : Option ν := find? k m.entries

/-- Whether there is a value under a key. -/
def contains (m : Keyed κ ν) (k : κ) : Bool := (m.get? k).isSome

/-- Changes the value under a key, if there is one. -/
def update (m : Keyed κ ν) (k : κ) (f : ν → ν) : Keyed κ ν :=
  m.mapValues fun k' v => if k' = k then f v else v

/-- Removes the value under a key. -/
def erase (m : Keyed κ ν) (k : κ) : Keyed κ ν :=
  ⟨m.entries.filter fun e => e.1 ≠ k,
    (List.Sublist.map Prod.fst List.filter_sublist).nodup m.distinct⟩

theorem find?_eq_none_iff {k : κ} {entries : List (κ × ν)} :
    find? k entries = none ↔ k ∉ entries.map Prod.fst := by
  induction entries with
  | nil => simp [find?]
  | cons e rest ih =>
    obtain ⟨k', v⟩ := e
    by_cases h : k' = k
    · simp [find?, h]
    · simp [find?, h, ih, Ne.symm h]

/-- Adds a value under a key that has none. -/
def insert (m : Keyed κ ν) (k : κ) (v : ν) (h : m.get? k = none) : Keyed κ ν :=
  ⟨m.entries ++ [(k, v)], by
    have := find?_eq_none_iff.1 h
    rw [List.map_append, List.nodup_append]
    refine ⟨m.distinct, by simp, ?_⟩
    intro a ha b hb
    simp only [List.map_cons, List.map_nil, List.mem_singleton] at hb
    rintro rfl
    exact this (hb ▸ ha)⟩

/-- Sets the value under a key. -/
def put (m : Keyed κ ν) (k : κ) (v : ν) : Keyed κ ν :=
  if h : m.get? k = none then m.insert k v h else m.update k fun _ => v

/-- The map with these entries; of entries with one key the last counts. -/
def ofList (entries : List (κ × ν)) : Keyed κ ν :=
  entries.foldl (fun m e => m.put e.1 e.2) empty

/-! ### What the operations do to the view -/

@[simp] theorem get?_empty (k : κ) : (empty : Keyed κ ν).get? k = none := rfl

theorem find?_map (f : κ → ν → ν) (k : κ) (entries : List (κ × ν)) :
    find? k (entries.map fun e => (e.1, f e.1 e.2)) = (find? k entries).map (f k) := by
  induction entries with
  | nil => rfl
  | cons e rest ih =>
    obtain ⟨k', v⟩ := e
    by_cases h : k' = k
    · simp [find?, h]
    · simpa [find?, h] using ih

theorem find?_filter_ne (k k' : κ) (entries : List (κ × ν)) :
    find? k' (entries.filter fun e => e.1 ≠ k) = if k' = k then none else find? k' entries := by
  induction entries with
  | nil => simp [find?]
  | cons e rest ih =>
    obtain ⟨k₀, v⟩ := e
    by_cases h : k₀ = k
    · by_cases h' : k' = k
      · simpa [h, h'] using ih
      · simpa [find?, h, h', Ne.symm h'] using ih
    · by_cases h' : k₀ = k'
      · simp [find?, h', show k' ≠ k from h' ▸ h]
      · simpa [find?, h, h'] using ih

theorem find?_append (k : κ) (xs ys : List (κ × ν)) :
    find? k (xs ++ ys) = (find? k xs).or (find? k ys) := by
  induction xs with
  | nil => rfl
  | cons e rest ih =>
    obtain ⟨k', v⟩ := e
    by_cases h : k' = k
    · simp [find?, h]
    · simpa [find?, h] using ih

@[simp] theorem get?_mapValues (m : Keyed κ ν) (f : κ → ν → ν) (k : κ) :
    (m.mapValues f).get? k = (m.get? k).map (f k) :=
  find?_map f k m.entries

theorem get?_update (m : Keyed κ ν) (k k' : κ) (f : ν → ν) :
    (m.update k f).get? k' = if k' = k then (m.get? k').map f else m.get? k' := by
  rw [update, get?_mapValues]
  split
  · rfl
  · simp

theorem get?_erase (m : Keyed κ ν) (k k' : κ) :
    (m.erase k).get? k' = if k' = k then none else m.get? k' :=
  find?_filter_ne k k' m.entries

theorem get?_insert (m : Keyed κ ν) (k k' : κ) (v : ν) (h : m.get? k = none) :
    (m.insert k v h).get? k' = if k' = k then some v else m.get? k' := by
  rw [get?, insert, find?_append]
  by_cases e : k' = k
  · subst e
    rw [show find? k' m.entries = none from h]
    simp [find?]
  · simp [find?, e, Ne.symm e, get?]

theorem get?_put (m : Keyed κ ν) (k k' : κ) (v : ν) :
    (m.put k v).get? k' = if k' = k then some v else m.get? k' := by
  rw [put]
  split
  · rw [get?_insert]
  · rename_i h
    rw [get?_update]
    split
    · rename_i e
      subst e
      cases hv : m.get? k' with
      | none => exact absurd hv h
      | some w => rfl
    · rfl

end Keyed

end DeviceSessions
