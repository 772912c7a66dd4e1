import DeviceSessions.Keyed
import Mathlib.Data.List.Nodup

/-!
# Laws of keyed values

What the entries of a map say about its view, how the operations commute with a change of all values
and with a choice of keys, and how many entries a choice leaves.
-/

namespace DeviceSessions

/-- Where a function tells the members of a list apart, looking for a value of it finds the one that
has it. -/
theorem find?_eq_some_iff_of_nodup_map {α β : Type} [DecidableEq β] {l : List α} {f : α → β}
    (apart : (l.map f).Nodup) {b : β} {x : α} :
    l.find? (fun y => f y = b) = some x ↔ x ∈ l ∧ f x = b := by
  constructor
  · intro found
    have passed := List.find?_some found
    exact ⟨List.mem_of_find?_eq_some found, of_decide_eq_true passed⟩
  · rintro ⟨member, rfl⟩
    cases found : l.find? fun y => f y = f x with
    | none => exact absurd (decide_eq_true rfl) (List.find?_eq_none.mp found x member)
    | some y =>
      have passed := List.find?_some found
      have same : f y = f x := of_decide_eq_true passed
      rw [List.inj_on_of_nodup_map apart (List.mem_of_find?_eq_some found) member same]

namespace Keyed

variable {κ ν : Type}

theorem ext {m n : Keyed κ ν} (same : m.entries = n.entries) : m = n := by
  cases m
  cases n
  cases same
  rfl

theorem mapValues_mapValues (m : Keyed κ ν) (f g : κ → ν → ν) :
    (m.mapValues f).mapValues g = m.mapValues fun k v => g k (f k v) := by
  apply ext
  simp [mapValues]

/-- Changes that agree on the entries of a map change it alike. -/
theorem mapValues_congr {m : Keyed κ ν} {f g : κ → ν → ν}
    (same : ∀ k v, (k, v) ∈ m.entries → f k v = g k v) : m.mapValues f = m.mapValues g := by
  apply ext
  apply List.map_congr_left
  rintro ⟨k, v⟩ member
  exact congrArg (Prod.mk k) (same k v member)

theorem mapValues_eq_self {m : Keyed κ ν} {f : κ → ν → ν}
    (same : ∀ k v, (k, v) ∈ m.entries → f k v = v) : m.mapValues f = m := by
  apply ext
  refine (List.map_congr_left ?_).trans m.entries.map_id
  rintro ⟨k, v⟩ member
  exact congrArg (Prod.mk k) (same k v member)

/-- A choice that a change of the values keeps leaves as many entries after the change. -/
theorem length_filter_mapValues (m : Keyed κ ν) (f : κ → ν → ν) (p : κ × ν → Bool) :
    ((m.mapValues f).entries.filter p).length =
      (m.entries.filter fun e => p (e.1, f e.1 e.2)).length := by
  rw [mapValues, List.filter_map, List.length_map]
  rfl

theorem length_filter_values (m : Keyed κ ν) (p : ν → Bool) :
    (m.values.filter p).length = (m.entries.filter fun e => p e.2).length := by
  rw [values, List.filter_map, List.length_map]
  rfl

variable [DecidableEq κ]

theorem find?_eq_some_iff {k : κ} {v : ν} {entries : List (κ × ν)}
    (distinct : (entries.map Prod.fst).Nodup) :
    find? k entries = some v ↔ (k, v) ∈ entries := by
  induction entries with
  | nil => simp [find?]
  | cons e rest ih =>
    obtain ⟨k', v'⟩ := e
    rw [List.map_cons, List.nodup_cons] at distinct
    by_cases same : k' = k
    · subst same
      have absent : (k', v) ∉ rest := fun member =>
        distinct.1 (List.mem_map.mpr ⟨_, member, rfl⟩)
      simp [find?, absent, eq_comm]
    · simp [find?, same, Ne.symm same, ih distinct.2]

theorem get?_eq_some_iff {m : Keyed κ ν} {k : κ} {v : ν} :
    m.get? k = some v ↔ (k, v) ∈ m.entries :=
  find?_eq_some_iff m.distinct

theorem update_of_fixed {m : Keyed κ ν} {k : κ} {f : ν → ν}
    (fixed : ∀ v, m.get? k = some v → f v = v) : m.update k f = m := by
  apply mapValues_eq_self
  intro k' v member
  by_cases here : k' = k
  · subst here
    exact (if_pos rfl).trans (fixed v (get?_eq_some_iff.mpr member))
  · exact if_neg here

/-- There is nothing to change under a key without a value. -/
theorem update_eq_self {m : Keyed κ ν} {k : κ} (absent : m.get? k = none) (f : ν → ν) :
    m.update k f = m :=
  update_of_fixed fun v present => by
    rw [absent] at present
    cases present

theorem mem_values_iff {m : Keyed κ ν} {v : ν} :
    v ∈ m.values ↔ ∃ k, m.get? k = some v := by
  simp [values, get?_eq_some_iff]

/-- A predicate that holds under exactly one key holds of exactly one value. -/
theorem length_filter_values_eq_one {m : Keyed κ ν} {p : ν → Bool}
    {k : κ} {v : ν} (present : m.get? k = some v) (holds : p v = true)
    (only : ∀ k' v', m.get? k' = some v' → p v' = true → k' = k) :
    (m.values.filter p).length = 1 := by
  have single : m.entries.filter (fun e => p e.2) = [(k, v)] := by
    have nodup : (m.entries.filter fun e => p e.2).Nodup :=
      (List.Nodup.of_map _ m.distinct).filter _
    have member : (k, v) ∈ m.entries.filter fun e => p e.2 :=
      List.mem_filter.mpr ⟨get?_eq_some_iff.mp present, holds⟩
    have equal : ∀ e ∈ m.entries.filter fun e => p e.2, e = (k, v) := by
      rintro ⟨k', v'⟩ found
      obtain ⟨found, good⟩ := List.mem_filter.mp found
      have same := only k' v' (get?_eq_some_iff.mpr found) good
      subst same
      have value := present.symm.trans (get?_eq_some_iff.mpr found)
      rw [Option.some.inj value]
    have replicated := List.eq_replicate_of_mem equal
    rw [replicated] at nodup member ⊢
    cases size : (m.entries.filter fun e => p e.2).length with
    | zero => simp [size] at member
    | succ n =>
      cases n with
      | zero => rfl
      | succ n => simp [size, List.replicate_succ] at nodup
  rw [values, List.filter_map, List.length_map]
  exact congrArg List.length single

/-- The entries under one key are what the view says of it. -/
theorem filter_key (m : Keyed κ ν) (k : κ) :
    (m.entries.filter fun e => e.1 = k) = ((m.get? k).map (Prod.mk k)).toList := by
  obtain ⟨entries, distinct⟩ := m
  change _ = ((find? k entries).map (Prod.mk k)).toList
  induction entries with
  | nil => rfl
  | cons e rest ih =>
    obtain ⟨k', v⟩ := e
    rw [List.map_cons, List.nodup_cons] at distinct
    by_cases same : k' = k
    · subst same
      have absent : ∀ e ∈ rest, ¬decide (e.1 = k') = true := by
        intro e member here
        exact distinct.1 (List.mem_map.mpr ⟨e, member, of_decide_eq_true here⟩)
      simp [find?, List.filter_eq_nil_iff.mpr absent]
    · simp [find?, same, ih distinct.2]

/-! ### Changing all values -/

theorem mapValues_insert (m : Keyed κ ν) (f : κ → ν → ν) {k : κ} {v : ν} (absent : m.get? k = none)
    (absent' : (m.mapValues f).get? k = none) :
    (m.insert k v absent).mapValues f = (m.mapValues f).insert k (f k v) absent' := by
  apply ext
  simp [mapValues, insert]

theorem mapValues_put (m : Keyed κ ν) (f : κ → ν → ν) (k : κ) (v : ν) :
    (m.put k v).mapValues f = (m.mapValues f).put k (f k v) := by
  by_cases absent : m.get? k = none
  · have absent' : (m.mapValues f).get? k = none := by simp [absent]
    rw [put, put, dif_pos absent, dif_pos absent', mapValues_insert]
  · have present : (m.mapValues f).get? k ≠ none := by simpa using absent
    rw [put, put, dif_neg absent, dif_neg present, update, update, mapValues_mapValues,
      mapValues_mapValues]
    congr 1
    funext k' v'
    by_cases here : k' = k <;> simp [here]

theorem mapValues_erase (m : Keyed κ ν) (f : κ → ν → ν) (k : κ) :
    (m.erase k).mapValues f = (m.mapValues f).erase k := by
  apply ext
  simp [mapValues, erase, List.filter_map, Function.comp_def]

/-- Putting the changed value of a key is changing it in place. -/
theorem put_eq_mapValues {m : Keyed κ ν} {k : κ} {v : ν} (present : m.get? k = some v) (f : ν → ν) :
    m.put k (f v) = m.mapValues fun k' v' => if k' = k then f v' else v' := by
  rw [put, dif_neg (by simp [present]), update]
  apply mapValues_congr
  intro k' v' member
  by_cases here : k' = k
  · subst here
    have same := present.symm.trans (get?_eq_some_iff.mpr member)
    simp [Option.some.inj same]
  · simp [here]

/-! ### Some of the keys -/

/-- The values under the keys of a choice. -/
def restrict (m : Keyed κ ν) (p : κ → Bool) : Keyed κ ν :=
  ⟨m.entries.filter fun e => p e.1,
    (List.Sublist.map Prod.fst List.filter_sublist).nodup m.distinct⟩

variable (m : Keyed κ ν) {p : κ → Bool} {k : κ}

omit [DecidableEq κ] in
theorem mem_restrict {e : κ × ν} :
    e ∈ (m.restrict p).entries ↔ e ∈ m.entries ∧ p e.1 = true := by
  exact List.mem_filter

theorem get?_restrict (p : κ → Bool) (k : κ) :
    (m.restrict p).get? k = if p k then m.get? k else none := by
  apply Option.ext
  intro v
  rw [get?_eq_some_iff, mem_restrict]
  by_cases chosen : p k = true
  · simp [chosen, get?_eq_some_iff]
  · simp [chosen]

omit [DecidableEq κ] in
theorem restrict_mapValues (f : κ → ν → ν) :
    (m.mapValues f).restrict p = (m.restrict p).mapValues f := by
  apply ext
  simp [mapValues, restrict, List.filter_map, Function.comp_def]

theorem restrict_erase (k : κ) : (m.erase k).restrict p = (m.restrict p).erase k := by
  apply ext
  simp [erase, restrict, List.filter_filter, Bool.and_comm]

theorem restrict_erase_other (other : p k = false) : (m.erase k).restrict p = m.restrict p := by
  apply ext
  simp only [erase, restrict, List.filter_filter]
  apply List.filter_congr
  rintro ⟨k', v⟩ -
  by_cases here : k' = k <;> simp [here, other]

theorem restrict_put (v : ν) (chosen : p k = true) :
    (m.put k v).restrict p = (m.restrict p).put k v := by
  have same : (m.restrict p).get? k = m.get? k := by rw [get?_restrict, if_pos chosen]
  by_cases absent : m.get? k = none
  · have absent' := same.trans absent
    rw [put, put, dif_pos absent, dif_pos absent']
    apply ext
    simp [insert, restrict, chosen]
  · have present : (m.restrict p).get? k ≠ none := by rwa [same]
    rw [put, put, dif_neg absent, dif_neg present, update, update, restrict_mapValues]

theorem restrict_put_other (v : ν) (other : p k = false) : (m.put k v).restrict p = m.restrict p := by
  by_cases absent : m.get? k = none
  · rw [put, dif_pos absent]
    apply ext
    simp [insert, restrict, other]
  · rw [put, dif_neg absent, update, restrict_mapValues]
    apply mapValues_eq_self
    intro k' v' member
    have chosen := ((mem_restrict m).mp member).2
    have apart : k' ≠ k := by
      rintro rfl
      rw [other] at chosen
      cases chosen
    exact if_neg apart

omit [DecidableEq κ] in
/-- A choice of values that is a choice of their keys. -/
theorem filter_values {q : ν → Bool} (alike : ∀ k v, (k, v) ∈ m.entries → q v = p k) :
    m.values.filter q = (m.restrict p).values := by
  rw [values, values, restrict, List.filter_map]
  refine congrArg _ (List.filter_congr ?_)
  rintro ⟨k, v⟩ member
  exact alike k v member

/-! ### Keys in two parts -/

/-- Values that know the second part of their keys differ in it where the first is one. -/
theorem nodup_map_values {α β : Type} (m : Keyed (α × β) ν) {a : α} {p : ν → Bool} {f : ν → β}
    (first : ∀ e ∈ m.entries, p e.2 = true → e.1.1 = a) (second : ∀ e ∈ m.entries, f e.2 = e.1.2) :
    ((m.values.filter p).map f).Nodup := by
  have keys : ((m.values.filter p).map f).map (Prod.mk a) =
      (m.entries.filter fun e => p e.2).map Prod.fst := by
    rw [values, List.filter_map, List.map_map, List.map_map]
    apply List.map_congr_left
    intro e member
    obtain ⟨present, chosen⟩ := List.mem_filter.mp member
    exact Prod.ext (first e present chosen).symm (second e present)
  apply List.Nodup.of_map (Prod.mk a)
  rw [keys]
  exact (List.Sublist.map Prod.fst List.filter_sublist).nodup m.distinct

end Keyed

end DeviceSessions
