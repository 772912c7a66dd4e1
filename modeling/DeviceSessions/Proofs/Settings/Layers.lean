import DeviceSessions.Settings.Value

/-!
# Laws of layers

A layer changes what its paths lead to and leaves alone what other paths lead to. Paths of names are
apart when they part at a name before either ends.
-/

namespace DeviceSessions.Setting

/-! ### Entries -/

theorem lookup_cons_of_ne {key name : String} (other : name ≠ key) (value : Setting)
    (rest : List (String × Setting)) : List.lookup name ((key, value) :: rest) = rest.lookup name := by
  rw [List.lookup_cons, beq_false_of_ne other]

/-- Changing one entry leaves the others as they are. -/
theorem lookup_alter (name : String) (f : Setting → Setting) (entries : List (String × Setting))
    (other : String) :
    (alter name f entries).lookup other =
      if other = name then some (f ((entries.lookup name).getD nil)) else entries.lookup other := by
  induction entries with
  | nil =>
    by_cases same : other = name
    · simp [alter, same]
    · rw [alter, lookup_cons_of_ne same, if_neg same]
  | cons entry rest ih =>
    obtain ⟨key, value⟩ := entry
    unfold alter
    by_cases here : key = name
    · subst here
      rw [if_pos rfl]
      by_cases same : other = key
      · simp [same]
      · rw [lookup_cons_of_ne same, lookup_cons_of_ne same, if_neg same]
    · rw [if_neg here, lookup_cons_of_ne (Ne.symm here)]
      by_cases same : other = key
      · subst same
        simp [here]
      · rw [lookup_cons_of_ne same, lookup_cons_of_ne same, ih]

/-! ### Paths -/

/-- What is at the end of a path of names through tables. -/
def at? : List Step → Setting → Option Setting
  | [], s => some s
  | .key name :: rest, .table entries => (entries.lookup name).bind (at? rest)
  | _, _ => none

/-- Paths that part at a name before either ends. -/
inductive Apart : List Step → List Step → Prop
  | here {name other : String} {p q : List Step} (different : name ≠ other) :
      Apart (.key name :: p) (.key other :: q)
  | there {name : String} {p q : List Step} (apart : Apart p q) :
      Apart (.key name :: p) (.key name :: q)

theorem Apart.ne {p q : List Step} (apart : Apart p q) : p ≠ q := by
  induction apart with
  | here different => simp [different]
  | there _ ih => simp [ih]

/-- The entries of a table; other values have none. -/
def entries : Setting → List (String × Setting)
  | table entries => entries
  | _ => []

theorem modifyAt_key (f : Setting → Setting) (name : String) (rest : List Step) (s : Setting) :
    modifyAt f (.key name :: rest) s = table (alter name (modifyAt f rest) s.entries) := by
  cases s <;> rfl

theorem at?_key (name : String) (rest : List Step) (s : Setting) :
    at? (.key name :: rest) s = (s.entries.lookup name).bind (at? rest) := by
  cases s <;> rfl

theorem getD_at?_nil (p : List Step) : (at? p nil).getD nil = nil := by
  cases p with
  | nil => rfl
  | cons step rest => cases step <;> rfl

theorem at?_modifyAt (f : Setting → Setting) {p : List Step} (names : ∀ step ∈ p, ∃ n, step = .key n)
    (s : Setting) : at? p (modifyAt f p s) = some (f ((at? p s).getD nil)) := by
  induction p generalizing s with
  | nil => rfl
  | cons step rest ih =>
    obtain ⟨name, rfl⟩ := names step List.mem_cons_self
    have inner := ih (fun step member => names step (List.mem_cons_of_mem _ member))
      ((s.entries.lookup name).getD nil)
    rw [modifyAt_key, at?_key, at?_key, entries, lookup_alter, if_pos rfl, Option.bind_some, inner]
    cases s.entries.lookup name with
    | none => rw [Option.getD_none, getD_at?_nil, Option.bind_none, Option.getD_none]
    | some value => rfl

theorem Apart.at?_modifyAt {p q : List Step} (apart : Apart p q) (f : Setting → Setting)
    (s : Setting) : at? q (modifyAt f p s) = at? q s := by
  induction apart generalizing s with
  | here different =>
    rw [modifyAt_key, at?_key, at?_key, entries, lookup_alter, if_neg (Ne.symm different)]
  | @there name p q apart ih =>
    rw [modifyAt_key, at?_key, at?_key, entries, lookup_alter, if_pos rfl, Option.bind_some, ih]
    cases s.entries.lookup name with
    | none =>
      -- There is nothing at all to find in what stands for a missing entry.
      cases apart <;> rfl
    | some value => rfl

/-! ### Layers -/

/-- The entries of a layer stand for paths that are apart from a path. -/
def Clear (layer : List (String × Setting)) (q : List Step) : Prop :=
  ∀ entry ∈ layer, Apart (pathOf entry.1) q

theorem Clear.at?_addLayer {layer : List (String × Setting)} {q : List Step} (clear : Clear layer q)
    (lower : Setting) : at? q (addLayer lower layer) = at? q lower := by
  unfold addLayer
  induction layer generalizing lower with
  | nil => rfl
  | cons entry rest ih =>
    rw [List.foldl_cons, ih fun e member => clear e (List.mem_cons_of_mem _ member)]
    exact (clear entry List.mem_cons_self).at?_modifyAt _ lower

/-- A value that is no table takes the place of what was there. -/
def Flat : Setting → Prop
  | table _ => False
  | _ => True

theorem Flat.overlay {value : Setting} (flat : value.Flat) (lower : Setting) :
    overlay value lower = value := by
  cases value with
  | table entries => cases flat
  | _ => unfold Setting.overlay; rfl

/-- The last entry of a layer for a path decides what is at its end. -/
theorem at?_addLayer (front : List (String × Setting)) {back : List (String × Setting)}
    {key : String} {value : Setting} (names : ∀ step ∈ pathOf key, ∃ n, step = .key n) (flat : value.Flat)
    (clear : Clear back (pathOf key)) (lower : Setting) :
    at? (pathOf key) (addLayer lower (front ++ (key, value) :: back)) = some value := by
  have split : addLayer lower (front ++ (key, value) :: back) =
      addLayer (modifyAt (Setting.overlay value) (pathOf key) (addLayer lower front)) back := by
    unfold addLayer
    rw [List.foldl_append, List.foldl_cons]
  rw [split, clear.at?_addLayer, at?_modifyAt _ names, flat.overlay]

/-! ### Tables over tables -/

section Tables

variable {layer : List (String × Setting)}

theorem overlay_table (entries : List (String × Setting)) (lower : Setting) :
    overlay (table entries) lower = entriesOver entries (table lower.entries) := by
  unfold overlay
  cases lower <;> rfl

theorem lookup_entriesOver (keys : (layer.map Prod.fst).Nodup) (lower : Setting) (name : String) :
    (entriesOver layer lower).entries.lookup name =
      (layer.lookup name).elim (lower.entries.lookup name) fun value =>
        some (overlay value ((lower.entries.lookup name).getD nil)) := by
  induction layer generalizing lower with
  | nil => rw [entriesOver]; rfl
  | cons entry rest ih =>
    obtain ⟨key, value⟩ := entry
    rw [List.map_cons, List.nodup_cons] at keys
    rw [entriesOver, ih keys.2, modifyAt_key, entries, lookup_alter]
    by_cases same : name = key
    · subst same
      have later : rest.lookup name = none := by
        rw [List.lookup_eq_none_iff]
        intro e member
        exact bne_iff_ne.mpr fun same => keys.1 (List.mem_map.mpr ⟨e, member, same.symm⟩)
      rw [later, List.lookup_cons_self, if_pos rfl]
      rfl
    · rw [lookup_cons_of_ne same, if_neg same]

theorem entriesOver_table (layer entries : List (String × Setting)) :
    ∃ merged, entriesOver layer (table entries) = table merged := by
  induction layer generalizing entries with
  | nil => exact ⟨entries, by rw [entriesOver]⟩
  | cons entry rest ih =>
    rw [entriesOver, modifyAt_key]
    exact ih _

theorem addLayer_eq_entriesOver (names : ∀ e ∈ layer, pathOf e.1 = [.key e.1]) (lower : Setting) :
    addLayer lower layer = entriesOver layer lower := by
  unfold addLayer
  induction layer generalizing lower with
  | nil => rw [entriesOver]; rfl
  | cons entry rest ih =>
    rw [List.foldl_cons, names entry List.mem_cons_self, entriesOver]
    exact ih (fun e member => names e (List.mem_cons_of_mem _ member)) _

end Tables

end DeviceSessions.Setting
