import DeviceSessions.Proofs.Session.Rows

/-!
# Lists of devices

A store that calls have led to keeps each device under its own name. The list of a user's devices has
each of them once, the one that was used last in front.
-/

namespace DeviceSessions

namespace Device

variable {a b c : Device}

theorem comesBefore_iff :
    a.comesBefore b = true ↔
      b.lastActive < a.lastActive ∨ b.lastActive = a.lastActive ∧ ¬b.id < a.id := by
  simp [comesBefore]

theorem comesBefore_total (a b : Device) : (a.comesBefore b || b.comesBefore a) = true := by
  rw [Bool.or_eq_true, comesBefore_iff, comesBefore_iff]
  by_cases later : b.lastActive < a.lastActive
  · exact Or.inl (Or.inl later)
  by_cases earlier : a.lastActive < b.lastActive
  · exact Or.inr (Or.inl earlier)
  have same := Instant.eq_of_not_lt earlier later
  by_cases order : b.id < a.id
  · exact Or.inr (Or.inr ⟨same.symm, String.lt_asymm order⟩)
  · exact Or.inl (Or.inr ⟨same, order⟩)

theorem comesBefore_trans (first : a.comesBefore b = true) (second : b.comesBefore c = true) :
    a.comesBefore c = true := by
  rw [comesBefore_iff] at *
  rcases first with later | ⟨same, order⟩
  · rcases second with later' | ⟨same', -⟩
    · exact Or.inl (Instant.lt_trans later' later)
    · exact Or.inl (same' ▸ later)
  · rcases second with later' | ⟨same', order'⟩
    · exact Or.inl (same ▸ later')
    · rw [String.not_lt] at *
      exact Or.inr ⟨same'.trans same, String.le_trans order order'⟩

theorem not_later_of_comesBefore (before : a.comesBefore b = true) : ¬a.lastActive < b.lastActive := by
  rcases comesBefore_iff.mp before with later | ⟨same, -⟩
  · exact Instant.lt_asymm later
  · rw [same]
    exact Instant.lt_irrefl _

end Device

namespace SessionStore

variable {s : SessionStore} {user : Uuid} {device : String} {x : Device}

/-- Calls keep every device under its own name. -/
theorem Reachable.named (reachable : s.Reachable) (found : s.device? user device = some x) :
    x.id = device := by
  induction reachable generalizing x with
  | empty => cases found
  | @answer s now call _ ih =>
    cases turn s now call user device with
    | deleted _ gone =>
      rw [gone] at found
      cases found
    | recorded hash expiresAt fresh named _ recorded =>
      rw [recorded] at found
      obtain rfl := Option.some.inj found
      subst named
      cases known : s.device? user fresh.id with
      | none => rfl
      | some old =>
        have same : old.id = fresh.id := ih known
        exact same
    | kept f g devices _ _ _ kept =>
      rw [kept] at found
      obtain ⟨old, known, rfl⟩ := Option.map_eq_some_iff.mp found
      exact (devices old).id.trans (ih known)

/-! ### The list of a user -/

theorem Reachable.mem_listDevices (reachable : s.Reachable) :
    x ∈ s.listDevices user ↔ s.device? user x.id = some x := by
  rw [listDevices, List.mem_mergeSort, List.mem_filter, decide_eq_true_eq, Keyed.mem_values_iff]
  constructor
  · rintro ⟨⟨⟨u, d⟩, found⟩, owner⟩
    have mine : x.userId = u := reachable.sound.housed found
    have named : x.id = d := reachable.named found
    rwa [device?, ← owner, mine, named]
  · exact fun found => ⟨⟨_, found⟩, reachable.sound.housed found⟩

theorem Reachable.mem_ids (reachable : s.Reachable) :
    device ∈ (s.listDevices user).map Device.id ↔ (s.device? user device).isSome := by
  rw [List.mem_map, Option.isSome_iff_exists]
  constructor
  · rintro ⟨x, member, rfl⟩
    exact ⟨x, reachable.mem_listDevices.mp member⟩
  · rintro ⟨x, found⟩
    obtain rfl := reachable.named found
    exact ⟨x, reachable.mem_listDevices.mpr found, rfl⟩

theorem Reachable.nodup_ids (reachable : s.Reachable) (user : Uuid) :
    ((s.listDevices user).map Device.id).Nodup := by
  have sorted := (List.mergeSort_perm (s.devices.values.filter fun x => x.userId = user)
    Device.comesBefore).map Device.id
  rw [listDevices, sorted.nodup_iff]
  apply s.devices.nodup_map_values (a := user)
  · rintro ⟨⟨u, d⟩, x⟩ member mine
    have owner : x.userId = u := reachable.sound.housed (Keyed.get?_eq_some_iff.mpr member)
    exact owner.symm.trans (of_decide_eq_true mine)
  · rintro ⟨⟨u, d⟩, x⟩ member
    exact reachable.named (Keyed.get?_eq_some_iff.mpr member)

theorem sorted_listDevices (s : SessionStore) (user : Uuid) :
    (s.listDevices user).Pairwise fun x y => x.comesBefore y = true :=
  @List.pairwise_mergeSort _ Device.comesBefore (fun _ _ _ => Device.comesBefore_trans)
    Device.comesBefore_total _

/-- A list of a user's devices has each of them once and no other, none behind one that was used
before it, and finds under each name what the store has there. -/
structure Lists (s : SessionStore) (user : Uuid) (listed : List Device) : Prop where
  complete : ∀ x, x ∈ listed ↔ ∃ device, s.device? user device = some x
  once : (listed.map Device.id).Nodup
  recent : listed.Pairwise fun x y => ¬x.lastActive < y.lastActive
  agrees : ∀ device, s.device? user device = listed.find? fun x => x.id = device

theorem Reachable.lists (reachable : s.Reachable) (user : Uuid) :
    s.Lists user (s.listDevices user) where
  complete x := by
    rw [reachable.mem_listDevices]
    constructor
    · exact fun found => ⟨_, found⟩
    · rintro ⟨device, found⟩
      rwa [reachable.named found]
  once := reachable.nodup_ids user
  recent := (s.sorted_listDevices user).imp fun before => Device.not_later_of_comesBefore before
  agrees device := by
    apply Option.ext
    intro x
    rw [find?_eq_some_iff_of_nodup_map (reachable.nodup_ids user), reachable.mem_listDevices]
    constructor
    · intro found
      obtain rfl := reachable.named found
      exact ⟨found, rfl⟩
    · rintro ⟨found, rfl⟩
      exact found

/-! ### Times of use -/

/-- When a device of a user was last active. -/
def lastActive? (s : SessionStore) (user : Uuid) (device : String) : Option Instant :=
  (s.device? user device).map Device.lastActive

/-- When a device was last active follows from what is done under its key. -/
theorem lastActive?_answer (s : SessionStore) (now : Instant) (call : StoreCall) (user : Uuid)
    (device : String) :
    (s.answer now call).2.lastActive? user device =
      if call = .deleteDevice user device then none
      else if call.creates user device then some now else s.lastActive? user device := by
  unfold lastActive?
  cases turn s now call user device with
  | deleted deletes gone =>
    rw [gone, if_pos deletes]
    rfl
  | recorded hash expiresAt fresh named records recorded =>
    subst named records
    rw [recorded, if_neg (by simp), if_pos (by simp [StoreCall.creates])]
    cases s.device? user fresh.id with
    | none => rfl
    | some x => rfl
  | kept f g devices _ undeleted unrecorded kept =>
    rw [kept, if_neg undeleted, if_neg (by simp [unrecorded]), Option.map_map]
    congr 1
    funext x
    exact (devices x).lastActive

/-- A name stands in front of another: its device was active later, or at the same time and the name
is not greater. -/
def Precedes (s : SessionStore) (user : Uuid) (d d' : String) : Prop :=
  ∀ t t', s.lastActive? user d = some t → s.lastActive? user d' = some t' →
    t' < t ∨ t' = t ∧ ¬d' < d

variable {t : SessionStore} {ids : List String}

theorem precedes_antisymm {d d' : String} (there : (s.lastActive? user d).isSome)
    (there' : (s.lastActive? user d').isSome) (first : s.Precedes user d d')
    (second : s.Precedes user d' d) : d = d' := by
  obtain ⟨t, known⟩ := Option.isSome_iff_exists.mp there
  obtain ⟨t', known'⟩ := Option.isSome_iff_exists.mp there'
  rcases first t t' known known' with later | ⟨same, order⟩
  · rcases second t' t known' known with earlier | ⟨same, -⟩
    · exact absurd earlier (Instant.lt_asymm later)
    · exact absurd (same ▸ later) (Instant.lt_irrefl _)
  · rcases second t' t known' known with earlier | ⟨-, order'⟩
    · exact absurd (same ▸ earlier) (Instant.lt_irrefl _)
    · exact String.le_antisymm (String.not_lt.mp order) (String.not_lt.mp order')

theorem Reachable.precedes_ids (reachable : s.Reachable) (user : Uuid) :
    ((s.listDevices user).map Device.id).Pairwise (s.Precedes user) := by
  rw [List.pairwise_map]
  refine List.Pairwise.imp_of_mem ?_ (s.sorted_listDevices user)
  intro x x' member member' before t t' known known'
  have found := reachable.mem_listDevices.mp member
  have found' := reachable.mem_listDevices.mp member'
  rw [lastActive?, found] at known
  rw [lastActive?, found'] at known'
  cases known
  cases known'
  exact Device.comesBefore_iff.mp before

/-- A user's devices can be listed by last use in one way only. -/
theorem Reachable.ids_unique (reachable : s.Reachable) (once : ids.Nodup)
    (complete : ∀ d, d ∈ ids ↔ (s.lastActive? user d).isSome)
    (ordered : ids.Pairwise (s.Precedes user)) : (s.listDevices user).map Device.id = ids := by
  have complete' : ∀ d, d ∈ (s.listDevices user).map Device.id ↔ (s.lastActive? user d).isSome := by
    intro d
    rw [reachable.mem_ids, lastActive?, Option.isSome_map]
  have perm : ((s.listDevices user).map Device.id).Perm ids := by
    rw [List.perm_ext_iff_of_nodup (reachable.nodup_ids user) once]
    exact fun d => (complete' d).trans (complete d).symm
  refine perm.eq_of_pairwise ?_ (reachable.precedes_ids user) ordered
  intro d d' member member' first second
  exact precedes_antisymm ((complete' d).mp member) ((complete d').mp member') first second

/-- The order of a user's devices depends on nothing but the times of their use. -/
theorem Reachable.ids_eq (reachable : s.Reachable) (reachable' : t.Reachable)
    (same : ∀ d, t.lastActive? user d = s.lastActive? user d) :
    (t.listDevices user).map Device.id = (s.listDevices user).map Device.id := by
  refine reachable'.ids_unique (reachable.nodup_ids user) ?_ ?_
  · intro d
    rw [reachable.mem_ids, same, lastActive?, Option.isSome_map]
  · have ordered := reachable.precedes_ids user
    unfold Precedes at *
    simpa only [same] using ordered

end SessionStore

end DeviceSessions
