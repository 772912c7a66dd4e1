import DeviceSessions.Proofs.Controller.Opaque
import DeviceSessions.Proofs.Controller.SingleUse
import Mathlib.Data.List.Induction

/-!
# Names of devices

A device is called what its owner last called it, and until then what the user agent of the login that
introduced it stands for. Only a device that is forgotten loses the name.
-/

namespace DeviceSessions

/-! ### What calls do to a name -/

namespace SessionStore

/-- The name under which a device of a user is kept. -/
def name? (s : SessionStore) (user : Uuid) (device : String) : Option String :=
  (s.device? user device).map Device.name

variable (s : SessionStore) (user : Uuid) (device : String)

/-- A device that is known already keeps its name when it is recorded again. -/
theorem name?_create (owner : Uuid) (hash : String) (expiresAt : Instant) (identity : DeviceIdentity)
    (now : Instant) :
    (s.create owner hash expiresAt identity now).2.name? user device =
      if user = owner ∧ device = identity.id then
        some ((s.name? owner identity.id).getD identity.name)
      else s.name? user device := by
  unfold name?
  rw [device?_create]
  split
  · cases s.device? owner identity.id with
    | none => rfl
    | some known => rfl
  · rfl

theorem name?_isValid (owner : Uuid) (identity : DeviceIdentity) (token : String) (now : Instant) :
    (s.isValid owner identity token now).2.name? user device = s.name? user device := by
  unfold name?
  rw [device?_isValid]

theorem name?_revokeDevice (owner : Uuid) (other : String) :
    (s.revokeDevice owner other).2.name? user device = s.name? user device := by
  unfold name?
  rw [device?_revokeDevice]

theorem name?_deleteDevice (owner : Uuid) (other : String) :
    (s.deleteDevice owner other).2.name? user device =
      if user = owner ∧ device = other then none else s.name? user device := by
  have left : (s.deleteDevice owner other).2.device? user device =
      if user = owner ∧ device = other then none else s.device? user device := by
    simp only [deleteDevice, device?, Keyed.get?_erase, Prod.mk.injEq]
  unfold name?
  rw [left]
  split <;> rfl

theorem name?_renameDevice (owner : Uuid) (other name : String) :
    (s.renameDevice owner other name).2.name? user device =
      if user = owner ∧ device = other then (s.name? owner other).map fun _ => name
      else s.name? user device := by
  rw [renameDevice_store]
  unfold name? device?
  rw [Keyed.get?_update]
  by_cases here : user = owner ∧ device = other
  · obtain ⟨rfl, rfl⟩ := here
    simp [Function.comp_def]
  · simp [here]

end SessionStore

/-- The name that a user agent stands for. -/
def DeviceMetadata.displayName (m : DeviceMetadata) : String :=
  (UserAgent.ofText (Text.trim m.userAgent)).displayName

theorem DeviceMetadata.resolve_name {m : DeviceMetadata} {identity : DeviceIdentity}
    (resolved : m.resolve = .ok identity) : identity.name = m.displayName := by
  unfold resolve at resolved
  dsimp only at resolved
  split at resolved
  · cases resolved
  split at resolved
  · cases resolved
  split at resolved
  · cases resolved
  · cases resolved
    rfl

/-! ### What requests do to a name -/

/-- A request and what it was answered with. -/
abbrev Told := Operation × Result Response

namespace Told

/-- The name that a request gives to a device, where it is granted. -/
def chosen? (user : Uuid) (device : String) : Told → Option String
  | (.renameDevice u d text, .ok _) =>
    if u = user ∧ d = device then some (Text.trim text) else none
  | _ => none

/-- The name that was chosen last, and `own` where none was. -/
def lastChosen (user : Uuid) (device own : String) (told : List Told) : String :=
  ((told.filterMap (chosen? user device)).getLast?).getD own

variable (user : Uuid) (device own : String)

theorem lastChosen_nil : lastChosen user device own [] = own := rfl

theorem lastChosen_append (first second : List Told) :
    lastChosen user device own (first ++ second) =
      lastChosen user device (lastChosen user device own first) second := by
  unfold lastChosen
  rw [List.filterMap_append, List.getLast?_append]
  cases (second.filterMap (chosen? user device)).getLast? with
  | none => rfl
  | some name => rfl

theorem lastChosen_single (told : Told) :
    lastChosen user device own [told] = (chosen? user device told).getD own := by
  unfold lastChosen
  cases chosen : chosen? user device told with
  | none => rw [List.filterMap_cons_none chosen]; rfl
  | some name => rw [List.filterMap_cons_some chosen]; rfl

end Told

namespace World

/-- The requests of a history, each with its answer. -/
def dialogue (c : Controller) : World Memory → List Happening → List Told
  | _, [] => []
  | w, .serve r :: steps => (r, (w.serve c r).1) :: dialogue c (w.step c (.serve r)) steps
  | w, s :: steps => dialogue c (w.step c s) steps

/-- A login that is let in from a device that its user does not have yet. -/
structure Introduces (c : Controller) (w : World Memory) (credentials : Credentials)
    (origin : DeviceMetadata) (user : Uuid) (device : String) : Prop where
  absent : w.state.store.device? user device = none
  opens : w.Opens (.login credentials origin) user device
  answered : ∃ pair, (w.serve c (.login credentials origin)).1 = .ok (.pair pair)

/-- What a request makes of the name of a device. -/
inductive Names (w : World Memory) (user : Uuid) (device : String) :
    Told → Option String → Option String → Prop where
  | absent {told before} : Names w user device told before none
  | kept {told own name} (follows : name = (told.chosen? user device).getD own) :
      Names w user device told (some own) (some name)
  | introduced {credentials origin pair name} (opens : w.Opens (.login credentials origin) user device)
      (named : name = origin.displayName) :
      Names w user device (.login credentials origin, .ok (.pair pair)) none (some name)

variable {w w' : World Memory} {c : Controller} {r : Operation} {result : Result Response}
  {calls : List StoreCall} {user : Uuid} {device : String}

theorem Names.unchanged {told : Told} {before after : Option String} (same : after = before)
    (chosen : told.chosen? user device = none) : w.Names user device told before after := by
  subst same
  cases after with
  | none => exact .absent
  | some name =>
    refine .kept ?_
    rw [chosen]
    rfl

theorem Served.names (served : w.Served r result calls w') (consistent : w.state.store.Consistent)
    (user : Uuid) (device : String) :
    w.Names user device (r, result) (w.state.store.name? user device)
      ((w.state.store.follow w.now calls).name? user device) := by
  cases served with
  | refused => exact .unchanged rfl (by cases r <;> rfl)
  | queried query reads =>
    rw [SessionStore.follow_queries reads]
    exact .unchanged rfl (by cases r <;> first | rfl | cases query)
  | @loggedIn credentials origin account identity pair _ known resolved issued =>
    have recorded := w.state.store.name?_create user device account.id
      (hashToken pair.refreshToken) pair.refreshExpiresAt identity w.now
    change w.Names user device _ _ ((w.state.store.create _ _ _ identity w.now).2.name? user device)
    rw [recorded]
    split
    · rename_i here
      obtain ⟨rfl, rfl⟩ := here
      cases w.state.store.name? account.id identity.id with
      | none =>
        exact .introduced (.login known resolved) (DeviceMetadata.resolve_name resolved)
      | some name => exact .unchanged rfl rfl
    · exact .unchanged rfl rfl
  | superseded presents stale => exact .unchanged (SessionStore.name?_isValid _ _ _ _ _ _ _) rfl
  | checked presents valid => exact .unchanged (SessionStore.name?_isValid _ _ _ _ _ _ _) rfl
  | dropped presents valid fault => exact .unchanged (SessionStore.name?_isValid _ _ _ _ _ _ _) rfl
  | @rotated token origin owner identity pair _ presents valid issued =>
    -- A token is taken only where there is a session, and then the device is there.
    obtain ⟨x, found, -⟩ := SessionStore.isValid_iff.mp valid
    obtain ⟨d, present⟩ := Option.isSome_iff_exists.mp (consistent.device found)
    have checked := w.state.store.name?_isValid user device owner identity token w.now
    have recorded := (w.state.store.isValid owner identity token w.now).2.name?_create user device
      owner (hashToken pair.refreshToken) pair.refreshExpiresAt identity w.now
    rw [checked] at recorded
    refine .unchanged (recorded.trans ?_) rfl
    split
    · rename_i here
      obtain ⟨rfl, rfl⟩ := here
      rw [checked]
      unfold SessionStore.name?
      rw [present]
      rfl
    · rfl
  | loggedOut => exact .unchanged rfl rfl
  | @renamed owner other text name _ named present =>
    obtain ⟨rfl, -⟩ := Controller.deviceName_ok_iff.mp named
    change w.Names user device _ _
      ((w.state.store.renameDevice owner other (Text.trim text)).2.name? user device)
    rw [SessionStore.name?_renameDevice]
    split
    · rename_i here
      obtain ⟨rfl, rfl⟩ := here
      obtain ⟨d, known⟩ := Option.isSome_iff_exists.mp present
      have before : w.state.store.name? user device = some d.name := congrArg (Option.map _) known
      have chosen : Told.chosen? user device (.renameDevice user device text, .ok .done) =
          some (Text.trim text) := if_pos ⟨rfl, rfl⟩
      rw [before]
      refine .kept ?_
      rw [chosen]
      rfl
    · rename_i away
      exact .unchanged rfl (if_neg fun same => away ⟨same.1.symm, same.2.symm⟩)
  | @unnamed owner other text name _ named absent =>
    refine .unchanged ?_ rfl
    change (w.state.store.renameDevice owner other name).2.name? user device = _
    rw [SessionStore.renameDevice_store, Keyed.update_eq_self absent]
  | @deleted owner other _ present =>
    change w.Names user device _ _ ((w.state.store.deleteDevice owner other).2.name? user device)
    rw [SessionStore.name?_deleteDevice]
    split
    · exact .absent
    · exact .unchanged rfl rfl
  | @missing owner other _ absent =>
    refine .unchanged ((w.state.store.name?_deleteDevice user device owner other).trans ?_) rfl
    split
    · rename_i here
      obtain ⟨rfl, rfl⟩ := here
      exact (congrArg (Option.map Device.name) absent).symm
    · rfl
  | revoked => exact .unchanged (SessionStore.name?_revokeDevice _ _ _ _ _) rfl

theorem serve_names (clean : w.Clean) (consistent : w.state.store.Consistent) (c : Controller)
    (r : Operation) (user : Uuid) (device : String) :
    w.Names user device (r, (w.serve c r).1) (w.state.store.name? user device)
      ((w.serve c r).2.state.store.name? user device) := by
  obtain ⟨calls, runs, served⟩ := serve_cases clean c r
  rw [runs.store clean]
  exact served.names consistent user device

/-! ### Histories -/

theorem step_store (c : Controller) {s : Happening} (idle : ∀ r, s ≠ .serve r) :
    (w.step c s).state.store = w.state.store := by
  cases s with
  | wait time =>
    rcases waitUntil_cases w time with same | ⟨-, same⟩
    · exact congrArg (·.state.store) same
    · exact congrArg (·.state.store) same
  | enroll account => rfl
  | fail target delay failure => rfl
  | heal target => rfl
  | serve r => exact absurd rfl (idle r)

section Keeps

variable {P : SessionStore → Prop} (keeps : ∀ {s : SessionStore} now call, P s → P (s.answer now call).2)
include keeps

theorem step_keeps (clean : w.Clean) (holds : P w.state.store) (c : Controller) (s : Happening) :
    P (w.step c s).state.store := by
  by_cases request : ∃ r, s = .serve r
  · obtain ⟨r, rfl⟩ := request
    obtain ⟨calls, runs, -⟩ := serve_cases clean c r
    change P (w.serve c r).2.state.store
    rw [runs.store clean]
    exact SessionStore.follow_keeps (keeps w.now) holds calls
  · rw [step_store c fun r same => request ⟨r, same⟩]
    exact holds

/-- What every call of the store keeps holds of the store after every history. -/
theorem after_keeps (clean : w.Clean) (holds : P w.state.store) (c : Controller)
    (steps : List Happening) : (w.after c steps).Clean ∧ P (w.after c steps).state.store := by
  induction steps generalizing w with
  | nil => exact ⟨clean, holds⟩
  | cons s steps ih => exact ih (step_clean clean s) (step_keeps keeps clean holds c s)

end Keeps

theorem after_consistent (clean : w.Clean) (consistent : w.state.store.Consistent) (c : Controller)
    (steps : List Happening) :
    (w.after c steps).Clean ∧ (w.after c steps).state.store.Consistent :=
  after_keeps (P := SessionStore.Consistent)
    (fun now call holds => SessionStore.consistent_answer holds now call) clean consistent c steps

theorem dialogue_append (c : Controller) (w : World Memory) (first second : List Happening) :
    w.dialogue c (first ++ second) = w.dialogue c first ++ (w.after c first).dialogue c second := by
  induction first generalizing w with
  | nil => rfl
  | cons s first ih =>
    have rest := ih (w.step c s)
    cases s with
    | serve r => exact congrArg (List.cons _) rest
    | wait time => exact rest
    | enroll account => exact rest
    | fail target delay failure => exact rest
    | heal target => exact rest

theorem dialogue_idle (c : Controller) {s : Happening} (idle : ∀ r, s ≠ .serve r) :
    w.dialogue c [s] = [] := by
  cases s with
  | serve r => exact absurd rfl (idle r)
  | wait time => rfl
  | enroll account => rfl
  | fail target delay failure => rfl
  | heal target => rfl

/-- A login has introduced a device, which has been there ever since. -/
structure Introduced (c : Controller) (w : World Memory) (user : Uuid) (device : String)
    (before : List Happening) (credentials : Credentials) (origin : DeviceMetadata)
    (since : List Happening) : Prop where
  introduces : (w.after c before).Introduces c credentials origin user device
  lasting : ∀ between, between <+: since →
    ((w.after c (before ++ .serve (.login credentials origin) :: between)).state.store.device? user
      device).isSome

/-- A device is called what its user last called it since a login introduced it, and if that was
never, what the user agent of that login stands for. -/
def Called (c : Controller) (w : World Memory) (user : Uuid) (device name : String)
    (steps : List Happening) : Prop :=
  ∃ before credentials origin since, steps = before ++ .serve (.login credentials origin) :: since ∧
    w.Introduced c user device before credentials origin since ∧
    name = Told.lastChosen user device origin.displayName
      (((w.after c before).serve c (.login credentials origin)).2.dialogue c since)

variable {steps : List Happening} {name name' : String}

theorem name?_isSome (found : w.state.store.name? user device = some name) :
    (w.state.store.device? user device).isSome := by
  have present := Option.isSome_of_eq_some found
  rwa [SessionStore.name?, Option.isSome_map] at present

theorem Called.later {s : Happening} (called : w.Called c user device name steps)
    (there : (w.after c (steps ++ [s])).state.store.name? user device = some name')
    (follows : name' = Told.lastChosen user device name ((w.after c steps).dialogue c [s])) :
    w.Called c user device name' (steps ++ [s]) := by
  obtain ⟨before, credentials, origin, since, rfl, ⟨introduces, lasting⟩, rfl⟩ := called
  refine ⟨before, credentials, origin, since ++ [s], by simp, ⟨introduces, ?_⟩, ?_⟩
  · intro between part
    rcases List.prefix_concat_iff.mp part with rfl | earlier
    · rw [← List.cons_append, ← List.append_assoc]
      exact name?_isSome there
    · exact lasting between earlier
  · rw [dialogue_append, Told.lastChosen_append, follows, after_append]
    rfl

theorem after_called (clean : w.Clean) (noSessions : w.state.store = {}) (c : Controller)
    (found : (w.after c steps).state.store.name? user device = some name) :
    w.Called c user device name steps := by
  have empty : w.state.store.Consistent := by
    rw [noSessions]
    exact SessionStore.consistent_empty
  -- On the last event: what is called so before it carries over, or the event is the login.
  induction steps using List.reverseRecOn generalizing name with
  | nil =>
    rw [show (w.after c []).state.store = {} from noSessions] at found
    cases found
  | append_singleton steps s ih =>
    have last : w.after c (steps ++ [s]) = (w.after c steps).step c s := after_append c w steps [s]
    obtain ⟨clean', consistent⟩ := after_consistent clean empty c steps
    by_cases request : ∃ r, s = .serve r
    · obtain ⟨r, rfl⟩ := request
      have names := serve_names clean' consistent c r user device
      have found' := found
      rw [last] at found'
      change ((w.after c steps).serve c r).2.state.store.name? user device = _ at found'
      rw [found'] at names
      generalize known : (w.after c steps).state.store.name? user device = before at names
      generalize answered : ((w.after c steps).serve c r).1 = answer at names
      cases names with
      | kept follows =>
        refine (ih known).later found ?_
        change _ = Told.lastChosen user device _ [(r, ((w.after c steps).serve c r).1)]
        rw [Told.lastChosen_single, answered, follows]
      | @introduced credentials origin pair _ opens named =>
        refine ⟨steps, credentials, origin, [], rfl, ⟨⟨?_, opens, pair, answered⟩, ?_⟩,
          named.trans (Told.lastChosen_nil _ _ _).symm⟩
        · exact Option.map_eq_none_iff.mp known
        · intro between part
          rw [List.prefix_nil.mp part]
          exact name?_isSome found
    · have idle : ∀ r, s ≠ .serve r := fun r same => request ⟨r, same⟩
      have before := found
      rw [last, step_store c idle] at before
      refine (ih before).later found ?_
      rw [dialogue_idle c idle]
      rfl

/-! ### Renaming -/

variable {text : String}

theorem serve_renameDevice_error {e : Error} (named : Controller.deviceName text = .error e)
    (c : Controller) (user : Uuid) (device : String) :
    w.serve c (.renameDevice user device text) = (.error e, w) := by
  change w.run Memory.backend (c.renameDevice user device text >>= _) = _
  unfold Controller.renameDevice
  rw [named]
  rfl

theorem serve_renameDevice_ok (clean : w.Clean) (spared : w.faults .renameDevice = none)
    (named : Controller.deviceName text = .ok name) (c : Controller) (user : Uuid) (device : String) :
    (w.serve c (.renameDevice user device text)).1 =
        (if (w.state.store.device? user device).isSome then .ok .done
          else .error Controller.noDevice) ∧
      (w.serve c (.renameDevice user device text)).2.state.store =
        (w.state.store.renameDevice user device name).2 := by
  have naming : w.Runs (c.useStore "rename_device" (.renameDevice user device name)) _ _ _ :=
    useStore_spared clean c "rename_device" spared
  have answered : (w.state.store.answer w.now (.renameDevice user device name)).1 =
      (w.state.store.device? user device).isSome :=
    SessionStore.renameDevice_fst _ _ _ _
  rw [answered] at naming
  refine serve_of_comes (P := fun result w' => result = (if (w.state.store.device? user
    device).isSome then .ok .done else .error Controller.noDevice) ∧
      w'.state.store = (w.state.store.renameDevice user device name).2) (Comes.map ?_)
  unfold Controller.renameDevice
  rw [named]
  refine .after (runs_ofResult w _) (.after naming ?_)
  cases (w.state.store.device? user device).isSome with
  | true => exact ⟨_, _, _, runs_log _ _ _ _, rfl, rfl⟩
  | false => exact ⟨_, _, _, .bind_error (runs_throw _ _), rfl, rfl⟩

theorem serve_login_present (clean : w.Clean) {credentials : Credentials} {origin : DeviceMetadata}
    {pair : TokenPair} (opens : w.Opens (.login credentials origin) user device)
    (answered : (w.serve c (.login credentials origin)).1 = .ok (.pair pair)) :
    ((w.serve c (.login credentials origin)).2.state.store.device? user device).isSome := by
  obtain ⟨calls, runs, served⟩ := serve_cases clean c (.login credentials origin)
  rw [answered] at served
  rw [runs.store clean]
  cases served with
  | queried query => cases query
  | loggedIn known resolved =>
    obtain ⟨rfl, rfl⟩ := opens.unique (.login known resolved)
    refine (SessionStore.device?_create_isSome _ _ _ _ _ _ _ _).trans ?_
    simp

theorem serve_deleteDevice_ok (clean : w.Clean)
    (answered : (w.serve c (.deleteDevice user device)).1 = .ok .done) :
    (w.serve c (.deleteDevice user device)).2.state.store.device? user device = none := by
  obtain ⟨calls, runs, served⟩ := serve_cases clean c (.deleteDevice user device)
  rw [answered] at served
  rw [runs.store clean]
  cases served with
  | queried query => cases query
  | deleted present =>
    refine Option.map_eq_none_iff.mp ((w.state.store.name?_deleteDevice user device user device).trans ?_)
    exact if_pos ⟨rfl, rfl⟩

/-- What naming a device comes to: only a name that is not empty and not too long is taken, only for
a device that is there, and it takes the place of the old name. -/
structure Renames (c : Controller) (w : World Memory) (user : Uuid) (device text : String) : Prop where
  invalid : (∃ e, (w.serve c (.renameDevice user device text)).1 = .error e ∧ e.kind = .validation) ↔
    (Text.trim text).length = 0 ∨ Controller.maxNameLength < (Text.trim text).length
  missing : (∃ e, (w.serve c (.renameDevice user device text)).1 = .error e ∧ e.kind = .notFound) ↔
    0 < (Text.trim text).length ∧ (Text.trim text).length ≤ Controller.maxNameLength ∧
      w.state.store.device? user device = none
  renamed : (w.serve c (.renameDevice user device text)).1 = .ok .done ↔
    0 < (Text.trim text).length ∧ (Text.trim text).length ≤ Controller.maxNameLength ∧
      (w.state.store.device? user device).isSome
  failed : ∀ e, (w.serve c (.renameDevice user device text)).1 = .error e →
    (w.serve c (.renameDevice user device text)).2.state.store = w.state.store
  changed : (w.serve c (.renameDevice user device text)).1 = .ok .done →
    (w.serve c (.renameDevice user device text)).2.state.store = { w.state.store with
      devices := w.state.store.devices.update (user, device) fun d =>
        { d with name := Text.trim text } }

theorem renames (clean : w.Clean) (spared : w.faults .renameDevice = none) (c : Controller)
    (user : Uuid) (device text : String) : w.Renames c user device text := by
  cases named : Controller.deviceName text with
  | error e =>
    have same := serve_renameDevice_error (w := w) named c user device
    have kind := Controller.deviceName_error named
    have bad : 0 < (Text.trim text).length → ¬(Text.trim text).length ≤ Controller.maxNameLength := by
      intro positive short
      rw [Controller.deviceName_ok_iff.mpr ⟨rfl, positive, short⟩] at named
      cases named
    have refused : (Text.trim text).length = 0 ∨
        Controller.maxNameLength < (Text.trim text).length := by omega
    constructor
    · simpa [same, kind] using refused
    · simpa [same, kind] using fun positive short => absurd short (bad positive)
    · simpa [same] using fun positive short => absurd short (bad positive)
    · simp [same]
    · simp [same]
  | ok name =>
    obtain ⟨rfl, positive, short⟩ := Controller.deviceName_ok_iff.mp named
    obtain ⟨answered, after⟩ := serve_renameDevice_ok clean spared named c user device
    have good : ¬((Text.trim text).length = 0 ∨
        Controller.maxNameLength < (Text.trim text).length) := by omega
    rw [SessionStore.renameDevice_store] at after
    cases known : w.state.store.device? user device with
    | none =>
      have missing : (w.serve c (.renameDevice user device text)).1 = .error Controller.noDevice := by
        rw [answered, known]
        rfl
      have same := Keyed.update_eq_self (m := w.state.store.devices) known
        fun d => { d with name := Text.trim text }
      rw [same] at after
      constructor
      · simpa [missing, Controller.noDevice] using good
      · simp [missing, known, positive, short, Controller.noDevice]
      · simp [missing, known]
      · exact fun _ _ => after
      · simp [missing]
    | some d =>
      have done : (w.serve c (.renameDevice user device text)).1 = .ok .done := by
        rw [answered, known]
        rfl
      constructor
      · simpa [done] using good
      · simp [done, known]
      · simp [done, known, positive, short]
      · simp [done]
      · exact fun _ => after

/-- In every history from an empty store on, every device is called what its user last called it
since a login introduced it, and until then what the user agent of that login stands for; a device
that is deleted is gone, and naming a device changes its name only. -/
theorem device_names_chosen (c : Controller) {w : World Memory} (clean : w.Clean)
    (noSessions : w.state.store = {}) (steps : List Happening) (user : Uuid) (device : String) :
    (∀ d, (w.after c steps).state.store.device? user device = some d →
      w.Called c user device d.name steps) ∧
    (((w.after c steps).serve c (.deleteDevice user device)).1 = .ok .done →
      ((w.after c steps).serve c (.deleteDevice user device)).2.state.store.device? user device =
        none) ∧
    ∀ v : World Memory, v.Clean → v.faults .renameDevice = none → ∀ text,
      v.Renames c user device text := by
  have empty : w.state.store.Consistent := by
    rw [noSessions]
    exact SessionStore.consistent_empty
  refine ⟨fun d found => ?_, fun answered => ?_, fun v clean' spared text => ?_⟩
  · exact after_called clean noSessions c (congrArg (Option.map Device.name) found)
  · exact serve_deleteDevice_ok (after_consistent clean empty c steps).1 answered
  · exact renames clean' spared c user device text

/-- A device that was called "Work laptop" is called so. -/
theorem device_names_chosen_laptop :
    ∃ device d, ((small (.ofSecs 1000)).after ⟨⟨0⟩⟩ [.serve (.login soleCredentials soleOrigin),
        .serve (.renameDevice soleUser.id device "  Work laptop ")]).state.store.device? soleUser.id
          device = some d ∧
      d.name = "Work laptop" ∧
      (small (.ofSecs 1000)).Called ⟨⟨0⟩⟩ soleUser.id device d.name
        [.serve (.login soleCredentials soleOrigin),
          .serve (.renameDevice soleUser.id device "  Work laptop ")] := by
  have smooth := small_smooth (.ofSecs 1000)
  have canIssue : (small (.ofSecs 1000)).CanIssue :=
    canIssue_of_early (by decide) fun kind => by cases kind <;> decide
  obtain ⟨identity, admits⟩ := small_admits (.ofSecs 1000)
  obtain ⟨pair, answered, -⟩ := smooth.login_accepts canIssue ⟨⟨0⟩⟩ admits
  have trimmed : Text.trim "  Work laptop " = "Work laptop" := by decide
  have smooth' := smooth.of_kept (serve_kept smooth.clean ⟨⟨0⟩⟩ (.login soleCredentials soleOrigin))
  have present := serve_login_present smooth.clean (.login admits.known admits.resolved) answered
  obtain ⟨named, -, others⟩ := device_names_chosen ⟨⟨0⟩⟩ smooth.clean rfl
    [.serve (.login soleCredentials soleOrigin),
      .serve (.renameDevice soleUser.id identity.id "  Work laptop ")] soleUser.id identity.id
  have renamed := others _ smooth'.clean (smooth' _) "  Work laptop "
  have done := renamed.renamed.mpr ⟨by rw [trimmed]; decide, by rw [trimmed]; decide, present⟩
  have store := renamed.changed done
  rw [trimmed] at store
  obtain ⟨old, known⟩ := Option.isSome_iff_exists.mp present
  have found : ((small (.ofSecs 1000)).after ⟨⟨0⟩⟩ [.serve (.login soleCredentials soleOrigin),
      .serve (.renameDevice soleUser.id identity.id "  Work laptop ")]).state.store.device? soleUser.id
        identity.id = some { old with name := "Work laptop" } := by
    rw [after_serve_serve, store]
    refine (Keyed.get?_update _ _ _ _).trans ?_
    rw [if_pos rfl]
    exact congrArg (Option.map _) known
  exact ⟨identity.id, _, found, rfl, named _ found⟩

end World

end DeviceSessions
