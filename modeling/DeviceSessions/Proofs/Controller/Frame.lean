import DeviceSessions.Database.Service
import DeviceSessions.Proofs.Controller.Run
import DeviceSessions.Proofs.Database.Frame

/-!
# What operations leave as it is in a database

An operation of a controller over a database makes one request. Where it fails, the database is what
it was; where it does not, the tables are what the request makes of them. Nothing interferes with the
calls of the controller here: a call that fails has failed in the database.
-/

namespace DeviceSessions

open Request (Leaves)

namespace World

variable {α β : Type} {w : World Database} {P : α → Tables → Prop} {Q : β → Tables → Prop}

/-- What an action over a database comes to, and the database after it. -/
def ran (w : World Database) (x : Action α) : Result α × Database :=
  ((w.run Database.backend x).1, (w.run Database.backend x).2.state)

theorem ran_bind (w : World Database) (x : Action α) (f : α → Action β) :
    w.ran (x >>= f) = match w.run Database.backend x with
      | (.ok a, w') => w'.ran (f a)
      | (.error e, w') => (.error e, w'.state) := by
  unfold ran run
  rw [Action.run_bind]
  split <;> simp [*]

theorem leaves_bind {x : Action α} {f : α → Action β} (first : Leaves w.state P (w.ran x))
    (rest : ∀ a t (w' : World Database), P a t → w'.state = { w.state with tables := t } →
      Leaves w.state Q (w'.ran (f a))) : Leaves w.state Q (w.ran (x >>= f)) := by
  rw [ran_bind]
  unfold ran at first
  cases step : w.run Database.backend x with
  | mk result w' =>
    rw [step] at first
    generalize after : w'.state = db at first
    cases first with
    | failed e =>
      dsimp only
      rw [after]
      exact .failed e
    | answered holds => exact rest _ _ w' holds after

theorem leaves_surface (w : World Database) (operation : String) (e : Error) :
    Leaves w.state P (w.ran (Controller.surface operation e)) := by
  unfold Controller.surface
  cases e.kind.isInfrastructure with
  | true => exact .failed _
  | false => exact .failed _

/-- A call of the store that nothing interferes with leaves what its request leaves. -/
theorem leaves_useStore (call : StoreCall) {P : call.Answer → Tables → Prop}
    (quiet : w.faults call.target = none) (c : Controller) (operation : String)
    (left : Leaves w.state P ((call.request w.now).on w.state)) :
    Leaves w.state P (w.ran (c.useStore operation call)) := by
  have answered : w.run Database.backend (c.askStore call) =
      (.ok (c.bounded call.operation (.answered ((call.request w.now).on w.state).1)),
        { w with state := ((call.request w.now).on w.state).2 }) := by
    unfold run Controller.askStore
    rw [Action.run_bind, Action.run_call]
    simp only [answer, make, quiet, Database.backend]
    rfl
  unfold Controller.useStore
  rw [ran_bind, answered]
  generalize (call.request w.now).on w.state = out at left
  cases left with
  | failed e => exact leaves_surface w _ _
  | answered holds => exact .answered holds

/-- What is reported changes nothing. -/
theorem leaves_log {w' : World Database} {t : Tables} {P : Unit → Tables → Prop} (holds : P () t)
    (after : w'.state = { w.state with tables := t }) (level : Level) (message : String)
    (fields : List (String × FieldValue)) :
    Leaves w.state P (w'.ran (Action.log level message fields)) := by
  have ran : w'.ran (Action.log level message fields) = (.ok (), w'.state) := rfl
  rw [ran, after]
  exact .answered holds

/-- An operation may still fail where nothing was changed. -/
theorem leaves_throw {w' : World Database} (same : w'.state = w.state) (e : Error) :
    Leaves w.state P (w'.ran (throw e)) := by
  have ran : w'.ran (throw e : Action α) = (.error e, w'.state) := rfl
  rw [ran, same]
  exact .failed e

variable (quiet : ∀ target, w.faults target = none) (c : Controller)

include quiet

theorem leaves_logout (user : Uuid) :
    Leaves w.state (fun _ t => t = { w.state.tables with
      sessions := w.state.tables.sessions.mapValues fun k s => if k.1 = user then s.revoke else s })
      (w.ran (c.logout user)) := by
  refine leaves_bind (leaves_useStore (.revokeAll user) (quiet _) c _
    (Request.leaves_statement fun _ _ done => Tables.revokeAll_ok done)) ?_
  intro _ t w' holds after
  exact leaves_log holds after _ _ _

theorem leaves_revokeDevice (user : Uuid) (device : String) :
    Leaves w.state (fun _ t => t = { w.state.tables with
      sessions := w.state.tables.sessions.update (user, device) Session.revoke })
      (w.ran (c.revokeDevice user device)) := by
  refine leaves_bind (leaves_useStore (.revokeDevice user device) (quiet _) c _
    (Request.leaves_statement fun _ _ done => Tables.revokeDevice_ok done)) ?_
  intro _ t w' holds after
  exact leaves_log holds after _ _ _

theorem leaves_listDevices (user : Uuid) :
    Leaves w.state (fun _ t => t = w.state.tables) (w.ran (c.listDevices user)) :=
  leaves_useStore (.listDevices user) (quiet _) c _
    (Request.leaves_statement fun _ _ done => Tables.listDevices_ok done)

theorem leaves_device (user : Uuid) (device : String) :
    Leaves w.state
      (fun d t => t = w.state.tables ∧ w.state.tables.devices.get? (user, device) = some d)
      (w.ran (c.device user device)) := by
  refine leaves_bind (leaves_useStore (.findDevice user device) (quiet _) c _
    (Request.leaves_statement fun _ _ done => Tables.findDevice_ok done)) ?_
  rintro found t w' ⟨known, rfl⟩ after
  cases found with
  | none => exact leaves_throw after _
  | some d =>
    have ran : w'.ran (pure d : Action Device) = (.ok d, w'.state) := rfl
    rw [ran, after]
    exact .answered ⟨rfl, known.symm⟩

theorem leaves_renameDevice (user : Uuid) (device text : String) :
    Leaves w.state
      (fun _ t => w.state.tables.devices.contains (user, device) = true ∧ t = { w.state.tables with
        devices := w.state.tables.devices.update (user, device) fun d =>
          { d with name := Text.trim text } })
      (w.ran (c.renameDevice user device text)) := by
  unfold Controller.renameDevice
  cases named : Controller.deviceName text with
  | error e => exact leaves_throw rfl e
  | ok name =>
    obtain ⟨rfl, -⟩ := Controller.deviceName_ok_iff.mp named
    rw [ran_bind, show w.run Database.backend (Action.ofResult (.ok (Text.trim text))) =
      (.ok (Text.trim text), w) from rfl]
    refine leaves_bind (leaves_useStore (.renameDevice user device (Text.trim text)) (quiet _) c _
      (Request.leaves_statement fun _ _ done => Tables.renameDevice_ok done)) ?_
    rintro renamed t w' ⟨there, holds⟩ after
    cases known : w.state.tables.devices.contains (user, device) with
    | true =>
      rw [known] at there
      subst there
      exact leaves_log ⟨rfl, holds⟩ after _ _ _
    | false =>
      rw [known] at there
      subst there
      refine leaves_throw ?_ _
      have absent : w.state.tables.devices.get? (user, device) = none :=
        Option.isNone_iff_eq_none.mp (Option.isSome_eq_false_iff.mp known)
      rw [after, holds, Keyed.update_eq_self absent]

theorem leaves_deleteDevice {user : Uuid} {device : String}
    (known : w.state.tables.devices.contains (user, device) = true) :
    Leaves w.state
      (fun _ t => t = { w.state.tables with
        devices := w.state.tables.devices.erase (user, device)
        sessions := w.state.tables.sessions.erase (user, device) })
      (w.ran (c.deleteDevice user device)) := by
  refine leaves_bind (leaves_useStore (.deleteDevice user device) (quiet _) c _
    (Request.leaves_statement fun _ _ done => Tables.deleteDevice_ok done)) ?_
  rintro deleted t w' ⟨there, holds⟩ after
  rw [known] at there
  subst there
  exact leaves_log holds after _ _ _

end World

end DeviceSessions
