import DeviceSessions.Error
import Mathlib.Data.List.DropRight

/-!
# Errors on their way to a caller

On its way an error is given contexts, copied and surfaced, in any order. As long as it is not
hidden, its kind stays what it was and its message is only put behind contexts; from where it is
hidden on, only what happens afterwards can be seen.
-/

namespace DeviceSessions.Error

/-- What can happen to an error on its way. -/
inductive Step where
  | surface
  | copy
  | context (operation : String)
  deriving DecidableEq, Repr

/-- The error after a step. -/
def after (e : Error) : Step → Error
  | .surface => e.surface
  | .copy => e.copy
  | .context operation => e.context operation

/-- The error after steps in order. -/
def through (e : Error) (steps : List Step) : Error := steps.foldl after e

/-- The operation that a step gives as a context. -/
def Step.operation? : Step → Option String
  | context operation => some operation
  | _ => none

/-- The contexts of steps in order. -/
def operations (steps : List Step) : List String := steps.filterMap Step.operation?

/-- A message with contexts in front of it, the last one first. -/
def inContexts (operations : List String) (message : String) : String :=
  operations.reverse.foldr (fun operation text => operation ++ ": " ++ text) message

theorem inContexts_cons (operation : String) (operations : List String) (message : String) :
    inContexts (operation :: operations) message =
      inContexts operations (operation ++ ": " ++ message) := by
  unfold inContexts
  rw [List.reverse_cons, List.foldr_append]
  rfl

/-! ### One step -/

variable {e : Error} {step : Step}

/-- Hiding an error does not take it out of the infrastructure, nor does anything else. -/
theorem isInfrastructure_after (e : Error) (step : Step) :
    (e.after step).kind.isInfrastructure = e.kind.isInfrastructure := by
  cases step with
  | surface =>
    change e.surface.kind.isInfrastructure = _
    unfold surface
    split
    · rename_i hidden
      rw [hidden]
      rfl
    · rfl
  | copy => rfl
  | context operation => rfl

/-- A step that does not hide the error adds a context, takes away the source or does nothing. -/
theorem after_of_shown (shown : e.kind.isInfrastructure = false ∨ step ≠ .surface) :
    e.after step = ⟨e.kind, inContexts (operations [step]) e.message,
      decide (step ≠ .copy) && e.hasSource⟩ := by
  cases step with
  | surface =>
    have kept : e.kind.isInfrastructure = false := shown.resolve_right (absurd rfl)
    change (if e.kind.isInfrastructure then hidden else e) = e
    rw [kept, if_neg Bool.false_ne_true]
  | copy => rfl
  | context operation => rfl

/-! ### Many steps -/

variable {steps : List Step}

theorem isInfrastructure_through (e : Error) (steps : List Step) :
    (e.through steps).kind.isInfrastructure = e.kind.isInfrastructure := by
  induction steps generalizing e with
  | nil => rfl
  | cons step steps ih => exact (ih (e.after step)).trans (isInfrastructure_after e step)

theorem inContexts_operations (step : Step) (steps : List Step) (message : String) :
    inContexts (operations (step :: steps)) message =
      inContexts (operations steps) (inContexts (operations [step]) message) := by
  cases step with
  | context operation => exact inContexts_cons operation (operations steps) message
  | _ => rfl

theorem through_of_shown (shown : e.kind.isInfrastructure = false ∨ .surface ∉ steps) :
    e.through steps = ⟨e.kind, inContexts (operations steps) e.message,
      decide (.copy ∉ steps) && e.hasSource⟩ := by
  induction steps generalizing e with
  | nil => rfl
  | cons step steps ih =>
    have first : e.kind.isInfrastructure = false ∨ step ≠ .surface :=
      shown.imp_right fun absent same => absent (same ▸ List.mem_cons_self)
    have rest : (e.after step).kind.isInfrastructure = false ∨ .surface ∉ steps := by
      rw [isInfrastructure_after]
      exact shown.imp_right fun absent member => absent (List.mem_cons_of_mem step member)
    have copies : decide (.copy ∉ step :: steps) =
        (decide (.copy ∉ steps) && decide (step ≠ .copy)) := by
      simp [eq_comm, Bool.and_comm]
    change (e.after step).through steps = _
    rw [ih rest, after_of_shown first, inContexts_operations step steps, copies, Bool.and_assoc]

/-- Of what happened before an error was hidden nothing is left. -/
theorem through_of_hidden (infrastructure : e.kind.isInfrastructure = true) (before : List Step)
    {later : List Step} (last : .surface ∉ later) :
    e.through (before ++ .surface :: later) =
      ⟨.internal, inContexts (operations later) opaqueMessage, false⟩ := by
  have hides : (e.through before).after .surface = hidden := by
    change (if (e.through before).kind.isInfrastructure then hidden else e.through before) = hidden
    rw [isInfrastructure_through, infrastructure, if_pos rfl]
  have split : e.through (before ++ .surface :: later) =
      ((e.through before).after .surface).through later := by
    unfold through
    rw [List.foldl_append, List.foldl_cons]
  rw [split, hides, through_of_shown (.inr last)]
  exact congrArg _ (Bool.and_false _)

/-- The steps since the error was last surfaced. -/
def sinceSurface (steps : List Step) : List Step := steps.rtakeWhile (· ≠ .surface)

theorem surface_not_mem_sinceSurface (steps : List Step) : .surface ∉ sinceSurface steps := by
  intro member
  have other := List.mem_rtakeWhile_imp member
  exact absurd other (by decide)

theorem exists_before_surface (present : .surface ∈ steps) :
    ∃ before, steps = before ++ .surface :: sinceSurface steps := by
  unfold sinceSurface
  induction steps using List.reverseRecOn with
  | nil => cases present
  | append_singleton steps step ih =>
    by_cases last : step = .surface
    · rw [List.rtakeWhile_concat_neg _ _ _ (by simp [last]), last]
      exact ⟨steps, rfl⟩
    · have earlier : .surface ∈ steps := by simpa [Ne.symm last] using present
      obtain ⟨before, split⟩ := ih earlier
      rw [List.rtakeWhile_concat_pos _ _ _ (by simp [last])]
      refine ⟨before, ?_⟩
      rw [← List.cons_append, ← List.append_assoc, ← split]

/-- What an error is after any steps. If it is no failure of the infrastructure, or is never
surfaced, its kind is the same, its message stands behind the contexts, and it has its source unless it
was copied. A failure of the infrastructure that is surfaced is an internal error without a source,
whose opaque message stands behind the contexts given since. Surfacing twice is surfacing once. -/
theorem classified (e : Error) (steps : List Step) :
    (e.kind.isInfrastructure = false ∨ .surface ∉ steps →
      (e.through steps).kind = e.kind ∧
      (e.through steps).message = inContexts (operations steps) e.message ∧
      ((e.through steps).hasSource = true ↔ e.hasSource = true ∧ .copy ∉ steps)) ∧
    (e.kind.isInfrastructure = true ∧ .surface ∈ steps →
      e.through steps =
        ⟨.internal, inContexts (operations (sinceSurface steps)) opaqueMessage, false⟩) ∧
    e.surface.surface = e.surface := by
  refine ⟨fun shown => ?_, fun ⟨infrastructure, present⟩ => ?_, ?_⟩
  · rw [through_of_shown shown]
    refine ⟨rfl, rfl, ?_⟩
    rw [Bool.and_eq_true, decide_eq_true_eq, and_comm]
  · obtain ⟨before, split⟩ := exists_before_surface present
    have hidden := through_of_hidden infrastructure before (surface_not_mem_sinceSurface steps)
    rwa [← split] at hidden
  · unfold surface
    split
    · rfl
    · rfl

/-- Steps with every kind of step before, between and behind two surfacings. -/
def mixedSteps : List Step :=
  [.context "query", .surface, .copy, .context "create", .surface, .context "login"]

/-- A failure of the database shows only the last context, and a refused token all of them. -/
theorem classified_mixed :
    (⟨.database, "no table", true⟩ : Error).through mixedSteps =
        ⟨.internal, "login: Internal server error", false⟩ ∧
      ((⟨.tokenRevoked, "over", true⟩ : Error).through mixedSteps).message =
        "login: create: query: over" := by
  obtain ⟨-, hidden, -⟩ := classified ⟨.database, "no table", true⟩ mixedSteps
  obtain ⟨shown, -⟩ := classified ⟨.tokenRevoked, "over", true⟩ mixedSteps
  exact ⟨hidden ⟨by decide, by decide⟩, (shown (.inl (by decide))).2.1⟩

end DeviceSessions.Error
