import BindingOperator.Proofs.Conditions
import BindingOperator.Proofs.Stages

/-!
What a live pass records. Each outcome has its verdict on the service or on the workloads,
and recording it keeps the layout of the conditions and the rest of the binding; so the
verdicts alone say what the status of a pass reports.
-/

namespace BindingOperator

open Conditions ConditionType

def serviceVerdict : ServiceResolution → Condition.Verdict
  | .resolved _ => (.true, Reason.resolvedBindingSecret, "")
  | .missingBinding => (.unknown, Reason.serviceMissingBinding,
      "the service was found, but did not contain a binding secret")
  | .notFound => (.unknown, Reason.serviceNotFound, "the service was not found")
  | .forbidden => (.false, Reason.serviceForbidden,
      "the controller does not have permission to get the service")

/-- The verdict on the workloads once they are looked up; found ones are not judged yet. -/
def lookedUpVerdict : WorkloadResolution → Condition.Verdict
  | .resolved _ _ => Condition.initial
  | .notFound => (.unknown, Reason.workloadNotFound, "the workload was not found")
  | .forbidden .list => (.false, Reason.workloadForbidden,
      "the controller does not have permission to list the workloads")
  | .forbidden .single => (.false, Reason.workloadForbidden,
      "the controller does not have permission to get the workload")

def writtenVerdict : WorkloadResolution → Condition.Verdict
  | .resolved _ _ => (.true, Reason.workloadProjected, "")
  | other => lookedUpVerdict other

section Verdicts

variable {clock : Clock} {before after conditions : List Condition}
  {service workloads : Condition.Verdict}

theorem lookedUp_ne_true (resolution : WorkloadResolution) :
    (lookedUpVerdict resolution).1 ≠ .true := by
  cases resolution with
  | forbidden scope => cases scope <;> simp [lookedUpVerdict]
  | _ => simp [lookedUpVerdict, Condition.initial]

/-- Only workloads that were found leave the condition as it started. -/
theorem lookedUp_initializing (resolution : WorkloadResolution)
    (initializing : (lookedUpVerdict resolution).2.1 = Reason.initializing) :
    ∃ resource workloads, resolution = .resolved resource workloads := by
  have absent : Reason.workloadNotFound ≠ Reason.initializing := by decide
  have refused : Reason.workloadForbidden ≠ Reason.initializing := by decide
  cases resolution with
  | resolved resource workloads => exact ⟨resource, workloads, rfl⟩
  | notFound => exact absurd initializing absent
  | forbidden scope => cases scope <;> exact absurd initializing refused

theorem laid_recordSecret (clock : Clock) (resolution : ServiceResolution) (binding : Binding)
    (laid : Laid before after service workloads binding.conditions) :
    Laid before after (serviceVerdict resolution) workloads
      (recordSecret clock resolution binding).conditions := by
  cases resolution <;> exact laid.set_service _

theorem laid_recordWorkloads (clock : Clock) (resolution : WorkloadResolution) (progress : Progress)
    (laid : Laid before after service Condition.initial progress.binding.conditions) :
    Laid before after service (lookedUpVerdict resolution)
      (recordWorkloads clock resolution progress).binding.conditions := by
  cases resolution with
  | resolved resource found => exact laid
  | notFound => exact laid.set_workloads _
  | forbidden scope => cases scope <;> exact laid.set_workloads _

theorem laid_markWritten (resolution : WorkloadResolution)
    (laid : Laid before after service (lookedUpVerdict resolution) conditions) :
    Laid before after service (writtenVerdict resolution) (markWritten clock conditions) := by
  by_cases initializing : isInitializing workloadProjected conditions = true
  · obtain ⟨resource, workloads, rfl⟩ :=
      lookedUp_initializing resolution (laid.isInitializing_iff.mp initializing).2
    rw [markWritten, if_pos initializing]
    exact laid.set_workloads _
  · rw [markWritten, if_neg initializing]
    cases resolution with
    | resolved resource workloads => exact absurd (laid.isInitializing_iff.mpr ⟨rfl, rfl⟩) initializing
    | notFound => exact laid
    | forbidden scope => exact laid

theorem laid_markRefused (laid : Laid before after service workloads conditions) :
    Laid before after service (.false, Reason.workloadForbidden,
      "the controller does not have permission to update the workloads")
      (markRefused clock conditions) :=
  laid.set_workloads _

end Verdicts

section Bindings

variable (clock : Clock) (change : List Condition → List Condition)

theorem secretName_withConditions (binding : Binding) :
    (binding.withConditions change).secretName = binding.secretName := by
  cases status : binding.status with
  | none => simp [Binding.secretName, Binding.withConditions, Binding.statusOrDefault, status]
  | some found =>
      simp [Binding.secretName, Binding.withConditions, Binding.statusOrDefault, status]

/-- Conditions are no part of what is projected. -/
theorem imprint_withConditions (binding : Binding) :
    (binding.withConditions change).imprint? = binding.imprint? := by
  rw [Binding.imprint?, secretName_withConditions]
  rfl

theorem project_withConditions (binding : Binding) (workload : Object) :
    PodTemplate.project (binding.withConditions change) workload =
      PodTemplate.project binding workload := by
  unfold PodTemplate.project
  rw [imprint_withConditions]
  rfl

theorem metadata_recordSecret (resolution : ServiceResolution) (binding : Binding) :
    (recordSecret clock resolution binding).metadata = binding.metadata := by
  cases resolution <;> rfl

theorem spec_recordSecret (resolution : ServiceResolution) (binding : Binding) :
    (recordSecret clock resolution binding).spec = binding.spec := by
  cases resolution <;> rfl

/-- Recording the workloads changes the conditions of the binding and hands over what was
found. -/
theorem recordWorkloads_eq (resolution : WorkloadResolution) (progress : Progress) :
    ∃ change, (recordWorkloads clock resolution progress).binding =
      progress.binding.withConditions change := by
  cases resolution with
  | resolved resource workloads => exact ⟨_, rfl⟩
  | notFound => exact ⟨_, rfl⟩
  | forbidden scope => cases scope <;> exact ⟨_, rfl⟩

/-- From the workloads on, stages change nothing of the binding but its conditions. -/
theorem workloadStages_keep {Part : Type} {part : Binding → Part}
    (apart : ∀ change binding, part (binding.withConditions change) = part binding)
    {projector : Projector} {phase : Phase} {progress : Progress} {exchanges : Talk}
    {ending : Ending}
    (run : Dialogue.Runs (runStages clock projector phase workloadStages progress) exchanges
      ending) :
    part ending.1.binding = part progress.binding := by
  rcases runs_workloadStages clock projector phase _ _ _ run with
    ⟨failure, -, rfl⟩ | ⟨lists, writes, found, recorded, -, -, rfl, after⟩
  · rfl
  obtain ⟨change, marked⟩ := recordWorkloads_eq clock found progress
  have kept : part (recordWorkloads clock found progress).binding = part progress.binding := by
    rw [marked, apart]
  rcases after with ⟨failure, -, -, rfl⟩ | ⟨copies, -, wrote⟩
  · exact kept
  · rcases runs_patchAll wrote with ⟨rfl, -⟩ | ⟨rfl, -⟩ | ⟨halt, rfl⟩
    · exact (apart _ _).trans kept
    · exact (apart _ _).trans kept
    · exact kept

end Bindings

end BindingOperator
