import BindingOperator.Proofs.Recording

/-!
What a live pass reports. Its status is computed from the binding that it read, from the
verdicts on the service and on the workloads, and from the conditions that were stored; the
version of the binding and the time of the pass have no part in it once the same verdicts
have been reported before.
-/

namespace BindingOperator

open Conditions

section Essence

/-- What counts in a binding besides its version and the conditions. -/
def Binding.essence (binding : Binding) : Metadata × BindingSpec × Option String :=
  ({ binding.metadata with resourceVersion := none }, binding.spec,
    binding.statusOrDefault.secret)

variable {one other : Binding} (same : one.essence = other.essence)
include same

theorem imprint_of_essence : one.imprint? = other.imprint? := by
  -- an imprint is written out as a function of the essence
  have stated : ∀ binding : Binding, binding.imprint? =
      (fun essence : Metadata × BindingSpec × Option String =>
        (essence.2.2.filter (· ≠ "")).map fun secret =>
          { key := (essence.1.uid.filter (· ≠ "")).getD essence.1.nameAny
            name := ((essence.2.1.name.filter (· ≠ "")).or essence.1.name).getD ""
            secret
            type := essence.2.1.type
            provider := essence.2.1.provider
            env := essence.2.1.env : Imprint }) binding.essence := by
    intro binding
    unfold Binding.imprint? Binding.secretName Binding.essence Binding.statusOrDefault
    cases binding.status <;> rfl
  rw [stated, stated, same]

/-- Projecting depends on the essence of a binding only. -/
theorem project_of_essence (workload : Object) :
    PodTemplate.project one workload = PodTemplate.project other workload := by
  have key : one.key = other.key :=
    congrArg (fun essence => (essence.1.uid.filter (· ≠ "")).getD essence.1.nameAny) same
  unfold PodTemplate.project PodTemplate.unproject
  rw [imprint_of_essence same, key]

end Essence

section Reporting

variable (clock : Clock) (binding : Binding)

/-- The Secret that a binding has recorded after its service was resolved. -/
def ServiceResolution.secretAfter (stored : Option String) : ServiceResolution → Option String
  | .resolved secret => some secret
  | .missingBinding => none
  | .notFound => stored
  | .forbidden => stored

theorem essence_withConditions (change : List Condition → List Condition) :
    (binding.withConditions change).essence = binding.essence := rfl

theorem essence_recordSecret (service : ServiceResolution) :
    (recordSecret clock service binding).essence =
      ({ binding.metadata with resourceVersion := none }, binding.spec,
        service.secretAfter binding.statusOrDefault.secret) := by
  cases service <;> rfl

/-- The binding before the writes, when the service and the workloads were resolved. -/
def resolvedBinding (clock : Clock) (service : ServiceResolution) (workloads : WorkloadResolution)
    (binding : Binding) : Binding :=
  (recordWorkloads clock workloads
    { binding := recordSecret clock service (restartConditions clock .live binding) }).binding

theorem essence_resolvedBinding (service : ServiceResolution) (workloads : WorkloadResolution) :
    (resolvedBinding clock service workloads binding).essence =
      ({ binding.metadata with resourceVersion := none }, binding.spec,
        service.secretAfter binding.statusOrDefault.secret) := by
  obtain ⟨change, same⟩ := recordWorkloads_eq clock workloads
    { binding := recordSecret clock service (restartConditions clock .live binding) }
  rw [resolvedBinding, same, essence_withConditions, essence_recordSecret]
  rfl

theorem metadata_resolvedBinding (service : ServiceResolution) (workloads : WorkloadResolution) :
    (resolvedBinding clock service workloads binding).metadata = binding.metadata := by
  obtain ⟨change, same⟩ := recordWorkloads_eq clock workloads
    { binding := recordSecret clock service (restartConditions clock .live binding) }
  rw [resolvedBinding, same]
  exact metadata_recordSecret clock service _

theorem spec_resolvedBinding (service : ServiceResolution) (workloads : WorkloadResolution) :
    (resolvedBinding clock service workloads binding).spec = binding.spec :=
  congrArg (fun essence => essence.2.1) (essence_resolvedBinding clock binding service workloads)

theorem laid_resolvedBinding {before after : List Condition} (service : ServiceResolution)
    (workloads : WorkloadResolution)
    (laid : Laid before after Condition.initial Condition.initial
      (reset clock (Stage.conditionsOfPhase .live) binding.conditions)) :
    Laid before after (serviceVerdict service) (writtenVerdict workloads)
      ((resolvedBinding clock service workloads binding).withConditions
        (markWritten clock)).conditions := by
  have started : Laid before after Condition.initial Condition.initial
      (restartConditions clock .live binding).conditions := laid
  exact laid_markWritten workloads (laid_recordWorkloads clock workloads _
    (laid_recordSecret clock service _ started))

/-- Conditions as a pass left them: laid out, with the times of those stored before it. -/
def Reported (service workloads : Condition.Verdict) (conditions : List Condition) : Prop :=
  ∃ before after stored laid, Laid before after service workloads laid ∧
    (∀ condition ∈ before ++ after, condition ∈ stored) ∧ conditions = carryTimes stored laid

theorem reported_first (service : ServiceResolution) (workloads : WorkloadResolution) :
    Reported (serviceVerdict service) (writtenVerdict workloads)
      (carryTimes binding.conditions
        ((resolvedBinding clock service workloads binding).withConditions
          (markWritten clock)).conditions) := by
  obtain ⟨before, after, started, within, -⟩ := laid_restarted clock binding.conditions
  exact ⟨before, after, binding.conditions, _,
    laid_resolvedBinding clock binding service workloads started, within, rfl⟩

/-- A pass with the same verdicts reports the same conditions, whenever it is run. -/
theorem reported_again (service : ServiceResolution) (workloads : WorkloadResolution)
    (reported : Reported (serviceVerdict service) (writtenVerdict workloads) binding.conditions) :
    carryTimes binding.conditions
        ((resolvedBinding clock service workloads binding).withConditions
          (markWritten clock)).conditions = binding.conditions := by
  obtain ⟨before, after, stored, laid, layout, within, same⟩ := reported
  -- the reset finds the layout of the stored conditions, whatever their times are
  have restarted : Laid _ _ Condition.initial Condition.initial
      (reset clock (Stage.conditionsOfPhase .live) _) := (layout.carried stored).restarted
  rw [← same] at restarted
  have again := laid_resolvedBinding clock binding service workloads restarted
  have carried := carryTimes_again stored layout within again
  rwa [← same] at carried

theorem computedStatus_eq (binding ended : Binding) :
    computedStatus binding.status ended = {
      observedGeneration := ended.metadata.generation
      conditions := carryTimes binding.conditions ended.conditions
      secret := ended.statusOrDefault.secret } := by
  unfold computedStatus Binding.conditions Binding.statusOrDefault
  cases binding.status <;> rfl

/-- The status that a live pass computes when the writes went well. -/
theorem computedStatus_resolved (service : ServiceResolution) (workloads : WorkloadResolution) :
    computedStatus binding.status
        ((resolvedBinding clock service workloads binding).withConditions (markWritten clock)) = {
      observedGeneration := binding.metadata.generation
      conditions := carryTimes binding.conditions
        ((resolvedBinding clock service workloads binding).withConditions
          (markWritten clock)).conditions
      secret := service.secretAfter binding.statusOrDefault.secret } := by
  have essence := essence_resolvedBinding clock binding service workloads
  rw [computedStatus_eq]
  congr 1
  · exact congrArg (fun essence => essence.1.generation) essence
  · exact congrArg (fun essence => essence.2.2) essence

end Reporting

end BindingOperator
