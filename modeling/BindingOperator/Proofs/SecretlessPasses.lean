import BindingOperator.Proofs.FinalizerRelease
import BindingOperator.Proofs.Outages

/-!
Passes without a Secret. A live pass whose binding has no Secret takes the binding out of the
workloads that it finds. The stage that marks the condition on the workloads knows nothing of
that: it asks whether the writing went through, so the workloads are reported as projected
when every one of them was cleared.
-/

namespace BindingOperator

open Dialogue Conditions ConditionType

section Reporting

variable {before after conditions : List Condition} {service workloads : Condition.Verdict}

/-- The conditions say that the workloads are projected. -/
def ReportsProjected (conditions : List Condition) : Prop :=
  ∃ condition ∈ conditions, condition.type = workloadProjected ∧ condition.status = .true

/-- A layout says of the workloads what its verdict on them says, wherever the condition is
looked for. -/
theorem Conditions.Laid.reportsProjected_iff
    (laid : Laid before after service workloads conditions) :
    ReportsProjected conditions ↔ workloads.1 = .true := by
  obtain ⟨early, late, main, available, projected, rfl, isReady, -, isService, -, isWorkloads,
    rfl⟩ := laid
  constructor
  · rintro ⟨condition, member, named, holds⟩
    simp only [List.mem_append, List.mem_cons, List.not_mem_nil, or_false] at member
    rcases member with first | rfl | second | rfl | rfl
    · exact absurd (named ▸ by simp [dependents]) (early condition first)
    · exact absurd (named.symm.trans isReady) workload_ne_ready
    · exact absurd (named ▸ by simp [dependents]) (late condition second)
    · exact absurd (named.symm.trans isService) workload_ne_service
    · exact holds
  · exact fun holds => ⟨projected, by simp, isWorkloads, holds⟩

end Reporting

section Writing

variable {clock : Clock} {found : Progress} {writes : Talk} {ended : Binding}
  {outcome : Except Halt Unit}

/-- What becomes of the workloads that were found: a copy of each one is taken, a copy is
refused, or the writing halts before anything is recorded. -/
inductive Finished (clock : Clock) (found : Progress) (writes : Talk) :
    Binding → Except Halt Unit → Prop where
  | complete (unrefused : ∀ exchange ∈ writes, ¬ Refused exchange)
      (taken : ∀ workload ∈ found.workloads, ∃ copy,
        PodTemplate.project found.binding workload = .ok copy ∧
          Written found.resource writes (workload, copy)) :
      Finished clock found writes (found.binding.withConditions (markWritten clock)) (.ok ())
  | refused (exchange : Exchange BindingCall.Answer) (said : exchange ∈ writes)
      (denied : Refused exchange) :
      Finished clock found writes (found.binding.withConditions (markRefused clock)) (.ok ())
  | halted (halt : Halt) : Finished clock found writes found.binding (.error halt)

theorem finished_patchAll {copies : List Object} {ending : Ending}
    (copied : projectAll PodTemplate.projector .live found.binding found.workloads = .ok copies)
    (run : Runs (patchAll clock { found with projected := copies } (found.workloads.zip copies))
      writes ending) : Finished clock found writes ending.1.binding ending.2 := by
  by_cases denied : ∃ exchange ∈ writes, Refused exchange
  · obtain ⟨exchange, said, denied⟩ := denied
    obtain ⟨rfl, -⟩ := refused_patchAll run exchange said denied
    exact .refused exchange said denied
  · have unrefused : ∀ exchange ∈ writes, ¬ Refused exchange :=
      fun exchange said refused => denied ⟨exchange, said, refused⟩
    rcases runs_patchAll run with ⟨rfl, written⟩ | ⟨-, served, copy, failure, forbidden, said⟩ |
      ⟨halt, rfl⟩
    · refine .complete unrefused fun workload chosen => ?_
      obtain ⟨copy, paired, made⟩ := projectAll_pair _ _ _ _ _ copied workload chosen
      exact ⟨copy, made, written _ paired⟩
    · exact absurd forbidden (unrefused _ said)
    · exact .halted halt

namespace Finished

variable (finished : Finished clock found writes ended outcome)
include finished

/-- The condition on the workloads tells whether the writing went through, and nothing of what
was written. -/
theorem reportsProjected_iff {before after : List Condition} {service : Condition.Verdict}
    (stored : List Condition)
    (laid : Laid before after service Condition.initial found.binding.conditions) :
    ReportsProjected (carryTimes stored ended.conditions) ↔
      outcome = .ok () ∧ ∀ exchange ∈ writes, ¬ Refused exchange := by
  cases finished with
  | complete unrefused taken =>
      have marked : Laid before after service (.true, Reason.workloadProjected, "")
          (found.binding.withConditions (markWritten clock)).conditions :=
        laid_markWritten (.resolved default []) laid
      exact iff_of_true ((marked.carried stored).reportsProjected_iff.mpr rfl) ⟨rfl, unrefused⟩
  | refused exchange said denied =>
      have marked : Laid before after service _
          (found.binding.withConditions (markRefused clock)).conditions := laid_markRefused laid
      refine iff_of_false (fun reported => ?_) fun well => well.2 exchange said denied
      exact absurd ((marked.carried stored).reportsProjected_iff.mp reported) (by simp)
  | halted halt =>
      refine iff_of_false (fun reported => ?_) (by simp)
      exact absurd ((laid.carried stored).reportsProjected_iff.mp reported)
        (by simp [Condition.initial])

theorem taken_of_ok (well : outcome = .ok ()) (unrefused : ∀ exchange ∈ writes, ¬ Refused exchange)
    (workload : Object) (chosen : workload ∈ found.workloads) :
    ∃ copy, PodTemplate.project found.binding workload = .ok copy ∧
      Written found.resource writes (workload, copy) := by
  cases finished with
  | complete _ taken => exact taken workload chosen
  | refused exchange said denied => exact absurd denied (unrefused exchange said)
  | halted halt => simp at well

/-- The Secret that the pass ends with is the one that was projected. -/
theorem secretName_ended : ended.secretName = found.binding.secretName := by
  cases finished with
  | complete => exact secretName_withConditions _ _
  | refused => exact secretName_withConditions _ _
  | halted => rfl

end Finished

end Writing

section Passes

variable {clock : Clock} {binding : Binding} {exchanges : Talk} {result : Except Halt Action}
  {resource : Resource} {workloads : List Object} {writes : Talk}

/-- The pass resolved its reference to these workloads, and said the rest after that. -/
def Pass.Resolves (pass : Pass clock PodTemplate.projector binding exchanges result)
    (resource : Resource) (workloads : List Object) (writes : Talk) : Prop :=
  ∃ reads lists service, pass.stages = reads ++ (lists ++ writes) ∧
    Runs (resolveService pass.finalized.namespaceName pass.finalized.spec.service) reads
      (.ok service) ∧
    Runs (resolveWorkloads pass.finalized.namespaceName pass.finalized.spec.workload) lists
      (.ok (.resolved resource workloads))

theorem Pass.Resolves.finished {pass : Pass clock PodTemplate.projector binding exchanges result}
    (resolves : pass.Resolves resource workloads writes) (live : binding.isDeleting = false) :
    ∃ (found : Progress) (before after : List Condition) (service : Condition.Verdict),
      found.resource = some resource ∧ found.workloads = workloads ∧
      found.binding.metadata = pass.finalized.metadata ∧
      Laid before after service Condition.initial found.binding.conditions ∧
      Finished clock found writes pass.ended pass.outcome := by
  have phase : Phase.of binding = .live := by simp [Phase.of, live]
  have ran := pass.ran
  rw [phase] at ran
  obtain ⟨reads, lists, service, parts, read, lookedUp⟩ := resolves
  obtain ⟨before, after, started, -, -⟩ := laid_restarted clock pass.finalized.conditions
  -- a dialogue is settled by its answers, so the stages come to what the resolutions came to
  rcases runs_live clock _ _ _ _ _ ran with
    ⟨failure, failed, -, -⟩ | ⟨others, rest, answer, progress, split, again, later, ended⟩
  · have whole : pass.stages ++ [] = reads ++ (lists ++ writes) := by rw [List.append_nil, parts]
    exact absurd (runs_unique failed read whole).2.1 (by simp)
  obtain ⟨rfl, same, rfl⟩ := runs_unique again read (split.symm.trans parts)
  obtain rfl := Except.ok.inj same
  have asked : Runs (resolveWorkloads
      (recordSecret clock answer (restartConditions clock .live pass.finalized)).namespaceName
      (recordSecret clock answer (restartConditions clock .live pass.finalized)).spec.workload)
      lists (.ok (.resolved resource workloads)) := by
    cases answer <;> exact lookedUp
  rcases runs_workloadStages clock _ _ _ _ _ later with
    ⟨failure, failed, -⟩ | ⟨others, rest, resolution, recorded, split, again, rfl, step⟩
  · have whole : (lists ++ writes) ++ [] = lists ++ writes := List.append_nil _
    exact absurd (runs_unique failed asked whole).2.1 (by simp)
  obtain ⟨rfl, same, rfl⟩ := runs_unique again asked split.symm
  obtain rfl := Except.ok.inj same
  refine ⟨recordWorkloads clock (.resolved resource workloads)
    { binding := recordSecret clock answer (restartConditions clock .live pass.finalized) },
    before, after, _, rfl, rfl, metadata_recordSecret clock answer _,
    laid_recordSecret clock answer _ started, ?_⟩
  rw [ended]
  rcases step with ⟨failure, -, -, same⟩ | ⟨copies, copied, run⟩
  · obtain ⟨rfl, halted⟩ := Prod.mk.inj same
    rw [halted]
    exact .halted _
  · exact finished_patchAll copied run

/-- A live pass that ends without a Secret reports the workloads that it found as projected
exactly when it went well and no write was refused; and then it has taken the binding out of
every one of them. -/
theorem secretless_pass_reports (pass : Pass clock PodTemplate.projector binding exchanges result)
    (live : binding.isDeleting = false) (secretless : pass.ended.secretName = none)
    (resolves : pass.Resolves resource workloads writes) :
    (ReportsProjected pass.status.conditions ↔
        pass.outcome = .ok () ∧ ∀ exchange ∈ writes, ¬ Refused exchange) ∧
      (ReportsProjected pass.status.conditions → ∀ workload ∈ workloads, ∃ copy,
        PodTemplate.unproject pass.finalized workload = .ok copy ∧
          Written (some resource) writes (workload, copy) ∧
          (workload.Canonical → Cleared pass.finalized.key workload copy)) := by
  obtain ⟨found, before, after, service, served, listed, kept, laid, finished⟩ :=
    resolves.finished live
  have reports : ReportsProjected pass.status.conditions ↔
      pass.outcome = .ok () ∧ ∀ exchange ∈ writes, ¬ Refused exchange := by
    rw [Pass.status, computedStatus_eq]
    exact finished.reportsProjected_iff pass.finalized.conditions laid
  refine ⟨reports, fun reported workload chosen => ?_⟩
  obtain ⟨well, unrefused⟩ := reports.mp reported
  obtain ⟨copy, made, written⟩ := finished.taken_of_ok well unrefused workload (listed ▸ chosen)
  have bare : found.binding.imprint? = none := by
    rw [Binding.imprint?, ← finished.secretName_ended, secretless]
    rfl
  have removed : PodTemplate.unproject pass.finalized workload = .ok copy := by
    rw [project_without_secret _ _ bare] at made
    rwa [PodTemplate.unproject, key_of_metadata _ _ kept.symm]
  exact ⟨copy, removed, served ▸ written, fun canonical =>
    cleared_unproject _ _ _ copy.metadata.resourceVersion canonical removed⟩

end Passes

section Sample

/-- A server that has the database, which publishes no Secret any more, and a workload that
still has the volume of the binding. -/
def retractingAnswer (_ : Unit) (call : BindingCall) : call.Answer × Unit :=
  (match call with
    | .resolve kind => .ok (kind.resource "resources")
    | .getObject resource _ name =>
        .ok (if resource.kind = "Database" then { metadata := { name := some name }, body := [] }
          else boundWorkload)
    | .listObjects .. => .ok [boundWorkload]
    | .updateObject _ object => .ok object
    | .patchFinalizers binding finalizers => .ok (binding.withFinalizers finalizers)
    | .updateStatus binding => .ok binding
    | .publish .. => (), ())

def retractedStages : Talk × (Binding × Except Halt Unit) × Unit :=
  transcript retractingAnswer (runPhase (.ticking 0) PodTemplate.projector (Phase.of awayBinding)
    (restartConditions (.ticking 0) (Phase.of awayBinding) awayBinding)) ()

def retractedClosing : Talk × Except Halt Action × Unit :=
  transcript retractingAnswer (settle (Phase.of awayBinding) awayBinding.status
    retractedStages.2.1.1 retractedStages.2.1.2) ()

def retractedPass : Pass (.ticking 0) PodTemplate.projector awayBinding
    (retractedStages.1 ++ retractedClosing.1) retractedClosing.2.1 where
  finalized := awayBinding
  opening := []
  stages := retractedStages.1
  closing := retractedClosing.1
  ended := retractedStages.2.1.1
  outcome := retractedStages.2.1.2
  split := rfl
  opened := .inl ⟨by decide +kernel, rfl, rfl⟩
  ran := runs_transcript _ _ _
  closed := runs_transcript _ _ _

/-- The status names no Secret and says that the workload is projected; what was written is
the workload without the binding. -/
theorem retracted_pass_reports :
    retractedPass.status.secret = none ∧ ReportsProjected retractedPass.status.conditions ∧
      ∃ copy, copy ≠ boundWorkload ∧ Cleared awayBinding.key boundWorkload copy ∧
        Written (some (awayBinding.spec.workload.kindOf.resource "resources"))
          (retractedStages.1.drop 4) (boundWorkload, copy) := by
  have resolves : retractedPass.Resolves (awayBinding.spec.workload.kindOf.resource "resources")
      [boundWorkload] (retractedStages.1.drop 4) :=
    ⟨_, _, .missingBinding, rfl, runs_transcript retractingAnswer _ (),
      runs_transcript retractingAnswer _ ()⟩
  obtain ⟨reports, cleared⟩ := secretless_pass_reports retractedPass (by decide) (by decide +kernel)
    resolves
  have reported : ReportsProjected retractedPass.status.conditions :=
    reports.mpr ⟨by decide +kernel, by decide +kernel⟩
  obtain ⟨copy, removed, written, clear⟩ := cleared reported boundWorkload (by simp)
  have changes : PodTemplate.unproject awayBinding boundWorkload ≠ .ok boundWorkload := by
    decide +kernel
  exact ⟨by decide +kernel, reported, copy, fun same => changes (same ▸ removed),
    clear canonical_boundWorkload, written⟩

end Sample

end BindingOperator
