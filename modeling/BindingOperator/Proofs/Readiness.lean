import BindingOperator.Proofs.Passes
import BindingOperator.Proofs.Recording
import BindingOperator.Proofs.Projection.Workloads

/-!
What `Ready` promises. A live pass marks the service and the workloads one after the other,
and only a run of writes without a refusal marks the workloads as projected. A binding that
is reported as ready therefore had its service resolved, and every workload that was
returned mounts the Secret in each of its containers or was gone when it was written.
-/

namespace BindingOperator

open Dialogue

section Mounting

/-- A volume that takes its files from a Secret. -/
def Sources (secret : String) (volume : Json) : Prop :=
  ∃ sources, volume.at? ["projected", "sources"] = some (.array sources) ∧
    ∃ source ∈ sources, source.at? ["secret", "name"] = some (.string secret)

/-- A workload has the Secret in the volume of a binding, and all containers mount it. -/
def Mounted (key secret : String) (workload : Object) : Prop :=
  ∃ template, workload.template? = some template ∧
    (∃ volume ∈ itemsOf "volumes" (fieldsOf "spec" template),
      entryName volume = some (volumeName key) ∧ Sources secret volume) ∧
    ∀ container ∈ containersOf (fieldsOf "spec" template), ∃ fields,
      container = .object fields ∧ ∃ mount ∈ itemsOf "volumeMounts" fields,
        entryName mount = some (volumeName key)

theorem sources_volumeEntry (imprint : Imprint) : Sources imprint.secret imprint.volumeEntry := by
  have named : (Json.record [("secret",
      some (Json.record [("name", some (.string imprint.secret))]))]).at? ["secret", "name"] =
      some (.string imprint.secret) := by
    simp [Json.at?, Json.lookup_record]
  refine ⟨_, by simp [Imprint.volumeEntry, Json.at?, Json.lookup_record]; rfl, _, ?_, named⟩
  split
  · exact List.mem_singleton_self _
  · exact List.mem_cons_self

theorem mounted_projectedTemplate (imprint : Imprint) (workload : Object) (path : List String)
    (template : Table Json) (located : Located workload path template) (shaped : Shaped template) :
    Mounted imprint.key imprint.secret
      (workload.withTemplateAt path (projectedTemplate imprint template)) := by
  refine ⟨projectedTemplate imprint template, template_withTemplateAt located _, ?_, ?_⟩
  · rw [spec_projected, itemsOf_array _ _ _ (lookup_volumes_projectedSpec imprint _ _)]
    exact ⟨imprint.volumeEntry, mem_putNamed_self _ _, entryName_volumeEntry imprint,
      sources_volumeEntry imprint⟩
  · intro container member
    rw [spec_projected, containersOf_projectedSpec] at member
    obtain ⟨item, present, rfl⟩ := List.mem_map.mp member
    obtain ⟨fields, name, named, -⟩ := shaped.containers item present
    refine ⟨projectedFields imprint _ fields, by simp only [projectedItem, named]; rfl, ?_⟩
    rw [itemsOf_mounts_projected]
    exact ⟨_, mem_putNamed_self _ _, entryName_mountEntry imprint _⟩

/-- Projecting a binding whose Secret is known mounts it. -/
theorem mounted_of_project (binding : Binding) (workload copy : Object) (secret : String)
    (known : binding.secretName = some secret)
    (projected : PodTemplate.project binding workload = .ok copy) :
    Mounted binding.key secret copy := by
  obtain ⟨imprint, imprinted, rfl⟩ := imprint_of_secret known
  obtain ⟨key, -, -⟩ := imprint_fields binding imprint imprinted
  obtain ⟨path, template, -, located, -⟩ := located_of_project binding workload copy projected
  rcases project_located binding imprint located imprinted with ⟨shaped, result⟩ | ⟨-, result⟩
  · rw [result, Except.ok.injEq] at projected
    rw [← projected, ← key]
    exact mounted_projectedTemplate imprint workload path template located shaped
  · simp [result] at projected

end Mounting

section Reporting

variable {clock : Clock} {before after : List Condition} {service : Condition.Verdict}

/-- A ready binding ended its writing without a refusal, on workloads that were found. -/
theorem ready_written (resolution : WorkloadResolution) (progress : Progress)
    (pairs : List (Object × Object)) (exchanges : Talk) (ending : Ending)
    (laid : Conditions.Laid before after service (lookedUpVerdict resolution)
      progress.binding.conditions)
    (alone : ∀ other ∈ after, other.type ≠ ConditionType.ready)
    (patched : Patched clock progress pairs exchanges ending)
    (ready : Condition) (member : ready ∈ ending.1.binding.conditions)
    (isReady : ready.type = ConditionType.ready) (holds : ready.status = .true) :
    ending = (progress.mark (markWritten clock), .ok ()) ∧ service.1 = .true ∧
      (∃ resource workloads, resolution = .resolved resource workloads) ∧
      ∀ pair ∈ pairs, Written progress.resource exchanges pair := by
  rcases patched with ⟨rfl, written⟩ | ⟨rfl, -⟩ | ⟨halt, rfl⟩
  · have ended : Conditions.Laid before after service (writtenVerdict resolution)
        (progress.mark (markWritten clock)).binding.conditions := laid_markWritten resolution laid
    obtain ⟨serviceTrue, workloadsTrue⟩ := ended.of_ready alone ready member isReady holds
    refine ⟨rfl, serviceTrue, ?_, written⟩
    cases resolution with
    | resolved resource workloads => exact ⟨resource, workloads, rfl⟩
    | notFound => exact absurd workloadsTrue (lookedUp_ne_true .notFound)
    | forbidden scope => exact absurd workloadsTrue (lookedUp_ne_true (.forbidden scope))
  · have ended : Conditions.Laid before after service _
        (progress.mark (markRefused clock)).binding.conditions := laid_markRefused laid
    exact absurd (ended.of_ready alone ready member isReady holds).2 (by simp)
  · exact absurd (laid.of_ready alone ready member isReady holds).2 (lookedUp_ne_true resolution)

/-- The stages of a live pass that ends with a true `Ready`: the service was resolved, the
workloads were found, and no write was refused. -/
theorem ready_stages (binding ended : Binding) (outcome : Except Halt Unit) (exchanges : Talk)
    (run : Runs (runPhase clock PodTemplate.projector .live (restartConditions clock .live binding))
      exchanges (ended, outcome))
    (distinct : (binding.conditions.map Condition.type).Nodup) (ready : Condition)
    (member : ready ∈ ended.conditions) (isReady : ready.type = ConditionType.ready)
    (holds : ready.status = .true) :
    ∃ secret resource workloads reads lists writes copies resolved,
      exchanges = reads ++ (lists ++ writes) ∧
      Runs (resolveService binding.namespaceName binding.spec.service) reads
        (.ok (.resolved secret)) ∧
      resolved = recordSecret clock (.resolved secret) (restartConditions clock .live binding) ∧
      Runs (resolveWorkloads binding.namespaceName binding.spec.workload) lists
        (.ok (.resolved resource workloads)) ∧
      projectAll PodTemplate.projector .live (resolved.withConditions id) workloads =
        .ok copies ∧
      ended = (resolved.withConditions id).withConditions (markWritten clock) ∧
      ∀ pair ∈ workloads.zip copies, Written (some resource) writes pair := by
  obtain ⟨before, after, started, -, lonely⟩ :=
    Conditions.laid_restarted clock binding.conditions
  have alone := lonely distinct
  -- every way to end early leaves a verdict that is not true, so `Ready` would not be either
  rcases runs_live clock _ _ _ _ _ run with
    ⟨failure, -, rfl, -⟩ | ⟨reads, rest, service, progress, rfl, read, later, rfl⟩
  · exact absurd (started.of_ready alone ready member isReady holds).1
      (by simp [Condition.initial])
  · have reported := laid_recordSecret clock service
      (restartConditions clock .live binding) started
    rcases runs_workloadStages clock _ _ _ _ _ later with
      ⟨failure, -, same⟩ | ⟨lists, writes, answer, recorded, rfl, lookedUp, rfl, wrote⟩
    · rw [Prod.mk.injEq] at same
      rw [same.1] at member
      exact absurd (reported.of_ready alone ready member isReady holds).2
        (by simp [Condition.initial])
    · have found := laid_recordWorkloads clock answer
        { binding := recordSecret clock service (restartConditions clock .live binding) } reported
      rcases wrote with ⟨failure, -, -, same⟩ | ⟨copies, projected, patching⟩
      · rw [Prod.mk.injEq] at same
        rw [same.1] at member
        exact absurd (found.of_ready alone ready member isReady holds).2 (lookedUp_ne_true answer)
      · obtain ⟨ending, serviceTrue, ⟨resource, workloads, rfl⟩, written⟩ :=
          ready_written answer
            { recordWorkloads clock answer
                { binding :=
                    recordSecret clock service (restartConditions clock .live binding) } with
              projected := copies } _ _ (progress, outcome) found alone (runs_patchAll patching)
            ready member isReady holds
        rw [Prod.mk.injEq] at ending
        cases service with
        | resolved secret =>
            refine ⟨secret, resource, workloads, reads, lists, writes, copies, _, rfl, read, rfl,
              lookedUp, projected, ?_, written⟩
            rw [ending.1]
            rfl
        | _ => simp [serviceVerdict] at serviceTrue

end Reporting

/-- A pass that computes a true `Ready` resolved the service to a Secret that has a name, and
recorded it; it resolved the workloads; and each workload that was returned has that Secret
mounted in all its containers, in the version that was read or that the cluster accepted,
unless it was gone when it was written. -/
theorem ready_mounts_secret {clock : Clock} {binding : Binding} {exchanges : Talk}
    {result : Except Halt Action}
    (pass : Pass clock PodTemplate.projector binding exchanges result)
    (live : binding.isDeleting = false)
    (distinct : (pass.finalized.conditions.map Condition.type).Nodup)
    (ready : Condition) (member : ready ∈ pass.status.conditions)
    (isReady : ready.type = ConditionType.ready) (holds : ready.status = .true) :
    ∃ secret resource workloads reads lists writes,
      pass.stages = reads ++ (lists ++ writes) ∧
      Runs (resolveService pass.finalized.namespaceName pass.finalized.spec.service) reads
        (.ok (.resolved secret)) ∧
      secret ≠ "" ∧ pass.status.secret = some secret ∧
      Runs (resolveWorkloads pass.finalized.namespaceName pass.finalized.spec.workload) lists
        (.ok (.resolved resource workloads)) ∧
      ∀ workload ∈ workloads, ∃ copy,
        PodTemplate.project pass.ended workload = .ok copy ∧
        Mounted pass.finalized.key secret copy ∧
        (copy = workload ∨ ∃ answer,
          (⟨.updateObject resource copy, answer⟩ : Exchange BindingCall.Answer) ∈ writes ∧
            ((∃ stored, answer = .ok stored) ∨
              ∃ failure, answer = .error failure ∧ failure.isNotFound = true)) := by
  have phase : Phase.of binding = .live := by simp [Phase.of, live]
  have ran := pass.ran
  rw [phase] at ran
  obtain ⟨condition, present, sameType, sameVerdict⟩ := Conditions.mem_carryTimes _ _ member
  have status : condition.status = .true := (congrArg Prod.fst sameVerdict).trans holds
  obtain ⟨secret, resource, workloads, reads, lists, writes, copies, resolved, parts, read, known,
    lookedUp, projected, ended, written⟩ := ready_stages pass.finalized pass.ended pass.outcome
      pass.stages ran distinct condition present (sameType.trans isReady) status
  have named := resolved_nonempty _ _ _ _ read
  refine ⟨secret, resource, workloads, reads, lists, writes, parts, read, named, ?_, lookedUp, ?_⟩
  · rw [Pass.status, ended, known]
    rfl
  · intro workload chosen
    obtain ⟨copy, paired, made⟩ := projectAll_pair _ _ _ _ _ projected workload chosen
    -- the conditions that were recorded since have no part in what is projected
    have settled : PodTemplate.project pass.ended workload = .ok copy := by
      rw [ended, project_withConditions]
      exact made
    have secretKnown : pass.ended.secretName = some secret := by
      rw [ended, secretName_withConditions, secretName_withConditions, known]
      simp [recordSecret, Binding.secretName, Binding.withSecret, named]
    have mounted := mounted_of_project pass.ended workload copy secret secretKnown settled
    refine ⟨copy, settled, ?_, ?_⟩
    · rw [ended, known] at mounted
      exact mounted
    · rcases written _ paired with unchanged | ⟨served, same, answer, held, passed⟩
      · exact .inl unchanged.symm
      · exact .inr ⟨answer, Option.some.inj same ▸ held, passed⟩

section Sample

def livingBinding : Binding where
  metadata := { name := some "orders", finalizers := some [bindingFinalizer] }
  spec := {
    workload := { apiVersion := "apps/v1", kind := "Deployment", name := some "web" }
    service := { apiVersion := "v1", kind := "Secret", name := "db" }
    env := [{ name := "URL", key := "url" }] }

def livingWorkload : Object where
  metadata := { name := some "web" }
  body := [("spec", .object [("template", .object [("spec", .object [("containers",
    .array [.object [("name", .string "app")]])])])])]

/-- A server that has the workload and takes every write. -/
def livingAnswer (_ : Unit) (call : BindingCall) : call.Answer × Unit :=
  (match call with
    | .resolve kind => .ok (kind.resource "deployments")
    | .getObject .. => .ok livingWorkload
    | .listObjects .. => .ok [livingWorkload]
    | .updateObject _ object => .ok object
    | .patchFinalizers binding finalizers => .ok (binding.withFinalizers finalizers)
    | .updateStatus binding => .ok binding
    | .publish .. => (), ())

def livingStages : Talk × (Binding × Except Halt Unit) × Unit :=
  transcript livingAnswer (runPhase (.ticking 0) PodTemplate.projector (Phase.of livingBinding)
    (restartConditions (.ticking 0) (Phase.of livingBinding) livingBinding)) ()

def livingClosing : Talk × Except Halt Action × Unit :=
  transcript livingAnswer (settle (Phase.of livingBinding) livingBinding.status livingStages.2.1.1
    livingStages.2.1.2) ()

def livingPass : Pass (.ticking 0) PodTemplate.projector livingBinding
    (livingStages.1 ++ livingClosing.1) livingClosing.2.1 where
  finalized := livingBinding
  opening := []
  stages := livingStages.1
  closing := livingClosing.1
  ended := livingStages.2.1.1
  outcome := livingStages.2.1.2
  split := rfl
  opened := .inl ⟨by decide +kernel, rfl, rfl⟩
  ran := runs_transcript _ _ _
  closed := runs_transcript _ _ _

theorem living_pass_mounts_secret :
    ∃ secret resource workloads lists, secret ≠ "" ∧ livingPass.status.secret = some secret ∧
      Runs (resolveWorkloads livingBinding.namespaceName livingBinding.spec.workload) lists
        (.ok (.resolved resource workloads)) ∧
      ∀ workload ∈ workloads, ∃ copy,
        PodTemplate.project livingPass.ended workload = .ok copy ∧
        Mounted livingBinding.key secret copy := by
  have reported : ∃ ready ∈ livingPass.status.conditions,
      ready.type = ConditionType.ready ∧ ready.status = .true := by decide +kernel
  obtain ⟨ready, member, isReady, holds⟩ := reported
  obtain ⟨secret, resource, workloads, reads, lists, writes, -, -, named, recorded, found,
    mounted⟩ := ready_mounts_secret livingPass (by decide) (by decide) ready member isReady holds
  refine ⟨secret, resource, workloads, lists, named, recorded, found, ?_⟩
  intro workload chosen
  obtain ⟨copy, projected, carried, -⟩ := mounted workload chosen
  exact ⟨copy, projected, carried⟩

end Sample

end BindingOperator
