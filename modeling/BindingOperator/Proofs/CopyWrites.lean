import BindingOperator.Proofs.IdleDeletion
import BindingOperator.Proofs.ReadySync

/-!
What a pass writes of the workloads it found. All of them are copied first, so that one which
cannot be projected keeps the pass from writing any. The copies that differ are then written
in the order of their workloads until a write is refused or fails; those before it stay
written. No other stage touches the condition on the workloads once they are found.
-/

namespace BindingOperator

open Dialogue Conditions ConditionType

section Lookups

variable {clock : Clock} {projector : Projector} {phase : Phase}

/-- The stages before the projection. -/
def lookups : Phase → List Stage
  | .live => [.resolveSecret, .resolveWorkloads]
  | .deleting => [.resolveWorkloads]

theorem ofPhase_eq (phase : Phase) :
    Stage.ofPhase phase = lookups phase ++ [.project, .patchWorkloads] := by
  cases phase <;> decide

theorem runs_runStages_append {first second : List Stage} {start : Progress} {exchanges : Talk}
    {ending : Ending}
    (run : Runs (runStages clock projector phase (first ++ second) start) exchanges ending) :
    ∃ early middle late, exchanges = early ++ late ∧
      Runs (runStages clock projector phase first start) early middle ∧
        ((∃ halt, middle.2 = .error halt ∧ late = [] ∧ ending = (middle.1, .error halt)) ∨
          (middle.2 = .ok () ∧
            Runs (runStages clock projector phase second middle.1) late ending)) := by
  induction first generalizing start exchanges with
  | nil =>
      exact ⟨[], (start, .ok ()), exchanges, rfl,
        (runs_runStages_nil clock projector phase _ _ _).mpr ⟨rfl, rfl⟩, .inr ⟨rfl, run⟩⟩
  | cons stage rest ih =>
      obtain ⟨said, middle, later, rfl, this, others⟩ :=
        (runs_runStages_cons clock projector phase _ _ _ _ _).mp run
      rcases others with ⟨halt, failed, rfl, rfl⟩ | ⟨well, others⟩
      · refine ⟨said, (middle.1, .error halt), [], rfl, ?_, .inl ⟨halt, rfl, rfl, rfl⟩⟩
        exact (runs_runStages_cons clock projector phase _ _ _ _ _).mpr
          ⟨said, middle, [], by simp, this, .inl ⟨halt, failed, rfl, rfl⟩⟩
      · obtain ⟨early, reached, late, rfl, went, after⟩ := ih others
        refine ⟨said ++ early, reached, late, (List.append_assoc _ _ _).symm, ?_, after⟩
        exact (runs_runStages_cons clock projector phase _ _ _ _ _).mpr
          ⟨said, middle, early, rfl, this, .inr ⟨well, went⟩⟩

/-- Workloads are only kept together with the resource that serves them. -/
def Progress.Sourced (progress : Progress) : Prop :=
  progress.workloads ≠ [] → ∃ resource, progress.resource = some resource

/-- What looking up comes to: it writes nothing, and ends early only by a failure. -/
structure LookedUp (exchanges : Talk) (ending : Ending) : Prop where
  reads : ∀ exchange ∈ exchanges, exchange.1.writes = false
  sourced : ending.1.Sourced
  unbroken : ∀ breach, ending.2 ≠ .error (.breach breach)

theorem sourced_recordWorkloads (resolution : WorkloadResolution) {progress : Progress}
    (sourced : progress.Sourced) : (recordWorkloads clock resolution progress).Sourced := by
  cases resolution with
  | resolved resource workloads => exact fun _ => ⟨resource, rfl⟩
  | notFound => exact sourced
  | forbidden scope => cases scope <;> exact sourced

theorem lookedUp_stage {stage : Stage} {start : Progress} {exchanges : Talk} {ending : Ending}
    (looks : stage = .resolveSecret ∨ stage = .resolveWorkloads) (sourced : start.Sourced)
    (run : Runs (stage.run clock projector phase start) exchanges ending) :
    LookedUp exchanges ending := by
  rcases looks with rfl | rfl
  · obtain ⟨answer, read, rfl⟩ := (runs_resolveSecretStage clock _ _ _).mp run
    have reads := resolveService_reads read
    cases answer with
    | error failure => exact ⟨reads, sourced, by simp [afterService]⟩
    | ok service => exact ⟨reads, sourced, by simp [afterService]⟩
  · obtain ⟨answer, read, rfl⟩ := (runs_resolveWorkloadsStage clock _ _ _).mp run
    have reads := resolveWorkloads_reads read
    cases answer with
    | error failure => exact ⟨reads, sourced, by simp [afterWorkloads]⟩
    | ok found => exact ⟨reads, sourced_recordWorkloads found sourced, by simp [afterWorkloads]⟩

theorem lookedUp_stages {stages : List Stage} {start : Progress} {exchanges : Talk}
    {ending : Ending} (look : ∀ stage ∈ stages, stage = .resolveSecret ∨ stage = .resolveWorkloads)
    (sourced : start.Sourced)
    (run : Runs (runStages clock projector phase stages start) exchanges ending) :
    LookedUp exchanges ending := by
  induction stages generalizing start exchanges with
  | nil =>
      obtain ⟨rfl, rfl⟩ := (runs_runStages_nil clock projector phase _ _ _).mp run
      exact ⟨by simp, sourced, by simp⟩
  | cons stage rest ih =>
      rw [List.forall_mem_cons] at look
      obtain ⟨said, middle, later, rfl, this, others⟩ :=
        (runs_runStages_cons clock projector phase _ _ _ _ _).mp run
      have first := lookedUp_stage look.1 sourced this
      rcases others with ⟨halt, failed, rfl, rfl⟩ | ⟨-, others⟩
      · exact ⟨by simpa using first.reads, first.sourced, failed ▸ first.unbroken⟩
      · have after := ih look.2 first.sourced others
        refine ⟨fun exchange member => ?_, after.sourced, after.unbroken⟩
        rcases List.mem_append.mp member with early | late
        · exact first.reads exchange early
        · exact after.reads exchange late

theorem lookedUp_lookups {binding : Binding} {exchanges : Talk} {ending : Ending}
    (run : Runs (runStages clock projector phase (lookups phase) { binding }) exchanges ending) :
    LookedUp exchanges ending := by
  refine lookedUp_stages ?_ (fun some => absurd rfl some) run
  cases phase <;> simp [lookups]

end Lookups

section Copies

variable {projector : Projector} {phase : Phase} {binding : Binding} {workloads : List Object}

/-- The first workload, in their order, that cannot be projected, and why. -/
def FirstFailure (projector : Projector) (phase : Phase) (binding : Binding)
    (workloads : List Object) (failure : Failure) : Prop :=
  ∃ before workload after, workloads = before ++ workload :: after ∧
    (∀ earlier ∈ before, ∃ copy, applied projector phase binding earlier = .ok copy) ∧
    applied projector phase binding workload = .error failure

theorem projectAll_first {failure : Failure}
    (fails : projectAll projector phase binding workloads = .error failure) :
    FirstFailure projector phase binding workloads failure := by
  induction workloads with
  | nil => simp [projectAll] at fails
  | cons workload rest ih =>
      rcases projectAll_cons_error.mp fails with first | ⟨copy, first, others⟩
      · exact ⟨[], workload, rest, rfl, by simp, first⟩
      · obtain ⟨before, failing, after, rfl, well, failed⟩ := ih others
        exact ⟨workload :: before, failing, after, rfl,
          List.forall_mem_cons.mpr ⟨⟨copy, first⟩, well⟩, failed⟩

/-- The copies that differ from their workloads, in order. -/
def changedCopies (pairs : List (Object × Object)) : List Object :=
  (pairs.filter fun pair => pair.1 ≠ pair.2).map Prod.snd

theorem metadata_applied {workload copy : Object}
    (made : applied PodTemplate.projector phase binding workload = .ok copy) :
    copy.metadata = workload.metadata := by
  rw [applied_step] at made
  exact ProjectionStep.metadata_run _ _ _ made

end Copies

section Sending

/-- A copy that was sent, and what was answered. -/
abbrev Attempt := Object × Except Failure Object

/-- The calls are these attempts at the served resource, one after the other. -/
def Sends (served : Option Resource) (attempts : List Attempt) (exchanges : Talk) : Prop :=
  attempts.Forall₂ (fun attempt exchange => ∃ resource, served = some resource ∧
    exchange = ⟨.updateObject resource attempt.1, attempt.2⟩) exchanges

/-- Every copy was sent, and no answer ended the sending. -/
def SendsAll (served : Option Resource) (copies : List Object) (exchanges : Talk) : Prop :=
  ∃ attempts, attempts.map Prod.fst = copies ∧ (∀ attempt ∈ attempts, Passes attempt.2) ∧
    Sends served attempts exchanges

/-- Copies were sent up to and with the first one that was answered by a failure other than
a missing workload. -/
def SendsUpTo (served : Option Resource) (copies : List Object) (failure : Failure)
    (exchanges : Talk) : Prop :=
  ∃ passed copy rest, copies = passed.map Prod.fst ++ copy :: rest ∧
    (∀ attempt ∈ passed, Passes attempt.2) ∧ failure.isNotFound = false ∧
    Sends served (passed ++ [(copy, .error failure)]) exchanges

variable {served : Option Resource} {copies : List Object} {failure : Failure} {exchanges : Talk}
  {copy : Object} {answer : Except Failure Object} {resource : Resource}

theorem SendsAll.cons (sent : SendsAll served copies exchanges) (passes : Passes answer)
    (known : served = some resource) :
    SendsAll served (copy :: copies) (⟨.updateObject resource copy, answer⟩ :: exchanges) := by
  obtain ⟨attempts, rfl, passed, calls⟩ := sent
  exact ⟨(copy, answer) :: attempts, rfl, List.forall_mem_cons.mpr ⟨passes, passed⟩,
    .cons ⟨resource, known, rfl⟩ calls⟩

theorem SendsUpTo.cons (sent : SendsUpTo served copies failure exchanges) (passes : Passes answer)
    (known : served = some resource) :
    SendsUpTo served (copy :: copies) failure
      (⟨.updateObject resource copy, answer⟩ :: exchanges) := by
  obtain ⟨passed, last, rest, rfl, passing, present, calls⟩ := sent
  exact ⟨(copy, answer) :: passed, last, rest, rfl, List.forall_mem_cons.mpr ⟨passes, passing⟩,
    present, .cons ⟨resource, known, rfl⟩ calls⟩

theorem SendsUpTo.here (present : failure.isNotFound = false) (known : served = some resource) :
    SendsUpTo served (copy :: copies) failure [⟨.updateObject resource copy, .error failure⟩] :=
  ⟨[], copy, copies, rfl, by simp, present, .cons ⟨resource, known, rfl⟩ .nil⟩

/-- How the sending ends: with all copies, or at a refused or a failed one. -/
inductive Delivered (clock : Clock) (progress : Progress) (copies : List Object)
    (exchanges : Talk) : Ending → Prop where
  | complete (sent : SendsAll progress.resource copies exchanges) :
      Delivered clock progress copies exchanges (progress.mark (markWritten clock), .ok ())
  | refused (failure : Failure) (sent : SendsUpTo progress.resource copies failure exchanges)
      (forbidden : failure.isForbidden = true) :
      Delivered clock progress copies exchanges (progress.mark (markRefused clock), .ok ())
  | failed (failure : Failure) (sent : SendsUpTo progress.resource copies failure exchanges)
      (allowed : failure.isForbidden = false) :
      Delivered clock progress copies exchanges (progress, .error (.failure failure))

variable {clock : Clock} {progress : Progress} {ending : Ending}

theorem Delivered.cons (delivered : Delivered clock progress copies exchanges ending)
    (passes : Passes answer) (known : progress.resource = some resource) :
    Delivered clock progress (copy :: copies) (⟨.updateObject resource copy, answer⟩ :: exchanges)
      ending := by
  cases delivered with
  | complete sent => exact .complete (sent.cons passes known)
  | refused failure sent forbidden => exact .refused failure (sent.cons passes known) forbidden
  | failed failure sent allowed => exact .failed failure (sent.cons passes known) allowed

/-- Copies that are still the objects they were made of are sent as far as the answers let
them, and no promise is broken on the way. -/
theorem delivered_patchAll {pairs : List (Object × Object)}
    (alike : ∀ pair ∈ pairs, pair.2.metadata = pair.1.metadata)
    (sourced : pairs ≠ [] → ∃ resource, progress.resource = some resource)
    (run : Runs (patchAll clock progress pairs) exchanges ending) :
    Delivered clock progress (changedCopies pairs) exchanges ending := by
  induction pairs generalizing exchanges with
  | nil =>
      obtain ⟨rfl, rfl⟩ := runs_patchAll_nil.mp run
      exact .complete ⟨[], rfl, by simp, .nil⟩
  | cons pair rest ih =>
      obtain ⟨workload, copy⟩ := pair
      rw [List.forall_mem_cons] at alike
      obtain ⟨resource, known⟩ := sourced (by simp)
      have others : ∀ later, Runs (patchAll clock progress rest) later ending →
          Delivered clock progress (changedCopies rest) later ending :=
        fun later run => ih alike.2 (fun _ => ⟨resource, known⟩) run
      by_cases same : workload = copy
      · subst same
        rw [patchAll] at run
        have skipped := others _ (by simpa [sameIdentity] using run)
        simpa [changedCopies] using skipped
      have changed : changedCopies ((workload, copy) :: rest) = copy :: changedCopies rest := by
        simp [changedCopies, same]
      rw [changed]
      rcases runs_patchAll_cons run with ⟨breach, none, -⟩ | ⟨equal, -⟩ |
        ⟨_, answer, later, given, rfl, step⟩
      · exact absurd none (patchAll_different alike.1 known same run)
      · exact absurd equal same
      · rcases step with ⟨passes, after⟩ | ⟨failure, rfl, present, rfl, ⟨forbidden, rfl⟩ |
          ⟨allowed, rfl⟩⟩
        · exact (others _ after).cons passes given
        · exact .refused failure (.here present given) forbidden
        · exact .failed failure (.here present given) allowed

end Sending

section Conclusions

variable {clock : Clock} {binding : Binding}

def Binding.projection (binding : Binding) : Option Condition :=
  find? workloadProjected binding.conditions

/-- The condition on the workloads says that they are projected. -/
def Binding.Projected (binding : Binding) : Prop :=
  ∃ condition, binding.projection = some condition ∧ condition.status = .true

/-- Nothing was recorded of the workloads so far. -/
def Binding.AwaitsProjection (binding : Binding) : Prop :=
  binding.projection = none ∨ ∃ condition, binding.projection = some condition ∧
    condition.status = .unknown ∧ condition.reason = "Initializing"

theorem isInitializing_projection :
    isInitializing workloadProjected binding.conditions = true ↔ binding.AwaitsProjection := by
  rw [isInitializing, Binding.AwaitsProjection, Binding.projection]
  cases find? workloadProjected binding.conditions with
  | none => simp
  | some condition =>
      simp only [Bool.and_eq_true, decide_eq_true_eq, reduceCtorEq, false_or, Option.some.injEq,
        exists_eq_left']
      rfl

/-- A verdict on the workloads is what is found of them afterwards. -/
theorem find_set_workloads (clock : Clock) (verdict : Condition.Verdict)
    (conditions : List Condition) :
    (find? workloadProjected (Conditions.set clock workloadProjected verdict conditions)).map
      Condition.verdict = some verdict := by
  have written := find_write_same (.ofVerdict (clock.reading 0) workloadProjected verdict)
    conditions
  rw [Conditions.set, if_neg workload_ne_ready, recomputeReady,
    find_write_other _ _ workload_ne_ready]
  exact written

theorem projected_markWritten :
    (binding.withConditions (markWritten clock)).Projected ↔
      binding.AwaitsProjection ∨ binding.Projected := by
  have marked : (binding.withConditions (markWritten clock)).projection =
      find? workloadProjected (markWritten clock binding.conditions) := rfl
  rw [Binding.Projected, marked, markWritten]
  by_cases initializing : isInitializing workloadProjected binding.conditions = true
  · rw [if_pos initializing]
    obtain ⟨condition, present, verdict⟩ := Option.map_eq_some_iff.mp
      (find_set_workloads _ (.true, Reason.workloadProjected, "") binding.conditions)
    refine iff_of_true ⟨condition, present, congrArg Prod.fst verdict⟩ (.inl ?_)
    exact isInitializing_projection.mp initializing
  · rw [if_neg initializing, or_iff_right (mt isInitializing_projection.mpr initializing)]
    rfl

theorem projection_markRefused :
    (binding.withConditions (markRefused clock)).projection.map Condition.verdict =
      some (.false, "WorkloadForbidden",
        "the controller does not have permission to update the workloads") :=
  find_set_workloads _ _ binding.conditions

/-- How a pass ends that found workloads, with the calls it makes after that. -/
inductive Concluded (phase : Phase) (found : Progress) :
    Talk → Binding → Except Halt Unit → Prop where
  /-- Nothing is written when one of them cannot be projected. -/
  | unprojectable (failure : Failure)
      (first : FirstFailure PodTemplate.projector phase found.binding found.workloads failure) :
      Concluded phase found [] found.binding (.error (.failure failure))
  | complete (copies : List Object) (writes : Talk) (ended : Binding)
      (made : found.workloads.Forall₂ (fun workload copy =>
        applied PodTemplate.projector phase found.binding workload = .ok copy) copies)
      (sent : SendsAll found.resource (changedCopies (found.workloads.zip copies)) writes)
      (projected : ended.Projected ↔ found.binding.AwaitsProjection ∨ found.binding.Projected) :
      Concluded phase found writes ended (.ok ())
  | refused (copies : List Object) (failure : Failure) (writes : Talk) (ended : Binding)
      (made : found.workloads.Forall₂ (fun workload copy =>
        applied PodTemplate.projector phase found.binding workload = .ok copy) copies)
      (sent : SendsUpTo found.resource (changedCopies (found.workloads.zip copies)) failure writes)
      (forbidden : failure.isForbidden = true)
      (recorded : ended.projection.map Condition.verdict = some (.false, "WorkloadForbidden",
        "the controller does not have permission to update the workloads")) :
      Concluded phase found writes ended (.ok ())
  | failed (copies : List Object) (failure : Failure) (writes : Talk)
      (made : found.workloads.Forall₂ (fun workload copy =>
        applied PodTemplate.projector phase found.binding workload = .ok copy) copies)
      (sent : SendsUpTo found.resource (changedCopies (found.workloads.zip copies)) failure writes)
      (allowed : failure.isForbidden = false) :
      Concluded phase found writes found.binding (.error (.failure failure))

theorem Concluded.unbroken {phase : Phase} {found : Progress} {writes : Talk} {ended : Binding}
    {outcome : Except Halt Unit} (concluded : Concluded phase found writes ended outcome) :
    ∀ breach, outcome ≠ .error (.breach breach) := by
  cases concluded <;> simp

/-- The stages after the lookups, over workloads that came with their resource. -/
theorem concluded_stages {phase : Phase} {found : Progress} {writes : Talk} {ending : Ending}
    (sourced : found.Sourced)
    (run : Runs (runStages clock PodTemplate.projector phase [.project, .patchWorkloads] found)
      writes ending) : Concluded phase found writes ending.1.binding ending.2 := by
  rcases runs_writingStages clock _ phase _ _ _ run with
    ⟨failure, fails, rfl, rfl⟩ | ⟨copies, copied, wrote⟩
  · exact .unprojectable failure (projectAll_first fails)
  have made := projectAll_ok _ phase _ _ _ copied
  have alike : ∀ pair ∈ found.workloads.zip copies, pair.2.metadata = pair.1.metadata :=
    fun pair member => metadata_applied (projectAll_zip _ _ _ _ _ copied pair member).2
  have known : found.workloads.zip copies ≠ [] → ∃ resource, found.resource = some resource :=
    fun paired => sourced fun none => paired (by simp [none])
  have delivered : Delivered clock { found with projected := copies }
      (changedCopies (found.workloads.zip copies)) writes ending :=
    delivered_patchAll alike known wrote
  cases delivered with
  | complete sent => exact .complete copies writes _ made sent projected_markWritten
  | refused failure sent forbidden =>
      exact .refused copies failure writes _ made sent forbidden projection_markRefused
  | failed failure sent allowed => exact .failed copies failure writes made sent allowed

/-- A run of the stages reads before it writes. Where the lookups fail it ends there, and else
it concludes with the workloads they found. -/
def ReadsThenWrites (clock : Clock) (phase : Phase) (binding : Binding) (exchanges : Talk)
    (ended : Binding) (outcome : Except Halt Unit) : Prop :=
  ∃ reads writes found looked, exchanges = reads ++ writes ∧
    Runs (runStages clock PodTemplate.projector phase (lookups phase) { binding }) reads
      (found, looked) ∧
    (∀ exchange ∈ reads, updatesObject exchange.1 = false) ∧
    ((∃ failure, looked = .error (.failure failure) ∧ writes = [] ∧ ended = found.binding ∧
        outcome = .error (.failure failure)) ∨
      (looked = .ok () ∧ Concluded phase found writes ended outcome))

/-- Whatever the binding, the phase, the workloads and the answers are, a pass writes nothing
unless every workload can be projected, and then the changed copies, in order, as far as the
answers let it. -/
theorem pass_writes_changed_copies (clock : Clock) (phase : Phase) (binding ended : Binding)
    (exchanges : Talk) (outcome : Except Halt Unit)
    (run : Runs (runPhase clock PodTemplate.projector phase binding) exchanges (ended, outcome)) :
    ReadsThenWrites clock phase binding exchanges ended outcome := by
  obtain ⟨progress, stages, rfl⟩ := runs_runPhase clock _ phase binding ended outcome exchanges run
  rw [ofPhase_eq] at stages
  obtain ⟨reads, ⟨found, looked⟩, writes, rfl, looking, after⟩ := runs_runStages_append stages
  have first := lookedUp_lookups looking
  refine ⟨reads, writes, found, looked, rfl, looking,
    fun exchange member => updatesObject_writes _ (first.reads exchange member), ?_⟩
  rcases after with ⟨halt, rfl, rfl, same⟩ | ⟨rfl, writing⟩
  · obtain ⟨rfl, rfl⟩ := Prod.mk.inj same
    cases halt with
    | failure failure => exact .inl ⟨failure, rfl, rfl, rfl, rfl⟩
    | breach breach => exact absurd rfl (first.unbroken breach)
  · exact .inr ⟨rfl, concluded_stages first.sourced writing⟩

end Conclusions

section Sample

/-- A binding that selects every deployment. -/
def selectingBinding : Binding :=
  { mappingBinding "orders" with
    spec := {
      workload := { apiVersion := "apps/v1", kind := "Deployment", selector := some {} }
      service := { apiVersion := "v1", kind := "Secret", name := "db" } } }

def listedWorkload (name : String) : Object :=
  { rootedWorkload with metadata := { name := some name } }

/-- Three workloads are listed; the first is gone when it is written, and the second may not
be written. The state counts the writes. -/
def interruptingReply (sent : Nat) : (call : BindingCall) → call.Answer × Nat
  | .resolve kind => (.ok (kind.resource "deployments"), sent)
  | .getObject resource _ name => (.error (.notFound resource.kind name), sent)
  | .listObjects _ _ _ => (.ok (["one", "two", "three"].map listedWorkload), sent)
  | .updateObject resource object =>
      (.error (if sent = 0 then .notFound resource.kind object.nameAny
        else .forbidden resource.kind object.nameAny "update"), sent + 1)
  | .patchFinalizers binding _ => (.ok binding, sent)
  | .updateStatus binding => (.ok binding, sent)
  | .publish _ _ => ((), sent)

def interruptedRun : Talk × (Binding × Except Halt Unit) × Nat :=
  transcript interruptingReply
    (runPhase (.ticking 0) PodTemplate.projector .live selectingBinding) 0

/-- The third workload is never written, and the pass goes well all the same. -/
theorem interrupted_run_writes :
    interruptedRun.2.2 = 2 ∧ interruptedRun.2.1.2 = .ok () ∧
      interruptedRun.2.1.1.projection.map Condition.verdict = some (.false, "WorkloadForbidden",
        "the controller does not have permission to update the workloads") ∧
      ReadsThenWrites (.ticking 0) .live selectingBinding interruptedRun.1 interruptedRun.2.1.1
        interruptedRun.2.1.2 :=
  ⟨by decide +kernel, by decide +kernel, by decide +kernel,
    pass_writes_changed_copies (.ticking 0) .live selectingBinding _ _ _ (runs_transcript _ _ _)⟩

end Sample

end BindingOperator
