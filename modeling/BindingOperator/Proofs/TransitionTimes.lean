import BindingOperator.Proofs.Passes
import BindingOperator.Proofs.Readiness
import BindingOperator.Proofs.Reporting

/-!
The times of conditions over a pass. A pass restarts its conditions and writes them one
after the other, and reads its clock for each of them. So every condition has either the
second of a reading that was taken for its type or the time of a stored condition of the same
type and status. Carrying the stored times over at the end leaves nothing between these two:
what is stored with the same status keeps its time, and anything else has changed in this
pass.
-/

namespace BindingOperator.Conditions

open ConditionType

/-- The types of the conditions that a pass may write, at the places where it reads its clock
for them: those that the restart adds, and one for each stage that records something. `Ready`
follows every time. -/
def writtenTypes : List String :=
  [ready, serviceAvailable, workloadProjected, ready, serviceAvailable, ready, workloadProjected,
    ready, workloadProjected, ready]

/-- The time is the second that the clock showed as a condition of the type was written. -/
def ReadFor (clock : Clock) (type : String) (time : Option Instant) : Prop :=
  ∃ place, writtenTypes[place]? = some type ∧ time = some (clock.reading place).truncated

variable {clock : Clock} {stored conditions : List Condition}

section Stamping

/-- The time was read for the type, or it is stored with the type and the status. -/
def Stamped (clock : Clock) (stored : List Condition) (condition : Condition) : Prop :=
  ReadFor clock condition.type condition.lastTransitionTime ∨
    ∃ older ∈ stored, older.type = condition.type ∧ older.status = condition.status ∧
      older.lastTransitionTime = condition.lastTransitionTime

theorem stamped_stored {condition : Condition} (member : condition ∈ stored) :
    Stamped clock stored condition :=
  .inr ⟨condition, member, rfl, rfl, rfl⟩

theorem stamped_ofVerdict {place : Nat} {type : String} (verdict : Condition.Verdict)
    (writes : writtenTypes[place]? = some type) :
    Stamped clock stored (.ofVerdict (clock.reading place) type verdict) :=
  .inl ⟨place, writes, rfl⟩

theorem stamped_succeed {older newer : Condition} (same : older.type = newer.type)
    (old : Stamped clock stored older) (new : Stamped clock stored newer) :
    Stamped clock stored (succeed older newer) := by
  unfold succeed
  split
  · exact old
  · split
    -- the time is taken from the older one, which has the type and the status as well
    · next status =>
      rcases old with read | ⟨first, member, type, earlier, time⟩
      · exact .inl (same ▸ read)
      · exact .inr ⟨first, member, type.trans same, earlier.trans status, time⟩
    · exact new

theorem stamped_write {newer : Condition} (new : Stamped clock stored newer)
    (all : ∀ condition ∈ conditions, Stamped clock stored condition) :
    ∀ condition ∈ write newer conditions, Stamped clock stored condition := by
  induction conditions with
  | nil => simpa [write] using new
  | cons first rest ih =>
      rw [List.forall_mem_cons] at all
      rw [write]
      split
      · next same =>
        rw [List.forall_mem_cons]
        exact ⟨stamped_succeed same all.1 new, all.2⟩
      · rw [List.forall_mem_cons]
        exact ⟨all.1, ih all.2⟩

theorem stamped_recomputeReady {place : Nat} (writes : writtenTypes[place]? = some ready)
    (all : ∀ condition ∈ conditions, Stamped clock stored condition) :
    ∀ condition ∈ recomputeReady (clock.reading place) conditions,
      Stamped clock stored condition :=
  stamped_write (stamped_ofVerdict _ writes) all

theorem stamped_set {places : Nat} {type : String} (verdict : Condition.Verdict)
    (own : writtenTypes[places]? = some type) (main : writtenTypes[places + 1]? = some ready)
    (all : ∀ condition ∈ conditions, Stamped clock stored condition) :
    ∀ condition ∈ set (clock.later places) type verdict conditions,
      Stamped clock stored condition := by
  have written := stamped_write (stamped_ofVerdict verdict own) all
  unfold set
  split
  · exact written
  · exact stamped_recomputeReady main written

theorem stamped_addMissing {place : Nat} {type : String}
    (writes : writtenTypes[place]? = some type)
    (all : ∀ condition ∈ conditions, Stamped clock stored condition) :
    ∀ condition ∈ addMissing (clock.reading place) conditions type,
      Stamped clock stored condition := by
  unfold addMissing
  split
  · exact all
  · rw [List.forall_mem_append, List.forall_mem_singleton]
    exact ⟨all, stamped_ofVerdict _ writes⟩

/-- A restart keeps stored conditions or starts them anew. -/
theorem stamped_reset (clock : Clock) (types : List String) (stored : List Condition) :
    ∀ condition ∈ reset clock types stored, Stamped clock stored condition := by
  have added : ∀ (missing : List (String × Nat)) (conditions : List Condition),
      (∀ entry ∈ missing, writtenTypes[entry.2]? = some entry.1) →
      (∀ condition ∈ conditions, Stamped clock stored condition) →
      ∀ condition ∈ missing.foldl
          (fun added entry => addMissing (clock.reading entry.2) added entry.1) conditions,
        Stamped clock stored condition := by
    intro missing
    induction missing with
    | nil => exact fun _ _ all => all
    | cons entry rest ih =>
        intro conditions writes all
        rw [List.forall_mem_cons] at writes
        exact ih _ writes.2 (stamped_addMissing writes.1 all)
  refine stamped_recomputeReady rfl (added _ _ (by decide) ?_)
  exact fun condition member => stamped_stored (List.mem_filter.mp member).1

/-- With the stored times carried over, the time of a condition is told by what is stored. -/
theorem carryTime_exact {condition : Condition} (distinct : (stored.map Condition.type).Nodup)
    (stamped : Stamped clock stored condition) :
    (∀ older ∈ stored, older.type = condition.type → older.status = condition.status →
        (carryTime stored condition).lastTransitionTime = older.lastTransitionTime) ∧
      ((∀ older ∈ stored, older.type = condition.type → older.status ≠ condition.status) →
        ReadFor clock condition.type (carryTime stored condition).lastTransitionTime) := by
  rcases carryTime_cases stored condition with ⟨found, present, ⟨type, status⟩, carried⟩ |
    ⟨absent, kept⟩
  · refine ⟨?_, fun changed => absurd status (changed found present type)⟩
    intro older member sameType _
    have only : found = older :=
      List.inj_on_of_nodup_map distinct present member (type.trans sameType.symm)
    rw [carried condition rfl rfl, only]
  · refine ⟨fun older member type status => absurd ⟨type, status⟩ (absent older member), ?_⟩
    intro _
    rw [kept]
    rcases stamped with read | ⟨older, member, type, status, -⟩
    · exact read
    · exact absurd ⟨type, status⟩ (absent older member)

end Stamping

/-- What a pass does to its conditions after the restart: it sets some of them, one after
the other, each at its place of the clock. -/
inductive Rewrites (clock : Clock) : List Condition → List Condition → Prop where
  | refl (conditions : List Condition) : Rewrites clock conditions conditions
  | set (places : Nat) {type : String} (verdict : Condition.Verdict)
      {conditions last : List Condition} (own : writtenTypes[places]? = some type)
      (main : writtenTypes[places + 1]? = some ready)
      (later : Rewrites clock (set (clock.later places) type verdict conditions) last) :
      Rewrites clock conditions last

namespace Rewrites

variable {first second third : List Condition}

theorem trans (left : Rewrites clock first second) (right : Rewrites clock second third) :
    Rewrites clock first third := by
  induction left with
  | refl conditions => exact right
  | set places verdict own main _ ih => exact .set places verdict own main (ih right)

theorem single (places : Nat) {type : String} (verdict : Condition.Verdict)
    (conditions : List Condition) (own : writtenTypes[places]? = some type)
    (main : writtenTypes[places + 1]? = some ready) :
    Rewrites clock conditions (Conditions.set (clock.later places) type verdict conditions) :=
  .set places verdict own main (.refl _)

theorem stamped (rewrites : Rewrites clock first second)
    (all : ∀ condition ∈ first, Stamped clock stored condition) :
    ∀ condition ∈ second, Stamped clock stored condition := by
  induction rewrites with
  | refl conditions => exact all
  | set places verdict own main _ ih => exact ih (stamped_set verdict own main all)

end Rewrites

end BindingOperator.Conditions

namespace BindingOperator

open Dialogue Conditions

section Stages

variable {clock : Clock} {projector : Projector} {phase : Phase} {exchanges : Talk}

theorem conditions_recordSecret (clock : Clock) (service : ServiceResolution) (binding : Binding) :
    (recordSecret clock service binding).conditions =
      Conditions.set (clock.atStage .resolveSecret) ConditionType.serviceAvailable
        (serviceVerdict service) binding.conditions := by
  cases service <;> rfl

theorem rewrites_recordSecret (clock : Clock) (service : ServiceResolution) (binding : Binding) :
    Rewrites clock binding.conditions (recordSecret clock service binding).conditions := by
  rw [conditions_recordSecret]
  exact .single _ _ _ rfl rfl

/-- Workloads that were found are not judged yet; any other outcome is. -/
theorem conditions_recordWorkloads (clock : Clock) (found : WorkloadResolution)
    (progress : Progress) :
    (recordWorkloads clock found progress).binding.conditions = progress.binding.conditions ∨
      (recordWorkloads clock found progress).binding.conditions =
        Conditions.set (clock.atStage .resolveWorkloads) ConditionType.workloadProjected
          (lookedUpVerdict found) progress.binding.conditions := by
  cases found with
  | resolved resource workloads => exact .inl rfl
  | notFound => exact .inr rfl
  | forbidden scope => cases scope <;> exact .inr rfl

theorem rewrites_recordWorkloads (clock : Clock) (found : WorkloadResolution)
    (progress : Progress) :
    Rewrites clock progress.binding.conditions
      (recordWorkloads clock found progress).binding.conditions := by
  rcases conditions_recordWorkloads clock found progress with kept | judged
  · rw [kept]
    exact .refl _
  · rw [judged]
    exact .single _ _ _ rfl rfl

theorem rewrites_markWritten (clock : Clock) (conditions : List Condition) :
    Rewrites clock conditions (markWritten clock conditions) := by
  unfold markWritten
  split
  · exact .single _ _ _ rfl rfl
  · exact .refl _

theorem rewrites_markRefused (clock : Clock) (conditions : List Condition) :
    Rewrites clock conditions (markRefused clock conditions) := by
  unfold markRefused Conditions.markFalse
  exact .single _ _ _ rfl rfl

theorem rewrites_patchAll {progress : Progress} {pairs : List (Object × Object)} {ending : Ending}
    (run : Runs (patchAll clock progress pairs) exchanges ending) :
    Rewrites clock progress.binding.conditions ending.1.binding.conditions := by
  rcases runs_patchAll run with ⟨rfl, -⟩ | ⟨rfl, -⟩ | ⟨halt, rfl⟩
  · exact rewrites_markWritten clock _
  · exact rewrites_markRefused clock _
  · exact .refl _

/-- A stage sets conditions, whether it goes well or fails. -/
theorem rewrites_stage {stage : Stage} {progress : Progress} {ending : Ending}
    (run : Runs (stage.run clock projector phase progress) exchanges ending) :
    Rewrites clock progress.binding.conditions ending.1.binding.conditions := by
  cases stage with
  | resolveSecret =>
      obtain ⟨answer, -, rfl⟩ := (runs_resolveSecretStage clock _ _ _).mp run
      cases answer with
      | error failure => exact .refl _
      | ok service => exact rewrites_recordSecret clock service _
  | resolveWorkloads =>
      obtain ⟨answer, -, rfl⟩ := (runs_resolveWorkloadsStage clock _ _ _).mp run
      cases answer with
      | error failure => exact .refl _
      | ok found => exact rewrites_recordWorkloads clock found _
  | project =>
      obtain ⟨-, rfl⟩ := (runs_projectStage projector phase _ _ _).mp run
      unfold afterProjecting
      split <;> exact .refl _
  | patchWorkloads =>
      change Runs (patchWorkloadsStage clock progress) exchanges ending at run
      unfold patchWorkloadsStage at run
      split at run
      · obtain ⟨-, rfl⟩ := (runs_pure_iff _ _ _).mp run
        exact .refl _
      · exact rewrites_patchAll run

theorem rewrites_runStages {stages : List Stage} {progress : Progress} {ending : Ending}
    (run : Runs (runStages clock projector phase stages progress) exchanges ending) :
    Rewrites clock progress.binding.conditions ending.1.binding.conditions := by
  induction stages generalizing progress exchanges with
  | nil =>
      obtain ⟨-, rfl⟩ := (runs_runStages_nil clock projector phase _ _ _).mp run
      exact .refl _
  | cons stage rest ih =>
      obtain ⟨first, middle, last, -, this, others⟩ :=
        (runs_runStages_cons clock projector phase _ _ _ _ _).mp run
      have set := rewrites_stage this
      rcases others with ⟨halt, -, -, rfl⟩ | ⟨-, later⟩
      · exact set
      · exact set.trans (ih later)

theorem rewrites_runPhase {binding ended : Binding} {outcome : Except Halt Unit}
    (run : Runs (runPhase clock projector phase binding) exchanges (ended, outcome)) :
    Rewrites clock binding.conditions ended.conditions := by
  obtain ⟨progress, stages, rfl⟩ := runs_runPhase clock projector phase _ _ _ _ run
  exact rewrites_runStages stages

end Stages

section Times

variable {clock : Clock} {projector : Projector} {binding : Binding} {exchanges : Talk}
  {result : Except Halt Action}

/-- Before the stored times are carried over, every time is stored or was read in the pass. -/
theorem Pass.stamped (pass : Pass clock projector binding exchanges result) :
    ∀ condition ∈ pass.ended.conditions,
      Stamped clock pass.finalized.conditions condition :=
  (rewrites_runPhase pass.ran).stamped (stamped_reset clock _ _)

/-- In either phase and however its stages ended, a pass computes a status in which each
condition that is stored with its status has the stored time, which may be absent, and each
other one has the second that the clock of the pass showed as a condition of its type was
written. -/
theorem transition_times_exact (pass : Pass clock projector binding exchanges result)
    (distinct : (pass.finalized.conditions.map Condition.type).Nodup) :
    ∀ condition ∈ pass.status.conditions,
      (∀ older ∈ pass.finalized.conditions, older.type = condition.type →
          older.status = condition.status →
          condition.lastTransitionTime = older.lastTransitionTime) ∧
        ((∀ older ∈ pass.finalized.conditions, older.type = condition.type →
            older.status ≠ condition.status) →
          ∃ place, writtenTypes[place]? = some condition.type ∧
            condition.lastTransitionTime = some (clock.reading place).truncated) := by
  intro condition member
  rw [Pass.status, computedStatus_eq] at member
  obtain ⟨recorded, present, rfl⟩ := List.mem_map.mp member
  have status : (carryTime pass.finalized.conditions recorded).status = recorded.status :=
    congrArg Prod.fst (carryTime_verdict pass.finalized.conditions recorded)
  rw [carryTime_type, status]
  exact carryTime_exact distinct (pass.stamped recorded present)

end Times

section Sample

/-- A binding that was ready, with a service that is up since nobody knows when, and with
workloads that were out of reach. -/
def timedBinding : Binding :=
  { livingBinding with
    status := some { conditions := [
      .ofVerdict ⟨5, 0⟩ ConditionType.ready (.true, Reason.ready, ""),
      { type := ConditionType.serviceAvailable, status := .true,
        reason := Reason.resolvedBindingSecret, message := "", lastTransitionTime := none },
      .ofVerdict ⟨7, 0⟩ "Audited" (.false, "Audited", ""),
      .ofVerdict ⟨9, 0⟩ ConditionType.workloadProjected (lookedUpVerdict .notFound)] } }

def timedStages : Talk × (Binding × Except Halt Unit) × Unit :=
  transcript livingAnswer (runPhase (.ticking 60) PodTemplate.projector (Phase.of timedBinding)
    (restartConditions (.ticking 60) (Phase.of timedBinding) timedBinding)) ()

def timedClosing : Talk × Except Halt Action × Unit :=
  transcript livingAnswer (settle (Phase.of timedBinding) timedBinding.status timedStages.2.1.1
    timedStages.2.1.2) ()

def timedPass : Pass (.ticking 60) PodTemplate.projector timedBinding
    (timedStages.1 ++ timedClosing.1) timedClosing.2.1 where
  finalized := timedBinding
  opening := []
  stages := timedStages.1
  closing := timedClosing.1
  ended := timedStages.2.1.1
  outcome := timedStages.2.1.2
  split := rfl
  opened := .inl ⟨by decide +kernel, rfl, rfl⟩
  ran := runs_transcript _ _ _
  closed := runs_transcript _ _ _

/-- Every reading of the pass is a second later than the one before it. `Ready` is unknown for
a while and comes back to its time, an absent time stays absent, and the projection, which was
unknown, is true from the second in which its condition was written last. -/
theorem timed_pass_times :
    timedPass.status.conditions.map
        (fun condition => (condition.type, condition.status, condition.lastTransitionTime)) =
      [(ConditionType.ready, .true, some ⟨5, 0⟩), ("Audited", .false, some ⟨7, 0⟩),
        (ConditionType.serviceAvailable, .true, none),
        (ConditionType.workloadProjected, .true, some ⟨68, 0⟩)] ∧
      ∀ condition ∈ timedPass.status.conditions,
        (∀ older ∈ timedBinding.conditions, older.type = condition.type →
            older.status = condition.status →
            condition.lastTransitionTime = older.lastTransitionTime) ∧
          ((∀ older ∈ timedBinding.conditions, older.type = condition.type →
              older.status ≠ condition.status) →
            ∃ place, writtenTypes[place]? = some condition.type ∧
              condition.lastTransitionTime =
                some ((Clock.ticking 60).reading place).truncated) :=
  ⟨by decide +kernel, transition_times_exact timedPass (by decide)⟩

end Sample

end BindingOperator
