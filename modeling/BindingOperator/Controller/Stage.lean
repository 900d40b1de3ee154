import BindingOperator.Controller.Resolution
import BindingOperator.Projection.Projector

/-!
The stages of a pass. Each records its outcome as a condition on the working copy of the
binding and hands workloads to the next one. The first failure ends the run; what was
recorded before it stays. A binding that is being deleted skips the stage that resolves
its Secret, and projecting turns into removing. The clock of a pass is read as its conditions
are restarted and then by each stage that records something.
-/

namespace BindingOperator

inductive Phase where
  | live
  | deleting
  deriving DecidableEq, Repr, Inhabited

namespace Phase

def of (binding : Binding) : Phase :=
  if binding.isDeleting then .deleting else .live

def text : Phase → String
  | .live => "Live"
  | .deleting => "Deleting"

end Phase

inductive Stage where
  | resolveSecret
  | resolveWorkloads
  | project
  | patchWorkloads
  deriving DecidableEq, Repr, Inhabited

namespace Stage

def all : List Stage := [.resolveSecret, .resolveWorkloads, .project, .patchWorkloads]

def runsOnDelete : Stage → Bool
  | .resolveSecret => false
  | _ => true

def name : Stage → String
  | .resolveSecret => "ResolveBindingSecret"
  | .resolveWorkloads => "ResolveWorkloads"
  | .project => "ProjectBinding"
  | .patchWorkloads => "PatchWorkloads"

def condition : Stage → String
  | .resolveSecret => ConditionType.serviceAvailable
  | _ => ConditionType.workloadProjected

def ofPhase (phase : Phase) : List Stage :=
  all.filter fun stage => phase = .live || stage.runsOnDelete

/-- The conditions that a pass derives anew, each once. -/
def conditionsOfPhase (phase : Phase) : List String :=
  (ofPhase phase).foldl
    (fun types stage =>
      if types.contains stage.condition then types else types ++ [stage.condition]) []

/-- The places of the clock before those of a stage. The restart reads it for each condition
that it adds and for `Ready`; a stage reads it for its condition and for `Ready`. -/
def placesBefore : Stage → Nat
  | .resolveSecret => 4
  | .resolveWorkloads => 6
  | .project => 8
  | .patchWorkloads => 8

end Stage

/-- The clock of a pass as a stage reads it. -/
def Clock.atStage (clock : Clock) (stage : Stage) : Clock := clock.later stage.placesBefore

/-- A broken promise between stages or with the projector; it ends the program. -/
inductive Breach where
  | countsDiffer (workloads projected : Nat)
  | identityChanged (workload : String)
  | resourceMissing
  deriving DecidableEq, Repr

namespace Breach

def message : Breach → String
  | .countsDiffer workloads projected =>
      "workloads and projected workloads must have the same number of items ("
        ++ Nat.repr workloads ++ " != " ++ Nat.repr projected ++ ")"
  | .identityChanged workload =>
      "workload " ++ workload
        ++ " and its projection must have the same uid and resourceVersion"
  | .resourceMissing =>
      "internal error: entered unreachable code: "
        ++ "workloads are only stored together with their resource"

end Breach

/-- Why a pass ends early. -/
inductive Halt where
  | failure (failure : Failure)
  | breach (breach : Breach)
  deriving DecidableEq, Repr

structure Progress where
  binding : Binding
  resource : Option Resource := none
  workloads : List Object := []
  projected : List Object := []

abbrev StageTalk := BindingTalk (Progress × Except Halt Unit)

namespace Progress

def mark (change : List Condition → List Condition) (progress : Progress) : Progress :=
  { progress with binding := progress.binding.withConditions change }

def finish (progress : Progress) : StageTalk := pure (progress, .ok ())

def fail (progress : Progress) (failure : Failure) : StageTalk :=
  pure (progress, .error (.failure failure))

def breach (progress : Progress) (breach : Breach) : StageTalk :=
  pure (progress, .error (.breach breach))

end Progress

open ConditionType in
/-- The Secret of a service that cannot be read is kept: it may only be away for a while. -/
def recordSecret (clock : Clock) (resolution : ServiceResolution) (binding : Binding) :
    Binding :=
  match resolution with
  | .resolved secret =>
      (binding.withConditions
        (Conditions.markTrue (clock.atStage .resolveSecret) serviceAvailable
          Reason.resolvedBindingSecret)).withSecret (some secret)
  | .missingBinding =>
      (binding.withConditions
        (Conditions.markUnknown (clock.atStage .resolveSecret) serviceAvailable
          Reason.serviceMissingBinding
          "the service was found, but did not contain a binding secret")).withSecret none
  | .notFound =>
      binding.withConditions
        (Conditions.markUnknown (clock.atStage .resolveSecret) serviceAvailable
          Reason.serviceNotFound "the service was not found")
  | .forbidden =>
      binding.withConditions
        (Conditions.markFalse (clock.atStage .resolveSecret) serviceAvailable
          Reason.serviceForbidden "the controller does not have permission to get the service")

def resolveSecretStage (clock : Clock) (progress : Progress) : StageTalk := do
  match ← resolveService progress.binding.namespaceName progress.binding.spec.service with
  | .error failure => progress.fail failure
  | .ok resolution =>
      Progress.finish { progress with binding := recordSecret clock resolution progress.binding }

open ConditionType in
def recordWorkloads (clock : Clock) (resolution : WorkloadResolution) (progress : Progress) :
    Progress :=
  match resolution with
  | .resolved resource workloads =>
      { progress.mark id with resource := some resource, workloads }
  | .notFound =>
      progress.mark (Conditions.markUnknown (clock.atStage .resolveWorkloads) workloadProjected
        Reason.workloadNotFound "the workload was not found")
  | .forbidden .list =>
      progress.mark (Conditions.markFalse (clock.atStage .resolveWorkloads) workloadProjected
        Reason.workloadForbidden "the controller does not have permission to list the workloads")
  | .forbidden .single =>
      progress.mark (Conditions.markFalse (clock.atStage .resolveWorkloads) workloadProjected
        Reason.workloadForbidden "the controller does not have permission to get the workload")

def resolveWorkloadsStage (clock : Clock) (progress : Progress) : StageTalk := do
  match ← resolveWorkloads progress.binding.namespaceName progress.binding.spec.workload with
  | .error failure => progress.fail failure
  | .ok resolution => (recordWorkloads clock resolution progress).finish

/-- The projected copies of the workloads; the first failure ends it. -/
def projectAll (projector : Projector) (phase : Phase) (binding : Binding) :
    List Object → Except Failure (List Object)
  | [] => .ok []
  | workload :: rest => do
      let copy ← match phase with
        | .live => projector.project binding workload
        | .deleting => projector.unproject binding workload
      let copies ← projectAll projector phase binding rest
      return copy :: copies

def projectStage (projector : Projector) (phase : Phase) (progress : Progress) : StageTalk :=
  match projectAll projector phase progress.binding progress.workloads with
  | .error failure => progress.fail failure
  | .ok projected => Progress.finish { progress with projected }

/-- Whether a projected copy is still the same object in the same version. -/
def sameIdentity (workload copy : Object) : Bool :=
  workload.metadata.uid = copy.metadata.uid &&
    workload.metadata.resourceVersion = copy.metadata.resourceVersion

open ConditionType in
/-- Writes every copy that differs from its workload. One that is gone meanwhile is passed
over; a missing permission ends the writing and is recorded. The condition is true at the
end if nothing else was recorded before. -/
def patchAll (clock : Clock) (progress : Progress) : List (Object × Object) → StageTalk
  | [] =>
      (progress.mark fun conditions =>
        if Conditions.isInitializing workloadProjected conditions then
          Conditions.markTrue (clock.atStage .patchWorkloads) workloadProjected
            Reason.workloadProjected conditions
        else conditions).finish
  | (workload, copy) :: rest =>
      if !sameIdentity workload copy then
        progress.breach (.identityChanged workload.nameAny)
      else if workload = copy then patchAll clock progress rest
      else
        match progress.resource with
        | none => progress.breach .resourceMissing
        | some resource => do
            match ← BindingTalk.updateObject resource copy with
            | .ok _ => patchAll clock progress rest
            | .error failure =>
                if failure.isNotFound then patchAll clock progress rest
                else if failure.isForbidden then
                  (progress.mark
                    (Conditions.markFalse (clock.atStage .patchWorkloads) workloadProjected
                      Reason.workloadForbidden
                      "the controller does not have permission to update the workloads")).finish
                else progress.fail failure

def patchWorkloadsStage (clock : Clock) (progress : Progress) : StageTalk :=
  if progress.workloads.length ≠ progress.projected.length then
    progress.breach (.countsDiffer progress.workloads.length progress.projected.length)
  else patchAll clock progress (progress.workloads.zip progress.projected)

namespace Stage

def run (clock : Clock) (projector : Projector) (phase : Phase) (progress : Progress) :
    Stage → StageTalk
  | .resolveSecret => resolveSecretStage clock progress
  | .resolveWorkloads => resolveWorkloadsStage clock progress
  | .project => projectStage projector phase progress
  | .patchWorkloads => patchWorkloadsStage clock progress

end Stage

/-- Runs stages in order until one ends early. -/
def runStages (clock : Clock) (projector : Projector) (phase : Phase) :
    List Stage → Progress → StageTalk
  | [], progress => progress.finish
  | stage :: rest, progress => do
      match ← stage.run clock projector phase progress with
      | (progress, .error halt) => pure (progress, .error halt)
      | (progress, .ok ()) => runStages clock projector phase rest progress

/-- Runs the stages of a phase over a binding; the binding holds what they recorded. -/
def runPhase (clock : Clock) (projector : Projector) (phase : Phase) (binding : Binding) :
    BindingTalk (Binding × Except Halt Unit) := do
  let ended ← runStages clock projector phase (Stage.ofPhase phase) { binding }
  return (ended.1.binding, ended.2)

end BindingOperator
