import BindingOperator.Controller.Action
import BindingOperator.Controller.Stage

/-!
A pass over one binding. The finalizer is put in place first; the stages run over a copy
of the binding whose conditions start anew; the status is written when it differs from the
stored one, also when a stage failed; and a binding that is being deleted loses the
finalizer once everything went well.
-/

namespace BindingOperator

def bindingControllerName : String := "servicebinding-controller"

/-- Seconds before a failed pass is tried again. -/
def bindingRetryDelay : Nat := 5

def bindingErrorPolicy (_ : Failure) : Action := .requeue bindingRetryDelay

def patchFinalizers (binding : Binding) (finalizers : List String) :
    BindingTalk (Except Failure Binding) := do
  match ← BindingTalk.patchFinalizers binding finalizers with
  | .error failure => pure (.error failure)
  | .ok patched =>
      BindingTalk.publish patched.reference .finalizerPatched
      pure (.ok patched)

def addFinalizer (binding : Binding) : BindingTalk (Except Failure Binding) :=
  patchFinalizers binding (binding.metadata.finalizerList ++ [bindingFinalizer])

def removeFinalizer (binding : Binding) : BindingTalk (Except Failure Binding) :=
  patchFinalizers binding (binding.metadata.finalizerList.filter (· ≠ bindingFinalizer))

def restartConditions (clock : Clock) (phase : Phase) (binding : Binding) : Binding :=
  binding.withConditions (Conditions.reset clock (Stage.conditionsOfPhase phase))

/-- The status that a pass computes from what its stages recorded and what was stored. -/
def computedStatus (stored : Option BindingStatus) (binding : Binding) : BindingStatus :=
  let status := binding.statusOrDefault
  { status with
    conditions := Conditions.carryTimes ((stored.map BindingStatus.conditions).getD [])
      status.conditions
    observedGeneration := binding.metadata.generation }

def reconcileFinalized (clock : Clock) (projector : Projector) (phase : Phase)
    (binding : Binding) : BindingTalk (Except Halt Action) := do
  let stored := binding.status
  let (ended, outcome) ← runPhase clock projector phase (restartConditions clock phase binding)
  match outcome with
  | .error (.breach breach) => pure (.error (.breach breach))
  | _ =>
      let current := { ended with status := some (computedStatus stored ended) }
      let written : Except Failure Binding ←
        if current.status = stored then pure (.ok current)
        else do
          match ← BindingTalk.updateStatus current with
          | .error failure => pure (.error failure)
          | .ok updated =>
              BindingTalk.publish updated.reference .statusUpdated
              pure (.ok updated)
      match outcome, written with
      | .error halt, _ => pure (.error halt)
      | .ok (), .error failure => pure (.error (.failure failure))
      | .ok (), .ok current =>
          match phase with
          | .live => pure (.ok .awaitChange)
          | .deleting =>
              match ← removeFinalizer current with
              | .error failure => pure (.error (.failure failure))
              | .ok _ => pure (.ok .awaitChange)

/-- One pass over a binding. A binding that is deleted before it has the finalizer needs no
cleaning. -/
def reconcile (clock : Clock) (projector : Projector) (binding : Binding) :
    BindingTalk (Except Halt Action) :=
  let phase := Phase.of binding
  if binding.hasFinalizer bindingFinalizer then reconcileFinalized clock projector phase binding
  else
    match phase with
    | .deleting => pure (.ok .awaitChange)
    | .live => do
        match ← addFinalizer binding with
        | .error failure => pure (.error (.failure failure))
        | .ok finalized => reconcileFinalized clock projector phase finalized

end BindingOperator
