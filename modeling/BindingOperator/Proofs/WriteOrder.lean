import BindingOperator.Proofs.FinalizerRelease
import BindingOperator.Proofs.SteadyState

/-!
The order in which a pass writes. The finalizer is put in place before anything else, the
stages write objects only, the status is written after them whatever became of them, and the
finalizer is taken away last, when nothing went wrong before. Every write of the binding that
goes through is reported at once, and of all errors the earliest one is the result.
-/

namespace BindingOperator

open Dialogue

section Reports

/-- The event that a pass owes for an exchange: one for a write of the binding that went
through, and none for any other. -/
def announced : Exchange BindingCall.Answer → Option (ObjectReference × Event)
  | ⟨.patchFinalizers _ _, .ok patched⟩ => some (patched.reference, .finalizerPatched)
  | ⟨.updateStatus _, .ok updated⟩ => some (updated.reference, .statusUpdated)
  | _ => none

def published : Exchange BindingCall.Answer → Option (ObjectReference × Event)
  | ⟨.publish about event, _⟩ => some (about, event)
  | _ => none

/-- What follows a write of the binding. -/
def reportOf (event : Event) : Except Failure Binding → Talk
  | .ok written => [⟨.publish written.reference event, ()⟩]
  | .error _ => []

def finalizerWrite (binding : Binding) (finalizers : List String)
    (answer : Except Failure Binding) : Talk :=
  ⟨.patchFinalizers binding finalizers, answer⟩ :: reportOf .finalizerPatched answer

def statusWrite (binding : Binding) (answer : Except Failure Binding) : Talk :=
  ⟨.updateStatus binding, answer⟩ :: reportOf .statusUpdated answer

variable {binding : Binding} {exchanges : Talk} {answer : Except Failure Binding}

theorem finalizerWrite_reported (finalizers : List String) :
    (finalizerWrite binding finalizers answer).filterMap published =
      (finalizerWrite binding finalizers answer).filterMap announced := by
  cases answer <;> rfl

theorem statusWrite_reported :
    (statusWrite binding answer).filterMap published =
      (statusWrite binding answer).filterMap announced := by
  cases answer <;> rfl

/-- What is not about the binding neither owes nor is an event. -/
theorem apart_reported (apart : ∀ exchange ∈ exchanges, aboutBinding exchange.1 = false) :
    exchanges.filterMap published = exchanges.filterMap announced := by
  refine List.filterMap_congr fun exchange member => ?_
  obtain ⟨call, answer⟩ := exchange
  have elsewhere := apart _ member
  cases call with
  | patchFinalizers binding finalizers => simp [aboutBinding] at elsewhere
  | updateStatus binding => simp [aboutBinding] at elsewhere
  | publish about event => simp [aboutBinding] at elsewhere
  | _ => rfl

theorem patchFinalizers_exact {finalizers : List String}
    (run : Runs (patchFinalizers binding finalizers) exchanges answer) :
    exchanges = finalizerWrite binding finalizers answer := by
  rcases runs_patchFinalizers run with ⟨failure, rfl, rfl⟩ | ⟨patched, rfl, rfl⟩
  · rfl
  · rfl

end Reports

section Failing

variable {clock : Clock} {projector : Projector} {phase : Phase}

/-- The stages up to the first one that fails. Those before it went well, and none after it
is run. -/
def StopsAt (clock : Clock) (projector : Projector) (phase : Phase) (stages : List Stage)
    (start : Progress) (exchanges : Talk) (halt : Halt) : Prop :=
  ∃ before stage after middle ended first last, stages = before ++ stage :: after ∧
    exchanges = first ++ last ∧
    Runs (runStages clock projector phase before start) first (middle, .ok ()) ∧
    Runs (stage.run clock projector phase middle) last (ended, .error halt)

theorem stopsAt_of_error {stages : List Stage} {start ended : Progress} {exchanges : Talk}
    {halt : Halt}
    (run : Runs (runStages clock projector phase stages start) exchanges (ended, .error halt)) :
    StopsAt clock projector phase stages start exchanges halt := by
  induction stages generalizing start exchanges with
  | nil =>
      obtain ⟨-, impossible⟩ := (runs_runStages_nil clock projector phase _ _ _).mp run
      simp at impossible
  | cons stage rest ih =>
      obtain ⟨first, ⟨progress, outcome⟩, last, rfl, this, others⟩ :=
        (runs_runStages_cons clock projector phase _ _ _ _ _).mp run
      rcases others with ⟨found, failed, rfl, same⟩ | ⟨well, later⟩
      · simp only [Prod.mk.injEq, Except.error.injEq] at failed same
        obtain ⟨rfl, rfl⟩ := same
        refine ⟨[], stage, rest, start, ended, [], first, rfl, by simp, ?_, failed ▸ this⟩
        exact (runs_runStages_nil clock projector phase _ _ _).mpr ⟨rfl, rfl⟩
      -- this stage went well, so it stands before the one that failed
      · obtain ⟨before, failing, after, middle, left, early, late, rfl, rfl, went, failed⟩ :=
          ih later
        refine ⟨stage :: before, failing, after, middle, left, first ++ early, late, rfl,
          by simp, ?_, failed⟩
        refine (runs_runStages_cons clock projector phase _ _ _ _ _).mpr
          ⟨first, _, early, rfl, this, .inr ⟨well, went⟩⟩

/-- The stages write objects and nothing else. -/
theorem runPhase_writes_objects {binding ended : Binding} {outcome : Except Halt Unit}
    {exchanges : Talk}
    (run : Runs (runPhase clock projector phase binding) exchanges (ended, outcome)) :
    ∀ exchange ∈ exchanges, exchange.1.writes = true → updatesObject exchange.1 = true := by
  intro exchange member writes
  have apart := runPhase_about run exchange member
  obtain ⟨call, answer⟩ := exchange
  cases call with
  | updateObject resource object => rfl
  | patchFinalizers binding finalizers => simp [aboutBinding] at apart
  | updateStatus binding => simp [aboutBinding] at apart
  | _ => simp [BindingCall.writes] at writes

end Failing

section Closing

variable {phase : Phase} {outcome : Except Halt Unit} {exchanges : Talk}

/-- The status write of a pass: it is made exactly when the status differs, and leaves the
binding as it was answered. -/
def StatusSettled (stored : Option BindingStatus) (ended : Binding) (reporting : Talk)
    (written : Except Failure Binding) : Prop :=
  (some (computedStatus stored ended) = stored ∧ reporting = [] ∧
      written = .ok (settledBinding stored ended)) ∨
    (some (computedStatus stored ended) ≠ stored ∧
      reporting = statusWrite (settledBinding stored ended) written)

/-- Whether a pass lets the finalizer go, and of which binding. -/
def Releases (phase : Phase) (outcome : Except Halt Unit) (written : Except Failure Binding)
    (current : Binding) : Prop :=
  phase = .deleting ∧ outcome = .ok () ∧ written = .ok current

/-- The last write of a pass. One that is not made leaves what the status write left. -/
def FinalizerSettled (phase : Phase) (outcome : Except Halt Unit) (written : Except Failure Binding)
    (removing : Talk) (removed : Except Failure Binding) : Prop :=
  (∃ current, Releases phase outcome written current ∧
      removing = finalizerWrite current
        (current.metadata.finalizerList.filter (· ≠ bindingFinalizer)) removed) ∨
    ((¬ ∃ current, Releases phase outcome written current) ∧ removing = [] ∧ removed = written)

/-- The result of a pass: the error of a stage, else that of the status write, else that of
the last write. -/
def earliest (outcome : Except Halt Unit) (written removed : Except Failure Binding) :
    Except Halt Action := do
  outcome
  let _ ← written.mapError Halt.failure
  let _ ← removed.mapError Halt.failure
  return .awaitChange

theorem reported_of_writeStatus {stored : Option BindingStatus} {ended : Binding}
    {written : Except Failure Binding}
    (run : Runs (writeStatus stored ended) exchanges written) :
    StatusSettled stored ended exchanges written := by
  rcases runs_writeStatus run with kept | ⟨different, rest, rfl, after⟩
  · exact .inl kept
  · refine .inr ⟨different, ?_⟩
    rcases after with ⟨rfl, failure, rfl⟩ | ⟨updated, rfl, rfl⟩
    · rfl
    · rfl

theorem removed_of_conclude {written : Except Failure Binding} {result : Except Halt Action}
    (run : Runs (conclude phase outcome written) exchanges result) :
    ∃ removed, FinalizerSettled phase outcome written exchanges removed ∧
      result = earliest outcome written removed := by
  cases outcome with
  | error halt =>
      obtain ⟨rfl, rfl⟩ := (runs_pure_iff _ _ _).mp run
      exact ⟨written, .inr ⟨by simp [Releases], rfl, rfl⟩, rfl⟩
  | ok done =>
      cases written with
      | error failure =>
          obtain ⟨rfl, rfl⟩ := (runs_pure_iff _ _ _).mp run
          exact ⟨.error failure, .inr ⟨by simp [Releases], rfl, rfl⟩, rfl⟩
      | ok current =>
          cases phase with
          | live =>
              obtain ⟨rfl, rfl⟩ := (runs_pure_iff _ _ _).mp run
              exact ⟨.ok current, .inr ⟨by simp [Releases], rfl, rfl⟩, rfl⟩
          | deleting =>
              obtain ⟨first, removed, rest, rfl, took, finished⟩ :=
                (runs_bind_iff _ _ _ _).mp run
              have ended : rest = [] ∧ result = earliest (.ok ()) (.ok current) removed := by
                cases removed with
                | error failure => exact (runs_pure_iff _ _ _).mp finished
                | ok patched => exact (runs_pure_iff _ _ _).mp finished
              refine ⟨removed, .inl ⟨current, ⟨rfl, rfl, rfl⟩, ?_⟩, ended.2⟩
              rw [ended.1, List.append_nil]
              exact patchFinalizers_exact took

end Closing

section Discipline

variable {clock : Clock} {projector : Projector} {binding : Binding} {exchanges : Talk}
  {result : Except Halt Action}

/-- A pass in the order of its writes: the finalizer is added at the end of the list, and
only when it is missing; the stages write objects; then come the status and, last, the
finalizer again. -/
structure Pass.Ordered (pass : Pass clock projector binding exchanges result)
    (reporting removing : Talk) (written removed : Except Failure Binding) : Prop where
  opens : pass.opening =
    if binding.hasFinalizer bindingFinalizer then []
    else finalizerWrite binding (binding.metadata.finalizerList ++ [bindingFinalizer])
      (.ok pass.finalized)
  adds : pass.opening ≠ [] → Phase.of binding = .live
  works : ∀ exchange ∈ pass.stages, exchange.1.writes = true → updatesObject exchange.1 = true
  halts : ∀ halt, pass.outcome = .error halt →
    StopsAt clock projector (Phase.of binding) (Stage.ofPhase (Phase.of binding))
      { binding := restartConditions clock (Phase.of binding) pass.finalized } pass.stages halt
  closes : pass.closing = reporting ++ removing
  reports : StatusSettled pass.finalized.status pass.ended reporting written
  removes : FinalizerSettled (Phase.of binding) pass.outcome written removing removed
  results : result = earliest pass.outcome written removed

theorem Pass.ordered (pass : Pass clock projector binding exchanges result)
    (unbroken : ∀ breach, result ≠ .error (.breach breach)) :
    ∃ reporting removing written removed, pass.Ordered reporting removing written removed := by
  have closed := pass.closed
  rw [settle_unbroken] at closed
  · obtain ⟨reporting, written, removing, closing, wrote, after⟩ :=
      (runs_bind_iff _ _ _ _).mp closed
    obtain ⟨removed, removes, results⟩ := removed_of_conclude after
    refine ⟨reporting, removing, written, removed, ?_, ?_, runPhase_writes_objects pass.ran, ?_,
      closing, reported_of_writeStatus wrote, removes, results⟩
    · rcases pass.opened with ⟨kept, opening, -⟩ | ⟨missing, -, added⟩
      · rw [if_pos kept, opening]
      · rw [missing]
        exact patchFinalizers_exact added
    · intro opened
      rcases pass.opened with ⟨-, opening, -⟩ | ⟨-, live, -⟩
      · exact absurd opening opened
      · simp [Phase.of, live]
    · intro halt halted
      obtain ⟨progress, stages, -⟩ := runs_runPhase clock projector _ _ _ _ _ pass.ran
      exact stopsAt_of_error (halted ▸ stages)
  -- a broken promise of the stages would be the result of the pass
  · rintro ⟨breach, broken⟩
    rcases runs_settle pass.closed with ⟨found, same, -, ended⟩ | ⟨-, -, -, -, -, -⟩
    · exact unbroken found ended
    · rw [broken] at closed
      exact unbroken breach ((runs_pure_iff _ _ _).mp closed).2

theorem StatusSettled.published {stored : Option BindingStatus} {ended : Binding} {reporting : Talk}
    {written : Except Failure Binding} (reported : StatusSettled stored ended reporting written) :
    reporting.filterMap published = reporting.filterMap announced := by
  rcases reported with ⟨-, rfl, -⟩ | ⟨-, rfl⟩
  · rfl
  · exact statusWrite_reported

theorem FinalizerSettled.published {phase : Phase} {outcome : Except Halt Unit}
    {written removed : Except Failure Binding} {removing : Talk}
    (taken : FinalizerSettled phase outcome written removing removed) :
    removing.filterMap published = removing.filterMap announced := by
  rcases taken with ⟨current, -, rfl⟩ | ⟨-, rfl, -⟩
  · exact finalizerWrite_reported _
  · rfl

theorem Pass.Ordered.published {pass : Pass clock projector binding exchanges result}
    {reporting removing : Talk} {written removed : Except Failure Binding}
    (ordered : pass.Ordered reporting removing written removed) :
    exchanges.filterMap published = exchanges.filterMap announced := by
  have opening : pass.opening.filterMap BindingOperator.published =
      pass.opening.filterMap announced := by
    rw [ordered.opens]
    split
    · rfl
    · exact finalizerWrite_reported _
  rw [pass.split, ordered.closes]
  simp only [List.filterMap_append, opening, apart_reported pass.stages_about,
    ordered.reports.published, ordered.removes.published]

/-- Whatever the cluster answers, a pass that keeps its promises writes in one order. A
binding that goes without the finalizer causes no call, and a finalizer that could not be
written is the only one; else the pass is ordered. Each write of the binding that went
through is published once, in order, and no other is. -/
theorem reconcile_write_discipline (clock : Clock) (projector : Projector) (binding : Binding)
    (exchanges : Talk) (result : Except Halt Action)
    (run : Runs (reconcile clock projector binding) exchanges result)
    (unbroken : ∀ breach, result ≠ .error (.breach breach)) :
    exchanges.filterMap published = exchanges.filterMap announced ∧
      ((binding.hasFinalizer bindingFinalizer = false ∧ Phase.of binding = .deleting ∧
          exchanges = [] ∧ result = .ok .awaitChange) ∨
        (∃ failure, binding.hasFinalizer bindingFinalizer = false ∧ Phase.of binding = .live ∧
          exchanges = finalizerWrite binding
            (binding.metadata.finalizerList ++ [bindingFinalizer]) (.error failure) ∧
          result = .error (.failure failure)) ∨
        ∃ (pass : Pass clock projector binding exchanges result) (reporting removing : Talk)
          (written removed : Except Failure Binding),
          pass.Ordered reporting removing written removed) := by
  rcases reconcile_passes clock projector binding exchanges result run with
    ⟨missing, deleting, rfl, rfl⟩ | ⟨failure, missing, live, added, rfl⟩ | ⟨⟨pass⟩⟩
  · exact ⟨rfl, .inl ⟨missing, by simp [Phase.of, deleting], rfl, rfl⟩⟩
  · have only := patchFinalizers_exact added
    refine ⟨only ▸ finalizerWrite_reported _, .inr (.inl ⟨failure, missing, ?_, only, rfl⟩)⟩
    simp [Phase.of, live]
  · obtain ⟨reporting, removing, written, removed, ordered⟩ := pass.ordered unbroken
    exact ⟨ordered.published, .inr (.inr ⟨pass, reporting, removing, written, removed, ordered⟩)⟩

end Discipline

section Sample

/-- A deletion that nothing disturbs: a workload is cleared, and two writes of the binding
follow. -/
def leavingRun : Talk × Except Halt Action × Cluster :=
  transcript Cluster.reply (reconcile (.ticking 0) PodTemplate.projector leavingBinding)
    boundCluster

theorem leaving_run_ordered :
    leavingRun.1.map (fun exchange => (exchange.1.writes, updatesObject exchange.1)) =
        [(false, false), (false, false), (true, true), (true, false), (false, false),
          (true, false), (false, false)] ∧
      leavingRun.1.filterMap published = leavingRun.1.filterMap announced ∧
      ∃ (pass : Pass (.ticking 0) PodTemplate.projector leavingBinding leavingRun.1 leavingRun.2.1)
        (reporting removing : Talk) (written removed : Except Failure Binding),
        pass.Ordered reporting removing written removed := by
  have went : leavingRun.2.1 = .ok .awaitChange := by decide +kernel
  have carries : leavingBinding.hasFinalizer bindingFinalizer = true := by decide +kernel
  obtain ⟨reported, order⟩ := reconcile_write_discipline (.ticking 0) PodTemplate.projector
    leavingBinding leavingRun.1 leavingRun.2.1 (runs_transcript _ _ _) (by simp [went])
  refine ⟨by decide +kernel, reported, ?_⟩
  rcases order with ⟨missing, -⟩ | ⟨failure, missing, -⟩ | ordered
  · simp [carries] at missing
  · simp [carries] at missing
  · exact ordered

end Sample

end BindingOperator
