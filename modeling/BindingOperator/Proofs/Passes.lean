import BindingOperator.Proofs.Stages

/-!
Passes as they went. A pass puts the finalizer in place, runs its stages over a copy whose
conditions start anew, and settles what they recorded: it writes the status when it
differs from the stored one, and lets the finalizer go when a deletion went well. Every run
of a pass that gets beyond the finalizer is put together in this way.
-/

namespace BindingOperator

open Dialogue

def settledBinding (stored : Option BindingStatus) (ended : Binding) : Binding :=
  { ended with status := some (computedStatus stored ended) }

/-- Writes the computed status, unless it is the stored one. -/
def writeStatus (stored : Option BindingStatus) (ended : Binding) :
    BindingTalk (Except Failure Binding) :=
  if (settledBinding stored ended).status = stored then pure (.ok (settledBinding stored ended))
  else BindingTalk.updateStatus (settledBinding stored ended) >>= fun
    | .error failure => pure (.error failure)
    | .ok updated => BindingTalk.publish updated.reference .statusUpdated >>= fun _ =>
        pure (.ok updated)

/-- What is left to do when the status is written or could not be. -/
def conclude (phase : Phase) (outcome : Except Halt Unit) (written : Except Failure Binding) :
    BindingTalk (Except Halt Action) :=
  match outcome, written with
  | .error halt, _ => pure (.error halt)
  | .ok (), .error failure => pure (.error (.failure failure))
  | .ok (), .ok current =>
      match phase with
      | .live => pure (.ok .awaitChange)
      | .deleting => removeFinalizer current >>= fun
          | .error failure => pure (.error (.failure failure))
          | .ok _ => pure (.ok .awaitChange)

/-- What a pass does after its stages; a broken promise ends it at once. -/
def settle (phase : Phase) (stored : Option BindingStatus) (ended : Binding)
    (outcome : Except Halt Unit) : BindingTalk (Except Halt Action) :=
  match outcome with
  | .error (.breach breach) => pure (.error (.breach breach))
  | outcome => writeStatus stored ended >>= conclude phase outcome

theorem settle_unbroken {phase : Phase} {stored : Option BindingStatus} {ended : Binding}
    {outcome : Except Halt Unit} (unbroken : ¬ ∃ breach, outcome = .error (.breach breach)) :
    settle phase stored ended outcome = writeStatus stored ended >>= conclude phase outcome := by
  cases outcome with
  | ok done => rfl
  | error halt =>
      cases halt with
      | failure failure => rfl
      | breach breach => exact absurd ⟨breach, rfl⟩ unbroken

theorem writeStatus_kept (stored : Option BindingStatus) (ended : Binding)
    (same : some (computedStatus stored ended) = stored) :
    writeStatus stored ended = pure (.ok (settledBinding stored ended)) :=
  if_pos same

theorem writeStatus_changed (stored : Option BindingStatus) (ended : Binding)
    (different : ¬ some (computedStatus stored ended) = stored) :
    writeStatus stored ended =
      BindingTalk.updateStatus (settledBinding stored ended) >>= fun
        | .error failure => pure (.error failure)
        | .ok updated => BindingTalk.publish updated.reference .statusUpdated >>= fun _ =>
            pure (.ok updated) :=
  if_neg different

theorem reconcileFinalized_eq (clock : Clock) (projector : Projector) (phase : Phase)
    (binding : Binding) :
    reconcileFinalized clock projector phase binding =
      runPhase clock projector phase (restartConditions clock phase binding) >>= fun ending =>
        settle phase binding.status ending.1 ending.2 := by
  unfold reconcileFinalized
  refine congrArg (runPhase clock projector phase (restartConditions clock phase binding) >>= ·)
    (funext fun ending => ?_)
  obtain ⟨ended, outcome⟩ := ending
  -- the source tests the status in each of its branches; here it is tested once
  by_cases same : some (computedStatus binding.status ended) = binding.status
  · cases outcome with
    | error halt =>
        cases halt with
        | breach breach => rfl
        | failure failure =>
            simp only [settle, writeStatus_kept _ _ same, if_pos same]
            rfl
    | ok done =>
        simp only [settle, writeStatus_kept _ _ same, if_pos same]
        cases phase <;> rfl
  · cases outcome with
    | error halt =>
        cases halt with
        | breach breach => rfl
        | failure failure =>
            simp only [settle, writeStatus_changed _ _ same, if_neg same]
            refine congrArg (BindingTalk.updateStatus (settledBinding binding.status ended) >>= ·)
              (funext fun answer => ?_)
            cases answer <;> rfl
    | ok done =>
        simp only [settle, writeStatus_changed _ _ same, if_neg same]
        refine congrArg (BindingTalk.updateStatus (settledBinding binding.status ended) >>= ·)
          (funext fun answer => ?_)
        cases answer <;> cases phase <;> rfl

section Settling

variable {stored : Option BindingStatus} {ended : Binding} {exchanges : Talk}

/-- A status is written where it differs, and the update is reported. -/
theorem runs_writeStatus {written : Except Failure Binding}
    (run : Runs (writeStatus stored ended) exchanges written) :
    (some (computedStatus stored ended) = stored ∧ exchanges = [] ∧
        written = .ok (settledBinding stored ended)) ∨
      (some (computedStatus stored ended) ≠ stored ∧ ∃ rest,
        exchanges = ⟨.updateStatus (settledBinding stored ended), written⟩ :: rest ∧
          ((rest = [] ∧ ∃ failure, written = .error failure) ∨
            ∃ updated, rest = [⟨.publish updated.reference .statusUpdated, ()⟩] ∧
              written = .ok updated)) := by
  by_cases same : some (computedStatus stored ended) = stored
  · rw [writeStatus_kept _ _ same] at run
    obtain ⟨rfl, rfl⟩ := (runs_pure_iff _ _ _).mp run
    exact .inl ⟨same, rfl, rfl⟩
  · rw [writeStatus_changed _ _ same] at run
    obtain ⟨answer, rest, rfl, after⟩ := (runs_call_bind_iff _ _ _ _).mp run
    refine .inr ⟨same, rest, ?_⟩
    cases answer with
    | error failure =>
        obtain ⟨rfl, rfl⟩ := (runs_pure_iff _ _ _).mp after
        exact ⟨rfl, .inl ⟨rfl, failure, rfl⟩⟩
    | ok updated =>
        obtain ⟨noted, last, rfl, finished⟩ := (runs_call_bind_iff _ _ _ _).mp after
        obtain ⟨rfl, rfl⟩ := (runs_pure_iff _ _ _).mp finished
        exact ⟨rfl, .inr ⟨updated, rfl, rfl⟩⟩

theorem runs_patchFinalizers {binding : Binding} {finalizers : List String}
    {answer : Except Failure Binding}
    (run : Runs (patchFinalizers binding finalizers) exchanges answer) :
    (∃ failure, answer = .error failure ∧
        exchanges = [⟨.patchFinalizers binding finalizers, .error failure⟩]) ∨
      ∃ patched, answer = .ok patched ∧
        exchanges = [⟨.patchFinalizers binding finalizers, .ok patched⟩,
          ⟨.publish patched.reference .finalizerPatched, ()⟩] := by
  obtain ⟨given, rest, rfl, after⟩ := (runs_call_bind_iff _ _ _ _).mp run
  cases given with
  | error failure =>
      obtain ⟨rfl, rfl⟩ := (runs_pure_iff _ _ _).mp after
      exact .inl ⟨failure, rfl, rfl⟩
  | ok patched =>
      obtain ⟨noted, last, rfl, finished⟩ := (runs_call_bind_iff _ _ _ _).mp after
      obtain ⟨rfl, rfl⟩ := (runs_pure_iff _ _ _).mp finished
      exact .inr ⟨patched, rfl, rfl⟩

theorem runs_conclude {phase : Phase} {outcome : Except Halt Unit}
    {written : Except Failure Binding} {result : Except Halt Action}
    (run : Runs (conclude phase outcome written) exchanges result) :
    (exchanges = [] ∧ (outcome ≠ .ok () ∨ ∃ failure, written = .error failure) ∧
        ∃ halt, result = .error halt) ∨
      (outcome = .ok () ∧ phase = .live ∧ exchanges = [] ∧ result = .ok .awaitChange) ∨
      ∃ current answer, outcome = .ok () ∧ phase = .deleting ∧ written = .ok current ∧
        Runs (removeFinalizer current) exchanges answer := by
  cases outcome with
  | error halt =>
      obtain ⟨rfl, rfl⟩ := (runs_pure_iff _ _ _).mp run
      exact .inl ⟨rfl, .inl (by simp), halt, rfl⟩
  | ok done =>
      cases written with
      | error failure =>
          obtain ⟨rfl, rfl⟩ := (runs_pure_iff _ _ _).mp run
          exact .inl ⟨rfl, .inr ⟨failure, rfl⟩, _, rfl⟩
      | ok current =>
          cases phase with
          | live =>
              obtain ⟨rfl, rfl⟩ := (runs_pure_iff _ _ _).mp run
              exact .inr (.inl ⟨rfl, rfl, rfl, rfl⟩)
          | deleting =>
              obtain ⟨first, answer, rest, rfl, removed, finished⟩ :=
                (runs_bind_iff _ _ _ _).mp run
              have ended : rest = [] := by
                cases answer with
                | error failure => exact ((runs_pure_iff _ _ _).mp finished).1
                | ok patched => exact ((runs_pure_iff _ _ _).mp finished).1
              exact .inr (.inr ⟨current, answer, rfl, rfl, rfl, by simpa [ended] using removed⟩)

/-- The finalizer is let go only after stages and a status that went well. -/
theorem runs_settle {phase : Phase} {outcome : Except Halt Unit} {result : Except Halt Action}
    (run : Runs (settle phase stored ended outcome) exchanges result) :
    (∃ breach, outcome = .error (.breach breach) ∧ exchanges = [] ∧
        result = .error (.breach breach)) ∨
      ∃ status written last, exchanges = status ++ last ∧
        Runs (writeStatus stored ended) status written ∧
        ((last = [] ∧ (outcome ≠ .ok () ∨ ∃ failure, written = .error failure) ∧
            ∃ halt, result = .error halt) ∨
          (outcome = .ok () ∧ phase = .live ∧ last = [] ∧ result = .ok .awaitChange) ∨
          ∃ current answer, outcome = .ok () ∧ phase = .deleting ∧ written = .ok current ∧
            Runs (removeFinalizer current) last answer) := by
  -- a breach ends the pass before the status; every other outcome gets to it
  by_cases broken : ∃ breach, outcome = .error (.breach breach)
  · obtain ⟨breach, rfl⟩ := broken
    obtain ⟨rfl, rfl⟩ := (runs_pure_iff _ _ _).mp run
    exact .inl ⟨breach, rfl, rfl, rfl⟩
  · rw [settle_unbroken broken] at run
    obtain ⟨status, written, last, rfl, wrote, after⟩ := (runs_bind_iff _ _ _ _).mp run
    exact .inr ⟨status, written, last, rfl, wrote, runs_conclude after⟩

end Settling

section Calls

/-- Whether a call is about the binding itself, and not about services and workloads. -/
def aboutBinding : BindingCall → Bool
  | .patchFinalizers _ _ => true
  | .updateStatus _ => true
  | .publish _ _ => true
  | _ => false

variable {clock : Clock} {projector : Projector} {exchanges : Talk}

theorem patchFinalizers_about {binding : Binding} {finalizers : List String}
    {answer : Except Failure Binding}
    (run : Runs (patchFinalizers binding finalizers) exchanges answer) :
    ∀ exchange ∈ exchanges, aboutBinding exchange.1 = true := by
  rcases runs_patchFinalizers run with ⟨failure, -, rfl⟩ | ⟨patched, -, rfl⟩
  · simp [aboutBinding]
  · simp [aboutBinding]

theorem settle_about {phase : Phase} {stored : Option BindingStatus} {ended : Binding}
    {outcome : Except Halt Unit} {result : Except Halt Action}
    (run : Runs (settle phase stored ended outcome) exchanges result) :
    ∀ exchange ∈ exchanges, aboutBinding exchange.1 = true := by
  rcases runs_settle run with ⟨breach, -, rfl, -⟩ | ⟨status, written, last, rfl, wrote, after⟩
  · simp
  intro exchange member
  rcases List.mem_append.mp member with early | late
  · rcases runs_writeStatus wrote with ⟨-, rfl, -⟩ | ⟨-, rest, rfl, ⟨rfl, -⟩ | ⟨updated, rfl, -⟩⟩
    · simp at early
    · rw [List.mem_singleton.mp early]
      rfl
    · simp only [List.mem_cons, List.not_mem_nil, or_false] at early
      rcases early with rfl | rfl
      · rfl
      · rfl
  · rcases after with ⟨rfl, -⟩ | ⟨-, -, rfl, -⟩ | ⟨current, answer, -, -, -, removed⟩
    · simp at late
    · simp at late
    · exact patchFinalizers_about removed exchange late

theorem resolveService_about {namespaceName : String} {service : ServiceReference}
    {outcome : Except Failure ServiceResolution}
    (run : Runs (resolveService namespaceName service) exchanges outcome) :
    ∀ exchange ∈ exchanges, aboutBinding exchange.1 = false := by
  rcases runs_resolveService namespaceName service exchanges outcome run with
    ⟨-, rfl, -⟩ | ⟨-, ⟨failure, rfl, -⟩ | ⟨resource, answer, rfl, -⟩⟩
  · simp
  · simp [aboutBinding]
  · simp [aboutBinding]

theorem resolveWorkloads_about {namespaceName : String} {workload : WorkloadReference}
    {outcome : Except Failure WorkloadResolution}
    (run : Runs (resolveWorkloads namespaceName workload) exchanges outcome) :
    ∀ exchange ∈ exchanges, aboutBinding exchange.1 = false := by
  rcases runs_resolveWorkloads namespaceName workload exchanges outcome run with
    ⟨failure, rfl, -⟩ | ⟨resource, rest, rfl, ⟨name, answer, -, rfl, -⟩ | ⟨-, -, rfl, -⟩ |
      ⟨selector, -, -, ⟨failure, -, rfl, -⟩ | ⟨query, answer, -, rfl, -⟩⟩⟩
  all_goals simp [aboutBinding]

theorem workloadStages_about {phase : Phase} {progress : Progress} {ending : Ending}
    (run : Runs (runStages clock projector phase workloadStages progress) exchanges ending) :
    ∀ exchange ∈ exchanges, aboutBinding exchange.1 = false := by
  rcases runs_workloadStages clock projector phase progress exchanges ending run with
    ⟨failure, read, -⟩ | ⟨lists, writes, found, recorded, rfl, read, -, after⟩
  · exact resolveWorkloads_about read
  · intro exchange member
    rcases List.mem_append.mp member with early | late
    · exact resolveWorkloads_about read exchange early
    · rcases after with ⟨failure, -, rfl, -⟩ | ⟨copies, -, wrote⟩
      · simp at late
      · obtain ⟨served, -, pair, -, call⟩ := patchAll_calls wrote exchange late
        rw [call]
        rfl

theorem runPhase_about {phase : Phase} {binding ended : Binding} {outcome : Except Halt Unit}
    (run : Runs (runPhase clock projector phase binding) exchanges (ended, outcome)) :
    ∀ exchange ∈ exchanges, aboutBinding exchange.1 = false := by
  cases phase with
  | live =>
      rcases runs_live clock projector binding ended outcome exchanges run with
        ⟨failure, read, -⟩ | ⟨reads, rest, service, progress, rfl, read, later, -⟩
      · exact resolveService_about read
      · intro exchange member
        rcases List.mem_append.mp member with early | late
        · exact resolveService_about read exchange early
        · exact workloadStages_about later exchange late
  | deleting =>
      obtain ⟨progress, stages, -⟩ := runs_runPhase clock projector .deleting binding ended outcome
        exchanges run
      rw [ofPhase_deleting] at stages
      exact workloadStages_about stages

end Calls

/-- A pass that got beyond the finalizer, taken apart. -/
structure Pass (clock : Clock) (projector : Projector) (binding : Binding) (exchanges : Talk)
    (result : Except Halt Action) where
  /-- The binding that carries the finalizer. -/
  finalized : Binding
  opening : Talk
  stages : Talk
  closing : Talk
  /-- The binding with what the stages recorded. -/
  ended : Binding
  outcome : Except Halt Unit
  split : exchanges = opening ++ (stages ++ closing)
  opened : (binding.hasFinalizer bindingFinalizer = true ∧ opening = [] ∧ finalized = binding) ∨
    (binding.hasFinalizer bindingFinalizer = false ∧ binding.isDeleting = false ∧
      Runs (addFinalizer binding) opening (.ok finalized))
  ran : Runs (runPhase clock projector (Phase.of binding)
    (restartConditions clock (Phase.of binding) finalized)) stages (ended, outcome)
  closed : Runs (settle (Phase.of binding) finalized.status ended outcome) closing result

namespace Pass

variable {clock : Clock} {projector : Projector} {binding : Binding} {exchanges : Talk}
  {result : Except Halt Action}

def status (pass : Pass clock projector binding exchanges result) : BindingStatus :=
  computedStatus pass.finalized.status pass.ended

theorem stages_about (pass : Pass clock projector binding exchanges result) :
    ∀ exchange ∈ pass.stages, aboutBinding exchange.1 = false :=
  runPhase_about pass.ran

theorem closing_about (pass : Pass clock projector binding exchanges result) :
    ∀ exchange ∈ pass.closing, aboutBinding exchange.1 = true :=
  settle_about pass.closed

/-- A binding that is being deleted carries the finalizer already, so its pass starts with the
stages. -/
theorem of_deleting (pass : Pass clock projector binding exchanges result)
    (deleting : binding.isDeleting = true) :
    ∃ stages closing ended outcome, exchanges = stages ++ closing ∧
      Runs (runPhase clock projector .deleting (restartConditions clock .deleting binding)) stages
        (ended, outcome) ∧
      Runs (settle .deleting binding.status ended outcome) closing result := by
  have phase : Phase.of binding = .deleting := by simp [Phase.of, deleting]
  obtain ⟨finalized, opening, stages, closing, ended, outcome, parts, opened, ran, closed⟩ := pass
  rw [phase] at ran closed
  rcases opened with ⟨-, rfl, rfl⟩ | ⟨-, live, -⟩
  · exact ⟨stages, closing, ended, outcome, parts, ran, closed⟩
  · simp [deleting] at live

theorem status_written (pass : Pass clock projector binding exchanges result) (written : Binding)
    (answer : Except Failure Binding)
    (member : (⟨.updateStatus written, answer⟩ : Exchange BindingCall.Answer) ∈ pass.closing) :
    written.status = some pass.status := by
  rcases runs_settle pass.closed with ⟨breach, -, none, -⟩ | ⟨status, sent, last, parts, wrote, after⟩
  · simp [none] at member
  · rw [parts, List.mem_append] at member
    rcases member with early | late
    · rcases runs_writeStatus wrote with ⟨-, rfl, -⟩ | ⟨-, rest, rfl, others⟩
      · simp at early
      · have known : written = settledBinding pass.finalized.status pass.ended := by
          rcases others with ⟨rfl, -⟩ | ⟨updated, rfl, -⟩
          · simp at early
            exact early.1
          · simp at early
            exact early.1
        rw [known]
        rfl
    · rcases after with ⟨rfl, -⟩ | ⟨-, -, rfl, -⟩ | ⟨current, answer, -, -, -, removed⟩
      · simp at late
      · simp at late
      · rcases runs_patchFinalizers removed with ⟨failure, -, rfl⟩ | ⟨patched, -, rfl⟩
        · simp at late
        · simp at late

end Pass

/-- Every run of a pass gets beyond the finalizer, unless the binding goes without one or the
finalizer could not be written. -/
theorem reconcile_passes (clock : Clock) (projector : Projector) (binding : Binding)
    (exchanges : Talk) (result : Except Halt Action)
    (run : Runs (reconcile clock projector binding) exchanges result) :
    (binding.hasFinalizer bindingFinalizer = false ∧ binding.isDeleting = true ∧
        exchanges = [] ∧ result = .ok .awaitChange) ∨
      (∃ failure, binding.hasFinalizer bindingFinalizer = false ∧ binding.isDeleting = false ∧
        Runs (addFinalizer binding) exchanges (.error failure) ∧
        result = .error (.failure failure)) ∨
      Nonempty (Pass clock projector binding exchanges result) := by
  have finalizing : ∀ (finalized : Binding) (rest : Talk),
      Runs (reconcileFinalized clock projector (Phase.of binding) finalized) rest result →
      ∃ stages closing ended outcome, rest = stages ++ closing ∧
        Runs (runPhase clock projector (Phase.of binding)
          (restartConditions clock (Phase.of binding) finalized)) stages (ended, outcome) ∧
        Runs (settle (Phase.of binding) finalized.status ended outcome) closing result := by
    intro finalized rest run
    rw [reconcileFinalized_eq] at run
    obtain ⟨stages, ⟨ended, outcome⟩, closing, rfl, ran, closed⟩ := (runs_bind_iff _ _ _ _).mp run
    exact ⟨stages, closing, ended, outcome, rfl, ran, closed⟩
  -- a binding that carries the finalizer is its own start, another one gets it first
  unfold reconcile at run
  cases kept : binding.hasFinalizer bindingFinalizer with
  | true =>
      simp only [kept, if_true] at run
      obtain ⟨stages, closing, ended, outcome, parts, ran, closed⟩ := finalizing _ _ run
      exact .inr (.inr ⟨⟨binding, [], stages, closing, ended, outcome, parts,
        .inl ⟨kept, rfl, rfl⟩, ran, closed⟩⟩)
  | false =>
      cases deleting : binding.isDeleting with
      | true =>
          simp only [kept, Phase.of, deleting] at run
          obtain ⟨rfl, rfl⟩ := (runs_pure_iff _ _ _).mp run
          exact .inl ⟨rfl, rfl, rfl, rfl⟩
      | false =>
          have live : Phase.of binding = .live := by simp [Phase.of, deleting]
          simp only [kept, live] at run
          obtain ⟨opening, answer, rest, rfl, added, after⟩ := (runs_bind_iff _ _ _ _).mp run
          cases answer with
          | error failure =>
              obtain ⟨rfl, rfl⟩ := (runs_pure_iff _ _ _).mp after
              exact .inr (.inl ⟨failure, rfl, rfl, by simpa using added, rfl⟩)
          | ok finalized =>
              obtain ⟨stages, closing, ended, outcome, rfl, ran, closed⟩ :=
                finalizing finalized rest (by rw [live]; exact after)
              exact .inr (.inr ⟨⟨finalized, opening, stages, closing, ended, outcome, rfl,
                .inr ⟨kept, deleting, added⟩, ran, closed⟩⟩)

end BindingOperator
