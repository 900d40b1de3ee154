import BindingOperator.Proofs.Touches

/-!
What a pass writes comes from what it was shown. Every update that it asks for carries a copy
that a step of the projector made of an object that an earlier answer showed, and that is so
wherever the pass stands, because it could go on without being shown anything more.
-/

namespace BindingOperator

open Dialogue

/-- An answer shows an object of a resource. -/
inductive Shows : Exchange BindingCall.Answer → Resource → Object → Prop where
  | got (resource : Resource) (namespaceName name : String) (object : Object) :
      Shows ⟨.getObject resource namespaceName name, .ok object⟩ resource object
  | listed (resource : Resource) (namespaceName query : String) (objects : List Object)
      (object : Object) (member : object ∈ objects) :
      Shows ⟨.listObjects resource namespaceName query, .ok objects⟩ resource object

/-- The binding that comes back from writing its finalizers is still the one that was sent. -/
def KeepsBinding : Exchange BindingCall.Answer → Prop
  | ⟨.patchFinalizers binding _, .ok written⟩ =>
      written.key = binding.key ∧ written.spec = binding.spec
  | _ => True

/-- A copy that a step of a binding made of an object that was shown. -/
inductive Derived (phase : Phase) (binding : Binding) (exchanges : Talk) (resource : Resource)
    (copy : Object) : Prop where
  | made (current : Binding) (exchange : Exchange BindingCall.Answer) (snapshot : Object)
      (member : exchange ∈ exchanges) (shown : Shows exchange resource snapshot)
      (key : current.key = binding.key) (spec : current.spec = binding.spec)
      (ran : (phase.step current).run snapshot = .ok copy)

section Passes

variable {clock : Clock} {phase : Phase} {binding : Binding} {exchanges : Talk}
  {resource : Resource} {copy : Object} {answer : Except Failure Object}

theorem Derived.congr {started : Binding} {more : Talk}
    (derived : Derived phase binding exchanges resource copy)
    (within : ∀ exchange ∈ exchanges, exchange ∈ more) (key : binding.key = started.key)
    (spec : binding.spec = started.spec) : Derived phase started more resource copy := by
  obtain ⟨current, exchange, snapshot, member, shown, sameKey, sameSpec, ran⟩ := derived
  exact .made current exchange snapshot (within exchange member) shown (sameKey.trans key)
    (sameSpec.trans spec) ran

/-- The workloads that are handed on were shown. -/
theorem resolved_shown {namespaceName : String} {workload : WorkloadReference}
    {found : WorkloadResolution}
    (run : Runs (resolveWorkloads namespaceName workload) exchanges (.ok found))
    (known : (recordWorkloads clock found { binding }).resource = some resource) :
    ∀ object ∈ (recordWorkloads clock found { binding }).workloads,
      ∃ exchange ∈ exchanges, Shows exchange resource object := by
  cases found with
  | notFound => simp [recordWorkloads, Progress.mark]
  | forbidden scope => cases scope <;> simp [recordWorkloads, Progress.mark]
  | resolved served workloads =>
      obtain rfl : served = resource := Option.some.inj known
      intro object (member : object ∈ workloads)
      rcases runs_resolveWorkloads namespaceName workload exchanges _ run with
        ⟨failure, -, impossible⟩ | ⟨other, rest, rfl, ⟨name, answer, -, rfl, outcome⟩ |
          ⟨-, -, -, outcome⟩ | ⟨selector, -, -, ⟨failure, -, -, impossible⟩ |
            ⟨query, answer, -, rfl, outcome⟩⟩⟩
      · simp at impossible
      · cases answer with
        | error failure =>
            simp only [namedOutcome] at outcome
            split at outcome
            · simp at outcome
            · split at outcome <;> simp at outcome
        | ok only =>
            simp only [namedOutcome, Except.ok.injEq, WorkloadResolution.resolved.injEq] at outcome
            obtain ⟨rfl, rfl⟩ := outcome
            rw [List.mem_singleton.mp member]
            exact ⟨_, List.mem_cons_of_mem _ (List.mem_singleton_self _), .got ..⟩
      · simp only [Except.ok.injEq, WorkloadResolution.resolved.injEq] at outcome
        simp [outcome.2] at member
      · simp at impossible
      · cases answer with
        | error failure =>
            simp only [listedOutcome] at outcome
            split at outcome <;> simp at outcome
        | ok objects =>
            simp only [listedOutcome, Except.ok.injEq, WorkloadResolution.resolved.injEq] at outcome
            obtain ⟨rfl, rfl⟩ := outcome
            exact ⟨_, List.mem_cons_of_mem _ (List.mem_singleton_self _),
              .listed _ _ _ _ object (List.mem_filter.mp member).1⟩

theorem workloadStages_derive {ending : Ending}
    (run : Runs (runStages clock PodTemplate.projector phase workloadStages { binding }) exchanges
      ending)
    (member : (⟨.updateObject resource copy, answer⟩ : Exchange BindingCall.Answer) ∈ exchanges) :
    Derived phase binding exchanges resource copy := by
  rcases runs_workloadStages clock _ phase _ _ _ run with
    ⟨failure, read, -⟩ | ⟨lists, writes, found, recorded, rfl, read, same, after⟩
  · have reads := resolveWorkloads_reads read _ member
    simp [BindingCall.writes] at reads
  have late : (⟨.updateObject resource copy, answer⟩ : Exchange BindingCall.Answer) ∈ writes := by
    refine (List.mem_append.mp member).resolve_left fun early => ?_
    have reads := resolveWorkloads_reads read _ early
    simp [BindingCall.writes] at reads
  rcases after with ⟨failure, -, rfl, -⟩ | ⟨copies, projected, wrote⟩
  · simp at late
  obtain ⟨served, known, pair, chosen, call⟩ := patchAll_calls wrote _ late
  simp only [BindingCall.updateObject.injEq] at call
  obtain ⟨rfl, rfl⟩ := call
  obtain ⟨among, made⟩ := projectAll_zip _ _ _ _ _ projected pair chosen
  rw [applied_step] at made
  subst same
  obtain ⟨exchange, inside, shown⟩ := resolved_shown read known pair.1 among
  obtain ⟨change, conditions⟩ := recordWorkloads_eq clock found { binding }
  exact .made _ exchange pair.1 (List.mem_append_left _ inside) shown
    (key_of_metadata _ _ (by rw [conditions]; rfl)) (by rw [conditions]; rfl) made

theorem runPhase_derive {ended : Binding} {outcome : Except Halt Unit}
    (run : Runs (runPhase clock PodTemplate.projector phase (restartConditions clock phase binding))
      exchanges (ended, outcome))
    (member : (⟨.updateObject resource copy, answer⟩ : Exchange BindingCall.Answer) ∈ exchanges) :
    Derived phase binding exchanges resource copy := by
  have restarted : (restartConditions clock phase binding).key = binding.key :=
    key_of_metadata _ _ rfl
  cases phase with
  | deleting =>
      obtain ⟨progress, stages, -⟩ := runs_runPhase clock _ .deleting _ ended _ exchanges run
      rw [ofPhase_deleting] at stages
      exact (workloadStages_derive stages member).congr (fun _ => id) restarted rfl
  | live =>
      rcases runs_live clock _ _ _ _ _ run with
        ⟨failure, read, -⟩ | ⟨reads, rest, service, progress, rfl, read, later, -⟩
      · have reads := resolveService_reads read _ member
        simp [BindingCall.writes] at reads
      · have late : (⟨.updateObject resource copy, answer⟩ : Exchange BindingCall.Answer) ∈
            rest := by
          refine (List.mem_append.mp member).resolve_left fun early => ?_
          have reads := resolveService_reads read _ early
          simp [BindingCall.writes] at reads
        have metadata := metadata_recordSecret clock service (restartConditions clock .live binding)
        exact (workloadStages_derive later late).congr (fun _ => List.mem_append_right _)
          ((key_of_metadata _ _ metadata).trans restarted) (spec_recordSecret clock service _)

/-- Every update of a pass carries a copy of an object that the pass was shown. -/
theorem reconcile_derives {result : Except Halt Action}
    (run : Runs (reconcile clock PodTemplate.projector binding) exchanges result)
    (kept : ∀ exchange ∈ exchanges, KeepsBinding exchange)
    (member : (⟨.updateObject resource copy, answer⟩ : Exchange BindingCall.Answer) ∈ exchanges) :
    Derived (Phase.of binding) binding exchanges resource copy := by
  -- nothing that is about the binding itself updates an object
  have apart : aboutBinding (.updateObject resource copy) = false := rfl
  rcases reconcile_passes clock _ binding exchanges result run with
    ⟨-, -, rfl, -⟩ | ⟨failure, -, -, added, -⟩ | ⟨⟨pass⟩⟩
  · simp at member
  · simp [patchFinalizers_about added _ member] at apart
  have opening : pass.finalized.key = binding.key ∧ pass.finalized.spec = binding.spec ∧
      (⟨.updateObject resource copy, answer⟩ : Exchange BindingCall.Answer) ∉ pass.opening := by
    rcases pass.opened with ⟨-, none, same⟩ | ⟨-, -, added⟩
    · rw [same, none]
      exact ⟨rfl, rfl, List.not_mem_nil⟩
    · rcases runs_patchFinalizers added with ⟨failure, impossible, -⟩ | ⟨patched, same, calls⟩
      · simp at impossible
      rw [Except.ok.injEq] at same
      have first : (⟨.patchFinalizers binding
          (binding.metadata.finalizerList ++ [bindingFinalizer]), .ok patched⟩ :
            Exchange BindingCall.Answer) ∈ exchanges := by
        rw [pass.split, calls]
        simp
      obtain ⟨key, spec⟩ := kept _ first
      refine ⟨same ▸ key, same ▸ spec, fun early => ?_⟩
      simp [patchFinalizers_about added _ early] at apart
  obtain ⟨key, spec, unopened⟩ := opening
  have inside : (⟨.updateObject resource copy, answer⟩ : Exchange BindingCall.Answer) ∈
      pass.stages := by
    rw [pass.split, List.mem_append, List.mem_append] at member
    refine (member.resolve_left unopened).resolve_right fun late => ?_
    simp [pass.closing_about _ late] at apart
  refine (runPhase_derive pass.ran inside).congr (fun exchange within => ?_) key spec
  rw [pass.split]
  exact List.mem_append_right _ (List.mem_append_left _ within)

end Passes

section Ending

/-- An answer that shows nothing: a failure wherever there can be one. -/
def BindingCall.refuse : (call : BindingCall) → call.Answer
  | .resolve _ => .error (.internal "")
  | .getObject _ _ _ => .error (.internal "")
  | .listObjects _ _ _ => .error (.internal "")
  | .updateObject _ _ => .error (.internal "")
  | .patchFinalizers _ _ => .error (.internal "")
  | .updateStatus _ => .error (.internal "")
  | .publish _ _ => ()

theorem refuse_shows (call : BindingCall) (resource : Resource) (object : Object) :
    ¬ Shows ⟨call, call.refuse⟩ resource object := by
  intro shown
  cases call <;> cases shown

theorem refuse_keeps (call : BindingCall) : KeepsBinding ⟨call, call.refuse⟩ := by
  cases call <;> trivial

/-- Every dialogue can be ended by refusing whatever it still asks. -/
theorem runs_refused {α : Type} (dialogue : BindingTalk α) :
    ∃ exchanges value, Runs dialogue exchanges value ∧
      ∀ exchange ∈ exchanges, exchange.2 = exchange.1.refuse := by
  induction dialogue with
  | done value => exact ⟨[], value, .done value, by simp⟩
  | ask call next ih =>
      obtain ⟨exchanges, value, run, refused⟩ := ih call.refuse
      refine ⟨⟨call, call.refuse⟩ :: exchanges, value, .ask _ _ _ _ _ run, ?_⟩
      rw [List.forall_mem_cons]
      exact ⟨rfl, refused⟩

/-- A pass that asks for an update has made the copy of an object that it was shown before. -/
theorem update_derived {clock : Clock} {binding : Binding} {said : Talk} {resource : Resource}
    {copy : Object} {next : Except Failure Object → BindingTalk (Except Halt Action)}
    (leads : Leads (reconcile clock PodTemplate.projector binding) said
      (.ask (.updateObject resource copy) next))
    (kept : ∀ exchange ∈ said, KeepsBinding exchange) :
    Derived (Phase.of binding) binding said resource copy := by
  obtain ⟨later, result, run, refused⟩ := runs_refused
    (.ask (.updateObject resource copy) next : BindingTalk (Except Halt Action))
  obtain ⟨answer, rest, first, -⟩ := (runs_ask_iff _ _ _ _).mp run
  have asked : (⟨.updateObject resource copy, answer⟩ : Exchange BindingCall.Answer) ∈
      said ++ later := by
    rw [first]
    exact List.mem_append_right _ List.mem_cons_self
  have unshown : ∀ exchange ∈ later, KeepsBinding exchange ∧
      ∀ resource object, ¬ Shows exchange resource object := by
    rintro ⟨call, given⟩ member
    obtain rfl : given = call.refuse := refused _ member
    exact ⟨refuse_keeps call, refuse_shows call⟩
  have still : ∀ exchange ∈ said ++ later, KeepsBinding exchange := by
    intro exchange member
    exact (List.mem_append.mp member).elim (kept exchange) fun late => (unshown exchange late).1
  obtain ⟨current, exchange, snapshot, member, shown, key, spec, ran⟩ :=
    reconcile_derives (leads.runs run) still asked
  -- what was refused shows nothing, so the snapshot was shown before the update was asked for
  have early := (List.mem_append.mp member).resolve_right fun late =>
    (unshown exchange late).2 resource snapshot shown
  exact .made current exchange snapshot early shown key spec ran

end Ending

end BindingOperator
