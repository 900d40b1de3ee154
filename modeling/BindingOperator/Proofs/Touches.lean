import BindingOperator.Proofs.FinalizerRelease
import BindingOperator.Proofs.SteadyState

/-!
What one pass does to the objects of a cluster that nothing disturbs. Whatever is not
selected by the reference of the binding stays as it is; an object that is selected stays as
well, or becomes what one step of the projector makes of it, under a new version.
-/

namespace BindingOperator

open Dialogue

/-- The step of the projector that a phase takes with each workload. -/
def Phase.step : Phase → Binding → ProjectionStep
  | .live, binding => .project binding
  | .deleting, binding => .unproject binding

theorem applied_step (phase : Phase) (binding : Binding) (workload : Object) :
    applied PodTemplate.projector phase binding workload =
      (phase.step binding).run workload := by
  cases phase <;> rfl

theorem Phase.key_step (phase : Phase) (binding : Binding) :
    (phase.step binding).key = binding.key := by
  cases phase <;> rfl

theorem ProjectionStep.metadata_run (step : ProjectionStep) (workload copy : Object)
    (ran : step.run workload = .ok copy) : copy.metadata = workload.metadata := by
  cases step with
  | project binding => exact metadata_of_project binding workload copy ran
  | unproject binding => exact metadata_of_unproject binding workload copy ran

theorem key_of_metadata (one other : Binding) (same : one.metadata = other.metadata) :
    one.key = other.key := by
  simp only [Binding.key, Binding.nameAny, same]

/-- An object became what a step of the binding with a key makes of it. -/
def Stepped (key : String) (before after : Object) : Prop :=
  ∃ step copy version, ProjectionStep.key step = key ∧ step.run before = .ok copy ∧
    after = copy.withVersion version

/-- An object that the reference of a binding selects, and what became of it. -/
structure Touched (cluster : Cluster) (binding : Binding) (place : Place)
    (before after : Object) : Prop where
  present : cluster.objects place = some before
  served : cluster.serves binding.spec.workload.kindOf = some place.resource
  inside : place.namespaceName = binding.namespaceName
  selected : binding.spec.workload.Selects before
  stepped : Stepped binding.key before after

theorem Touched.congr {one other : Cluster} {binding changed : Binding} {place : Place}
    {before after : Object} (touched : Touched one binding place before after)
    (objects : one.objects = other.objects) (serves : one.serves = other.serves)
    (spec : binding.spec = changed.spec)
    (namespaceName : binding.namespaceName = changed.namespaceName)
    (key : binding.key = changed.key) : Touched other changed place before after where
  present := objects ▸ touched.present
  served := by
    rw [← serves, ← spec]
    exact touched.served
  inside := touched.inside.trans namespaceName
  selected := spec ▸ touched.selected
  stepped := key ▸ touched.stepped

section Undisturbed

variable {exchanges : Talk} {first last : Cluster}

/-- Calls that update no object leave the objects and what is served. -/
theorem undisturbed_objects (history : Undisturbed first exchanges last)
    (apart : ∀ exchange ∈ exchanges, updatesObject exchange.1 = false) :
    last.objects = first.objects ∧ last.serves = first.serves := by
  apply history_keeps (fun cluster => cluster.objects = first.objects ∧
    cluster.serves = first.serves) history
  · rintro exchange member before after ⟨objects, serves⟩ given
    obtain ⟨same, served⟩ := answers_objects exchange.1 exchange.2 (apart exchange member) given
    exact ⟨same.trans objects, served.trans serves⟩
  · rintro before after same rfl
    exact same
  · exact ⟨rfl, rfl⟩

theorem updatesObject_writes (call : BindingCall) (reads : call.writes = false) :
    updatesObject call = false := by
  cases call with
  | updateObject resource object => simp [BindingCall.writes] at reads
  | _ => rfl

end Undisturbed

section Passes

variable {clock : Clock} {phase : Phase} {binding : Binding} {exchanges : Talk}
  {first last : Cluster} {place : Place} {object : Object}

theorem workloadStages_touch {ending : Ending}
    (run : Runs (runStages clock PodTemplate.projector phase workloadStages { binding }) exchanges
      ending) (history : Undisturbed first exchanges last)
    (present : last.objects place = some object) :
    first.objects place = some object ∨
      ∃ before, Touched first binding place before object := by
  rcases runs_workloadStages clock _ phase _ _ _ run with
    ⟨failure, read, -⟩ | ⟨lists, writes, resolution, recorded, rfl, read, same, after⟩
  · have quiet := undisturbed_objects history fun exchange member =>
      updatesObject_writes exchange.1 (resolveWorkloads_reads read exchange member)
    exact .inl (quiet.1 ▸ present)
  obtain ⟨middle, reading, writing⟩ := (history_append lists writes).mp history
  obtain ⟨rfl, resource, found, there, gives⟩ := read_workloads _ _ read reading
  have held : recorded.workloads = found ∧ (recorded.resource = some resource ∨ found = []) := by
    rw [same]
    exact gives.recorded clock binding
  obtain ⟨change, conditions⟩ := recordWorkloads_eq clock resolution { binding }
  have key : recorded.binding.key = binding.key := by
    rw [same, conditions]
    exact key_of_metadata _ _ rfl
  rw [held.1] at after
  rcases after with ⟨failure, -, rfl, -⟩ | ⟨copies, projected, wrote⟩
  · rw [show last = middle from writing] at present
    exact .inl present
  have losing : ∀ before after : Cluster, before = after → before.Loses after := by
    rintro before _ rfl
    exact .refl before
  rcases (grown_copies wrote held.2 losing writing).objects place object present with
    old | ⟨pair, member, rfl, version, rfl⟩
  · exact .inl old
  -- the object is a copy, and the copy is of something that was found
  obtain ⟨chosen, made⟩ := projectAll_zip _ _ _ _ _ projected pair member
  rw [applied_step] at made
  obtain ⟨kept, inside, selected⟩ := there.kept pair.1 chosen
  have metadata := ProjectionStep.metadata_run _ _ _ made
  have here := Object.placeIn_of_metadata resource pair.1 pair.2 metadata
  refine .inr ⟨pair.1, ?_, there.served, ?_, selected, phase.step recorded.binding, pair.2, version,
    (phase.key_step _).trans key, made, rfl⟩
  · rw [here]
    exact kept
  · rw [here]
    exact inside

theorem runPhase_touch {ended : Binding} {outcome : Except Halt Unit}
    (run : Runs (runPhase clock PodTemplate.projector phase (restartConditions clock phase binding))
      exchanges (ended, outcome)) (history : Undisturbed first exchanges last)
    (present : last.objects place = some object) :
    first.objects place = some object ∨
      ∃ before, Touched first binding place before object := by
  cases phase with
  | deleting =>
      obtain ⟨progress, stages, -⟩ := runs_runPhase clock _ .deleting _ ended _ exchanges run
      rw [ofPhase_deleting] at stages
      refine (workloadStages_touch stages history present).imp id ?_
      rintro ⟨before, touched⟩
      exact ⟨before, touched.congr rfl rfl rfl rfl (key_of_metadata _ _ rfl)⟩
  | live =>
      rcases runs_live clock _ _ _ _ _ run with
        ⟨failure, read, -⟩ | ⟨reads, rest, service, progress, rfl, read, later, -⟩
      · have quiet := undisturbed_objects history fun exchange member =>
          updatesObject_writes exchange.1 (resolveService_reads read exchange member)
        exact .inl (quiet.1 ▸ present)
      · obtain ⟨middle, reading, working⟩ := (history_append reads rest).mp history
        obtain ⟨rfl, -⟩ := read_service _ _ read reading
        have metadata := metadata_recordSecret clock service (restartConditions clock .live binding)
        refine (workloadStages_touch later working present).imp id ?_
        rintro ⟨before, touched⟩
        refine ⟨before, touched.congr rfl rfl (spec_recordSecret clock service _) ?_
          (key_of_metadata _ _ metadata)⟩
        rw [Binding.namespaceName, metadata]
        rfl

/-- The opening of a pass changes no object, and nothing of the binding that the stages use. -/
theorem opening_quiet {result : Except Halt Action}
    (pass : Pass clock PodTemplate.projector binding exchanges result)
    (history : Undisturbed first pass.opening last) :
    last.objects = first.objects ∧ last.serves = first.serves ∧
      pass.finalized.spec = binding.spec ∧
      pass.finalized.namespaceName = binding.namespaceName ∧
      pass.finalized.key = binding.key := by
  rcases pass.opened with ⟨-, none, same⟩ | ⟨-, -, added⟩
  · rw [none] at history
    rw [show last = first from history, same]
    exact ⟨rfl, rfl, rfl, rfl, rfl⟩
  · obtain ⟨objects, serves⟩ := undisturbed_objects history fun exchange member =>
      updatesObject_about exchange.1 (patchFinalizers_about added exchange member)
    refine ⟨objects, serves, ?_⟩
    rcases runs_patchFinalizers added with ⟨failure, impossible, -⟩ | ⟨patched, same, calls⟩
    · simp at impossible
    rw [Except.ok.injEq] at same
    rw [calls] at history
    obtain ⟨_, _, ⟨⟨version, written⟩, -⟩, -⟩ := history
    rw [same, written]
    exact ⟨rfl, rfl, rfl⟩

/-- After a pass an object is what it was, or what a step made of a selected one. -/
theorem pass_touches {result : Except Halt Action}
    (run : Runs (reconcile clock PodTemplate.projector binding) exchanges result)
    (history : Undisturbed first exchanges last) (present : last.objects place = some object) :
    first.objects place = some object ∨
      ∃ before, Touched first binding place before object := by
  rcases reconcile_passes clock _ binding exchanges result run with
    ⟨-, -, rfl, -⟩ | ⟨failure, -, -, added, -⟩ | ⟨⟨pass⟩⟩
  · rw [show last = first from history] at present
    exact .inl present
  · have quiet := undisturbed_objects history fun exchange member =>
      updatesObject_about exchange.1 (patchFinalizers_about added exchange member)
    exact .inl (quiet.1 ▸ present)
  · rw [pass.split] at history
    obtain ⟨second, opening, following⟩ := (history_append pass.opening _).mp history
    obtain ⟨third, working, finishing⟩ := (history_append pass.stages pass.closing).mp following
    obtain ⟨objects, serves, spec, namespaceName, key⟩ := opening_quiet pass opening
    have quiet := undisturbed_objects finishing fun exchange member =>
      updatesObject_about exchange.1 (pass.closing_about exchange member)
    rw [quiet.1] at present
    rcases runPhase_touch pass.ran working present with old | ⟨before, touched⟩
    · exact .inl (objects ▸ old)
    · exact .inr ⟨before, touched.congr objects serves spec namespaceName key⟩

end Passes

end BindingOperator
