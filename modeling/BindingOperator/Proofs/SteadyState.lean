import BindingOperator.Proofs.Repetition
import BindingOperator.Proofs.Reporting
import BindingOperator.Proofs.Undisturbed

/-!
The steady state of the passes over a binding. A state is steady when the finalizer is in
place, every selected workload is what projecting it gives, and the status is what a pass
would report; a pass over a steady state reads and writes nothing. Every live pass that ends
well in an undisturbed cluster leaves a steady state behind.
-/

namespace BindingOperator

open Dialogue Conditions

def BindingCall.writes : BindingCall → Bool
  | .patchFinalizers _ _ => true
  | .updateStatus _ => true
  | .updateObject _ _ => true
  | _ => false

section Stages

variable {clock : Clock} {binding ended : Binding} {exchanges : Talk} {first last : Cluster}

theorem resolveService_reads {namespaceName : String} {service : ServiceReference}
    {outcome : Except Failure ServiceResolution}
    (run : Runs (resolveService namespaceName service) exchanges outcome) :
    ∀ exchange ∈ exchanges, exchange.1.writes = false := by
  rcases runs_resolveService namespaceName service exchanges outcome run with
    ⟨-, rfl, -⟩ | ⟨-, ⟨failure, rfl, -⟩ | ⟨resource, answer, rfl, -⟩⟩
  all_goals simp [BindingCall.writes]

theorem resolveWorkloads_reads {namespaceName : String} {workload : WorkloadReference}
    {outcome : Except Failure WorkloadResolution}
    (run : Runs (resolveWorkloads namespaceName workload) exchanges outcome) :
    ∀ exchange ∈ exchanges, exchange.1.writes = false := by
  rcases runs_resolveWorkloads namespaceName workload exchanges outcome run with
    ⟨failure, rfl, -⟩ | ⟨resource, rest, rfl, ⟨name, answer, -, rfl, -⟩ | ⟨-, -, rfl, -⟩ |
      ⟨selector, -, -, ⟨failure, -, rfl, -⟩ | ⟨query, answer, -, rfl, -⟩⟩⟩
  all_goals simp [BindingCall.writes]

/-- What a live pass reads in a cluster before it writes. -/
structure Reading (cluster : Cluster) (binding : Binding) where
  service : ServiceResolution
  workloads : WorkloadResolution
  resource : Resource
  found : List Object
  resolves : cluster.serviceOf binding.namespaceName binding.spec.service = some service
  looksUp : cluster.LooksUp binding.spec.workload
  verdict : writtenVerdict workloads =
    cluster.workloadsVerdict binding.namespaceName binding.spec.workload
  there : Found binding.spec.workload binding.namespaceName cluster resource found

/-- What holds of every object that a reference selects in the cluster holds of what is read
there. -/
theorem Reading.each {cluster : Cluster} (reading : Reading cluster binding)
    {holds : Object → Prop} (selected : ∀ resource name object,
      cluster.serves binding.spec.workload.kindOf = some resource →
      cluster.objects ⟨resource, binding.namespaceName, name⟩ = some object →
      binding.spec.workload.Selects object → holds object) :
    ∀ workload ∈ reading.found, holds workload := by
  intro workload member
  obtain ⟨held, inside, selects⟩ := reading.there.kept workload member
  rw [Object.placeIn, inside] at held
  exact selected reading.resource _ workload reading.there.served held selects

/-- The stages of a live pass in an undisturbed cluster: something cannot be looked up, or a
workload cannot be projected, or the copies are written. -/
theorem undisturbed_stages {outcome : Except Halt Unit}
    (run : Runs (runPhase clock PodTemplate.projector .live (restartConditions clock .live binding))
      exchanges (ended, outcome)) (history : Undisturbed first exchanges last) :
    first.serviceOf binding.namespaceName binding.spec.service = none ∧ outcome ≠ .ok () ∨
      ¬ first.LooksUp binding.spec.workload ∧ outcome ≠ .ok () ∨
      ∃ (reading : Reading first binding) (reads writes : Talk),
        exchanges = reads ++ writes ∧ (∀ exchange ∈ reads, exchange.1.writes = false) ∧
        ((∃ failure, projectAll PodTemplate.projector .live
            (resolvedBinding clock reading.service reading.workloads binding) reading.found =
              .error failure ∧ outcome ≠ .ok ()) ∨
          ∃ copies progress ending, projectAll PodTemplate.projector .live
              (resolvedBinding clock reading.service reading.workloads binding) reading.found =
                .ok copies ∧
            progress.binding = resolvedBinding clock reading.service reading.workloads binding ∧
            (progress.resource = some reading.resource ∨ reading.found = []) ∧
            Undisturbed first writes last ∧
            Runs (patchAll clock progress (reading.found.zip copies)) writes (ending, outcome) ∧
            ended = ending.binding) := by
  rcases runs_live clock _ _ _ _ _ run with
    ⟨failure, read, -, rfl⟩ | ⟨reads, rest, service, progress, rfl, read, later, rfl⟩
  · obtain ⟨-, known⟩ := read_service _ _ read history
    exact .inl ⟨known.symm, by simp⟩
  obtain ⟨middle, reading, following⟩ := (history_append reads rest).mp history
  obtain ⟨rfl, known⟩ := read_service _ _ read reading
  have namespaceName :
      (recordSecret clock service (restartConditions clock .live binding)).namespaceName =
        binding.namespaceName :=
    congrArg (fun metadata => metadata.namespaceName.getD "")
      (metadata_recordSecret clock service _)
  have spec : (recordSecret clock service (restartConditions clock .live binding)).spec =
      binding.spec := spec_recordSecret clock service _
  rcases runs_workloadStages clock _ _ _ _ _ later with
    ⟨failure, lookedUp, same⟩ | ⟨lists, writes, workloads, recorded, rfl, lookedUp, same, after⟩
  · rw [namespaceName, spec] at lookedUp
    refine .inr (.inl ⟨fun looks => ?_, by simp [(Prod.mk.inj same).2]⟩)
    obtain ⟨resolution, impossible⟩ := (looksUp_iff _ _ lookedUp following).mpr looks
    simp at impossible
  rw [namespaceName, spec] at lookedUp
  obtain ⟨middle, looking, writing⟩ := (history_append lists writes).mp following
  have looks := (looksUp_iff _ _ lookedUp looking).mp ⟨_, rfl⟩
  obtain ⟨rfl, resource, found, there, gives⟩ := read_workloads _ _ lookedUp looking
  have resolved : recorded.binding = resolvedBinding clock service workloads binding := by
    rw [same]
    rfl
  have held : recorded.workloads = found ∧ (recorded.resource = some resource ∨ found = []) := by
    rw [same]
    exact gives.recorded clock _
  rw [resolved, held.1] at after
  -- the reads are those of both resolutions, and none of them writes
  refine .inr (.inr ⟨⟨service, workloads, resource, found, known.symm, looks,
    verdict_of_gives there gives, there⟩,
    reads ++ lists, writes, (List.append_assoc _ _ _).symm, ?_, ?_⟩)
  · intro exchange member
    rcases List.mem_append.mp member with early | late
    · exact resolveService_reads read exchange early
    · exact resolveWorkloads_reads lookedUp exchange late
  · rcases after with ⟨failure, fails, -, ended⟩ | ⟨copies, projected, wrote⟩
    · exact .inl ⟨failure, fails, by simp [(Prod.mk.inj ended).2]⟩
    · exact .inr ⟨copies,
        ⟨resolvedBinding clock service workloads binding, recorded.resource, found, copies⟩,
        progress, projected, rfl, held.2, writing, wrote, rfl⟩

/-- Copies go to the places of what they were made of, and publish the same Secret. -/
theorem alike_writes {resource : Resource} {found copies : List Object}
    (grown : Grown resource (found.zip copies) first last) (each : Copies found copies)
    (own : ∀ object ∈ found, first.objects (object.placeIn resource) = some object)
    (published : ∀ pair ∈ found.zip copies, pair.2.secretName = pair.1.secretName)
    (taken : ∀ place, (last.objects place).isSome = (first.objects place).isSome) :
    Alike first last := by
  constructor
  · exact grown.serves
  · intro place
    cases held : last.objects place with
    | none =>
        have free := taken place
        rw [held, Option.isSome_none, eq_comm, Option.isSome_eq_false_iff,
          Option.isNone_iff_eq_none] at free
        rw [free]
    | some object =>
        rcases grown.objects place object held with old | ⟨pair, member, rfl, version, rfl⟩
        · rw [old]
        · obtain ⟨among, same⟩ := each.kept pair member
          rw [Object.placeIn_of_metadata resource pair.1 pair.2 same, own pair.1 among]
          exact congrArg some (published pair member)

/-- After the writes each selected workload is the copy that was made of it. -/
theorem undisturbed_writes {workload : WorkloadReference} {namespaceName : String}
    {resource : Resource} {found copies : List Object} {resolved : Binding} {writes : Talk}
    {progress : Progress} {ending : Ending}
    (there : Found workload namespaceName first resource found)
    (projected : projectAll PodTemplate.projector .live resolved found = .ok copies)
    (run : Runs (patchAll clock progress (found.zip copies)) writes ending)
    (ended : ending.2 = .ok ()) (known : progress.resource = some resource ∨ found = [])
    (history : Undisturbed first writes last) :
    Alike first last ∧ ∀ name object, last.objects ⟨resource, namespaceName, name⟩ = some object →
      workload.Selects object →
        Copied resource (found.zip copies) ⟨resource, namespaceName, name⟩ object := by
  have losing : ∀ before after : Cluster, before = after → before.Loses after := by
    rintro before _ rfl
    exact .refl before
  have each := copies_of_projectAll projected fun workload copy made =>
    metadata_of_project _ workload copy made
  constructor
  · apply alike_writes (grown_copies run known losing history) each
    · exact fun object member => (there.kept object member).1
    · intro pair member
      obtain ⟨-, made⟩ := projectAll_zip _ _ _ _ _ projected pair member
      obtain ⟨path, template, changed, located, same⟩ := located_of_project _ _ _ made
      rw [same]
      exact secretName_withTemplateAt located changed
    · exact undisturbed_places history
  · intro name object present selected
    exact copied_selected there (.refl first) each run ended known losing truthful_undisturbed
      (undisturbed_unrefused history) history present selected

/-- The stages of a live pass that went well made copies of all that they read, and wrote
them. -/
theorem undisturbed_went
    (run : Runs (runPhase clock PodTemplate.projector .live (restartConditions clock .live binding))
      exchanges (ended, .ok ())) (history : Undisturbed first exchanges last) :
    ∃ (reading : Reading first binding) (copies : List Object),
      projectAll PodTemplate.projector .live
          (resolvedBinding clock reading.service reading.workloads binding) reading.found =
        .ok copies ∧
      ended = (resolvedBinding clock reading.service reading.workloads binding).withConditions
        (markWritten clock) ∧
      Alike first last ∧
      ∀ name object, last.objects ⟨reading.resource, binding.namespaceName, name⟩ = some object →
        binding.spec.workload.Selects object →
          Copied reading.resource (reading.found.zip copies)
            ⟨reading.resource, binding.namespaceName, name⟩ object := by
  rcases undisturbed_stages run history with ⟨-, failed⟩ | ⟨-, failed⟩ |
    ⟨reading, reads, writes, -, -, ⟨failure, -, failed⟩ |
      ⟨copies, progress, ending, projected, resolved, known, writing, wrote, ended⟩⟩
  · exact absurd rfl failed
  · exact absurd rfl failed
  · exact absurd rfl failed
  -- a write can end early only at a refusal, and nothing is refused here
  have written : ending = progress.mark (markWritten clock) := by
    rcases runs_patchAll wrote with ⟨same, -⟩ | ⟨-, served, copy, failure, refused, sent⟩ |
      ⟨halt, impossible⟩
    · exact (Prod.mk.inj same).1
    · exact absurd refused (undisturbed_unrefused writing _ sent)
    · simp at impossible
  obtain ⟨resembling, copied⟩ := undisturbed_writes reading.there projected wrote rfl known writing
  refine ⟨reading, copies, projected, ?_, resembling, copied⟩
  rw [ended, written, ← resolved]
  rfl

end Stages

/-- A state in which the binding has nothing left to do. -/
structure Steady (cluster : Cluster) (binding : Binding) (service : ServiceResolution) :
    Prop where
  live : binding.isDeleting = false
  finalized : binding.hasFinalizer bindingFinalizer = true
  resolves : cluster.serviceOf binding.namespaceName binding.spec.service = some service
  looksUp : cluster.LooksUp binding.spec.workload
  projected : ∀ resource name object, cluster.serves binding.spec.workload.kindOf = some resource →
    cluster.objects ⟨resource, binding.namespaceName, name⟩ = some object →
    binding.spec.workload.Selects object → PodTemplate.project binding object = .ok object
  secret : service.secretAfter binding.statusOrDefault.secret = binding.statusOrDefault.secret
  status : binding.status = some {
    observedGeneration := binding.metadata.generation
    conditions := binding.conditions
    secret := binding.statusOrDefault.secret }
  reported : Reported (serviceVerdict service)
    (cluster.workloadsVerdict binding.namespaceName binding.spec.workload) binding.conditions

section Resting

variable {clock : Clock} {exchanges : Talk} {first last : Cluster}

/-- Copies that are what they were made of need no writing. -/
theorem projectAll_same {projector : Projector} {phase : Phase} {binding : Binding}
    (workloads : List Object)
    (same : ∀ workload ∈ workloads, applied projector phase binding workload = .ok workload) :
    projectAll projector phase binding workloads = .ok workloads := by
  induction workloads with
  | nil => rfl
  | cons workload rest ih =>
      have later := ih fun other member => same other (List.mem_cons_of_mem _ member)
      rw [projectAll_cons, same workload List.mem_cons_self, Except.bind, later]
      rfl

theorem runs_patchAll_same {progress : Progress} {workloads : List Object} {ending : Ending}
    (run : Runs (patchAll clock progress (workloads.zip workloads)) exchanges ending) :
    exchanges = [] ∧ ending = (progress.mark (markWritten clock), .ok ()) := by
  induction workloads with
  | nil => exact runs_patchAll_nil.mp run
  | cons workload rest ih =>
      rw [List.zip_cons_cons, patchAll] at run
      exact ih (by simpa [sameIdentity] using run)

variable {binding ended : Binding} {service : ServiceResolution}

theorem steady_stages (steady : Steady first binding service) {outcome : Except Halt Unit}
    (run : Runs (runPhase clock PodTemplate.projector .live (restartConditions clock .live binding))
      exchanges (ended, outcome)) (history : Undisturbed first exchanges last) :
    outcome = .ok () ∧ last = first ∧ (∀ exchange ∈ exchanges, exchange.1.writes = false) ∧
      some (computedStatus binding.status ended) = binding.status := by
  rcases undisturbed_stages run history with ⟨unknown, -⟩ | ⟨lost, -⟩ |
    ⟨reading, reads, writes, rfl, quiet, outcome⟩
  · simp [steady.resolves] at unknown
  · exact absurd steady.looksUp lost
  have known : reading.service = service :=
    Option.some.inj (reading.resolves.symm.trans steady.resolves)
  -- the pass records the Secret that is recorded already, so it projects what was projected
  have essence : (resolvedBinding clock reading.service reading.workloads binding).essence =
      binding.essence := by
    rw [essence_resolvedBinding, known, steady.secret]
    rfl
  have same : ∀ workload ∈ reading.found, applied PodTemplate.projector .live
      (resolvedBinding clock reading.service reading.workloads binding) workload = .ok workload :=
    fun workload member => (project_of_essence essence workload).trans
      (reading.each steady.projected workload member)
  have copied := projectAll_same reading.found same
  rcases outcome with ⟨failure, fails, -⟩ |
    ⟨copies, progress, ending, projected, resolved, -, writing, wrote, rfl⟩
  · simp [copied] at fails
  rw [copied, Except.ok.injEq] at projected
  rw [← projected] at wrote
  obtain ⟨rfl, ended⟩ := runs_patchAll_same wrote
  rw [Prod.mk.injEq] at ended
  obtain ⟨rfl, rfl⟩ := ended
  refine ⟨rfl, writing, by simpa using quiet, ?_⟩
  have reported := reported_again clock binding reading.service reading.workloads
    (by rw [known, reading.verdict]; exact steady.reported)
  have marked : (progress.mark (markWritten clock)).binding =
      (resolvedBinding clock reading.service reading.workloads binding).withConditions
        (markWritten clock) := by
    rw [← resolved]
    rfl
  rw [marked, computedStatus_resolved, reported, known, steady.secret]
  exact steady.status.symm

/-- A pass over a steady state goes well, writes nothing and leaves the cluster as it is. -/
theorem steady_rests (steady : Steady first binding service) {result : Except Halt Action}
    (run : Runs (reconcile clock PodTemplate.projector binding) exchanges result)
    (history : Undisturbed first exchanges last) :
    result = .ok .awaitChange ∧ last = first ∧
      ∀ exchange ∈ exchanges, exchange.1.writes = false := by
  have kept := steady.finalized
  rcases reconcile_passes clock _ binding exchanges result run with
    ⟨missing, -⟩ | ⟨failure, missing, -⟩ | ⟨⟨pass⟩⟩
  · rw [kept] at missing
    simp at missing
  · rw [kept] at missing
    simp at missing
  obtain ⟨finalized, opening, stages, closing, ended, outcome, rfl, opened, ran, closed⟩ := pass
  have phase : Phase.of binding = .live := by simp [Phase.of, steady.live]
  rcases opened with ⟨-, rfl, rfl⟩ | ⟨missing, -⟩
  · rw [phase] at ran closed
    obtain ⟨middle, working, finishing⟩ := (history_append stages closing).mp history
    obtain ⟨rfl, rfl, quiet, same⟩ := steady_stages steady ran working
    -- the computed status is the stored one, and a live binding keeps its finalizer
    have nothing : settle .live finalized.status ended (.ok ()) = pure (.ok .awaitChange) := by
      change writeStatus _ _ >>= conclude .live (.ok ()) = _
      rw [writeStatus_kept _ _ same]
      rfl
    rw [nothing] at closed
    obtain ⟨rfl, rfl⟩ := (runs_pure_iff _ _ _).mp closed
    exact ⟨rfl, finishing, by simpa using quiet⟩
  · rw [kept] at missing
    simp at missing

end Resting

section Settling

variable {clock : Clock} {binding ended : Binding} {exchanges : Talk} {first last : Cluster}

/-- Putting the finalizer in place changes the binding that the cluster has and no object. -/
theorem undisturbed_opening {result : Except Halt Action}
    (pass : Pass clock PodTemplate.projector binding exchanges result)
    (own : first.binding = binding) (history : Undisturbed first pass.opening last) :
    last.binding = pass.finalized ∧ last.objects = first.objects ∧ last.serves = first.serves ∧
      pass.finalized.hasFinalizer bindingFinalizer = true ∧
      pass.finalized.isDeleting = binding.isDeleting ∧
      pass.finalized.namespaceName = binding.namespaceName ∧
      pass.finalized.spec = binding.spec := by
  rcases pass.opened with ⟨kept, none, same⟩ | ⟨-, -, added⟩
  · rw [none] at history
    rw [show last = first from history, same]
    exact ⟨own, rfl, rfl, kept, rfl, rfl, rfl⟩
  · rcases runs_patchFinalizers added with ⟨failure, impossible, -⟩ | ⟨patched, same, calls⟩
    · simp at impossible
    rw [Except.ok.injEq] at same
    subst same
    rw [calls] at history
    obtain ⟨_, _, ⟨⟨version, written⟩, rfl⟩, rfl, _, _, noted, rfl, rfl⟩ := history
    rw [show last = first.keep pass.finalized from noted]
    -- only the finalizers and the version of the written binding are new
    refine ⟨rfl, rfl, rfl, ?_⟩
    rw [written]
    refine ⟨?_, rfl, rfl, rfl⟩
    simp [Binding.hasFinalizer, Binding.withVersion, Binding.withFinalizers,
      Metadata.finalizerList]

theorem settle_went {outcome : Except Halt Unit} {action : Action}
    (run : Runs (settle .live binding.status ended outcome) exchanges (.ok action)) :
    outcome = .ok () := by
  rcases runs_settle run with ⟨breach, -, -, impossible⟩ |
    ⟨status, written, rest, -, -, ⟨-, -, halt, impossible⟩ | ⟨went, -⟩ | ⟨current, answer, went, -⟩⟩
  · simp at impossible
  · simp at impossible
  · exact went
  · exact went

/-- A live pass that ends well leaves the binding with the status that it computed. -/
theorem undisturbed_closing {outcome : Except Halt Unit} {action : Action}
    (run : Runs (settle .live binding.status ended outcome) exchanges (.ok action))
    (own : first.binding = binding) (metadata : ended.metadata = binding.metadata)
    (spec : ended.spec = binding.spec) (history : Undisturbed first exchanges last) :
    last.objects = first.objects ∧ last.serves = first.serves ∧
      ∃ version, last.binding = {
        metadata := { binding.metadata with resourceVersion := version }
        spec := binding.spec
        status := some (computedStatus binding.status ended) } := by
  rcases runs_settle run with ⟨breach, -, -, impossible⟩ | ⟨status, written, rest, rfl, wrote, after⟩
  · simp at impossible
  rcases after with ⟨-, -, halt, impossible⟩ | ⟨-, -, rfl, -⟩ | ⟨current, answer, -, deleting, -⟩
  · simp at impossible
  · rw [List.append_nil] at history
    rcases runs_writeStatus wrote with ⟨same, rfl, -⟩ | ⟨-, rest, rfl, ⟨rfl, failure, rfl⟩ |
      ⟨updated, rfl, rfl⟩⟩
    · rw [show last = first from history, own]
      refine ⟨rfl, rfl, binding.metadata.resourceVersion, ?_⟩
      rw [same]
    · obtain ⟨_, _, ⟨impossible, -⟩, -⟩ := history
      exact impossible.elim
    · obtain ⟨_, _, ⟨⟨version, same⟩, rfl⟩, rfl, _, _, noted, rfl, rfl⟩ := history
      rw [show last = first.keep updated from noted]
      refine ⟨rfl, rfl, version, ?_⟩
      rw [show (first.keep updated).binding = updated from rfl, same, settledBinding,
        Binding.withVersion, metadata, spec]
  · simp at deleting

/-- What was projected on a tidy object stays as it is, whatever version it was stored under. -/
theorem project_stored {resolved stored : Binding} {workload copy : Object} (tidy : workload.Tidy)
    (once : (resolved.spec.env.map EnvMapping.name).Nodup)
    (projected : PodTemplate.project resolved workload = .ok copy)
    (same : resolved.essence = stored.essence) (version : Option String) :
    PodTemplate.project stored (copy.withVersion version) = .ok (copy.withVersion version) := by
  rw [← project_of_essence same]
  exact project_metadata copy { copy.metadata with resourceVersion := version } _ _
    (project_again resolved workload copy tidy once projected)

/-- The copies that a pass wrote are what projecting them gives. -/
theorem copied_projects {resource : Resource} {found copies : List Object} {place : Place}
    {object : Object} {resolved stored : Binding} (tidy : ∀ workload ∈ found, workload.Tidy)
    (once : (resolved.spec.env.map EnvMapping.name).Nodup)
    (projected : projectAll PodTemplate.projector .live resolved found = .ok copies)
    (same : resolved.essence = stored.essence)
    (copied : Copied resource (found.zip copies) place object) :
    PodTemplate.project stored object = .ok object := by
  obtain ⟨pair, member, -, version, rfl⟩ := copied
  obtain ⟨chosen, made⟩ := projectAll_zip _ _ _ _ _ projected pair member
  exact project_stored (tidy pair.1 chosen) once made same version

/-- A live pass that ends well in an undisturbed cluster leaves a steady state. -/
theorem pass_steadies {action : Action}
    (pass : Pass clock PodTemplate.projector binding exchanges (.ok action))
    (live : binding.isDeleting = false) (once : (binding.spec.env.map EnvMapping.name).Nodup)
    (own : first.binding = binding)
    (reached : ∀ resource name object,
      first.serves binding.spec.workload.kindOf = some resource →
      first.objects ⟨resource, binding.namespaceName, name⟩ = some object →
      binding.spec.workload.Selects object → object.Reached)
    (history : Undisturbed first exchanges last) :
    ∃ service, Steady last last.binding service := by
  have phase : Phase.of binding = .live := by simp [Phase.of, live]
  have ran := pass.ran
  have closed := pass.closed
  rw [phase] at ran closed
  rw [settle_went closed] at ran closed
  rw [pass.split] at history
  obtain ⟨second, opening, following⟩ := (history_append pass.opening _).mp history
  obtain ⟨third, working, finishing⟩ := (history_append pass.stages pass.closing).mp following
  obtain ⟨ownSecond, sameObjects, sameServes, finalized, deleting, namespaceName, spec⟩ :=
    undisturbed_opening pass own opening
  obtain ⟨reading, copies, projected, ended, resembling, copied⟩ := undisturbed_went ran working
  have ownThird : third.binding = pass.finalized :=
    (undisturbed_binding working pass.stages_about).trans ownSecond
  rw [ended] at closed
  obtain ⟨objects, serves, version, stored⟩ := undisturbed_closing closed ownThird
    (metadata_resolvedBinding clock _ _ _) (spec_resolvedBinding clock _ _ _) finishing
  -- the cluster that was read and the one that is left cannot be told apart by reading
  have alike : Alike second last := by
    constructor
    · rw [serves, resembling.serves]
    · intro place
      rw [objects, resembling.objects]
  -- the opening wrote no object, so what was read had been there before the pass
  rw [← spec, ← namespaceName, ← sameObjects, ← sameServes] at reached
  rw [← spec, ← spec_resolvedBinding clock pass.finalized reading.service reading.workloads] at once
  rw [computedStatus_resolved] at stored
  have reported := reported_first clock pass.finalized reading.service reading.workloads
  rw [reading.verdict, ← alike.workloadsVerdict] at reported
  refine ⟨reading.service, ?_⟩
  rw [stored]
  exact {
    live := deleting.trans live
    finalized := finalized
    resolves := (alike.serviceOf _ _).trans reading.resolves
    looksUp := alike.looksUp _ reading.looksUp
    projected := by
      intro resource name object served present selected
      rw [alike.serves] at served
      obtain rfl := Option.some.inj (reading.there.served.symm.trans served)
      rw [objects] at present
      exact copied_projects (fun workload member => (reading.each reached workload member).tidy)
        once projected
        (essence_resolvedBinding clock pass.finalized reading.service reading.workloads)
        (copied name object present selected)
    secret := by cases reading.service <;> rfl
    status := rfl
    reported := reported }

end Settling

/-- After a live pass that went well the next one, at whatever time, writes nothing: neither
the finalizers nor the status nor a workload. -/
theorem second_pass_writes_nothing {clock later : Clock} {binding : Binding}
    {exchanges again : Talk} {action : Action} {result : Except Halt Action}
    {before between after : Cluster} (live : binding.isDeleting = false)
    (once : (binding.spec.env.map EnvMapping.name).Nodup) (own : before.binding = binding)
    (reached : ∀ resource name object,
      before.serves binding.spec.workload.kindOf = some resource →
      before.objects ⟨resource, binding.namespaceName, name⟩ = some object →
      binding.spec.workload.Selects object → object.Reached)
    (first : Runs (reconcile clock PodTemplate.projector binding) exchanges (.ok action))
    (stored : Undisturbed before exchanges between)
    (second : Runs (reconcile later PodTemplate.projector between.binding) again result)
    (answered : Undisturbed between again after) :
    result = .ok .awaitChange ∧ after = between ∧
      ∀ exchange ∈ again, exchange.1.writes = false := by
  rcases reconcile_passes clock _ binding exchanges _ first with
    ⟨-, deleting, -⟩ | ⟨failure, -, -, -, impossible⟩ | ⟨⟨pass⟩⟩
  · rw [live] at deleting
    simp at deleting
  · simp at impossible
  · obtain ⟨service, steady⟩ := pass_steadies pass live once own reached stored
    exact steady_rests steady second answered

section Sample

/-- A live binding without the finalizer, whose status has a condition of someone else. -/
def restingBinding : Binding :=
  { mappingBinding "orders" with
    status := some { conditions := [.ofVerdict ⟨0, 0⟩ "Audited" (.true, "Audited", "")] } }

def restingCluster : Cluster :=
  (Cluster.bare restingBinding fun kind => some (kind.resource "deployments")).store
    (restingBinding.spec.workload.kindOf.resource "deployments") rootedWorkload

def restingPass (clock : Clock) (cluster : Cluster) : Talk × Except Halt Action × Cluster :=
  transcript Cluster.reply (reconcile clock PodTemplate.projector cluster.binding) cluster

theorem runs_restingPass (clock : Clock) (cluster : Cluster) :
    Runs (reconcile clock PodTemplate.projector cluster.binding) (restingPass clock cluster).1
      (restingPass clock cluster).2.1 :=
  runs_transcript _ _ _

theorem undisturbed_restingPass (clock : Clock) (cluster : Cluster)
    (named : ∀ exchange ∈ (restingPass clock cluster).1, isList exchange.1 = false) :
    Undisturbed cluster (restingPass clock cluster).1 (restingPass clock cluster).2.2 := by
  apply history_transcript Cluster.reply (fun call => !isList call)
  · intro cluster call allowed
    exact answers_reply cluster call (by simpa using allowed)
  · intro cluster
    rfl
  · intro exchange member
    simpa using named exchange member

/-- The first pass writes the finalizer, the workload and the status, and the second one
nothing. -/
theorem resting_second_pass :
    (((restingPass (.ticking 0) restingCluster).1.filter fun exchange =>
        exchange.1.writes).length = 3) ∧
      ∀ exchange ∈ (restingPass (.ticking 60) (restingPass (.ticking 0) restingCluster).2.2).1,
        exchange.1.writes = false := by
  have went : (restingPass (.ticking 0) restingCluster).2.1 = .ok .awaitChange := by decide +kernel
  have first := runs_restingPass (.ticking 0) restingCluster
  rw [went] at first
  have second := runs_restingPass (.ticking 60) (restingPass (.ticking 0) restingCluster).2.2
  have stored := undisturbed_restingPass (.ticking 0) restingCluster (by decide +kernel)
  have named :
      ∀ exchange ∈ (restingPass (.ticking 60) (restingPass (.ticking 0) restingCluster).2.2).1,
        isList exchange.1 = false := by decide +kernel
  have answered :=
    undisturbed_restingPass (.ticking 60) (restingPass (.ticking 0) restingCluster).2.2 named
  have live : restingCluster.binding.isDeleting = false := by decide +kernel
  have once : (restingCluster.binding.spec.env.map EnvMapping.name).Nodup := by decide +kernel
  have reached : ∀ resource name object,
      restingCluster.serves restingCluster.binding.spec.workload.kindOf = some resource →
      restingCluster.objects ⟨resource, restingCluster.binding.namespaceName, name⟩ = some object →
      restingCluster.binding.spec.workload.Selects object → object.Reached := by
    intro resource name object served present selected
    rw [restingCluster, Cluster.objects_store] at present
    split at present
    · rw [← Option.some.inj present]
      exact ⟨rootedWorkload, [], canonical_rootedWorkload, fresh_rootedWorkload, rfl⟩
    · simp [Cluster.bare] at present
  constructor
  · decide +kernel
  · exact (second_pass_writes_nothing live once rfl reached first stored second answered).2.2

end Sample

end BindingOperator
