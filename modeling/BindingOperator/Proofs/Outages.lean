import BindingOperator.Proofs.Readiness
import BindingOperator.Proofs.Touches
import BindingOperator.Proofs.WriteOrder

/-!
Outages. A binding whose status names a Secret goes on projecting it while its service is
away, because only a service that says so itself takes the Secret from the status. A pass
that cannot tell writes no workload at all. Each pass leaves a status that names a Secret,
so this holds for any number of passes, whatever was edited or lost between them.
-/

namespace BindingOperator

open Dialogue

section Denying

/-- A service says that it has no Secret: it is a Secret without a name, or it was found and
names none. -/
inductive Denies (namespaceName : String) (service : ServiceReference) : Talk → Prop where
  | unnamed (direct : service.isDirectSecret = true) (unnamed : service.name = "") :
      Denies namespaceName service []
  | unpublished (resource : Resource) (object : Object)
      (indirect : service.isDirectSecret = false) (absent : object.secretName = none) :
      Denies namespaceName service [⟨.resolve service.kindOf, .ok resource⟩,
        ⟨.getObject resource namespaceName service.name, .ok object⟩]

variable {namespaceName : String} {service : ServiceReference} {reads : Talk}

/-- A Secret is only found to be missing where the service denies it. -/
theorem denies_of_missingBinding
    (read : Runs (resolveService namespaceName service) reads (.ok .missingBinding)) :
    Denies namespaceName service reads := by
  rcases runs_resolveService namespaceName service reads _ read with
    ⟨direct, rfl, outcome⟩ | ⟨indirect, ⟨failure, -, outcome⟩ | ⟨resource, answer, rfl, outcome⟩⟩
  · refine .unnamed direct ?_
    unfold directOutcome at outcome
    split at outcome
    · assumption
    · simp at outcome
  · simp at outcome
  · cases answer with
    | error failure =>
        simp only [serviceOutcome] at outcome
        split at outcome
        · simp at outcome
        · split at outcome <;> simp at outcome
    | ok object =>
        refine .unpublished resource object indirect ?_
        cases published : object.secretName with
        | none => rfl
        | some secret => simp [serviceOutcome, published] at outcome

/-- A service that was looked up had its kind mapped. -/
theorem mapped_of_resolved {resolution : ServiceResolution} {kind : GroupVersionKind}
    {failure : Failure}
    (read : Runs (resolveService namespaceName service) reads (.ok resolution)) :
    (⟨.resolve kind, .error failure⟩ : Exchange BindingCall.Answer) ∉ reads := by
  rcases runs_resolveService namespaceName service reads _ read with
    ⟨-, rfl, -⟩ | ⟨-, ⟨failure, -, outcome⟩ | ⟨resource, answer, rfl, -⟩⟩
  · simp
  · simp at outcome
  · simp

end Denying

section Stages

variable {clock : Clock} {progress : Progress} {exchanges : Talk} {ending : Ending}

theorem essence_workloadStages {projector : Projector} {phase : Phase}
    (run : Runs (runStages clock projector phase workloadStages progress) exchanges ending) :
    ending.1.binding.essence = progress.binding.essence :=
  workloadStages_keep clock (fun change binding => essence_withConditions binding change) run

/-- A live pass writes workloads with the Secret that the binding names, and with no other. -/
theorem mounted_workloadStages {secret : String}
    (known : progress.binding.secretName = some secret)
    (run : Runs (runStages clock PodTemplate.projector .live workloadStages progress) exchanges
      ending)
    (resource : Resource) (copy : Object) (answer : Except Failure Object)
    (sent : (⟨.updateObject resource copy, answer⟩ : Exchange BindingCall.Answer) ∈ exchanges) :
    Mounted progress.binding.key secret copy := by
  rcases runs_workloadStages clock _ .live _ _ _ run with
    ⟨failure, read, -⟩ | ⟨lists, writes, found, recorded, rfl, read, same, after⟩
  · have reads := resolveWorkloads_reads read _ sent
    simp [BindingCall.writes] at reads
  rcases List.mem_append.mp sent with early | late
  · have reads := resolveWorkloads_reads read _ early
    simp [BindingCall.writes] at reads
  rcases after with ⟨failure, -, rfl, -⟩ | ⟨copies, projected, wrote⟩
  · simp at late
  obtain ⟨served, -, pair, chosen, call⟩ := patchAll_calls wrote _ late
  simp only [BindingCall.updateObject.injEq] at call
  obtain ⟨change, marked⟩ := recordWorkloads_eq clock found progress
  have named : recorded.binding.secretName = some secret := by
    rw [same, marked, secretName_withConditions, known]
  have mounted := mounted_of_project _ _ _ secret named
    (projectAll_zip _ _ _ _ _ projected pair chosen).2
  rwa [key_of_metadata recorded.binding progress.binding (by rw [same, marked]; rfl), ← call.2]
    at mounted

/-- A kind that could not be mapped ends the stages before anything is written. -/
theorem unmapped_workloadStages {projector : Projector} {phase : Phase}
    (run : Runs (runStages clock projector phase workloadStages progress) exchanges ending)
    (kind : GroupVersionKind) (failure : Failure)
    (unmapped : (⟨.resolve kind, .error failure⟩ : Exchange BindingCall.Answer) ∈ exchanges) :
    ∀ exchange ∈ exchanges, exchange.1.writes = false := by
  rcases runs_workloadStages clock projector phase _ _ _ run with
    ⟨failure, read, -⟩ | ⟨lists, writes, found, recorded, rfl, read, -, after⟩
  · exact resolveWorkloads_reads read
  exfalso
  rcases List.mem_append.mp unmapped with early | late
  · rcases runs_resolveWorkloads _ _ lists _ read with ⟨other, -, impossible⟩ | ⟨resource, rest,
      rfl, ⟨name, answer, -, rfl, -⟩ | ⟨-, -, rfl, -⟩ | ⟨selector, -, -, ⟨other, -, rfl, -⟩ |
        ⟨query, answer, -, rfl, -⟩⟩⟩
    · simp at impossible
    all_goals simp at early
  · rcases after with ⟨other, -, rfl, -⟩ | ⟨copies, -, wrote⟩
    · simp at late
    · obtain ⟨served, -, pair, -, call⟩ := patchAll_calls wrote _ late
      simp at call

end Stages

section Weathering

variable {clock : Clock} {binding : Binding} {exchanges : Talk} {result : Except Halt Action}

/-- The answer to a write of the finalizers that went through is the binding as it was sent. -/
def EchoesBinding : Exchange BindingCall.Answer → Prop
  | ⟨.patchFinalizers sent _, .ok written⟩ =>
      written.key = sent.key ∧ written.namespaceName = sent.namespaceName ∧
        written.spec = sent.spec ∧ written.secretName = sent.secretName
  | _ => True

/-- A pass that was told by the service that there is no Secret. -/
def Pass.Denied (pass : Pass clock PodTemplate.projector binding exchanges result) : Prop :=
  ∃ reads rest, pass.stages = reads ++ rest ∧
    Denies binding.namespaceName binding.spec.service reads

/-- A pass that keeps projecting: it writes workloads with the Secret that its service was
resolved to, or with the stored one while the service is away; it writes none when that cannot
be told; and its status names the Secret. -/
structure Pass.Weathers (pass : Pass clock PodTemplate.projector binding exchanges result)
    (stored : String) (outcome : Except Failure ServiceResolution) (secret : String) : Prop where
  read : ∃ reads rest, pass.stages = reads ++ rest ∧
    Runs (resolveService binding.namespaceName binding.spec.service) reads outcome
  named : secret ≠ ""
  resolved : ∀ fresh, outcome = .ok (.resolved fresh) → secret = fresh
  away : outcome = .ok .notFound ∨ outcome = .ok .forbidden → secret = stored
  failed : ∀ failure, outcome = .error failure →
    secret = stored ∧ ∀ exchange ∈ exchanges, updatesObject exchange.1 = false
  unmapped : ∀ kind failure,
    (⟨.resolve kind, .error failure⟩ : Exchange BindingCall.Answer) ∈ exchanges →
    ∀ exchange ∈ exchanges, updatesObject exchange.1 = false
  mounts : ∀ resource copy answer,
    (⟨.updateObject resource copy, answer⟩ : Exchange BindingCall.Answer) ∈ exchanges →
    Mounted binding.key secret copy
  keeps : pass.status.secret = some secret

theorem secretName_eq (binding : Binding) :
    binding.secretName = binding.statusOrDefault.secret.filter (· ≠ "") := by
  unfold Binding.secretName Binding.statusOrDefault
  cases binding.status <;> rfl

theorem secretName_iff (binding : Binding) (secret : String) :
    binding.secretName = some secret ↔
      binding.statusOrDefault.secret = some secret ∧ secret ≠ "" := by
  rw [secretName_eq, Option.filter_eq_some_iff]
  simp

theorem Pass.mem_of_opening (pass : Pass clock PodTemplate.projector binding exchanges result)
    {exchange : Exchange BindingCall.Answer} (member : exchange ∈ pass.opening) :
    exchange ∈ exchanges := by
  rw [pass.split]
  exact List.mem_append_left _ member

/-- What is not about the binding itself is said by the stages. -/
theorem Pass.mem_stages (pass : Pass clock PodTemplate.projector binding exchanges result)
    {exchange : Exchange BindingCall.Answer} (member : exchange ∈ exchanges)
    (apart : aboutBinding exchange.1 = false) : exchange ∈ pass.stages := by
  rw [pass.split, List.mem_append, List.mem_append] at member
  rcases member with early | within | late
  · rcases pass.opened with ⟨-, none, -⟩ | ⟨-, -, added⟩
    · simp [none] at early
    · simp [patchFinalizers_about added _ early] at apart
  · exact within
  · simp [pass.closing_about _ late] at apart

theorem Pass.mem_closing (pass : Pass clock PodTemplate.projector binding exchanges result)
    {written : Binding} {answer : Except Failure Binding}
    (member : (⟨.updateStatus written, answer⟩ : Exchange BindingCall.Answer) ∈ exchanges) :
    (⟨.updateStatus written, answer⟩ : Exchange BindingCall.Answer) ∈ pass.closing := by
  rw [pass.split, List.mem_append, List.mem_append] at member
  rcases member with early | within | late
  · rcases pass.opened with ⟨-, none, -⟩ | ⟨-, -, added⟩
    · simp [none] at early
    · rw [patchFinalizers_exact added] at early
      simp [finalizerWrite, reportOf] at early
  · simpa [aboutBinding] using pass.stages_about _ within
  · exact late

theorem Pass.unwritten (pass : Pass clock PodTemplate.projector binding exchanges result)
    (reading : ∀ exchange ∈ pass.stages, exchange.1.writes = false) :
    ∀ exchange ∈ exchanges, updatesObject exchange.1 = false := by
  rintro ⟨call, answer⟩ member
  cases call with
  | updateObject resource object =>
      simpa [BindingCall.writes] using reading _ (pass.mem_stages member rfl)
  | _ => rfl

/-- The binding that a pass works on is the one that it was given, as far as projecting and
resolving go. -/
theorem Pass.opened_echoes (pass : Pass clock PodTemplate.projector binding exchanges result)
    (echoed : ∀ exchange ∈ exchanges, EchoesBinding exchange) :
    pass.finalized.key = binding.key ∧
      pass.finalized.namespaceName = binding.namespaceName ∧
      pass.finalized.spec = binding.spec ∧ pass.finalized.secretName = binding.secretName := by
  rcases pass.opened with ⟨-, -, same⟩ | ⟨-, -, added⟩
  · rw [same]
    exact ⟨rfl, rfl, rfl, rfl⟩
  · have first : (⟨.patchFinalizers binding
        (binding.metadata.finalizerList ++ [bindingFinalizer]), .ok pass.finalized⟩ :
          Exchange BindingCall.Answer) ∈ pass.opening := by
      rw [patchFinalizers_exact added]
      exact List.mem_cons_self
    exact echoed _ (pass.mem_of_opening first)

/-- What the service was resolved to leaves a Secret, unless it denies to have one. -/
theorem secretAfter_named {namespaceName : String} {service : ServiceReference} {reads : Talk}
    {resolution : ServiceResolution} {stored : String} (named : stored ≠ "")
    (read : Runs (resolveService namespaceName service) reads (.ok resolution))
    (undenied : ¬ Denies namespaceName service reads) :
    ∃ secret, resolution.secretAfter (some stored) = some secret ∧ secret ≠ "" ∧
      (∀ fresh, resolution = .resolved fresh → secret = fresh) ∧
      (resolution = .notFound ∨ resolution = .forbidden → secret = stored) := by
  cases resolution with
  | resolved fresh => exact ⟨fresh, rfl, resolved_nonempty _ _ _ _ read, by simp, by simp⟩
  | missingBinding => exact absurd (denies_of_missingBinding read) undenied
  | notFound => exact ⟨stored, rfl, named, by simp, fun _ => rfl⟩
  | forbidden => exact ⟨stored, rfl, named, by simp, fun _ => rfl⟩

section Resolved

variable {reads rest : Talk} {service : ServiceResolution} {start : Progress} {ending : Ending}
  (pass : Pass clock PodTemplate.projector binding exchanges result)
  (parts : pass.stages = reads ++ rest)
  (read : Runs (resolveService binding.namespaceName binding.spec.service) reads (.ok service))
  (later : Runs (runStages clock PodTemplate.projector .live workloadStages start) rest ending)
include parts read later

/-- The kind that could not be mapped is that of the workloads, and nothing is written then. -/
theorem Pass.unmapped_unwritten (kind : GroupVersionKind) (failure : Failure)
    (unmapped : (⟨.resolve kind, .error failure⟩ : Exchange BindingCall.Answer) ∈ exchanges) :
    ∀ exchange ∈ exchanges, updatesObject exchange.1 = false := by
  have within := pass.mem_stages unmapped rfl
  rw [parts] at within
  have inside := (List.mem_append.mp within).resolve_left (mapped_of_resolved read)
  refine pass.unwritten fun exchange member => ?_
  rw [parts] at member
  rcases List.mem_append.mp member with early | late
  · exact resolveService_reads read exchange early
  · exact unmapped_workloadStages later kind failure inside exchange late

theorem Pass.sent_mounted {secret : String} (known : start.binding.secretName = some secret)
    (resource : Resource) (copy : Object) (answer : Except Failure Object)
    (sent : (⟨.updateObject resource copy, answer⟩ : Exchange BindingCall.Answer) ∈ exchanges) :
    Mounted start.binding.key secret copy := by
  have within := pass.mem_stages sent rfl
  rw [parts] at within
  have inside := (List.mem_append.mp within).resolve_left fun early => by
    simpa [BindingCall.writes] using resolveService_reads read _ early
  exact mounted_workloadStages known later resource copy answer inside

end Resolved

/-- The service could not be looked up: its stage is the last one. -/
theorem Pass.weathers_failed (pass : Pass clock PodTemplate.projector binding exchanges result)
    {stored : String} {failure : Failure}
    (held : pass.finalized.statusOrDefault.secret = some stored) (named : stored ≠ "")
    (read : Runs (resolveService binding.namespaceName binding.spec.service) pass.stages
      (.error failure))
    (ended : pass.ended = restartConditions clock .live pass.finalized) :
    pass.Weathers stored (.error failure) stored := by
  have nothing := pass.unwritten (resolveService_reads read)
  refine ⟨⟨pass.stages, [], by simp, read⟩, named, by simp, by simp, fun _ _ => ⟨rfl, nothing⟩,
    fun _ _ _ => nothing, ?_, ?_⟩
  · intro resource copy answer sent
    simpa [updatesObject] using nothing _ sent
  · rw [← held, Pass.status, ended]
    rfl

theorem Pass.weathers (pass : Pass clock PodTemplate.projector binding exchanges result)
    (live : binding.isDeleting = false) {stored : String}
    (known : binding.secretName = some stored)
    (echoed : ∀ exchange ∈ exchanges, EchoesBinding exchange) (undenied : ¬ pass.Denied) :
    ∃ outcome secret, pass.Weathers stored outcome secret := by
  obtain ⟨key, space, spec, secretName⟩ := pass.opened_echoes echoed
  obtain ⟨held, named⟩ := (secretName_iff _ _).mp (secretName.trans known)
  have ran := pass.ran
  rw [show Phase.of binding = .live by simp [Phase.of, live]] at ran
  have asked : ∀ {reads : Talk} {outcome : Except Failure ServiceResolution},
      Runs (resolveService pass.finalized.namespaceName pass.finalized.spec.service) reads
        outcome → Runs (resolveService binding.namespaceName binding.spec.service) reads
        outcome := by
    rw [space, spec]
    exact id
  rcases runs_live clock _ _ _ _ _ ran with
    ⟨failure, read, ended, -⟩ | ⟨reads, rest, service, progress, parts, read, later, ended⟩
  · exact ⟨_, _, pass.weathers_failed held named (asked read) ended⟩
  obtain ⟨secret, after, present, resolved, away⟩ := secretAfter_named named (asked read)
    fun denied => undenied ⟨reads, rest, parts, denied⟩
  -- what the service was resolved to is recorded, and the later stages leave it
  have recorded : (recordSecret clock service
      (restartConditions clock .live pass.finalized)).statusOrDefault.secret = some secret := by
    have essence := congrArg (fun essence => essence.2.2)
      (essence_recordSecret clock (restartConditions clock .live pass.finalized) service)
    rw [← after, ← held]
    exact essence
  have sameKey : (recordSecret clock service
      (restartConditions clock .live pass.finalized)).key = binding.key := by
    rw [key_of_metadata _ (restartConditions clock .live pass.finalized)
      (metadata_recordSecret clock service _), ← key]
    exact key_of_metadata _ _ rfl
  refine ⟨.ok service, secret, ⟨reads, rest, parts, asked read⟩, present, ?_, ?_, by simp,
    pass.unmapped_unwritten parts (asked read) later, ?_, ?_⟩
  · exact fun fresh same => resolved fresh (Except.ok.inj same)
  · exact fun same => away (same.imp Except.ok.inj Except.ok.inj)
  · rw [← sameKey]
    exact pass.sent_mounted parts (asked read) later
      ((secretName_iff _ _).mpr ⟨recorded, present⟩)
  · have kept := congrArg (fun essence => essence.2.2) (essence_workloadStages later)
    rw [← recorded, Pass.status, ended]
    exact kept

end Weathering

section Series

/-- One pass over a binding with all that was said. -/
structure Episode where
  clock : Clock
  binding : Binding
  exchanges : Talk
  result : Except Halt Action

def sentStatus : Exchange BindingCall.Answer → Option (Option BindingStatus)
  | ⟨.updateStatus written, _⟩ => some written.status
  | _ => none

namespace Episode

abbrev Pass (episode : Episode) : Type :=
  BindingOperator.Pass episode.clock PodTemplate.projector episode.binding episode.exchanges
    episode.result

/-- A live pass whose service may be out of reach, but does not say that it has no Secret. -/
structure Undenied (episode : Episode) : Prop where
  live : episode.binding.isDeleting = false
  ran : Runs (reconcile episode.clock PodTemplate.projector episode.binding) episode.exchanges
    episode.result
  echoed : ∀ exchange ∈ episode.exchanges, EchoesBinding exchange
  undenied : ∀ pass : episode.Pass, ¬ pass.Denied

/-- Nothing that was projected is lost: the pass keeps projecting, or it could not even write
the finalizer, which is its only call then. -/
def Weathered (episode : Episode) (stored : String) : Prop :=
  (∃ (pass : episode.Pass) (outcome : Except Failure ServiceResolution) (secret : String),
      pass.Weathers stored outcome secret) ∨
    ∃ failure, episode.exchanges = finalizerWrite episode.binding
      (episode.binding.metadata.finalizerList ++ [bindingFinalizer]) (.error failure)

/-- A single pass, by what the status of its binding names. -/
theorem Undenied.weathered {episode : Episode} (undenied : episode.Undenied) {stored : String}
    (known : episode.binding.secretName = some stored) : episode.Weathered stored := by
  rcases reconcile_passes _ _ _ _ _ undenied.ran with
    ⟨-, deleting, -⟩ | ⟨failure, -, -, added, -⟩ | ⟨⟨pass⟩⟩
  · simp [undenied.live] at deleting
  · exact .inr ⟨failure, patchFinalizers_exact added⟩
  · exact .inl ⟨pass, pass.weathers undenied.live known undenied.echoed (undenied.undenied pass)⟩

/-- Every status that such a pass sends names a Secret. -/
theorem Weathered.sent_named {episode : Episode} {stored : String}
    (weathered : episode.Weathered stored) {status : Option BindingStatus}
    (sent : status ∈ episode.exchanges.filterMap sentStatus) :
    ∃ secret, secret ≠ "" ∧ status.bind BindingStatus.secret = some secret := by
  obtain ⟨⟨call, answer⟩, member, known⟩ := List.mem_filterMap.mp sent
  cases call with
  | updateStatus written =>
      obtain rfl : written.status = status := Option.some.inj known
      rcases weathered with ⟨pass, outcome, secret, weathers⟩ | ⟨failure, only⟩
      · refine ⟨secret, weathers.named, ?_⟩
        rw [pass.status_written written answer (pass.mem_closing member)]
        exact weathers.keeps
      · simp [only, finalizerWrite, reportOf] at member
  | _ => simp [sentStatus] at known

end Episode

/-- Passes over one binding, the latest first. Each works on the status that was stored at
first or on one that an earlier pass sent, be it a stale one; anything else of the binding may
have been edited. -/
inductive Series (initial : Option BindingStatus) : List Episode → Prop where
  | start : Series initial []
  | next (episodes : List Episode) (episode : Episode) (earlier : Series initial episodes)
      (undenied : episode.Undenied)
      (known : episode.binding.status = initial ∨
        ∃ before ∈ episodes, episode.binding.status ∈ before.exchanges.filterMap sentStatus) :
      Series initial (episode :: episodes)

/-- An outage never takes a projection away. Starting from a status that names a Secret, every
pass of a series finds a Secret in the status; it writes workloads only with the volume and
the mounts of the binding, from the Secret that the service was resolved to or else from the
stored one; it writes none when the service or a kind could not be looked up; and the status
that it computes names a Secret again. -/
theorem outages_keep_projection {initial : Option BindingStatus} {episodes : List Episode}
    {first : String} (named : (initial.bind BindingStatus.secret).filter (· ≠ "") = some first)
    (series : Series initial episodes) :
    ∀ episode ∈ episodes, ∃ stored, episode.binding.secretName = some stored ∧
      episode.Weathered stored := by
  induction series with
  | start => simp
  | next episodes episode earlier undenied known ih =>
      rw [List.forall_mem_cons]
      refine ⟨?_, ih⟩
      obtain ⟨stored, found⟩ : ∃ stored, episode.binding.secretName = some stored := by
        rcases known with same | ⟨before, among, sent⟩
        · exact ⟨first, by rw [Binding.secretName, same, named]⟩
        -- the status comes from an earlier pass, which named a Secret in it
        · obtain ⟨old, -, weathered⟩ := ih before among
          obtain ⟨secret, present, held⟩ := weathered.sent_named sent
          exact ⟨secret, by simp [Binding.secretName, held, present]⟩
      exact ⟨stored, found, undenied.weathered found⟩

end Series

section Sample

/-- A binding to a database that was there once. -/
def awayBinding : Binding :=
  { livingBinding with
    spec := { livingBinding.spec with
      service := { apiVersion := "example.com/v1", kind := "Database", name := "db" } }
    status := some { secret := some "db-secret" } }

/-- A server that has the workload and no database, and remembers the binding. -/
def awayAnswer (kept : Binding) : (call : BindingCall) → call.Answer × Binding
  | .resolve kind => (.ok (kind.resource "resources"), kept)
  | .getObject resource _ name =>
      (if resource.kind = "Database" then .error (.notFound resource.kind name)
        else .ok livingWorkload, kept)
  | .listObjects .. => (.ok [livingWorkload], kept)
  | .updateObject _ object => (.ok object, kept)
  | .patchFinalizers binding finalizers =>
      (.ok (binding.withFinalizers finalizers), binding.withFinalizers finalizers)
  | .updateStatus binding => (.ok binding, binding)
  | .publish .. => ((), kept)

def awayRun (clock : Clock) (binding : Binding) : Talk × Except Halt Action × Binding :=
  transcript awayAnswer (reconcile clock PodTemplate.projector binding) binding

def awayEpisode (clock : Clock) (binding : Binding) : Episode where
  clock
  binding
  exchanges := (awayRun clock binding).1
  result := (awayRun clock binding).2.1

/-- Whether the second call, with which a service is read, was answered with an object. -/
def readsObject : Talk → Bool
  | _ :: ⟨.getObject .., .ok _⟩ :: _ => true
  | _ => false

theorem undenied_awayEpisode (clock : Clock) (binding : Binding)
    (live : binding.isDeleting = false)
    (carries : binding.hasFinalizer bindingFinalizer = true)
    (indirect : binding.spec.service.isDirectSecret = false)
    (away : readsObject (awayRun clock binding).1 = false)
    (unpatched : ∀ exchange ∈ (awayRun clock binding).1, writesFinalizers exchange.1 = false) :
    (awayEpisode clock binding).Undenied := by
  refine ⟨live, runs_transcript _ _ _, ?_, ?_⟩
  · rintro ⟨call, answer⟩ member
    cases call with
    | patchFinalizers sent finalizers => simpa [writesFinalizers] using unpatched _ member
    | _ => trivial
  · rintro pass ⟨reads, rest, parts, denied⟩
    rcases pass.opened with ⟨-, opening, -⟩ | ⟨missing, -⟩
    · have split : (awayRun clock binding).1 = reads ++ (rest ++ pass.closing) := by
        have whole : (awayRun clock binding).1 = pass.opening ++ (pass.stages ++ pass.closing) :=
          pass.split
        rw [whole, opening, parts, List.nil_append, List.append_assoc]
      cases denied with
      | unnamed direct _ => exact absurd (indirect.symm.trans direct) (by simp)
      | unpublished resource object _ _ =>
          rw [split] at away
          exact absurd away (by simp [readsObject])
    · exact absurd (carries.symm.trans missing) (by simp)

/-- Two passes while the database is away: both write the workload, and the second one works
on what the first one left. -/
theorem away_episodes_weathered :
    ((awayRun (.ticking 0) awayBinding).1.filter fun exchange =>
        updatesObject exchange.1).length = 1 ∧
      ∀ episode ∈ [awayEpisode (.ticking 60) (awayRun (.ticking 0) awayBinding).2.2,
        awayEpisode (.ticking 0) awayBinding], ∃ stored,
          episode.binding.secretName = some stored ∧ episode.Weathered stored := by
  have named : (awayBinding.status.bind BindingStatus.secret).filter (· ≠ "") =
      some "db-secret" := by decide
  have first : (awayEpisode (.ticking 0) awayBinding).Undenied :=
    undenied_awayEpisode _ _ (by decide) (by decide +kernel) (by decide +kernel)
      (by decide +kernel) (by decide +kernel)
  have second : (awayEpisode (.ticking 60) (awayRun (.ticking 0) awayBinding).2.2).Undenied :=
    undenied_awayEpisode _ _ (by decide +kernel) (by decide +kernel) (by decide +kernel)
      (by decide +kernel) (by decide +kernel)
  have sent : (awayRun (.ticking 0) awayBinding).2.2.status ∈
      (awayRun (.ticking 0) awayBinding).1.filterMap sentStatus := by decide +kernel
  refine ⟨by decide +kernel, outages_keep_projection named (.next _ _ ?_ second ?_)⟩
  · exact .next _ _ .start first (.inl rfl)
  · exact .inr ⟨_, List.mem_singleton_self _, sent⟩

end Sample

end BindingOperator
