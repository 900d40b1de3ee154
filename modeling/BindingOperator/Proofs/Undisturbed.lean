import BindingOperator.Proofs.Passes
import BindingOperator.Proofs.Recording
import BindingOperator.Proofs.Writes

/-!
Passes that nothing disturbs. The cluster refuses nothing, so a call fails only where what
it asks for is absent, and nobody else writes between two calls. What a pass reads is then a
function of what the cluster has, and a pass neither adds nor removes an object.
-/

namespace BindingOperator

open Dialogue

/-- The history of a cluster that refuses nothing and that nobody else changes. -/
abbrev Undisturbed : Cluster → Talk → Cluster → Prop := History (fun _ _ => False) Eq

variable {first last : Cluster} {exchanges : Talk}

theorem truthful_undisturbed : Truthful fun _ _ => False where
  get _ _ _ _ refused := refused.elim
  update _ _ _ refused := refused.elim

/-- No answer is a refusal, because an absent object is not a forbidden one. -/
theorem undisturbed_unrefused (history : Undisturbed first exchanges last) :
    ∀ exchange ∈ exchanges, ¬ Refused exchange := by
  rintro ⟨call, answer⟩ member refused
  obtain ⟨before, after, given⟩ := history_answers history _ member
  -- an answer can only fail with an absent object, which is not forbidden
  have present : ∀ failure : Failure, failure.isNotFound = true → failure.isForbidden = true →
      False := by
    intro failure missing forbidden
    rw [notFound_of_forbidden failure forbidden] at missing
    exact Bool.false_ne_true missing
  cases call with
  | getObject resource namespaceName name =>
      cases answer with
      | ok object => exact Bool.false_ne_true refused
      | error failure =>
          rcases given.1 with ⟨missing, -⟩ | impossible
          · exact present failure missing refused
          · exact impossible
  | listObjects resource namespaceName text =>
      cases answer with
      | ok listed => exact Bool.false_ne_true refused
      | error failure => exact given.1
  | updateObject resource object =>
      cases answer with
      | ok stored => exact Bool.false_ne_true refused
      | error failure =>
          rcases given.1 with ⟨missing, -⟩ | impossible
          · exact present failure missing refused
          · exact impossible
  | _ => exact Bool.false_ne_true refused

theorem answers_binding {refuses : Refusing} {before after : Cluster} (call : BindingCall)
    (answer : call.Answer) (apart : aboutBinding call = false)
    (given : Answers refuses before call answer after) : after.binding = before.binding := by
  cases call with
  | updateObject resource object =>
      cases answer with
      | ok stored =>
          rw [given.2.2]
          rfl
      | error failure => rw [given.2]
  | resolve kind => cases answer <;> rw [given.2]
  | getObject resource namespaceName name => cases answer <;> rw [given.2]
  | listObjects resource namespaceName text => cases answer <;> rw [given.2]
  | _ => simp [aboutBinding] at apart

theorem undisturbed_binding (history : Undisturbed first exchanges last)
    (apart : ∀ exchange ∈ exchanges, aboutBinding exchange.1 = false) :
    last.binding = first.binding := by
  apply history_keeps (fun cluster => cluster.binding = first.binding) history
  · intro exchange member before after same given
    exact (answers_binding exchange.1 exchange.2 (apart exchange member) given).trans same
  · rintro before after same rfl
    exact same
  · rfl

theorem answers_serves {refuses : Refusing} {before after : Cluster} (call : BindingCall)
    (answer : call.Answer) (given : Answers refuses before call answer after) :
    after.serves = before.serves := by
  cases updates : updatesObject call with
  | false => exact (answers_objects call answer updates given).2
  | true =>
      cases call with
      | updateObject resource object =>
          cases answer with
          | ok stored =>
              rw [given.2.2]
              rfl
          | error failure => rw [given.2]
      | _ => simp [updatesObject] at updates

/-- No call and no answer changes what is served. -/
theorem undisturbed_serves (history : Undisturbed first exchanges last) :
    last.serves = first.serves := by
  apply history_keeps (fun cluster => cluster.serves = first.serves) history
  · intro exchange member before after same given
    exact (answers_serves exchange.1 exchange.2 given).trans same
  · rintro before after same rfl
    exact same
  · rfl

/-- Places stay taken or free: a write replaces what is there. -/
theorem undisturbed_places (history : Undisturbed first exchanges last) (place : Place) :
    (last.objects place).isSome = (first.objects place).isSome := by
  apply history_keeps
    (fun cluster => (cluster.objects place).isSome = (first.objects place).isSome) history
  · rintro ⟨call, answer⟩ member before after same given
    rw [← same]
    cases updates : updatesObject call with
    | false => rw [(answers_objects call answer updates given).1]
    | true =>
        cases call with
        | updateObject resource object =>
            cases answer with
            | error failure => rw [given.2]
            -- the server takes a write only where an object is, and puts the new one there
            | ok stored =>
                obtain ⟨taken, ⟨version, rfl⟩, rfl⟩ := given
                rw [Cluster.objects_store]
                split
                · next here =>
                  rw [here, Object.placeIn_withVersion, taken]
                  rfl
                · rfl
        | _ => simp [updatesObject] at updates
  · rintro before after same rfl
    exact same
  · rfl

section Reading

variable {namespaceName : String}

/-- What a service is resolved to by what the cluster has. -/
def Cluster.serviceOf (cluster : Cluster) (namespaceName : String) (service : ServiceReference) :
    Option ServiceResolution :=
  if service.isDirectSecret then some (directOutcome service)
  else (cluster.serves service.kindOf).map fun resource =>
    match (cluster.objects ⟨resource, namespaceName, service.name⟩).map Object.secretName with
    | none => .notFound
    | some none => .missingBinding
    | some (some secret) => .resolved secret

theorem read_service (service : ServiceReference) (outcome : Except Failure ServiceResolution)
    (run : Runs (resolveService namespaceName service) exchanges outcome)
    (history : Undisturbed first exchanges last) :
    last = first ∧ outcome.toOption = first.serviceOf namespaceName service := by
  rcases runs_resolveService namespaceName service exchanges outcome run with
    ⟨direct, rfl, rfl⟩ | ⟨indirect, ⟨failure, rfl, rfl⟩ | ⟨resource, answer, rfl, rfl⟩⟩
  · constructor
    · exact history
    · simp [Cluster.serviceOf, direct, Except.toOption]
  · obtain ⟨_, _, ⟨unserved, rfl⟩, rfl, rfl⟩ := history
    constructor
    · rfl
    · simp [Cluster.serviceOf, indirect, Except.toOption, unserved.resolve_right id]
  · obtain ⟨_, _, ⟨served, rfl⟩, rfl, _, _, given, rfl, rfl⟩ := history
    cases answer with
    | error failure =>
        obtain ⟨cause, rfl⟩ := given
        obtain ⟨missing, absent⟩ := cause.resolve_right id
        constructor
        · rfl
        · simp [Cluster.serviceOf, indirect, served, absent, serviceOutcome, missing,
            Except.toOption]
    | ok object =>
        obtain ⟨present, rfl⟩ := given
        constructor
        · rfl
        · cases published : object.secretName <;>
            simp [Cluster.serviceOf, indirect, served, present, serviceOutcome, published,
              Except.toOption]

/-- Whether workloads can be looked up: their kind is served and the selector is a query. -/
structure Cluster.LooksUp (cluster : Cluster) (workload : WorkloadReference) : Prop where
  served : (cluster.serves workload.kindOf).isSome = true
  formed : workload.name.filter (· ≠ "") = none → ∀ selector, workload.selector = some selector →
    ∃ query, selector.query = .ok query

theorem looksUp_iff (workload : WorkloadReference) (outcome : Except Failure WorkloadResolution)
    (run : Runs (resolveWorkloads namespaceName workload) exchanges outcome)
    (history : Undisturbed first exchanges last) :
    (∃ resolution, outcome = .ok resolution) ↔ first.LooksUp workload := by
  rcases runs_resolveWorkloads namespaceName workload exchanges outcome run with
    ⟨failure, rfl, rfl⟩ | ⟨resource, rest, rfl, after⟩
  · obtain ⟨_, _, ⟨unserved, rfl⟩, -⟩ := history
    constructor
    · rintro ⟨resolution, impossible⟩
      simp at impossible
    · intro looks
      have served := looks.served
      simp [unserved.resolve_right id] at served
  obtain ⟨first, _, ⟨served, rfl⟩, rfl, later⟩ := history
  have isServed : (first.serves workload.kindOf).isSome = true := by simp [served]
  rcases after with ⟨name, answer, named, rfl, rfl⟩ | ⟨unnamed, unselective, rfl, rfl⟩ |
    ⟨selector, unnamed, selecting, ⟨failure, malformed, rfl, rfl⟩ | ⟨query, answer, formed, rfl, rfl⟩⟩
  · obtain ⟨_, _, given, -⟩ := later
    constructor
    · intro resolved
      exact ⟨isServed, fun unnamed => by rw [named] at unnamed; simp at unnamed⟩
    · intro looks
      cases answer with
      | ok object => exact ⟨_, rfl⟩
      | error failure =>
          obtain ⟨missing, -⟩ := given.1.resolve_right id
          exact ⟨.notFound, by simp [namedOutcome, missing]⟩
  · constructor
    · intro resolved
      exact ⟨isServed, fun _ selector selecting => by simp [unselective] at selecting⟩
    · intro looks
      exact ⟨_, rfl⟩
  · constructor
    · rintro ⟨resolution, impossible⟩
      simp at impossible
    · intro looks
      obtain ⟨query, formed⟩ := looks.formed unnamed selector selecting
      simp [malformed] at formed
  · obtain ⟨_, _, given, -⟩ := later
    constructor
    · intro resolved
      refine ⟨isServed, fun _ other selected => ?_⟩
      rw [selecting, Option.some.injEq] at selected
      exact ⟨query, selected ▸ formed⟩
    · intro looks
      cases answer with
      | ok listed => exact ⟨_, rfl⟩
      | error failure => exact given.1.elim

/-- What a pass reports about the workloads by what the cluster has. -/
def Cluster.workloadsVerdict (cluster : Cluster) (namespaceName : String)
    (workload : WorkloadReference) : Condition.Verdict :=
  match workload.name.filter (· ≠ ""), cluster.serves workload.kindOf with
  | some name, some resource =>
      if (cluster.objects ⟨resource, namespaceName, name⟩).isSome then
        (.true, Reason.workloadProjected, "")
      else lookedUpVerdict .notFound
  | _, _ => (.true, Reason.workloadProjected, "")

theorem workloadsVerdict_named {workload : WorkloadReference} {name : String} {resource : Resource}
    (named : workload.name.filter (· ≠ "") = some name)
    (served : first.serves workload.kindOf = some resource) :
    first.workloadsVerdict namespaceName workload =
      if (first.objects ⟨resource, namespaceName, name⟩).isSome then
        (.true, Reason.workloadProjected, "")
      else lookedUpVerdict .notFound := by
  rw [Cluster.workloadsVerdict, named, served]

theorem workloadsVerdict_unnamed {workload : WorkloadReference}
    (unnamed : workload.name.filter (· ≠ "") = none) :
    first.workloadsVerdict namespaceName workload = (.true, Reason.workloadProjected, "") := by
  rw [Cluster.workloadsVerdict, unnamed]

/-- What was found says what is reported: a name that the cluster does not have is missing. -/
theorem verdict_of_gives {workload : WorkloadReference} {resource : Resource}
    {resolution : WorkloadResolution} {found : List Object}
    (there : Found workload namespaceName first resource found)
    (gives : workload.Gives resource resolution found) :
    writtenVerdict resolution = first.workloadsVerdict namespaceName workload := by
  cases gives with
  | @named name object isNamed =>
      obtain ⟨kept, inside, chosen⟩ := there.kept object List.mem_cons_self
      have place : object.placeIn resource = ⟨resource, namespaceName, name⟩ := by
        simp [Object.placeIn, inside, (selects_named isNamed object).mp chosen]
      rw [place] at kept
      rw [workloadsVerdict_named isNamed there.served, kept]
      rfl
  | @absent name isNamed =>
      -- an object under the name would be selected, and nothing was found
      have missing : first.objects ⟨resource, namespaceName, name⟩ = none := by
        rw [Option.eq_none_iff_forall_ne_some]
        intro object present
        have chosen := (selects_named isNamed object).mpr
          (congrArg Place.name (first.placed _ _ present))
        exact List.not_mem_nil (there.complete name object present chosen)
      rw [workloadsVerdict_named isNamed there.served, missing]
      rfl
  | selected found unnamed => exact (workloadsVerdict_unnamed unnamed).symm

/-- Looking workloads up finds what the cluster has, because nothing is refused. -/
theorem read_workloads (workload : WorkloadReference) (resolution : WorkloadResolution)
    (run : Runs (resolveWorkloads namespaceName workload) exchanges (.ok resolution))
    (history : Undisturbed first exchanges last) :
    last = first ∧ ∃ resource found, Found workload namespaceName first resource found ∧
      workload.Gives resource resolution found := by
  obtain ⟨middle, early, rfl, outcome⟩ := looked_up resolution run history truthful_undisturbed
    (fun before after same => congrArg Cluster.serves same.symm)
  have same : first = middle := by
    rcases early with rfl | rfl
    · rfl
    · rfl
  subst same
  rcases outcome with found | ⟨scope, -, exchange, member, refused⟩
  · exact ⟨rfl, found⟩
  · exact absurd refused (undisturbed_unrefused history exchange member)

end Reading

/-- Clusters that serve the same, and have objects that publish the same at the same
places. -/
structure Alike (first last : Cluster) : Prop where
  serves : last.serves = first.serves
  objects : ∀ place,
    (last.objects place).map Object.secretName = (first.objects place).map Object.secretName

namespace Alike

variable (alike : Alike first last) (namespaceName : String)
include alike

/-- Reading a service and looking for workloads cannot tell them apart. -/
theorem serviceOf (service : ServiceReference) :
    last.serviceOf namespaceName service = first.serviceOf namespaceName service := by
  simp only [Cluster.serviceOf, alike.serves, alike.objects]

theorem looksUp (workload : WorkloadReference) (looks : first.LooksUp workload) :
    last.LooksUp workload := by
  constructor
  · rw [alike.serves]
    exact looks.served
  · exact looks.formed

theorem workloadsVerdict (workload : WorkloadReference) :
    last.workloadsVerdict namespaceName workload =
      first.workloadsVerdict namespaceName workload := by
  have taken : ∀ place, (last.objects place).isSome = (first.objects place).isSome := by
    intro place
    rw [← Option.isSome_map (f := Object.secretName), alike.objects, Option.isSome_map]
  simp only [Cluster.workloadsVerdict, alike.serves, taken]

end Alike

end BindingOperator
