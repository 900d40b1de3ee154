import Mathlib.Logic.Function.Basic
import BindingOperator.Proofs.Snapshots

/-!
Writes under versions. A server keeps every object under a version, takes a write only when
it carries the version that is stored, and stores it under another one. A pass writes its
binding up to three times and each of its workloads once. It goes on with the binding that a
write was answered with, and the copy of a workload has the version that was read, so against
a server that nobody else writes to it never meets a conflict of its own making.
-/

namespace BindingOperator

open Dialogue

/-- What an object is known by, whichever version of its kind it is read in. -/
structure Identity where
  group : String
  plural : String
  namespaceName : String
  name : String
  deriving DecidableEq

def Object.identity (resource : Resource) (object : Object) : Identity :=
  ⟨resource.group, resource.plural, object.metadata.namespaceName.getD "", object.nameAny⟩

def Binding.identity (binding : Binding) : Identity :=
  ⟨bindingResource.group, bindingResource.plural, binding.namespaceName, binding.nameAny⟩

theorem Object.identity_of_metadata (resource : Resource) {one other : Object}
    (same : one.metadata = other.metadata) : one.identity resource = other.identity resource := by
  simp only [Object.identity, Object.nameAny, same]

theorem Binding.identity_of_metadata {one other : Binding} (same : one.metadata = other.metadata) :
    one.identity = other.identity := by
  simp only [Binding.identity, Binding.namespaceName, Binding.nameAny, same]

abbrev Version := Option String

def Object.version (object : Object) : Version := object.metadata.resourceVersion

def Binding.version (binding : Binding) : Version := binding.metadata.resourceVersion

section Serving

/-- The version of everything that a server keeps. -/
abbrev Versions := Identity → Option Version

/-- What becomes of a write: it is taken under another version if it carries the one that is
stored, and else it is refused. -/
inductive Writes (versions : Versions) (identity : Identity) (carried : Version) :
    Except Failure Version → Versions → Prop where
  | absent (failure : Failure) (gone : versions identity = none)
      (told : failure.isNotFound = true) :
      Writes versions identity carried (.error failure) versions
  | stale (stored : Version) (failure : Failure) (other : versions identity = some stored)
      (differs : stored ≠ carried) (told : failure.isConflict = true) :
      Writes versions identity carried (.error failure) versions
  | taken (next : Version) (current : versions identity = some carried) (bumped : next ≠ carried) :
      Writes versions identity carried (.ok next) (Function.update versions identity (some next))

/-- How such a server answers a call. Objects are read under the versions that are stored, if
they can be read at all, and a write of the binding leaves what it was asked to keep. -/
def Guarded (versions : Versions) : (call : BindingCall) → call.Answer → Versions → Prop
  | .resolve _, _, next => next = versions
  | .getObject resource _ _, answer, next =>
      (∀ object, answer = .ok object → versions (object.identity resource) = some object.version) ∧
        next = versions
  | .listObjects resource _ _, answer, next =>
      (∀ objects, answer = .ok objects → ∀ object ∈ objects,
        versions (object.identity resource) = some object.version) ∧ next = versions
  | .updateObject resource object, answer, next =>
      Writes versions (object.identity resource) object.version (answer.map Object.version) next
  | .patchFinalizers binding _, answer, next =>
      Writes versions binding.identity binding.version (answer.map Binding.version) next ∧
        ∀ written, answer = .ok written →
          written.identity = binding.identity ∧ written.spec = binding.spec
  | .updateStatus binding, answer, next =>
      Writes versions binding.identity binding.version (answer.map Binding.version) next ∧
        ∀ written, answer = .ok written →
          written.identity = binding.identity ∧ written.spec = binding.spec
  | .publish _ _, _, next => next = versions

/-- Nobody else writes between the calls. -/
def Served : Versions → Talk → Versions → Prop
  | first, [], last => last = first
  | first, exchange :: rest, last =>
      ∃ next, Guarded first exchange.1 exchange.2 next ∧ Served next rest last

variable {first last : Versions}

theorem served_append (left right : Talk) :
    Served first (left ++ right) last ↔
      ∃ middle, Served first left middle ∧ Served middle right last := by
  induction left generalizing first with
  | nil => simp [Served]
  | cons exchange rest ih =>
      simp only [List.cons_append, Served, ih]
      constructor
      · rintro ⟨next, given, middle, before, after⟩
        exact ⟨middle, ⟨next, given, before⟩, after⟩
      · rintro ⟨middle, ⟨next, given, before⟩, after⟩
        exact ⟨next, given, middle, before, after⟩

end Serving

section Chaining

/-- The failure that a write is answered with. -/
def refusal? : Exchange BindingCall.Answer → Option Failure
  | ⟨.updateObject _ _, .error failure⟩ => some failure
  | ⟨.patchFinalizers _ _, .error failure⟩ => some failure
  | ⟨.updateStatus _, .error failure⟩ => some failure
  | _ => none

/-- The version that a write of the binding carries, and the one it is answered with. -/
def versionStep? : Exchange BindingCall.Answer → Option (Version × Version)
  | ⟨.patchFinalizers binding _, .ok written⟩ => some (binding.version, written.version)
  | ⟨.updateStatus binding, .ok written⟩ => some (binding.version, written.version)
  | _ => none

/-- Each write carries the version that the one before was answered with. -/
def Chained : Version → List (Version × Version) → Version → Prop
  | first, [], last => last = first
  | first, (carried, returned) :: rest, last => carried = first ∧ Chained returned rest last

theorem chained_append (first last : Version) (left right : List (Version × Version)) :
    Chained first (left ++ right) last ↔
      ∃ middle, Chained first left middle ∧ Chained middle right last := by
  induction left generalizing first with
  | nil => simp [Chained]
  | cons step rest ih => simp only [List.cons_append, Chained, ih, exists_and_left, and_assoc]

/-- No write is refused, and those of the binding are chained from one version to another. -/
structure Smooth (exchanges : Talk) (first last : Version) : Prop where
  taken : ∀ exchange ∈ exchanges, refusal? exchange = none
  chained : Chained first (exchanges.filterMap versionStep?) last

namespace Smooth

variable {left right : Talk} {first middle last : Version}

theorem nil (version : Version) : Smooth [] version version := ⟨by simp, rfl⟩

theorem patched (binding written : Binding) (finalizers : List String) :
    Smooth [⟨.patchFinalizers binding finalizers, .ok written⟩] binding.version written.version :=
  ⟨by simp [refusal?], rfl, rfl⟩

theorem updated (binding written : Binding) :
    Smooth [⟨.updateStatus binding, .ok written⟩] binding.version written.version :=
  ⟨by simp [refusal?], rfl, rfl⟩

/-- What is neither a write nor answered with a failure is no step of the chain. -/
theorem still (exchange : Exchange BindingCall.Answer) (taken : refusal? exchange = none)
    (apart : versionStep? exchange = none) (version : Version) :
    Smooth [exchange] version version := by
  constructor
  · simpa using taken
  · rw [List.filterMap_cons_none apart]
    rfl

theorem append (before : Smooth left first middle) (after : Smooth right middle last) :
    Smooth (left ++ right) first last := by
  constructor
  · rintro exchange member
    exact (List.mem_append.mp member).elim (before.taken exchange) (after.taken exchange)
  · rw [List.filterMap_append, chained_append]
    exact ⟨middle, before.chained, after.chained⟩

end Smooth

end Chaining

section Binding

variable {before after : Versions} {binding ended : Binding} {exchanges : Talk}

/-- A write of what is current is taken. -/
theorem Writes.of_current {identity : Identity} {carried : Version}
    {answer : Except Failure Version} (writes : Writes before identity carried answer after)
    (current : before identity = some carried) :
    ∃ next, answer = .ok next ∧ after = Function.update before identity (some next) := by
  cases writes with
  | absent failure gone => simp [gone] at current
  | stale stored failure other differs => simp [other, differs] at current
  | taken next => exact ⟨next, rfl, rfl⟩

def Versions.Current (versions : Versions) (binding : Binding) : Prop :=
  versions binding.identity = some binding.version

theorem binding_write_taken {answer : Except Failure Binding}
    (writes : Writes before binding.identity binding.version (answer.map Binding.version) after)
    (kept : ∀ written, answer = .ok written →
      written.identity = binding.identity ∧ written.spec = binding.spec)
    (current : before.Current binding) :
    ∃ written, answer = .ok written ∧ after.Current written ∧
      written.identity = binding.identity ∧ written.spec = binding.spec := by
  obtain ⟨next, taken, rfl⟩ := writes.of_current current
  cases answer with
  | error failure => cases taken
  | ok written =>
      obtain ⟨same, spec⟩ := kept written rfl
      refine ⟨written, rfl, ?_, same, spec⟩
      rw [Versions.Current, same, Function.update_self]
      exact congrArg some (Except.ok.inj taken).symm

theorem patchFinalizers_smooth {finalizers : List String} {answer : Except Failure Binding}
    (run : Runs (patchFinalizers binding finalizers) exchanges answer)
    (served : Served before exchanges after) (current : before.Current binding) :
    ∃ patched, answer = .ok patched ∧ after.Current patched ∧
      patched.identity = binding.identity ∧ patched.spec = binding.spec ∧
      Smooth exchanges binding.version patched.version := by
  rcases runs_patchFinalizers run with ⟨failure, rfl, rfl⟩ | ⟨patched, rfl, rfl⟩
  · obtain ⟨next, ⟨writes, kept⟩, -⟩ := served
    obtain ⟨written, impossible, -⟩ := binding_write_taken writes kept current
    cases impossible
  · obtain ⟨next, ⟨writes, kept⟩, published, told, ended⟩ := served
    obtain ⟨written, same, held, identity, spec⟩ := binding_write_taken writes kept current
    obtain rfl := Except.ok.inj same
    rw [ended, told]
    exact ⟨patched, rfl, held, identity, spec,
      (Smooth.patched binding patched finalizers).append (.still _ rfl rfl _)⟩

/-- The binding that the stages leave is written as it was read, or it needs no write. -/
theorem writeStatus_smooth {stored : Option BindingStatus} {written : Except Failure Binding}
    (run : Runs (writeStatus stored ended) exchanges written)
    (served : Served before exchanges after) (current : before.Current ended) :
    ∃ settled, written = .ok settled ∧ after.Current settled ∧
      Smooth exchanges ended.version settled.version := by
  rcases runs_writeStatus run with
    ⟨-, rfl, rfl⟩ | ⟨-, rest, rfl, ⟨rfl, failure, rfl⟩ | ⟨updated, rfl, rfl⟩⟩
  · rw [show after = before from served]
    exact ⟨settledBinding stored ended, rfl, current, .nil _⟩
  · obtain ⟨next, ⟨writes, kept⟩, -⟩ := served
    obtain ⟨settled, impossible, -⟩ := binding_write_taken writes kept current
    cases impossible
  · obtain ⟨next, ⟨writes, kept⟩, published, told, same⟩ := served
    obtain ⟨settled, answered, held, -, -⟩ := binding_write_taken writes kept current
    obtain rfl := Except.ok.inj answered
    rw [same, told]
    exact ⟨updated, rfl, held,
      (Smooth.updated (settledBinding stored ended) updated).append (.still _ rfl rfl _)⟩

/-- After its stages a pass writes the status and, at the end of a deletion, the finalizers
of what the status was answered with. -/
theorem settle_smooth {phase : Phase} {stored : Option BindingStatus}
    {outcome : Except Halt Unit} {result : Except Halt Action}
    (run : Runs (settle phase stored ended outcome) exchanges result)
    (served : Served before exchanges after) (current : before.Current ended) :
    ∃ last, Smooth exchanges ended.version last := by
  rcases runs_settle run with ⟨breach, -, rfl, -⟩ | ⟨status, written, last, rfl, wrote, after⟩
  · exact ⟨_, .nil _⟩
  obtain ⟨middle, early, late⟩ := (served_append status last).mp served
  obtain ⟨settled, rfl, held, smooth⟩ := writeStatus_smooth wrote early current
  rcases after with ⟨rfl, -⟩ | ⟨-, -, rfl, -⟩ | ⟨found, answer, -, -, same, removed⟩
  · exact ⟨_, smooth.append (.nil _)⟩
  · exact ⟨_, smooth.append (.nil _)⟩
  · obtain rfl := Except.ok.inj same
    obtain ⟨patched, -, -, -, -, removal⟩ := patchFinalizers_smooth removed late held
    exact ⟨_, smooth.append removal⟩

end Binding

section Stages

variable {before after : Versions} {exchanges : Talk} {clock : Clock} {projector : Projector}

theorem Guarded.unchanged {call : BindingCall} {answer : call.Answer}
    (given : Guarded before call answer after) (reads : call.writes = false) : after = before := by
  cases call with
  | updateObject resource object => cases reads
  | patchFinalizers binding finalizers => cases reads
  | updateStatus binding => cases reads
  | resolve kind => exact given
  | publish about event => exact given
  | getObject resource namespaceName name => exact given.2
  | listObjects resource namespaceName query => exact given.2

theorem Smooth.read {exchange : Exchange BindingCall.Answer} (reads : exchange.1.writes = false)
    (version : Version) : Smooth [exchange] version version := by
  obtain ⟨call, answer⟩ := exchange
  cases call with
  | updateObject resource object => cases reads
  | patchFinalizers binding finalizers => cases reads
  | updateStatus binding => cases reads
  | _ => exact .still _ rfl rfl version

theorem reads_smooth (reads : ∀ exchange ∈ exchanges, exchange.1.writes = false)
    (served : Served before exchanges after) (version : Version) :
    after = before ∧ Smooth exchanges version version := by
  induction exchanges generalizing before with
  | nil => exact ⟨served, .nil version⟩
  | cons exchange rest ih =>
      obtain ⟨next, given, later⟩ := served
      rw [List.forall_mem_cons] at reads
      obtain ⟨rfl, smooth⟩ := ih reads.2 later
      exact ⟨given.unchanged reads.1, (Smooth.read reads.1 version).append smooth⟩

/-- As long as nothing is written, objects are shown at the versions that are stored. -/
theorem shown_current {exchange : Exchange BindingCall.Answer} {resource : Resource}
    {object : Object} (reads : ∀ exchange ∈ exchanges, exchange.1.writes = false)
    (served : Served before exchanges after) (member : exchange ∈ exchanges)
    (shown : Shows exchange resource object) :
    before (object.identity resource) = some object.version := by
  induction exchanges with
  | nil => cases member
  | cons first rest ih =>
      obtain ⟨next, given, later⟩ := served
      rw [List.forall_mem_cons] at reads
      rcases List.mem_cons.mp member with rfl | elsewhere
      · cases shown with
        | got => exact given.1 object rfl
        | listed resource namespaceName query objects object inside =>
            exact given.1 objects rfl object inside
      · rw [given.unchanged reads.1] at later
        exact ih reads.2 later elsewhere

/-- A copy that is no longer the workload that was read is not written. -/
theorem patchAll_unlike {progress : Progress} {workload copy : Object}
    {pairs : List (Object × Object)} {ending : Ending}
    (unlike : sameIdentity workload copy = false)
    (run : Runs (patchAll clock progress ((workload, copy) :: pairs)) exchanges ending) :
    exchanges = [] := by
  simp only [patchAll, unlike, Bool.not_false, if_true] at run
  exact ((runs_pure_iff _ _ _).mp run).1

/-- Copies that are still to be written: each is of a workload that is stored at the version it
was read at, and these are apart from each other and from the binding. -/
structure Pending (versions : Versions) (resource : Resource) (own : Identity)
    (pairs : List (Object × Object)) : Prop where
  current : ∀ pair ∈ pairs, versions (pair.1.identity resource) = some pair.1.version
  alike : ∀ pair ∈ pairs, pair.2.identity resource = pair.1.identity resource
  apart : ∀ pair ∈ pairs, own ≠ pair.1.identity resource
  distinct : (pairs.map fun pair => pair.1.identity resource).Nodup

namespace Pending

variable {resource : Resource} {own : Identity} {pair : Object × Object}
  {rest : List (Object × Object)}

theorem tail (pending : Pending before resource own (pair :: rest)) :
    Pending before resource own rest where
  current := (List.forall_mem_cons.mp pending.current).2
  alike := (List.forall_mem_cons.mp pending.alike).2
  apart := (List.forall_mem_cons.mp pending.apart).2
  distinct := (List.nodup_cons.mp pending.distinct).2

/-- What happens to the first workload is no matter for the others. -/
theorem elsewhere (pending : Pending before resource own (pair :: rest))
    (others : ∀ identity, identity ≠ pair.1.identity resource →
      after identity = before identity) : Pending after resource own rest := by
  have first := (List.nodup_cons.mp pending.distinct).1
  refine { pending.tail with current := ?_ }
  intro later member
  rw [others _ fun same => first (List.mem_map.mpr ⟨later, member, same⟩)]
  exact pending.tail.current later member

/-- The write of the first copy is taken, since it is written over the workload that it was
made of, and it leaves the binding alone. -/
theorem write (pending : Pending before resource own (pair :: rest))
    (like : sameIdentity pair.1 pair.2 = true) {answer : Except Failure Version}
    (writes : Writes before (pair.2.identity resource) pair.2.version answer after) :
    (∃ fresh, answer = .ok fresh) ∧ after own = before own ∧
      Pending after resource own rest := by
  have place := pending.alike pair List.mem_cons_self
  have version : pair.1.version = pair.2.version := by
    simp only [sameIdentity, Bool.and_eq_true, decide_eq_true_eq] at like
    exact like.2
  rw [place, ← version] at writes
  obtain ⟨fresh, taken, rfl⟩ := writes.of_current (pending.current pair List.mem_cons_self)
  refine ⟨⟨fresh, taken⟩, ?_, ?_⟩
  · exact Function.update_of_ne (pending.apart pair List.mem_cons_self) _ _
  · exact pending.elsewhere fun identity other => Function.update_of_ne other _ _

end Pending

/-- Each workload is written once, under the version that it was read at; the binding is not
among them. -/
theorem patchAll_smooth {progress : Progress} {pairs : List (Object × Object)} {ending : Ending}
    (resource : Resource) (own : Identity) (version : Version)
    (run : Runs (patchAll clock progress pairs) exchanges ending)
    (served : Served before exchanges after) (known : progress.resource = some resource)
    (pending : Pending before resource own pairs) :
    after own = before own ∧ Smooth exchanges version version := by
  induction pairs generalizing before exchanges with
  | nil =>
      obtain ⟨rfl, -⟩ := runs_patchAll_nil.mp run
      rw [show after = before from served]
      exact ⟨rfl, .nil version⟩
  | cons pair rest ih =>
      cases like : sameIdentity pair.1 pair.2 with
      | false =>
          obtain rfl := patchAll_unlike like run
          rw [show after = before from served]
          exact ⟨rfl, .nil version⟩
      | true =>
          rcases runs_patchAll_cons run with ⟨breach, rfl, -⟩ | ⟨-, later⟩ |
            ⟨found, answer, later, same, rfl, step⟩
          · rw [show after = before from served]
            exact ⟨rfl, .nil version⟩
          · exact ih later served pending.tail
          · obtain rfl : resource = found := Option.some.inj (known.symm.trans same)
            obtain ⟨next, writes, others⟩ := served
            obtain ⟨⟨fresh, taken⟩, untouched, remaining⟩ := pending.write like writes
            cases answer with
            | error failure => cases taken
            | ok object =>
                rcases step with ⟨-, onward⟩ | ⟨failure, impossible, -⟩
                · obtain ⟨held, smooth⟩ := ih onward others remaining
                  exact ⟨held.trans untouched, (Smooth.still _ rfl rfl version).append smooth⟩
                · cases impossible

/-- The projected copies are found where their workloads are. -/
def Projector.Steady (projector : Projector) : Prop :=
  ∀ phase binding workload copy, applied projector phase binding workload = .ok copy →
    ∀ resource, copy.identity resource = workload.identity resource

theorem steady_podTemplate : PodTemplate.projector.Steady := by
  intro phase binding workload copy made resource
  cases phase with
  | live =>
      exact Object.identity_of_metadata resource (metadata_of_project binding workload copy made)
  | deleting =>
      exact Object.identity_of_metadata resource (metadata_of_unproject binding workload copy made)

/-- The workloads that the binding's reference is resolved to in the course of a pass. -/
def ResolvedIn (binding : Binding) (exchanges : Talk) (resource : Resource)
    (workloads : List Object) : Prop :=
  ∃ reads, reads <:+: exchanges ∧ Runs (resolveWorkloads binding.namespaceName
    binding.spec.workload) reads (.ok (.resolved resource workloads))

/-- They are objects of their own, and none of them is the binding. -/
def Distinct (binding : Binding) (exchanges : Talk) : Prop :=
  ∀ resource workloads, ResolvedIn binding exchanges resource workloads →
    (binding.identity :: workloads.map fun workload => workload.identity resource).Nodup

theorem Distinct.part {binding : Binding} {part : Talk} (distinct : Distinct binding exchanges)
    (within : part <:+: exchanges) : Distinct binding part := by
  rintro resource workloads ⟨reads, inside, run⟩
  exact distinct resource workloads ⟨reads, inside.trans within, run⟩

theorem Distinct.congr {binding other : Binding} (distinct : Distinct binding exchanges)
    (metadata : other.identity = binding.identity) (spec : other.spec = binding.spec) :
    Distinct other exchanges := by
  have place : other.namespaceName = binding.namespaceName :=
    congrArg Identity.namespaceName metadata
  rintro resource workloads ⟨reads, inside, run⟩
  rw [place, spec] at run
  rw [metadata]
  exact distinct resource workloads ⟨reads, inside, run⟩

/-- From the workloads on, stages keep the name and the version of the binding. -/
theorem metadata_workloadStages {phase : Phase} {progress : Progress} {ending : Ending}
    (run : Runs (runStages clock projector phase workloadStages progress) exchanges ending) :
    ending.1.binding.metadata = progress.binding.metadata :=
  workloadStages_keep clock (fun _ _ => rfl) run

/-- Before the first write all the copies of what was found are pending. -/
theorem pending_projected {phase : Phase} {binding : Binding} {resource : Resource}
    {own : Identity} {workloads copies : List Object} (steady : projector.Steady)
    (made : projectAll projector phase binding workloads = .ok copies)
    (current : ∀ object ∈ workloads, before (object.identity resource) = some object.version)
    (distinct : (own :: workloads.map fun workload => workload.identity resource).Nodup) :
    Pending before resource own (workloads.zip copies) := by
  rw [List.nodup_cons] at distinct
  have firsts : (workloads.zip copies).map Prod.fst = workloads :=
    List.map_fst_zip (projectAll_ok projector phase _ _ _ made).length_eq.le
  have found : ∀ pair ∈ workloads.zip copies, pair.1 ∈ workloads :=
    fun pair member => (List.of_mem_zip member).1
  constructor
  · exact fun pair member => current pair.1 (found pair member)
  · exact fun pair member => steady phase _ _ _ (projectAll_zip _ _ _ _ _ made pair member).2 _
  · exact fun pair member same => distinct.1 (same ▸ List.mem_map_of_mem (found pair member))
  · have identities : (workloads.zip copies).map (fun pair => pair.1.identity resource) =
        workloads.map fun workload => workload.identity resource := by
      conv_rhs => rw [← firsts, List.map_map]
      rfl
    rw [identities]
    exact distinct.2

theorem workloadStages_smooth {phase : Phase} {progress : Progress} {ending : Ending}
    (steady : projector.Steady)
    (run : Runs (runStages clock projector phase workloadStages progress) exchanges ending)
    (served : Served before exchanges after) (distinct : Distinct progress.binding exchanges)
    (none : progress.workloads = []) (version : Version) :
    after progress.binding.identity = before progress.binding.identity ∧
      Smooth exchanges version version := by
  rcases runs_workloadStages clock projector phase _ _ _ run with
    ⟨failure, read, -⟩ | ⟨lists, writes, found, recorded, rfl, read, same, wrote⟩
  · obtain ⟨rfl, smooth⟩ := reads_smooth (resolveWorkloads_reads read) served version
    exact ⟨rfl, smooth⟩
  obtain ⟨middle, early, late⟩ := (served_append lists writes).mp served
  obtain ⟨rfl, looked⟩ := reads_smooth (resolveWorkloads_reads read) early version
  rcases wrote with ⟨failure, -, rfl, -⟩ | ⟨copies, made, wrote⟩
  · rw [show after = middle from late]
    exact ⟨rfl, looked.append (.nil version)⟩
  -- nothing is written unless workloads were resolved
  have unresolved : recorded.workloads = [] →
      after progress.binding.identity = middle progress.binding.identity ∧
        Smooth (lists ++ writes) version version := by
    intro nothing
    rw [nothing, List.zip_nil_left] at wrote
    obtain ⟨rfl, -⟩ := runs_patchAll_nil.mp wrote
    rw [show after = middle from late]
    exact ⟨rfl, looked.append (.nil version)⟩
  cases found with
  | notFound => exact unresolved (same ▸ none)
  | forbidden scope => exact unresolved (by cases scope <;> exact same ▸ none)
  | resolved resource workloads =>
      have current : ∀ object ∈ workloads,
          middle (object.identity resource) = some object.version := by
        intro object member
        obtain ⟨exchange, inside, shown⟩ :=
          @resolved_shown clock progress.binding lists resource _ _ _ read rfl object member
        exact shown_current (resolveWorkloads_reads read) early inside shown
      have mine := distinct resource workloads
        ⟨lists, (List.prefix_append lists writes).isInfix, read⟩
      have found : recorded.workloads = workloads := by rw [same]; rfl
      rw [found] at made wrote
      obtain ⟨held, smooth⟩ := patchAll_smooth resource progress.binding.identity version wrote
        late (by rw [same]; rfl) (pending_projected steady made current mine)
      exact ⟨held, looked.append smooth⟩

theorem runPhase_smooth {phase : Phase} {binding ended : Binding} {outcome : Except Halt Unit}
    (steady : projector.Steady)
    (run : Runs (runPhase clock projector phase binding) exchanges (ended, outcome))
    (served : Served before exchanges after) (distinct : Distinct binding exchanges)
    (version : Version) :
    ended.metadata = binding.metadata ∧ after binding.identity = before binding.identity ∧
      Smooth exchanges version version := by
  cases phase with
  | deleting =>
      obtain ⟨progress, stages, rfl⟩ := runs_runPhase clock projector _ _ _ _ _ run
      rw [ofPhase_deleting] at stages
      exact ⟨metadata_workloadStages stages,
        workloadStages_smooth steady stages served distinct rfl version⟩
  | live =>
      rcases runs_live clock projector binding ended outcome exchanges run with
        ⟨failure, read, rfl, -⟩ | ⟨reads, rest, service, progress, rfl, read, stages, rfl⟩
      · obtain ⟨rfl, smooth⟩ := reads_smooth (resolveService_reads read) served version
        exact ⟨rfl, rfl, smooth⟩
      · obtain ⟨middle, early, late⟩ := (served_append reads rest).mp served
        obtain ⟨rfl, looked⟩ := reads_smooth (resolveService_reads read) early version
        -- recording the Secret is no change of what the binding is known by
        have metadata := metadata_recordSecret clock service binding
        have identity := Binding.identity_of_metadata metadata
        have others : Distinct (recordSecret clock service binding) rest :=
          (distinct.part (List.suffix_append reads rest).isInfix).congr identity
            (spec_recordSecret clock service binding)
        obtain ⟨held, smooth⟩ := workloadStages_smooth steady stages late others rfl version
        rw [identity] at held
        exact ⟨(metadata_workloadStages stages).trans metadata, held, looked.append smooth⟩

end Stages

section Passes

variable {clock : Clock} {projector : Projector} {binding : Binding} {exchanges : Talk}
  {result : Except Halt Action} {before after : Versions}

/-- The finalizer is put in place under the version that was read, where it is missing. -/
theorem Pass.opening_smooth (pass : Pass clock projector binding exchanges result)
    (served : Served before pass.opening after) (current : before.Current binding) :
    after.Current pass.finalized ∧ pass.finalized.identity = binding.identity ∧
      pass.finalized.spec = binding.spec ∧
      Smooth pass.opening binding.version pass.finalized.version := by
  rcases pass.opened with ⟨-, opening, same⟩ | ⟨-, -, added⟩
  · rw [opening] at served ⊢
    rw [show after = before from served, same]
    exact ⟨current, rfl, rfl, .nil _⟩
  · obtain ⟨patched, same, held, identity, spec, smooth⟩ :=
      patchFinalizers_smooth added served current
    obtain rfl : pass.finalized = patched := Except.ok.inj same
    exact ⟨held, identity, spec, smooth⟩

/-- A pass over a binding that was read at its current version never conflicts with itself: as
long as nobody else writes, none of its writes is refused, and each write of the binding
carries the version that the one before was answered with. -/
theorem pass_never_conflicts (clock : Clock) (projector : Projector) (steady : projector.Steady)
    (binding : Binding) (exchanges : Talk) (result : Except Halt Action)
    (run : Runs (reconcile clock projector binding) exchanges result) (before after : Versions)
    (served : Served before exchanges after)
    (current : before binding.identity = some binding.version)
    (distinct : Distinct binding exchanges) :
    (∀ exchange ∈ exchanges, refusal? exchange = none) ∧
      ∃ last, Chained binding.version (exchanges.filterMap versionStep?) last := by
  rcases reconcile_passes clock projector binding exchanges result run with
    ⟨-, -, rfl, -⟩ | ⟨failure, -, -, added, -⟩ | ⟨⟨pass⟩⟩
  · exact ⟨by simp, _, rfl⟩
  · obtain ⟨patched, impossible, -⟩ := patchFinalizers_smooth added served current
    cases impossible
  rw [pass.split] at served
  obtain ⟨opened, opening, rest⟩ := (served_append pass.opening _).mp served
  obtain ⟨ran, working, closing⟩ := (served_append pass.stages pass.closing).mp rest
  obtain ⟨held, identity, spec, begun⟩ := pass.opening_smooth opening current
  have others : Distinct (restartConditions clock (Phase.of binding) pass.finalized) pass.stages :=
    (distinct.part ⟨pass.opening, pass.closing, by simp [pass.split]⟩).congr identity spec
  obtain ⟨metadata, kept, worked⟩ :=
    runPhase_smooth steady pass.ran working others pass.finalized.version
  -- the stages leave the binding at the version that the finalizer was written with
  have version : pass.ended.version = pass.finalized.version :=
    congrArg Metadata.resourceVersion metadata
  have still : ran.Current pass.ended := by
    have named : pass.ended.identity = pass.finalized.identity :=
      Binding.identity_of_metadata metadata
    rw [Versions.Current, named, version]
    exact kept.trans held
  obtain ⟨last, settled⟩ := settle_smooth pass.closed closing still
  rw [version] at settled
  have whole := begun.append (worked.append settled)
  rw [← pass.split] at whole
  exact ⟨whole.taken, last, whole.chained⟩

/-- A workload that is named and of another group than bindings is alone and no binding. -/
theorem distinct_of_named (name : String)
    (named : binding.spec.workload.name.filter (· ≠ "") = some name)
    (foreign : ∀ kind resource,
      (⟨.resolve kind, .ok resource⟩ : Exchange BindingCall.Answer) ∈ exchanges →
        resource.group ≠ bindingResource.group) : Distinct binding exchanges := by
  rintro resource workloads ⟨reads, inside, run⟩
  rcases runs_resolveWorkloads _ _ reads _ run with
    ⟨failure, -, impossible⟩ | ⟨found, rest, rfl, ⟨_, answer, -, rfl, same⟩ | ⟨none, -⟩ |
      ⟨selector, none, -⟩⟩
  · cases impossible
  · cases answer with
    | error failure =>
        simp only [namedOutcome] at same
        split at same
        · simp at same
        · split at same <;> simp at same
    | ok object =>
        simp only [namedOutcome, Except.ok.injEq, WorkloadResolution.resolved.injEq] at same
        obtain ⟨rfl, rfl⟩ := same
        have apart := foreign _ _ (inside.subset List.mem_cons_self)
        simp only [List.map_cons, List.map_nil, List.nodup_cons, List.mem_singleton,
          List.not_mem_nil, not_false_eq_true, List.nodup_nil, and_true]
        exact fun same => apart (congrArg Identity.group same).symm
  · rw [named] at none
    cases none
  · rw [named] at none
    cases none

end Passes

section Sample

def bumpVersion (version : Version) : Version := some (version.getD "" ++ "+")

/-- A write to a server that compares versions; what it stores is told by its new version. -/
def compareAndStore {α : Type} (versions : Versions) (identity : Identity) (carried : Version)
    (stored : Version → α) : Except Failure α × Versions :=
  match versions identity with
  | none => (.error (.notFound identity.plural identity.name), versions)
  | some held =>
      if held = carried then (.ok (stored (bumpVersion carried)),
        Function.update versions identity (some (bumpVersion carried)))
      else (.error (.conflict identity.plural identity.name "stale"), versions)

/-- A server that shows one workload, whatever it is asked for. -/
def comparingReply (workload : Object) (versions : Versions) :
    (call : BindingCall) → call.Answer × Versions
  | .resolve kind => (.ok (kind.resource "deployments"), versions)
  | .getObject resource _ name =>
      (match versions (workload.identity resource) with
        | some version => .ok (workload.withVersion version)
        | none => .error (.notFound resource.kind name), versions)
  | .listObjects _ _ _ => (.ok [], versions)
  | .updateObject resource object =>
      compareAndStore versions (object.identity resource) object.version object.withVersion
  | .patchFinalizers binding finalizers =>
      compareAndStore versions binding.identity binding.version
        (binding.withFinalizers finalizers).withVersion
  | .updateStatus binding =>
      compareAndStore versions binding.identity binding.version binding.withVersion
  | .publish _ _ => ((), versions)

theorem bumpVersion_ne (version : Version) : bumpVersion version ≠ version := by
  cases version with
  | none => simp [bumpVersion]
  | some text =>
      intro same
      have lengths := congrArg String.length (Option.some.inj same)
      simp at lengths

theorem writes_compareAndStore {α : Type} (versions : Versions) (identity : Identity)
    (carried : Version) (stored : Version → α) (version : α → Version)
    (told : ∀ next, version (stored next) = next) :
    Writes versions identity carried
      ((compareAndStore versions identity carried stored).1.map version)
      (compareAndStore versions identity carried stored).2 := by
  unfold compareAndStore
  split
  · next gone => exact .absent _ gone rfl
  · next held present =>
    split
    · next current =>
      rw [Except.map, told]
      exact .taken _ (current ▸ present) (bumpVersion_ne carried)
    · next other => exact .stale held _ present other rfl

theorem stored_of_compareAndStore {α : Type} {versions : Versions} {identity : Identity}
    {carried : Version} {stored : Version → α} {written : α}
    (taken : (compareAndStore versions identity carried stored).1 = .ok written) :
    ∃ next, written = stored next := by
  unfold compareAndStore at taken
  split at taken
  · cases taken
  · split at taken
    · exact ⟨_, (Except.ok.inj taken).symm⟩
    · cases taken

theorem guarded_comparingReply (workload : Object) (versions : Versions) (call : BindingCall) :
    Guarded versions call (comparingReply workload versions call).1
      (comparingReply workload versions call).2 := by
  cases call with
  | resolve kind => rfl
  | publish about event => rfl
  | listObjects resource namespaceName query => exact ⟨by rintro _ ⟨⟩; simp, rfl⟩
  | updateObject resource object =>
      exact writes_compareAndStore versions _ _ object.withVersion _ fun _ => rfl
  | getObject resource namespaceName name =>
      refine ⟨fun object shown => ?_, rfl⟩
      simp only [comparingReply] at shown
      split at shown
      · next version present =>
        obtain rfl := Except.ok.inj shown
        exact present
      · cases shown
  | patchFinalizers binding finalizers =>
      refine ⟨writes_compareAndStore versions _ _ _ _ fun _ => rfl, fun written taken => ?_⟩
      obtain ⟨next, rfl⟩ := stored_of_compareAndStore taken
      exact ⟨rfl, rfl⟩
  | updateStatus binding =>
      refine ⟨writes_compareAndStore versions _ _ _ _ fun _ => rfl, fun written taken => ?_⟩
      obtain ⟨next, rfl⟩ := stored_of_compareAndStore taken
      exact ⟨rfl, rfl⟩

theorem served_comparingReply {α : Type} (workload : Object) (dialogue : BindingTalk α)
    (versions : Versions) :
    Served versions (transcript (comparingReply workload) dialogue versions).1
      (transcript (comparingReply workload) dialogue versions).2.2 := by
  induction dialogue generalizing versions with
  | done value => rfl
  | ask call next ih => exact ⟨_, guarded_comparingReply workload versions call, ih _ _⟩

def versionedBinding : Binding := restingBinding.withVersion (some "3")

/-- What is stored before the pass: the binding and the workload that it names. -/
def versionedStore : Versions :=
  Function.update (Function.update (fun _ => none) versionedBinding.identity (some (some "3")))
    (rootedWorkload.identity (versionedBinding.spec.workload.kindOf.resource "deployments"))
    (some (some "8"))

def versionedPass : Talk × Except Halt Action × Versions :=
  transcript (comparingReply rootedWorkload)
    (reconcile (.ticking 0) PodTemplate.projector versionedBinding) versionedStore

def resolvesOther : Exchange BindingCall.Answer → Bool
  | ⟨.resolve _, .ok resource⟩ => resource.group ≠ bindingResource.group
  | _ => true

/-- The finalizer, the workload and the status are written one after the other. -/
theorem versioned_pass_undisturbed :
    versionedPass.1.map (fun exchange => exchange.1.writes) =
        [true, false, false, false, true, true, false] ∧
      versionedPass.1.filterMap versionStep? =
        [(some "3", some "3+"), (some "3+", some "3++")] ∧
      ∀ exchange ∈ versionedPass.1, refusal? exchange = none := by
  have others : ∀ exchange ∈ versionedPass.1, resolvesOther exchange = true := by decide +kernel
  have distinct : Distinct versionedBinding versionedPass.1 := by
    refine distinct_of_named "web" (by decide) fun kind resource member => ?_
    simpa [resolvesOther] using others _ member
  obtain ⟨taken, -⟩ := pass_never_conflicts (.ticking 0) PodTemplate.projector steady_podTemplate
    versionedBinding versionedPass.1 versionedPass.2.1 (runs_transcript _ _ _) versionedStore
    versionedPass.2.2 (served_comparingReply _ _ _) (by decide +kernel) distinct
  exact ⟨by decide +kernel, by decide +kernel, taken⟩

end Sample

end BindingOperator
