import BindingOperator.Proofs.Passes
import BindingOperator.Proofs.Projection.Workloads
import BindingOperator.Proofs.Writes

/-!
Letting the finalizer go. A pass over a binding that is being deleted takes the binding out
of every workload that its reference selects, and removes the finalizer when its stages went
well. A missing permission counts as well: it is recorded as a condition, nothing is written
after it, and the finalizer goes all the same. So the workloads are clean exactly as far as
no read and no write of them is refused.
-/

namespace BindingOperator

open Dialogue

section Clearing

/-- Nothing of a binding is left in a template, nor any variable that it owned before. An item
without a name is no container; it is one of the old template as it was. -/
structure ClearedTemplate (key : String) (old template : Table Json) : Prop where
  annotations : ∀ field ∈ ["secret", "type", "provider", "env"],
    Table.lookup (annotationName field key) (annotationsIn template) = none
  volumes : some (volumeName key) ∉ entryNames (itemsOf "volumes" (fieldsOf "spec" template))
  containers : ∀ item ∈ containersOf (fieldsOf "spec" template), ∀ container name,
    namedContainer? item = some (container, name) →
      some (volumeName key) ∉ entryNames (itemsOf "volumeMounts" container) ∧
        ∀ listed ∈ namesIn (ownedEnvOf key (annotationsIn old)) name,
          some listed ∉ entryNames (itemsOf "env" container)
  nameless : ∀ item ∈ containersOf (fieldsOf "spec" template), namedContainer? item = none →
    item ∈ containersOf (fieldsOf "spec" old)

/-- A workload without the binding that it had before. -/
def Cleared (key : String) (before after : Object) : Prop :=
  ∃ old template, before.template? = some old ∧ after.template? = some template ∧
    ClearedTemplate key old template

theorem clearedTemplate_unproject (key : String) (template : Table Json)
    (canonical : Json.Canonical (.object template)) :
    ClearedTemplate key template (unprojectTemplate key template) := by
  have settled := settled_unprojectTemplate key template canonical
  have disowned := disowned_unprojectTemplate key template canonical
  refine ⟨?_, settled.spec.absent, ?_, nameless_unprojectTemplate key template canonical⟩
  · intro field known
    apply settled.marks field
    simp only [List.mem_cons, List.not_mem_nil, or_false] at known
    simp only [mem_markFields]
    grind
  · intro item member container name named
    exact ⟨settled.spec.unmounted item member container name named,
      disowned item member container name named⟩

theorem cleared_unproject (binding : Binding) (workload copy : Object) (version : Option String)
    (canonical : workload.Canonical)
    (removed : PodTemplate.unproject binding workload = .ok copy) :
    Cleared binding.key workload (copy.withVersion version) := by
  obtain ⟨path, template, located, rfl⟩ := template_of_unproject binding workload copy removed
  exact ⟨template, unprojectTemplate binding.key template, template_located located,
    template_withTemplateAt located _,
    clearedTemplate_unproject binding.key template (canonical_template located canonical)⟩

end Clearing

section Refusing

variable {clock : Clock} {exchanges : Talk}

/-- A refusal while workloads are looked up is their resolution. -/
theorem refused_lookUp {namespaceName : String} {workload : WorkloadReference}
    {outcome : Except Failure WorkloadResolution}
    (run : Runs (resolveWorkloads namespaceName workload) exchanges outcome)
    (exchange : Exchange BindingCall.Answer) (member : exchange ∈ exchanges)
    (refused : Refused exchange) :
    (∃ scope, outcome = .ok (.forbidden scope)) ∧ ∃ earlier, exchanges = earlier ++ [exchange] := by
  rcases runs_resolveWorkloads namespaceName workload exchanges outcome run with
    ⟨failure, rfl, -⟩ | ⟨resource, rest, rfl, step⟩
  · rw [List.mem_singleton.mp member] at refused
    exact absurd refused Bool.false_ne_true
  · rcases List.mem_cons.mp member with rfl | inside
    · exact absurd refused Bool.false_ne_true
    rcases step with ⟨name, answer, -, rfl, rfl⟩ | ⟨-, -, rfl, -⟩ |
      ⟨selector, -, -, ⟨failure, -, rfl, -⟩ | ⟨query, answer, -, rfl, rfl⟩⟩
    · rw [List.mem_singleton.mp inside] at refused ⊢
      cases answer with
      | ok object => exact absurd refused Bool.false_ne_true
      | error failure =>
          refine ⟨⟨.single, ?_⟩, [⟨.resolve workload.kindOf, .ok resource⟩], rfl⟩
          simp [namedOutcome, notFound_of_forbidden failure refused, show failure.isForbidden = true
            from refused]
    · simp at inside
    · simp at inside
    · rw [List.mem_singleton.mp inside] at refused ⊢
      cases answer with
      | ok listed => exact absurd refused Bool.false_ne_true
      | error failure =>
          refine ⟨⟨.list, ?_⟩, [⟨.resolve workload.kindOf, .ok resource⟩], rfl⟩
          simp [listedOutcome, show failure.isForbidden = true from refused]

/-- A refused write ends the writing, and is recorded. -/
theorem refused_patchAll {progress : Progress} {pairs : List (Object × Object)} {ending : Ending}
    (run : Runs (patchAll clock progress pairs) exchanges ending)
    (exchange : Exchange BindingCall.Answer) (member : exchange ∈ exchanges)
    (refused : Refused exchange) :
    ending = (progress.mark (markRefused clock), .ok ()) ∧
      ∃ earlier, exchanges = earlier ++ [exchange] := by
  induction pairs generalizing exchanges with
  | nil =>
      obtain ⟨rfl, -⟩ := runs_patchAll_nil.mp run
      simp at member
  | cons pair rest ih =>
      rcases runs_patchAll_cons run with ⟨breach, rfl, -⟩ | ⟨-, later⟩ |
        ⟨served, answer, later, -, rfl, step⟩
      · simp at member
      · exact ih later member
      · rcases step with ⟨passed, after⟩ | ⟨failure, rfl, -, rfl, verdict⟩
        · rcases List.mem_cons.mp member with rfl | inside
          · rcases passed with ⟨stored, rfl⟩ | ⟨failure, rfl, gone⟩
            · exact absurd refused Bool.false_ne_true
            · simp [notFound_of_forbidden failure refused] at gone
          · obtain ⟨ended, earlier, rfl⟩ := ih after inside
            exact ⟨ended, _ :: earlier, rfl⟩
        · rw [List.mem_singleton.mp member] at refused ⊢
          rcases verdict with ⟨-, rfl⟩ | ⟨unrefused, -⟩
          · exact ⟨rfl, [], rfl⟩
          · simp [show failure.isForbidden = true from refused] at unrefused

/-- The stages of a deletion stop at a refusal, and end well. -/
theorem refused_stages {projector : Projector} {binding ended : Binding}
    {outcome : Except Halt Unit}
    (run : Runs (runPhase clock projector .deleting binding) exchanges (ended, outcome))
    (exchange : Exchange BindingCall.Answer) (member : exchange ∈ exchanges)
    (refused : Refused exchange) :
    outcome = .ok () ∧ ∃ earlier, exchanges = earlier ++ [exchange] := by
  obtain ⟨progress, stages, -⟩ := runs_runPhase clock projector .deleting binding ended outcome
    exchanges run
  rw [ofPhase_deleting] at stages
  rcases runs_workloadStages clock projector .deleting _ _ _ stages with
    ⟨failure, read, -⟩ | ⟨lists, writes, found, recorded, rfl, read, rfl, after⟩
  · obtain ⟨⟨scope, impossible⟩, -⟩ := refused_lookUp read exchange member refused
    simp at impossible
  · rcases List.mem_append.mp member with early | late
    -- a refused reading finds no workload, so there is nothing to write after it
    · obtain ⟨⟨scope, same⟩, earlier, rfl⟩ := refused_lookUp read exchange early refused
      have nothing : (recordWorkloads clock found { binding }).workloads = [] := by
        rw [Except.ok.inj same]
        cases scope <;> rfl
      rw [nothing] at after
      rcases after with ⟨failure, impossible, -⟩ | ⟨copies, -, wrote⟩
      · simp [projectAll] at impossible
      · obtain ⟨rfl, ending⟩ := runs_patchAll_nil.mp wrote
        exact ⟨congrArg Prod.snd ending, earlier, List.append_nil _⟩
    · rcases after with ⟨failure, -, rfl, -⟩ | ⟨copies, -, wrote⟩
      · simp at late
      · obtain ⟨ended, earlier, rfl⟩ := refused_patchAll wrote exchange late refused
        exact ⟨congrArg Prod.snd ended, lists ++ earlier, (List.append_assoc _ _ _).symm⟩

end Refusing

section Releasing

variable {clock : Clock} {binding : Binding} {exchanges : Talk} {refuses : Refusing}
  {drift : Cluster → Cluster → Prop} {first last : Cluster}

/-- The copies of a deletion replace what they were made of, and are clear of the binding. -/
theorem cleared_copied (cleaned : Binding) (resource : Resource) (workloads : List Object)
    {copies : List Object} {place : Place} {object : Object} (sameKey : cleaned.key = binding.key)
    (projected : projectAll PodTemplate.projector .deleting cleaned workloads = .ok copies)
    (kept : ∀ workload ∈ workloads,
      first.objects (workload.placeIn resource) = some workload ∧ workload.Canonical)
    (copied : Copied resource (workloads.zip copies) place object) :
    ∃ before, first.objects place = some before ∧ Cleared binding.key before object := by
  obtain ⟨pair, member, rfl, version, rfl⟩ := copied
  obtain ⟨chosen, removed⟩ := projectAll_zip _ _ _ _ _ projected pair member
  obtain ⟨present, canonical⟩ := kept pair.1 chosen
  refine ⟨pair.1, ?_, sameKey ▸ cleared_unproject cleaned pair.1 pair.2 version canonical removed⟩
  rw [Object.placeIn_of_metadata resource pair.1 pair.2
    (metadata_of_unproject cleaned pair.1 pair.2 removed)]
  exact present

/-- Stages of a deletion that ended well without a refusal cleared whatever is selected. -/
theorem cleared_stages {ended : Binding}
    (run : Runs (runPhase clock PodTemplate.projector .deleting
      (restartConditions clock .deleting binding)) exchanges (ended, .ok ()))
    (history : History refuses drift first exchanges last) (truthful : Truthful refuses)
    (losing : ∀ before after, drift before after → before.Loses after)
    (canonical : ∀ place object, first.objects place = some object → object.Canonical)
    (unrefused : ∀ exchange ∈ exchanges, ¬ Refused exchange) (resource : Resource)
    (served : last.serves binding.spec.workload.kindOf = some resource) (name : String)
    (object : Object)
    (present : last.objects ⟨resource, binding.namespaceName, name⟩ = some object)
    (selected : binding.spec.workload.Selects object) :
    ∃ before, first.objects ⟨resource, binding.namespaceName, name⟩ = some before ∧
      Cleared binding.key before object := by
  obtain ⟨progress, stages, -⟩ := runs_runPhase clock _ .deleting _ ended _ exchanges run
  rw [ofPhase_deleting] at stages
  rcases runs_workloadStages clock _ .deleting _ _ _ stages with
    ⟨failure, -, impossible⟩ | ⟨lists, writes, found, recorded, rfl, read, rfl, after⟩
  · simp at impossible
  obtain ⟨listed, reading, writing⟩ := (history_append lists writes).mp history
  obtain ⟨middle, early, late, outcome⟩ := looked_up found read reading truthful
    fun before after drifted => (losing before after drifted).serves
  have lost : first.Loses middle := by
    rcases early with rfl | drifted
    · exact .refl _
    · exact losing _ _ drifted
  have kept := losing _ _ late
  rcases outcome with ⟨kind, workloads, there, gives⟩ | ⟨scope, -, exchange, member, refused⟩
  · obtain ⟨same, known⟩ := gives.recorded clock (restartConditions clock .deleting binding)
    rw [same] at after
    rcases after with ⟨failure, -, -, impossible⟩ | ⟨copies, projected, wrote⟩
    · simp at impossible
    -- neither losses nor writes change which resource serves the kind
    have sameKind : kind = resource := by
      have offered := there.served
      rw [← kept.serves, ← (grown_copies wrote known losing writing).serves] at offered
      exact Option.some.inj (offered.symm.trans served)
    subst sameKind
    have each := copies_of_projectAll projected fun workload copy made =>
      metadata_of_unproject _ workload copy made
    have copied := copied_selected there kept each wrote rfl known losing truthful
      (fun exchange member => unrefused exchange (List.mem_append_right _ member)) writing present
      selected
    refine cleared_copied _ kind workloads ?_ projected ?_ copied
    · cases gives <;> rfl
    · intro workload chosen
      have held := lost.objects _ _ (there.kept workload chosen).1
      exact ⟨held, canonical _ _ held⟩
  · exact absurd refused (unrefused exchange (List.mem_append_left _ member))

theorem refused_unchanged {before after : Cluster} (exchange : Exchange BindingCall.Answer)
    (refused : Refused exchange)
    (given : Answers refuses before exchange.1 exchange.2 after) : after = before := by
  obtain ⟨call, answer⟩ := exchange
  cases call with
  | getObject resource namespaceName name =>
      cases answer with
      | ok object => exact absurd refused Bool.false_ne_true
      | error failure => exact given.2
  | listObjects resource namespaceName query =>
      cases answer with
      | ok listed => exact absurd refused Bool.false_ne_true
      | error failure => exact given.2
  | updateObject resource object =>
      cases answer with
      | ok stored => exact absurd refused Bool.false_ne_true
      | error failure => exact given.2
  | _ => exact absurd refused Bool.false_ne_true

theorem refused_about (exchange : Exchange BindingCall.Answer) (refused : Refused exchange) :
    aboutBinding exchange.1 = false := by
  obtain ⟨call, answer⟩ := exchange
  cases call with
  | patchFinalizers binding finalizers => exact absurd refused Bool.false_ne_true
  | updateStatus binding => exact absurd refused Bool.false_ne_true
  | publish about event => exact absurd refused Bool.false_ne_true
  | _ => rfl

theorem updatesObject_about (call : BindingCall) (about : aboutBinding call = true) :
    updatesObject call = false := by
  cases call with
  | updateObject resource object => simp [aboutBinding] at about
  | _ => rfl

/-- The finalizer is only asked to go after stages that ended well, and then it is, unless
the status could not be written. -/
theorem released_iff {stored : Option BindingStatus} {ended : Binding}
    {outcome : Except Halt Unit} {result : Except Halt Action}
    (run : Runs (settle .deleting stored ended outcome) exchanges result) :
    ((∃ current finalizers answer,
        (⟨.patchFinalizers current finalizers, answer⟩ : Exchange BindingCall.Answer) ∈ exchanges) →
      outcome = .ok ()) ∧
    (outcome = .ok () → (∀ written failure,
        (⟨.updateStatus written, .error failure⟩ : Exchange BindingCall.Answer) ∉ exchanges) →
      ∃ current answer, (⟨.patchFinalizers current (current.metadata.finalizerList.filter
        (· ≠ bindingFinalizer)), answer⟩ : Exchange BindingCall.Answer) ∈ exchanges) := by
  rcases runs_settle run with ⟨breach, rfl, rfl, -⟩ | ⟨status, written, last, rfl, wrote, after⟩
  · simp
  constructor
  · rintro ⟨current, finalizers, answer, member⟩
    rcases List.mem_append.mp member with early | late
    · rcases runs_writeStatus wrote with ⟨-, rfl, -⟩ |
        ⟨-, rest, rfl, ⟨rfl, -⟩ | ⟨updated, rfl, -⟩⟩
      · simp at early
      · simp at early
      · simp at early
    · rcases after with ⟨rfl, -⟩ | ⟨same, -⟩ | ⟨-, -, same, -⟩
      · simp at late
      · exact same
      · exact same
  · intro well taken
    rcases after with ⟨rfl, failed, -⟩ | ⟨-, impossible, -⟩ | ⟨current, answer, -, -, -, removed⟩
    · rcases failed with unwell | ⟨failure, rfl⟩
      · exact absurd well unwell
      · rcases runs_writeStatus wrote with ⟨-, -, impossible⟩ | ⟨-, rest, rfl, -⟩
        · simp at impossible
        · exact absurd (by simp) (taken (settledBinding stored ended) failure)
    · simp at impossible
    · rcases runs_patchFinalizers removed with ⟨failure, -, rfl⟩ | ⟨patched, -, rfl⟩
      · exact ⟨current, _, List.mem_append_right _ (List.mem_singleton_self _)⟩
      · exact ⟨current, _, List.mem_append_right _ List.mem_cons_self⟩

/-- A deletion that lets the finalizer go has cleared every workload that is still there and
that the reference selects, provided that no read and no write of an object was refused. A
refusal is not held against it: the finalizer goes as if all was well, and after the refused
call nothing is written to any object. -/
theorem release_clears_unless_refused {result : Except Halt Action}
    (pass : Pass clock PodTemplate.projector binding exchanges result)
    (deleting : binding.isDeleting = true)
    (history : History refuses drift first exchanges last) (truthful : Truthful refuses)
    (losing : ∀ before after, drift before after → before.Loses after)
    (canonical : ∀ place object, first.objects place = some object → object.Canonical) :
    ((∃ current finalizers answer,
        (⟨.patchFinalizers current finalizers, answer⟩ : Exchange BindingCall.Answer) ∈ exchanges) →
      (∀ exchange ∈ exchanges, ¬ Refused exchange) →
      ∀ resource, last.serves binding.spec.workload.kindOf = some resource → ∀ name object,
        last.objects ⟨resource, binding.namespaceName, name⟩ = some object →
        binding.spec.workload.Selects object →
        ∃ before, first.objects ⟨resource, binding.namespaceName, name⟩ = some before ∧
          Cleared binding.key before object) ∧
    ∀ exchange ∈ exchanges, Refused exchange →
      ((∀ written failure,
          (⟨.updateStatus written, .error failure⟩ : Exchange BindingCall.Answer) ∉ exchanges) →
        ∃ current answer, (⟨.patchFinalizers current (current.metadata.finalizerList.filter
          (· ≠ bindingFinalizer)), answer⟩ : Exchange BindingCall.Answer) ∈ exchanges) ∧
      ∃ earlier later middle, exchanges = earlier ++ exchange :: later ∧
        History refuses drift first earlier middle ∧ middle.Loses last := by
  obtain ⟨stages, closing, ended, outcome, rfl, ran, closed⟩ := pass.of_deleting deleting
  have stagesAbout := runPhase_about ran
  have closingAbout := settle_about closed
  obtain ⟨staged, working, settling⟩ := (history_append stages closing).mp history
  -- the closing calls are about the binding only, so whatever is cleared stays cleared
  have calm : staged.Loses last := history_loses settling losing fun exchange member =>
    updatesObject_about exchange.1 (closingAbout exchange member)
  obtain ⟨asked, goes⟩ := released_iff closed
  constructor
  · rintro ⟨current, finalizers, answer, member⟩ unrefused resource served name object present
      selected
    have late : (⟨.patchFinalizers current finalizers, answer⟩ : Exchange BindingCall.Answer) ∈
        closing := by
      rcases List.mem_append.mp member with early | late
      · simpa [aboutBinding] using stagesAbout _ early
      · exact late
    obtain rfl := asked ⟨current, finalizers, answer, late⟩
    exact cleared_stages ran working truthful losing canonical
      (fun exchange inside => unrefused exchange (List.mem_append_left _ inside)) resource
      (by rw [← calm.serves]; exact served) name object (calm.objects _ _ present) selected
  · intro exchange member refused
    have early : exchange ∈ stages := by
      rcases List.mem_append.mp member with early | late
      · exact early
      · have about := closingAbout exchange late
        simp [refused_about exchange refused] at about
    obtain ⟨well, earlier, rfl⟩ := refused_stages ran exchange early refused
    obtain ⟨middle, before, answered, next, given, drifted, finished⟩ :=
      (history_append earlier [exchange]).mp working
    rw [refused_unchanged exchange refused given] at drifted
    rw [show staged = next from finished] at calm
    refine ⟨?_, earlier, closing, middle, by simp, before, (losing _ _ drifted).trans calm⟩
    intro taken
    obtain ⟨current, answer, removed⟩ := goes well fun written failure inside =>
      taken written failure (List.mem_append_right _ inside)
    exact ⟨current, answer, List.mem_append_right _ removed⟩

end Releasing

section Sample

def leavingBinding : Binding where
  metadata := { name := some "orders", finalizers := some [bindingFinalizer],
                deletionTimestamp := some ⟨0, 0⟩ }
  spec := {
    workload := { apiVersion := "apps/v1", kind := "Deployment", name := some "web" }
    service := { apiVersion := "v1", kind := "Secret", name := "db" } }

/-- A workload that still has the volume of the binding. -/
def boundWorkload : Object where
  metadata := { name := some "web" }
  body := [("spec", .object [("template", .object [("spec", .object
    [("containers", .array [.object [("name", .string "app")]]),
      ("volumes", .array [.object [("name", .string "servicebinding-orders")]])])])])]

def boundCluster : Cluster :=
  (Cluster.bare leavingBinding fun kind => some (kind.resource "deployments")).store
    (leavingBinding.spec.workload.kindOf.resource "deployments") boundWorkload

/-- The cluster answers what it has, and forbids to update objects. -/
def forbiddingReply (cluster : Cluster) : (call : BindingCall) → call.Answer × Cluster
  | .updateObject resource object =>
      (.error (.forbidden resource.kind object.nameAny "update"), cluster)
  | call => cluster.reply call

section Passes

variable (reply : Cluster → (call : BindingCall) → call.Answer × Cluster)

def leavingStages : Talk × (Binding × Except Halt Unit) × Cluster :=
  transcript reply (runPhase (.ticking 0) PodTemplate.projector (Phase.of leavingBinding)
    (restartConditions (.ticking 0) (Phase.of leavingBinding) leavingBinding)) boundCluster

def leavingClosing : Talk × Except Halt Action × Cluster :=
  transcript reply (settle (Phase.of leavingBinding) leavingBinding.status
    (leavingStages reply).2.1.1 (leavingStages reply).2.1.2) (leavingStages reply).2.2

def leavingTalk : Talk := (leavingStages reply).1 ++ (leavingClosing reply).1

def leavingPass : Pass (.ticking 0) PodTemplate.projector leavingBinding (leavingTalk reply)
    (leavingClosing reply).2.1 where
  finalized := leavingBinding
  opening := []
  stages := (leavingStages reply).1
  closing := (leavingClosing reply).1
  ended := (leavingStages reply).2.1.1
  outcome := (leavingStages reply).2.1.2
  split := rfl
  opened := .inl ⟨by decide +kernel, rfl, rfl⟩
  ran := runs_transcript _ _ _
  closed := runs_transcript _ _ _

theorem leaving_history
    (truth : ∀ cluster call, isList call = false →
      Answers (fun _ failure => failure.isNotFound = false) cluster call
        (reply cluster call).1 (reply cluster call).2)
    (named : ∀ exchange ∈ leavingTalk reply, isList exchange.1 = false) :
    History (fun _ failure => failure.isNotFound = false) Cluster.Loses boundCluster
      (leavingTalk reply) (leavingClosing reply).2.2 := by
  have part : ∀ {α : Type} (dialogue : BindingTalk α) (cluster : Cluster),
      (∀ exchange ∈ (transcript reply dialogue cluster).1, isList exchange.1 = false) →
      History (fun _ failure => failure.isNotFound = false) Cluster.Loses cluster
        (transcript reply dialogue cluster).1 (transcript reply dialogue cluster).2.2 := by
    intro α dialogue cluster calls
    exact history_transcript reply (fun call => !isList call)
      (fun cluster call allowed => truth cluster call (by simpa using allowed))
      Cluster.Loses.refl dialogue cluster (by simpa using calls)
  refine (history_append _ _).mpr ⟨_, part _ _ ?_, part _ _ ?_⟩
  · exact fun exchange member => named exchange (List.mem_append_left _ member)
  · exact fun exchange member => named exchange (List.mem_append_right _ member)

end Passes

theorem answers_forbiddingReply (cluster : Cluster) (call : BindingCall)
    (named : isList call = false) :
    Answers (fun _ failure => failure.isNotFound = false) cluster call
      (forbiddingReply cluster call).1 (forbiddingReply cluster call).2 := by
  cases call with
  | updateObject resource object => exact ⟨.inr rfl, rfl⟩
  | _ => exact answers_reply cluster _ named

theorem canonical_boundWorkload : boundWorkload.Canonical := by
  have order : "containers" < "volumes" := by decide
  simp [Object.Canonical, boundWorkload, Json.Canonical, Json.CanonicalFields,
    Json.CanonicalItems, Table.Ordered, order]

theorem canonical_boundCluster (place : Place) (object : Object)
    (present : boundCluster.objects place = some object) : object.Canonical := by
  rw [boundCluster, Cluster.objects_store] at present
  split at present
  · exact Option.some.inj present ▸ canonical_boundWorkload
  · simp [Cluster.bare] at present

def boundPlace : Place := ⟨leavingBinding.spec.workload.kindOf.resource "deployments", "", "web"⟩

/-- A test of the call alone, which can be decided where the binding is not written out. -/
def writesFinalizers : BindingCall → Bool
  | .patchFinalizers _ _ => true
  | _ => false

theorem patched_of_calls {exchanges : Talk}
    (calls : (exchanges.any fun exchange => writesFinalizers exchange.1) = true) :
    ∃ current finalizers answer,
      (⟨.patchFinalizers current finalizers, answer⟩ : Exchange BindingCall.Answer) ∈
        exchanges := by
  obtain ⟨⟨call, answer⟩, member, patches⟩ := List.any_eq_true.mp calls
  cases call with
  | patchFinalizers current finalizers => exact ⟨current, finalizers, answer, member⟩
  | _ => simp [writesFinalizers] at patches

def failsStatus : Exchange BindingCall.Answer → Bool
  | ⟨.updateStatus _, .error _⟩ => true
  | _ => false

/-- The same deletion in two clusters: one takes the update, and the workload is clean when
the finalizer goes; the other one forbids it, and the finalizer goes while the volume is
still there. -/
theorem leaving_binding_released :
    (∃ before after, boundCluster.objects boundPlace = some before ∧
        (leavingClosing Cluster.reply).2.2.objects boundPlace = some after ∧
        Cleared leavingBinding.key before after) ∧
      (∃ current answer, (⟨.patchFinalizers current (current.metadata.finalizerList.filter
        (· ≠ bindingFinalizer)), answer⟩ : Exchange BindingCall.Answer) ∈
          leavingTalk forbiddingReply) ∧
      (leavingClosing forbiddingReply).2.2.objects boundPlace = some boundWorkload := by
  have truthful : Truthful fun _ failure => failure.isNotFound = false :=
    ⟨fun _ _ _ _ => id, fun _ _ _ => id⟩
  refine ⟨?_, ?_, by decide +kernel⟩
  · have kept : ((leavingClosing Cluster.reply).2.2.objects boundPlace).isSome = true := by
      decide +kernel
    obtain ⟨after, present⟩ := Option.isSome_iff_exists.mp kept
    have asked : ∃ current finalizers answer,
        (⟨.patchFinalizers current finalizers, answer⟩ : Exchange BindingCall.Answer) ∈
          leavingTalk Cluster.reply := patched_of_calls (by decide +kernel)
    have history := leaving_history Cluster.reply (fun cluster call => answers_reply cluster call)
      (by decide +kernel)
    have named : leavingBinding.spec.workload.name.filter (· ≠ "") = some "web" := by decide
    have selected : leavingBinding.spec.workload.Selects after :=
      (selects_named named after).mpr
        (congrArg Place.name (Cluster.placed _ _ _ present))
    obtain ⟨before, held, cleared⟩ := (release_clears_unless_refused (leavingPass Cluster.reply) rfl
      history truthful (fun _ _ => id) canonical_boundCluster).1 asked (by decide +kernel) _
      (by decide +kernel) "web" after present selected
    exact ⟨before, after, held, present, cleared⟩
  · have history := leaving_history forbiddingReply answers_forbiddingReply (by decide +kernel)
    have met : ∃ exchange ∈ leavingTalk forbiddingReply, Refused exchange := by decide +kernel
    obtain ⟨exchange, member, refused⟩ := met
    refine ((release_clears_unless_refused (leavingPass forbiddingReply) rfl history truthful
      (fun _ _ => id) canonical_boundCluster).2 exchange member refused).1 ?_
    intro written failure failed
    have taken : ∀ exchange ∈ leavingTalk forbiddingReply, failsStatus exchange = false := by
      decide +kernel
    simpa [failsStatus] using taken _ failed

end Sample

end BindingOperator
