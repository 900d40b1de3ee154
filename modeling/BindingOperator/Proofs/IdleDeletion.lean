import BindingOperator.Proofs.Accounts
import BindingOperator.Proofs.Lifetimes
import BindingOperator.Proofs.Readmission
import BindingOperator.Proofs.WriteOrder

/-!
Deletions with nothing to clean up. A template that carries nothing of a binding is left
alone by its removal, whatever shape it has, unless the bookkeeping that all bindings share is
out of use or not in the form in which it is written. So a deletion over workloads with pod
templates goes through, writes none of them for the sake of the binding, and lets the
finalizer go. A workload without a pod template is an error, and there the binding stays.
-/

namespace BindingOperator

open Dialogue

section Templates

variable {key : String} {template : Table Json}

/-- The note that is kept of the ledger: none when it is empty or no binding is projected. -/
def ledgerNote (annotations : Table Json) : Option Json :=
  if !hasProjection annotations || (ledgerOf annotations).isEmpty then none
  else some (.string (ledgerOf annotations).toJson.compact)

/-- The shared bookkeeping of a template is at rest: no field and no root variable that it
notes is out of use, and it is there exactly while a binding is projected, in the form in
which it is written. -/
structure AtRest (template : Table Json) : Prop where
  volumes : (Table.lookup "volumes" (fieldsOf "spec" template)).any isEmptyCollection = true →
    "volumes" ∉ (ledgerOf (annotationsIn template)).created
  containers : ∀ item ∈ containersOf (fieldsOf "spec" template),
    SettledItem (ledgerOf (annotationsIn template)) item
  annotations : (Table.lookup "annotations" (fieldsOf "metadata" template)).any
    isEmptyCollection = true → "annotations" ∉ (ledgerOf (annotationsIn template)).created
  metadata : (Table.lookup "metadata" template).any isEmptyCollection = true →
    "metadata" ∉ (ledgerOf (annotationsIn template)).created
  written : Table.lookup ledgerAnnotation (annotationsIn template) =
    ledgerNote (annotationsIn template)

/-- A workload whose template has its bookkeeping at rest. -/
def Object.Rests (workload : Object) : Prop :=
  ∃ template, workload.template? = some template ∧ AtRest template

/-- Without any bookkeeping there is nothing to put to rest. -/
theorem atRest_of_unrecorded
    (absent : Table.lookup ledgerAnnotation (annotationsIn template) = none) : AtRest template := by
  have nothing : ledgerOf (annotationsIn template) = {} := by
    rw [ledgerOf, absent, readRecord_none]
  constructor
  case volumes => simp [nothing]
  case containers =>
    intro item _
    rw [nothing]
    exact settledItem_empty item
  case annotations => simp [nothing]
  case metadata => simp [nothing]
  case written => simp [absent, ledgerNote, nothing, Ledger.isEmpty]

theorem leftAnnotations_eq_self_iff {annotations : Table Json}
    (ordered : Table.Ordered annotations)
    (marks : ∀ field ∈ markFields,
      Table.lookup (annotationName field key) annotations = none) :
    leftAnnotations key (ledgerOf annotations) annotations = annotations ↔
      Table.lookup ledgerAnnotation annotations = ledgerNote annotations := by
  rw [leftAnnotations, eraseAnnotations_absent key _ marks, writeRecord, ledgerNote]
  exact Table.assign_eq_self_iff _ _ _ ordered

/-- Nothing is to be removed from a template exactly when it carries nothing of the binding
and its bookkeeping is at rest. -/
theorem settled_iff_atRest (canonical : Json.Canonical (.object template)) :
    Settled key template ↔ ¬ Carried key template ∧ AtRest template := by
  have ordered := Json.canonical_ordered _ (canonical_annotationsIn template canonical)
  constructor
  · intro settled
    exact ⟨not_carried settled.marks settled.spec.absent settled.spec.unmounted,
      settled.spec.used, settled.spec.containers, settled.annotations, settled.metadata,
      (leftAnnotations_eq_self_iff ordered settled.marks).mp settled.written⟩
  · rintro ⟨nothing, rests⟩
    have marks : ∀ field ∈ markFields,
        Table.lookup (annotationName field key) (annotationsIn template) = none := by
      intro field known
      by_contra present
      exact nothing (.mark field known present)
    have spec : SettledSpec (volumeName key) (fieldsOf "spec" template)
        (ledgerOf (annotationsIn template)) :=
      { absent := fun present => nothing (.volume present)
        used := rests.volumes
        containers := rests.containers
        unmounted := fun item member container name named present =>
          nothing (.mount item container name member named present) }
    exact ⟨marks, spec, (leftAnnotations_eq_self_iff ordered marks).mpr rests.written,
      rests.annotations, rests.metadata⟩

theorem unprojectTemplate_eq_self_iff (canonical : Json.Canonical (.object template)) :
    unprojectTemplate key template = template ↔ Settled key template := by
  constructor
  · intro same
    have settled := settled_unprojectTemplate key template canonical
    rwa [same] at settled
  · exact unprojectTemplate_settled key template canonical

end Templates

section Workloads

variable {binding : Binding} {workload : Object}

/-- A template is all that a removal needs. -/
theorem unproject_error_iff {failure : Failure} :
    PodTemplate.unproject binding workload = .error failure ↔
      workload.template? = none ∧ failure = PodTemplate.noTemplate workload := by
  cases found : workload.templatePath? with
  | none =>
      rw [unproject_unlocated binding workload found, Except.error.injEq, eq_comm]
      simp [Object.template?, found]
  | some path =>
      obtain ⟨template, located⟩ := located_of_path workload path found
      rw [unproject_located binding located, template_located located]
      simp

theorem carries_iff {key : String} {template : Table Json}
    (found : workload.template? = some template) :
    workload.Carries key ↔ Carried key template := by
  simp [Object.Carries, found]

/-- A removal leaves a workload as it is exactly when nothing of the binding is there and the
bookkeeping is at rest. -/
theorem unproject_eq_self_iff {copy : Object} (canonical : workload.Canonical)
    (removed : PodTemplate.unproject binding workload = .ok copy) :
    workload = copy ↔ ¬ workload.Carries binding.key ∧ workload.Rests := by
  obtain ⟨path, template, located, rfl⟩ := template_of_unproject binding workload copy removed
  have found : workload.template? = some template := template_located located
  have inside := canonical_template located canonical
  rw [eq_comm, withTemplateAt_eq_iff located canonical, unprojectTemplate_eq_self_iff inside,
    settled_iff_atRest inside, carries_iff found]
  simp [Object.Rests, found]

end Workloads

section Stages

variable {clock : Clock} {binding : Binding} {exchanges : Talk} {first last : Cluster}

/-- An object that the workload reference of a binding resolves to. -/
structure Cluster.Targets (cluster : Cluster) (binding : Binding) (place : Place)
    (object : Object) : Prop where
  present : cluster.objects place = some object
  served : cluster.serves binding.spec.workload.kindOf = some place.resource
  inside : place.namespaceName = binding.namespaceName
  selected : binding.spec.workload.Selects object

/-- Some call is about writing the object at a place. -/
def Updates (exchanges : Talk) (place : Place) : Prop :=
  ∃ resource copy, copy.placeIn resource = place ∧
    BindingCall.updateObject resource copy ∈ exchanges.map Sigma.fst

theorem updates_append (left right : Talk) (place : Place) :
    Updates (left ++ right) place ↔ Updates left place ∨ Updates right place := by
  simp only [Updates, List.map_append, List.mem_append, and_or_left, exists_or]

theorem not_updates (apart : ∀ exchange ∈ exchanges, updatesObject exchange.1 = false)
    (place : Place) : ¬ Updates exchanges place := by
  rintro ⟨resource, copy, -, member⟩
  obtain ⟨exchange, inside, call⟩ := List.mem_map.mp member
  simpa [call, updatesObject] using apart exchange inside

/-- What is found are the objects that the reference resolves to, at their places. -/
theorem mem_found_iff {resource : Resource} {found : List Object} {object : Object}
    (there : Found binding.spec.workload binding.namespaceName first resource found) :
    object ∈ found ↔ first.Targets binding (object.placeIn resource) object := by
  constructor
  · intro member
    obtain ⟨present, inside, selected⟩ := there.kept object member
    exact ⟨present, there.served, inside, selected⟩
  · rintro ⟨present, -, inside, selected⟩
    have place : object.placeIn resource =
        ⟨resource, binding.namespaceName, object.nameAny⟩ := by
      rw [← inside]
      rfl
    rw [place] at present
    exact there.complete object.nameAny object present selected

theorem Cluster.Targets.found {resource : Resource} {found : List Object} {place : Place}
    {object : Object} (target : first.Targets binding place object)
    (there : Found binding.spec.workload binding.namespaceName first resource found) :
    object ∈ found ∧ object.placeIn resource = place := by
  have same : place.resource = resource :=
    Option.some.inj (target.served.symm.trans there.served)
  have placed : object.placeIn resource = place := by
    rw [← same]
    exact first.placed place object target.present
  exact ⟨(mem_found_iff there).mpr (placed.symm ▸ target), placed⟩

theorem projectAll_failing {projector : Projector} {phase : Phase} {workloads : List Object}
    {failure : Failure} (fails : projectAll projector phase binding workloads = .error failure) :
    ∃ workload ∈ workloads, applied projector phase binding workload = .error failure := by
  induction workloads with
  | nil => simp [projectAll] at fails
  | cons workload rest ih =>
      rcases projectAll_cons_error.mp fails with first | ⟨copy, -, others⟩
      · exact ⟨workload, List.mem_cons_self, first⟩
      · obtain ⟨other, member, failed⟩ := ih others
        exact ⟨other, List.mem_cons_of_mem _ member, failed⟩

/-- A copy with the metadata of its workload is written where it differs. -/
theorem patchAll_different {progress : Progress} {workload copy : Object}
    {pairs : List (Object × Object)} {ending : Ending} {resource : Resource}
    (alike : copy.metadata = workload.metadata) (known : progress.resource = some resource)
    (different : workload ≠ copy)
    (run : Runs (patchAll clock progress ((workload, copy) :: pairs)) exchanges ending) :
    exchanges ≠ [] := by
  simp only [patchAll, sameIdentity, alike, decide_true, Bool.and_self, Bool.not_true,
    Bool.false_eq_true, if_false, different, known] at run
  obtain ⟨answer, later, rfl, -⟩ := (runs_call_bind_iff _ _ _ _).mp run
  simp

/-- Writing copies in an undisturbed cluster goes well, and its calls are about those that
differ, one after the other. -/
theorem undisturbed_patchAll {progress : Progress} {pairs : List (Object × Object)}
    {ending : Ending} {resource : Resource}
    (run : Runs (patchAll clock progress pairs) exchanges ending)
    (history : Undisturbed first exchanges last) (known : progress.resource = some resource)
    (alike : ∀ pair ∈ pairs, pair.2.metadata = pair.1.metadata) :
    ending.2 = .ok () ∧ exchanges.map Sigma.fst =
      (pairs.filter fun pair => pair.1 ≠ pair.2).map fun pair => .updateObject resource pair.2 := by
  induction pairs generalizing first exchanges with
  | nil =>
      obtain ⟨rfl, rfl⟩ := runs_patchAll_nil.mp run
      exact ⟨rfl, rfl⟩
  | cons pair rest ih =>
      obtain ⟨workload, copy⟩ := pair
      rw [List.forall_mem_cons] at alike
      by_cases same : workload = copy
      · subst same
        rw [patchAll] at run
        obtain ⟨ended, calls⟩ := ih (by simpa [sameIdentity] using run) history alike.2
        exact ⟨ended, by simpa using calls⟩
      have called := patchAll_different alike.1 known same run
      rcases runs_patchAll_cons run with ⟨breach, none, -⟩ | ⟨equal, -⟩ |
        ⟨served, answer, later, given, rfl, step⟩
      · exact absurd none called
      · exact absurd equal same
      obtain rfl : resource = served := Option.some.inj (known.symm.trans given)
      obtain ⟨answered, next, answers, rfl, following⟩ := history
      rcases step with ⟨-, after⟩ | ⟨failure, rfl, present, -⟩
      · obtain ⟨ended, calls⟩ := ih after following alike.2
        exact ⟨ended, by simp [same, calls]⟩
      -- the server answers no update with an error of its own
      · rcases answers.1 with ⟨missing, -⟩ | refused
        · simp [present] at missing
        · exact refused.elim

/-- The copies that a deletion writes are those of workloads that still have something of the
binding or whose bookkeeping is not at rest. -/
theorem updates_iff {progress : Progress} {found copies : List Object} {ending : Ending}
    {resource : Resource} {cleaned : Binding}
    (run : Runs (patchAll clock progress (found.zip copies)) exchanges ending)
    (history : Undisturbed first exchanges last)
    (there : Found binding.spec.workload binding.namespaceName first resource found)
    (known : progress.resource = some resource ∨ found = [])
    (canonical : ∀ place object, first.objects place = some object → object.Canonical)
    (projected : projectAll PodTemplate.projector .deleting cleaned found = .ok copies) :
    ending.2 = .ok () ∧ ∀ place, Updates exchanges place ↔
      ∃ object, first.Targets binding place object ∧
        (object.Carries cleaned.key ∨ ¬ object.Rests) := by
  have removed := projectAll_zip _ _ _ _ _ projected
  have changed : ∀ pair ∈ found.zip copies,
      pair.1 ≠ pair.2 ↔ pair.1.Carries cleaned.key ∨ ¬ pair.1.Rests := by
    intro pair member
    obtain ⟨chosen, made⟩ := removed pair member
    have held := ((mem_found_iff there).mp chosen).present
    rw [Ne, unproject_eq_self_iff (canonical _ _ held) made]
    tauto
  have alike : ∀ pair ∈ found.zip copies, pair.2.metadata = pair.1.metadata :=
    fun pair member => metadata_of_unproject cleaned pair.1 pair.2 (removed pair member).2
  rcases known with known | rfl
  · obtain ⟨ended, calls⟩ := undisturbed_patchAll run history known alike
    refine ⟨ended, fun place => ?_⟩
    simp only [Updates, calls, List.mem_map, List.mem_filter, decide_eq_true_eq]
    constructor
    · rintro ⟨served, copy, rfl, pair, ⟨member, different⟩, call⟩
      obtain ⟨rfl, rfl⟩ : resource = served ∧ pair.2 = copy := by simpa using call
      refine ⟨pair.1, ?_, (changed pair member).mp different⟩
      rw [Object.placeIn_of_metadata resource pair.1 pair.2 (alike pair member)]
      exact (mem_found_iff there).mp (removed pair member).1
    · rintro ⟨object, target, unclean⟩
      obtain ⟨chosen, placed⟩ := target.found there
      obtain ⟨copy, paired, -⟩ := projectAll_pair _ _ _ _ _ projected object chosen
      refine ⟨resource, copy, ?_, (object, copy), ⟨paired, (changed _ paired).mpr unclean⟩, rfl⟩
      rw [Object.placeIn_of_metadata resource object copy (alike _ paired), placed]
  -- where nothing is found, nothing is written
  · obtain ⟨rfl, rfl⟩ := runs_patchAll_nil.mp run
    refine ⟨rfl, fun place => iff_of_false (not_updates (by simp) place) ?_⟩
    rintro ⟨object, target, -⟩
    exact List.not_mem_nil (target.found there).1

/-- The stages of a deletion over workloads that can be looked up: a workload without a
template is an error before anything is written; else they go well. -/
theorem undisturbed_deletion_stages {ended : Binding} {outcome : Except Halt Unit}
    (run : Runs (runPhase clock PodTemplate.projector .deleting
      (restartConditions clock .deleting binding)) exchanges (ended, outcome))
    (history : Undisturbed first exchanges last)
    (looks : first.LooksUp binding.spec.workload)
    (canonical : ∀ place object, first.objects place = some object → object.Canonical) :
    (outcome = .ok () ∧
        (∀ place object, first.Targets binding place object → object.template? ≠ none) ∧
        ∀ place, Updates exchanges place ↔ ∃ object, first.Targets binding place object ∧
          (object.Carries binding.key ∨ ¬ object.Rests)) ∨
      ∃ place object, first.Targets binding place object ∧ object.template? = none ∧
        outcome = .error (.failure (PodTemplate.noTemplate object)) ∧
        ∀ place, ¬ Updates exchanges place := by
  obtain ⟨progress, stages, -⟩ := runs_runPhase clock _ .deleting _ ended _ exchanges run
  rw [ofPhase_deleting] at stages
  rcases runs_workloadStages clock _ .deleting _ _ _ stages with
    ⟨failure, read, -⟩ | ⟨lists, writes, resolution, recorded, rfl, read, same, after⟩
  · obtain ⟨resolution, impossible⟩ := (looksUp_iff _ _ read history).mpr looks
    simp at impossible
  have quiet := not_updates fun exchange member =>
    updatesObject_writes exchange.1 (resolveWorkloads_reads read exchange member)
  obtain ⟨middle, reading, writing⟩ := (history_append lists writes).mp history
  obtain ⟨rfl, resource, found, there, gives⟩ := read_workloads _ _ read reading
  change Found binding.spec.workload binding.namespaceName _ resource found at there
  have held : recorded.workloads = found ∧ (recorded.resource = some resource ∨ found = []) := by
    rw [same]
    exact gives.recorded clock _
  obtain ⟨change, conditions⟩ := recordWorkloads_eq clock resolution
    { binding := restartConditions clock .deleting binding }
  have key : recorded.binding.key = binding.key := by
    rw [same, conditions]
    exact key_of_metadata _ _ rfl
  rw [held.1] at after
  rcases after with ⟨failure, failed, rfl, ended⟩ | ⟨copies, projected, wrote⟩
  · obtain ⟨workload, member, fails⟩ := projectAll_failing failed
    obtain ⟨untemplated, rfl⟩ := unproject_error_iff.mp fails
    refine .inr ⟨_, workload, (mem_found_iff there).mp member, untemplated,
      (Prod.mk.inj ended).2, ?_⟩
    rw [List.append_nil]
    exact quiet
  · obtain ⟨went, updated⟩ := updates_iff wrote writing there held.2 canonical projected
    refine .inl ⟨went, fun place object target untemplated => ?_, fun place => ?_⟩
    · obtain ⟨copy, -, made⟩ :=
        projectAll_pair _ _ _ _ _ projected object (target.found there).1
      have fails : PodTemplate.unproject recorded.binding object = .error _ :=
        unproject_error_iff.mpr ⟨untemplated, rfl⟩
      cases made.symm.trans fails
    · rw [updates_append, or_iff_right (quiet place), updated place, key]

end Stages

section Passes

variable {clock : Clock} {binding : Binding} {exchanges : Talk} {first last : Cluster}
  {result : Except Halt Action}

/-- The finalizer was taken away, and the cluster has the binding without it. -/
structure Released (exchanges : Talk) (last : Cluster) : Prop where
  patched : ∃ current, (⟨.patchFinalizers current (current.metadata.finalizerList.filter
    (· ≠ bindingFinalizer)), .ok last.binding⟩ : Exchange BindingCall.Answer) ∈ exchanges
  gone : last.binding.hasFinalizer bindingFinalizer = false

/-- After stages that went well nothing keeps a deletion from letting the finalizer go. -/
theorem undisturbed_release {stored : Option BindingStatus} {ended : Binding}
    (run : Runs (settle .deleting stored ended (.ok ())) exchanges result)
    (history : Undisturbed first exchanges last) :
    result = .ok .awaitChange ∧ Released exchanges last := by
  rw [settle_unbroken (by simp)] at run
  obtain ⟨reporting, written, removing, rfl, wrote, after⟩ := (runs_bind_iff _ _ _ _).mp run
  obtain ⟨middle, reported, following⟩ := (history_append reporting removing).mp history
  obtain ⟨current, rfl⟩ : ∃ current, written = .ok current := by
    rcases runs_writeStatus wrote with ⟨-, -, rfl⟩ | ⟨-, rest, rfl, ⟨rfl, failure, rfl⟩ |
      ⟨updated, -, rfl⟩⟩
    · exact ⟨_, rfl⟩
    · obtain ⟨_, _, ⟨impossible, -⟩, -⟩ := reported
      exact impossible.elim
    · exact ⟨_, rfl⟩
  obtain ⟨removed, taken, rfl⟩ := removed_of_conclude after
  rcases taken with ⟨released, ⟨-, -, same⟩, rfl⟩ | ⟨kept, -, -⟩
  · obtain rfl : current = released := Except.ok.inj same
    cases removed with
    | error failure =>
        obtain ⟨_, _, ⟨impossible, -⟩, -⟩ := following
        exact impossible.elim
    | ok patched =>
        obtain ⟨_, _, ⟨⟨version, written⟩, rfl⟩, rfl, _, _, noted, rfl, rfl⟩ := following
        rw [show last = middle.keep patched from noted]
        refine ⟨rfl, ⟨current, List.mem_append_right _ List.mem_cons_self⟩, ?_⟩
        change patched.hasFinalizer bindingFinalizer = false
        rw [written]
        simp [Binding.hasFinalizer, Binding.withVersion, Binding.withFinalizers,
          Metadata.finalizerList]
  · exact absurd ⟨current, rfl, rfl, rfl⟩ kept

/-- A deletion whose workloads can be looked up lets the finalizer go, unless one of them has
no template; then it writes none of them and fails. -/
theorem undisturbed_deletion
    (run : Runs (reconcile clock PodTemplate.projector binding) exchanges result)
    (history : Undisturbed first exchanges last) (deleting : binding.isDeleting = true)
    (carries : binding.hasFinalizer bindingFinalizer = true)
    (looks : first.LooksUp binding.spec.workload)
    (canonical : ∀ place object, first.objects place = some object → object.Canonical) :
    ((∀ place object, first.Targets binding place object → object.template? ≠ none) ∧
        result = .ok .awaitChange ∧ Released exchanges last ∧
        ∀ place, Updates exchanges place ↔ ∃ object, first.Targets binding place object ∧
          (object.Carries binding.key ∨ ¬ object.Rests)) ∨
      ∃ place object, first.Targets binding place object ∧ object.template? = none ∧
        result = .error (.failure (PodTemplate.noTemplate object)) ∧
        (∀ place, ¬ Updates exchanges place) ∧
        ∀ current finalizers answer, (⟨.patchFinalizers current finalizers, answer⟩ :
          Exchange BindingCall.Answer) ∉ exchanges := by
  rcases reconcile_passes clock _ binding exchanges result run with
    ⟨missing, -⟩ | ⟨failure, missing, -⟩ | ⟨⟨pass⟩⟩
  · simp [carries] at missing
  · simp [carries] at missing
  obtain ⟨stages, closing, ended, outcome, rfl, ran, closed⟩ := pass.of_deleting deleting
  have stagesAbout := runPhase_about ran
  have closingAbout := settle_about closed
  obtain ⟨middle, working, finishing⟩ := (history_append stages closing).mp history
  -- the closing calls are about the binding, so the workloads are written by the stages
  have updates : ∀ place, Updates (stages ++ closing) place ↔ Updates stages place := by
    intro place
    rw [updates_append, or_iff_left]
    exact not_updates (fun exchange member =>
      updatesObject_about exchange.1 (closingAbout exchange member)) place
  rcases undisturbed_deletion_stages ran working looks canonical with
    ⟨rfl, templated, written⟩ | ⟨place, object, target, untemplated, rfl, unwritten⟩
  · obtain ⟨went, ⟨current, patched⟩, gone⟩ := undisturbed_release closed finishing
    refine .inl ⟨templated, went, ⟨⟨current, List.mem_append_right _ patched⟩, gone⟩, ?_⟩
    exact fun place => (updates place).trans (written place)
  · refine .inr ⟨place, object, target, untemplated, ?_, ?_, ?_⟩
    · rw [settle_unbroken (by simp)] at closed
      obtain ⟨reporting, written, removing, rfl, -, after⟩ := (runs_bind_iff _ _ _ _).mp closed
      exact ((runs_pure_iff _ _ _).mp after).2
    · exact fun other updated => unwritten other ((updates other).mp updated)
    · intro current finalizers answer member
      have late : (⟨.patchFinalizers current finalizers, answer⟩ :
          Exchange BindingCall.Answer) ∈ closing := by
        rcases List.mem_append.mp member with early | late
        · simpa [aboutBinding] using stagesAbout _ early
        · exact late
      have well := (released_iff closed).1 ⟨current, finalizers, answer, late⟩
      simp at well

/-- A deletion over workloads with templates that carry nothing of the binding goes well and
lets the finalizer go. It writes exactly those whose bookkeeping is not at rest. -/
theorem idle_deletion_lets_go
    (run : Runs (reconcile clock PodTemplate.projector binding) exchanges result)
    (history : Undisturbed first exchanges last) (deleting : binding.isDeleting = true)
    (carries : binding.hasFinalizer bindingFinalizer = true)
    (looks : first.LooksUp binding.spec.workload)
    (canonical : ∀ place object, first.objects place = some object → object.Canonical)
    (idle : ∀ place object, first.Targets binding place object →
      object.template? ≠ none ∧ ¬ object.Carries binding.key) :
    result = .ok .awaitChange ∧ Released exchanges last ∧
      ∀ place, Updates exchanges place ↔
        ∃ object, first.Targets binding place object ∧ ¬ object.Rests := by
  rcases undisturbed_deletion run history deleting carries looks canonical with
    ⟨-, went, released, updates⟩ | ⟨place, object, target, untemplated, -⟩
  · refine ⟨went, released, fun place => (updates place).trans ⟨?_, ?_⟩⟩
    · rintro ⟨object, target, carried | unrested⟩
      · exact absurd carried (idle place object target).2
      · exact ⟨object, target, unrested⟩
    · rintro ⟨object, target, unrested⟩
      exact ⟨object, target, .inr unrested⟩
  · exact absurd untemplated (idle place object target).1

end Passes

section Sample

def idleWorkload (body : Table Json) : Object := { metadata := { name := some "web" }, body }

/-- The cluster of a binding that is being deleted, with one workload. -/
def idleCluster (body : Table Json) : Cluster :=
  (Cluster.bare leavingBinding fun kind => some (kind.resource "deployments")).store
    (leavingBinding.spec.workload.kindOf.resource "deployments") (idleWorkload body)

variable {body : Table Json}

theorem objects_idleCluster {place : Place} {object : Object}
    (present : (idleCluster body).objects place = some object) : object = idleWorkload body := by
  rw [idleCluster, Cluster.objects_store] at present
  split at present
  · exact (Option.some.inj present).symm
  · simp [Cluster.bare] at present

theorem canonical_idleCluster (canonical : Json.Canonical (.object body)) (place : Place)
    (object : Object) (present : (idleCluster body).objects place = some object) :
    object.Canonical := by
  rw [objects_idleCluster present]
  exact canonical

theorem looksUp_idleCluster : (idleCluster body).LooksUp leavingBinding.spec.workload where
  served := rfl
  formed unnamed := absurd unnamed (by decide)

/-- A container without a name, where nothing can be projected. -/
def namelessTemplate : Table Json :=
  [("spec", .object [("containers", .array [.object []])])]

def namelessBody : Table Json := [("spec", .object [("template", .object namelessTemplate)])]

theorem not_carried_nameless : ¬ Carried "orders" namelessTemplate := by
  refine not_carried (by decide +kernel) (by decide +kernel) ?_
  intro item member container name named
  obtain rfl : item = .object [] := List.mem_singleton.mp member
  cases named

/-- A deletion over a workload on which nothing could be projected. -/
theorem nameless_workload_released :
    PodTemplate.project (mappingBinding "orders") (idleWorkload namelessBody) =
        .error (PodTemplate.malformed (idleWorkload namelessBody)) ∧
      (restingPass (.ticking 0) (idleCluster namelessBody)).2.1 = .ok .awaitChange ∧
      Released (restingPass (.ticking 0) (idleCluster namelessBody)).1
        (restingPass (.ticking 0) (idleCluster namelessBody)).2.2 ∧
      ∀ place, ¬ Updates (restingPass (.ticking 0) (idleCluster namelessBody)).1 place := by
  have found : (idleWorkload namelessBody).template? = some namelessTemplate := by
    decide +kernel
  have canonical : Json.Canonical (.object namelessBody) := by
    simp [namelessBody, namelessTemplate, Json.Canonical, Json.CanonicalFields,
      Json.CanonicalItems, Table.Ordered]
  obtain ⟨went, released, updates⟩ := idle_deletion_lets_go
    (runs_restingPass (.ticking 0) (idleCluster namelessBody))
    (undisturbed_restingPass (.ticking 0) (idleCluster namelessBody) (by decide +kernel))
    (by decide +kernel) (by decide +kernel) looksUp_idleCluster (canonical_idleCluster canonical)
    (by
      intro place object target
      rw [objects_idleCluster target.present, carries_iff found]
      exact ⟨by simp [found], not_carried_nameless⟩)
  refine ⟨by decide +kernel, went, released, fun place updated => ?_⟩
  obtain ⟨object, target, unrested⟩ := (updates place).mp updated
  rw [objects_idleCluster target.present] at unrested
  exact unrested ⟨namelessTemplate, found, atRest_of_unrecorded (by decide +kernel)⟩

/-- Deletions over workloads of some shape, without anything of the binding, write none of
them and let the finalizer go. -/
def Unhindered (shape : Object → Prop) : Prop :=
  ∀ (clock : Clock) (binding : Binding) (exchanges : Talk) (result : Except Halt Action)
    (first last : Cluster), Runs (reconcile clock PodTemplate.projector binding) exchanges result →
    Undisturbed first exchanges last → binding.isDeleting = true →
    binding.hasFinalizer bindingFinalizer = true → first.LooksUp binding.spec.workload →
    (∀ place object, first.objects place = some object → object.Canonical) →
    (∀ place object, first.Targets binding place object →
      shape object ∧ ¬ object.Carries binding.key) →
    result = .ok .awaitChange ∧ last.binding.hasFinalizer bindingFinalizer = false ∧
      ∀ place, ¬ Updates exchanges place

theorem Unhindered.idleCluster {shape : Object → Prop} (unhindered : Unhindered shape)
    (body : Table Json) (canonical : Json.Canonical (.object body))
    (shaped : shape (idleWorkload body))
    (clean : ¬ (idleWorkload body).Carries "orders")
    (named : ∀ exchange ∈ (restingPass (.ticking 0) (idleCluster body)).1,
      isList exchange.1 = false) :
    (restingPass (.ticking 0) (idleCluster body)).2.1 = .ok .awaitChange ∧
      (restingPass (.ticking 0) (idleCluster body)).1.any (fun exchange =>
        updatesObject exchange.1) = false := by
  obtain ⟨went, -, quiet⟩ := unhindered (.ticking 0) leavingBinding _ _ _ _
    (runs_restingPass (.ticking 0) (BindingOperator.idleCluster body))
    (undisturbed_restingPass (.ticking 0) (BindingOperator.idleCluster body) named)
    (by decide +kernel) (by decide +kernel) looksUp_idleCluster (canonical_idleCluster canonical)
    (by
      intro place object target
      rw [objects_idleCluster target.present]
      exact ⟨shaped, clean⟩)
  refine ⟨went, ?_⟩
  rw [List.any_eq_false]
  rintro ⟨call, answer⟩ member
  cases call with
  | updateObject resource copy =>
      exact absurd ⟨resource, copy, rfl, List.mem_map_of_mem member⟩ (quiet _)
  | _ => simp [updatesObject]

/-- Bookkeeping that no binding has a use for. -/
def idleTemplate : Table Json :=
  [("metadata", .object [("annotations", .object [( ledgerAnnotation, .string "")])])]

def recordedBody : Table Json := [("spec", .object [("template", .object idleTemplate)])]

theorem not_carried_recorded : ¬ Carried "orders" idleTemplate := by
  refine not_carried (by decide +kernel) (by decide +kernel) ?_
  intro item member
  exact absurd member List.not_mem_nil

/-- A workload without a template keeps the finalizer in place. Among workloads with one, a
record that no binding needs is written away. -/
theorem shape_hinders_deletion :
    ¬ Unhindered (fun _ => True) ∧ ¬ Unhindered fun object => object.template? ≠ none := by
  constructor
  · intro unhindered
    have absent : (idleWorkload []).template? = none := by decide +kernel
    have outcome := unhindered.idleCluster [] (by simp [Json.Canonical, Json.CanonicalFields,
      Table.Ordered]) trivial (by simp [Object.Carries, absent]) (by decide +kernel)
    exact absurd outcome (by decide +kernel)
  · intro unhindered
    have found : (idleWorkload recordedBody).template? = some idleTemplate := by decide +kernel
    have outcome := unhindered.idleCluster recordedBody (by simp [recordedBody, idleTemplate,
      Json.Canonical, Json.CanonicalFields, Table.Ordered]) (by simp [found])
      (by rw [carries_iff found]; exact not_carried_recorded) (by decide +kernel)
    exact absurd outcome (by decide +kernel)

end Sample

end BindingOperator
