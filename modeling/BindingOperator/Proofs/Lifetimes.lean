import BindingOperator.Proofs.Idempotence
import BindingOperator.Proofs.Touches

/-!
The life of a binding: passes over it, and edits of the binding and of labels between them.
No pass remembers what an earlier one projected; each looks its workloads up by the reference
as it reads then. So when the finalizer goes, the workloads that are selected at that moment
are clear of the binding, and what is left of it is on workloads that an earlier pass selected
and the last one does not.
-/

namespace BindingOperator

open Dialogue

section Carrying

/-- Something of a binding is in a template: an annotation, the volume, a mount of it, or a
variable that is recorded as the binding's. -/
inductive Carried (key : String) (template : Table Json) : Prop where
  | mark (field : String) (known : field ∈ markFields)
      (present : Table.lookup (annotationName field key) (annotationsIn template) ≠ none)
  | volume (present : some (volumeName key) ∈
      entryNames (itemsOf "volumes" (fieldsOf "spec" template)))
  | mount (item : Json) (container : Table Json) (name : String)
      (member : item ∈ containersOf (fieldsOf "spec" template))
      (named : namedContainer? item = some (container, name))
      (present : some (volumeName key) ∈ entryNames (itemsOf "volumeMounts" container))
  | owned (item : Json) (container : Table Json) (name listed : String)
      (member : item ∈ containersOf (fieldsOf "spec" template))
      (named : namedContainer? item = some (container, name))
      (recorded : listed ∈ namesIn (ownedEnvOf key (annotationsIn template)) name)
      (present : some listed ∈ entryNames (itemsOf "env" container))

def Object.Carries (workload : Object) (key : String) : Prop :=
  ∃ template, workload.template? = some template ∧ Carried key template

variable {key : String}

theorem not_carried {template : Table Json}
    (marks : ∀ field ∈ markFields,
      Table.lookup (annotationName field key) (annotationsIn template) = none)
    (volumes : some (volumeName key) ∉ entryNames (itemsOf "volumes" (fieldsOf "spec" template)))
    (mounts : ∀ item ∈ containersOf (fieldsOf "spec" template),
      UnmountedItem (volumeName key) item) :
    ¬ Carried key template := by
  intro carried
  cases carried with
  | mark field known present => exact present (marks field known)
  | volume present => exact volumes present
  | mount item container name member named present =>
      exact mounts item member container name named present
  | owned item container name listed member named recorded present =>
      -- what a binding owns is recorded in an annotation of its own
      rw [ownedEnvOf, marks "env" (by simp), readRecord_none] at recorded
      simp [namesIn] at recorded

theorem carries_of_body {workload other : Object} (same : other.body = workload.body) :
    other.Carries key ↔ workload.Carries key := by
  obtain ⟨tag, metadata, body⟩ := other
  subst same
  rfl

theorem not_carries_fresh {workload : Object} (fresh : workload.Fresh) :
    ¬ workload.Carries key := by
  rintro ⟨template, found, carried⟩
  have untouched := fresh template found
  refine not_carried (fun field _ => untouched.annotations _ (isMark_annotationName field key))
    (untouched.spec.volumes _ (isVolumeName_volumeName key)) ?_ carried
  intro item member container name named
  exact untouched.spec.mounts item member container name named _ (isVolumeName_volumeName key)

theorem not_carries_cleared {before after : Object} (cleared : Cleared key before after) :
    ¬ after.Carries key := by
  rintro ⟨template, found, carried⟩
  obtain ⟨old, left, -, there, clear⟩ := cleared
  rw [found, Option.some.injEq] at there
  subst there
  refine not_carried ?_ clear.volumes ?_ carried
  · intro field known
    apply clear.annotations
    simp only [mem_markFields] at known ⊢
    grind
  · intro item member container name named
    exact (clear.containers item member container name named).1

end Carrying

section Lives

/-- Edits between passes leave the objects and their bodies; metadata may change, and so may
the binding. -/
def Cluster.Relabeled (before after : Cluster) : Prop :=
  ∀ place, (after.objects place).map Object.body = (before.objects place).map Object.body

/-- A place where the reference of the binding finds an object. -/
structure Cluster.Selected (cluster : Cluster) (place : Place) : Prop where
  served : cluster.serves cluster.binding.spec.workload.kindOf = some place.resource
  inside : place.namespaceName = cluster.binding.namespaceName
  chosen : ∃ object, cluster.objects place = some object ∧
    cluster.binding.spec.workload.Selects object

/-- Passes over the binding with a key, none of them disturbed, with the clusters that they
began with. -/
inductive Life (key : String) : Cluster → List Cluster → Cluster → Prop where
  | born (cluster : Cluster) : Life key cluster [] cluster
  | pass {first middle begun last : Cluster} {earlier : List Cluster} {clock : Clock}
      {exchanges : Talk} {result : Except Halt Action} (life : Life key first earlier middle)
      (edited : middle.Relabeled begun) (own : begun.binding.key = key)
      (run : Runs (reconcile clock PodTemplate.projector begun.binding) exchanges result)
      (history : Undisturbed begun exchanges last) :
      Life key first (earlier ++ [begun]) last

variable {key : String} {first last begun : Cluster} {passes : List Cluster} {place : Place}
  {object : Object}

theorem Cluster.Relabeled.refl (cluster : Cluster) : cluster.Relabeled cluster :=
  fun _ => rfl

theorem Cluster.Relabeled.source {before after : Cluster} (edited : before.Relabeled after)
    (present : after.objects place = some object) :
    ∃ old, before.objects place = some old ∧ old.body = object.body := by
  have same := edited place
  rw [present, Option.map_some, eq_comm, Option.map_eq_some_iff] at same
  exact same

theorem Touched.selected_place {before after : Object}
    (touched : Touched begun begun.binding place before after) : begun.Selected place :=
  ⟨touched.served, touched.inside, before, touched.present, touched.selected⟩

theorem Stepped.canonical {before after : Object} (stepped : Stepped key before after)
    (canonical : before.Canonical) : after.Canonical := by
  obtain ⟨step, copy, version, -, ran, rfl⟩ := stepped
  have keeps : before.Keeps fun template => Json.Canonical (.object template) :=
    ⟨canonical, fun path template located => canonical_template located canonical⟩
  exact (keeps.run lasting_canonical step copy ran).canonical

/-- A step changes neither the name nor the labels, so what is selected stays selected. -/
theorem Stepped.selects {before after : Object} (stepped : Stepped key before after)
    (reference : WorkloadReference) : reference.Selects after ↔ reference.Selects before := by
  obtain ⟨step, copy, version, -, ran, rfl⟩ := stepped
  have metadata := step.metadata_run before copy ran
  have name : copy.nameAny = before.nameAny := congrArg Metadata.nameAny metadata
  have labels : copy.labels = before.labels := congrArg Metadata.labelTable metadata
  show reference.Selects copy ↔ _
  unfold WorkloadReference.Selects
  rw [name, labels]

theorem life_canonical (life : Life key first passes last)
    (canonical : ∀ place object, first.objects place = some object → object.Canonical) :
    ∀ place object, last.objects place = some object → object.Canonical := by
  induction life with
  | born => exact canonical
  | @pass middle begun last earlier clock exchanges result life edited own run history ih =>
      have started : ∀ place object, begun.objects place = some object → object.Canonical := by
        intro place object present
        obtain ⟨old, before, same⟩ := edited.source present
        rw [Object.Canonical, ← same]
        exact ih place old before
      intro place object present
      rcases pass_touches run history present with old | ⟨before, touched⟩
      · exact started place object old
      · exact touched.stepped.canonical (started place before touched.present)

/-- An object that no pass selected has the body that it began with. -/
theorem life_untouched (life : Life key first passes last)
    (present : last.objects place = some object) :
    (∃ original, first.objects place = some original ∧ original.body = object.body) ∨
      ∃ begun ∈ passes, begun.Selected place := by
  induction life generalizing object with
  | born => exact .inl ⟨object, present, rfl⟩
  | @pass middle begun last earlier clock exchanges result life edited own run history ih =>
      rcases pass_touches run history present with old | ⟨before, touched⟩
      · obtain ⟨edits, there, same⟩ := edited.source old
        rcases ih there with ⟨original, born, body⟩ | ⟨other, member, selected⟩
        · exact .inl ⟨original, born, body.trans same⟩
        · exact .inr ⟨other, List.mem_append_left _ member, selected⟩
      · exact .inr ⟨begun, List.mem_append_right _ (List.mem_singleton_self _),
          touched.selected_place⟩

end Lives

section Releasing

variable {clock : Clock} {exchanges : Talk} {result : Except Halt Action} {begun last : Cluster}
  {place : Place} {object : Object}

/-- A deleting pass that lets the finalizer go clears whatever is selected when it begins. -/
theorem release_clears_selected
    (run : Runs (reconcile clock PodTemplate.projector begun.binding) exchanges result)
    (history : Undisturbed begun exchanges last) (deleting : begun.binding.isDeleting = true)
    (released : ∃ current finalizers answer,
      (⟨.patchFinalizers current finalizers, answer⟩ : Exchange BindingCall.Answer) ∈ exchanges)
    (canonical : ∀ place object, begun.objects place = some object → object.Canonical)
    (present : last.objects place = some object) (selected : begun.Selected place) :
    ∃ before, begun.objects place = some before ∧ Cleared begun.binding.key before object := by
  have touches := pass_touches run history present
  rcases reconcile_passes clock _ _ exchanges result run with
    ⟨-, -, rfl, -⟩ | ⟨failure, -, live, -⟩ | ⟨⟨pass⟩⟩
  · simp at released
  · simp [deleting] at live
  obtain ⟨stages, closing, ended, outcome, rfl, ran, closed⟩ := pass.of_deleting deleting
  have stagesAbout := runPhase_about ran
  have closingAbout := settle_about closed
  obtain ⟨middle, working, finishing⟩ := (history_append stages closing).mp history
  have quiet := undisturbed_objects finishing fun exchange member =>
    updatesObject_about exchange.1 (closingAbout exchange member)
  -- only the closing calls are about finalizers, and they ask only after stages that went well
  obtain rfl : outcome = .ok () := by
    obtain ⟨current, finalizers, answer, member⟩ := released
    refine (released_iff closed).1 ⟨current, finalizers, answer, ?_⟩
    rcases List.mem_append.mp member with early | late
    · simpa [aboutBinding] using stagesAbout _ early
    · exact late
  obtain ⟨served, inside, old, held, chosen⟩ := selected
  have stays : begun.binding.spec.workload.Selects object := by
    rcases touches with same | ⟨before, touched⟩
    · rw [held, Option.some.injEq] at same
      exact same ▸ chosen
    · exact (touched.stepped.selects _).mpr touched.selected
  have located : place = ⟨place.resource, begun.binding.namespaceName, place.name⟩ := by
    rw [← inside]
  rw [quiet.1, located] at present
  rw [located]
  exact cleared_stages ran working truthful_undisturbed
    (fun before after same => same ▸ .refl before) canonical (undisturbed_unrefused working)
    place.resource (undisturbed_serves working ▸ served) place.name object present stays

/-- At the end of its life a binding is left only on workloads that an earlier pass selected
and that the deleting pass does not select any more. -/
theorem release_leaves_only_deselected {key : String} {first middle : Cluster}
    {passes : List Cluster} (life : Life key first passes middle)
    (edited : middle.Relabeled begun) (own : begun.binding.key = key)
    (deleting : begun.binding.isDeleting = true)
    (run : Runs (reconcile clock PodTemplate.projector begun.binding) exchanges result)
    (history : Undisturbed begun exchanges last)
    (released : ∃ current finalizers answer,
      (⟨.patchFinalizers current finalizers, answer⟩ : Exchange BindingCall.Answer) ∈ exchanges)
    (canonical : ∀ place object, first.objects place = some object → object.Canonical)
    (clean : ∀ place object, first.objects place = some object → ¬ object.Carries key) :
    ∀ place object, last.objects place = some object →
      (begun.Selected place →
        ∃ before, begun.objects place = some before ∧ Cleared key before object) ∧
      (object.Carries key →
        ¬ begun.Selected place ∧ ∃ earlier ∈ passes, earlier.Selected place) := by
  intro place object present
  have started : ∀ place object, begun.objects place = some object → object.Canonical := by
    intro place object there
    obtain ⟨old, before, same⟩ := edited.source there
    rw [Object.Canonical, ← same]
    exact life_canonical life canonical place old before
  have clears : begun.Selected place →
      ∃ before, begun.objects place = some before ∧ Cleared key before object := by
    rw [← own]
    exact release_clears_selected run history deleting released started present
  refine ⟨clears, fun carries => ?_⟩
  have deselected : ¬ begun.Selected place := by
    intro selected
    obtain ⟨before, -, cleared⟩ := clears selected
    exact not_carries_cleared cleared carries
  refine ⟨deselected, ?_⟩
  -- the deleting pass did not touch the object, so an earlier one did, or nobody
  rcases pass_touches run history present with old | ⟨before, touched⟩
  · obtain ⟨edits, there, same⟩ := edited.source old
    rcases life_untouched life there with ⟨original, born, body⟩ | earlier
    · exact absurd ((carries_of_body (body.trans same)).mpr carries) (clean place original born)
    · exact earlier
  · exact absurd touched.selected_place deselected

end Releasing

section Sample

def webPlace : Place := ⟨restingBinding.spec.workload.kindOf.resource "deployments", "", "web"⟩

def secondWorkload : Object := { rootedWorkload with metadata := { name := some "shop" } }

/-- A cluster with two workloads, of which the binding's reference names `web`. -/
def twoWorkloads : Cluster :=
  restingCluster.store (restingBinding.spec.workload.kindOf.resource "deployments") secondWorkload

/-- The cluster after a live pass that projected the binding into `web`. -/
def projectedCluster : Cluster := (restingPass (.ticking 0) twoWorkloads).2.2

/-- The binding is deleted, and its reference reads as given. -/
def deletedCluster (reference : WorkloadReference) : Cluster :=
  projectedCluster.keep { projectedCluster.binding with
    metadata := { projectedCluster.binding.metadata with deletionTimestamp := some ⟨30, 0⟩ }
    spec := { projectedCluster.binding.spec with workload := reference } }

def renamedReference : WorkloadReference :=
  { restingBinding.spec.workload with name := some "shop" }

theorem objects_deletedCluster (reference : WorkloadReference) :
    (deletedCluster reference).objects = projectedCluster.objects := by
  rfl

theorem relabeled_deletedCluster (reference : WorkloadReference) :
    projectedCluster.Relabeled (deletedCluster reference) := by
  intro place
  rw [objects_deletedCluster]

theorem life_projectedCluster : Life "orders" twoWorkloads [twoWorkloads] projectedCluster :=
  .pass (.born twoWorkloads) (.refl twoWorkloads) (by decide +kernel)
    (runs_restingPass (.ticking 0) twoWorkloads)
    (undisturbed_restingPass (.ticking 0) twoWorkloads (by decide +kernel))

theorem body_twoWorkloads {place : Place} {object : Object}
    (present : twoWorkloads.objects place = some object) : object.body = rootedWorkload.body := by
  rw [twoWorkloads, Cluster.objects_store, restingCluster, Cluster.objects_store] at present
  split at present
  · rw [← Option.some.inj present]
    rfl
  · split at present
    · rw [← Option.some.inj present]
    · simp [Cluster.bare] at present

theorem canonical_twoWorkloads (place : Place) (object : Object)
    (present : twoWorkloads.objects place = some object) : object.Canonical := by
  rw [Object.Canonical, body_twoWorkloads present]
  exact canonical_rootedWorkload

theorem clean_twoWorkloads (place : Place) (object : Object)
    (present : twoWorkloads.objects place = some object) : ¬ object.Carries "orders" := by
  rw [carries_of_body (body_twoWorkloads present)]
  exact not_carries_fresh fresh_rootedWorkload

theorem carries_of_secret {object : Object} {key : String}
    (recorded : ((object.template?.map annotationsIn).bind
      (Table.lookup (annotationName "secret" key))).isSome = true) : object.Carries key := by
  cases found : object.template? with
  | none => simp [found] at recorded
  | some template =>
      refine ⟨template, found, .mark "secret" (by simp) ?_⟩
      rw [found, Option.map_some, Option.bind_some] at recorded
      exact Option.isSome_iff_ne_none.mp recorded

theorem orphan_carries :
    ∃ object, (restingPass (.ticking 60) (deletedCluster renamedReference)).2.2.objects webPlace =
      some object ∧ object.Carries "orders" := by
  have kept : (((restingPass (.ticking 60)
      (deletedCluster renamedReference)).2.2.objects webPlace).any fun object =>
      ((object.template?.map annotationsIn).bind
        (Table.lookup (annotationName "secret" "orders"))).isSome) = true := by decide +kernel
  obtain ⟨object, present, recorded⟩ := (Option.any_eq_true _ _).mp kept
  exact ⟨object, present, carries_of_secret recorded⟩

/-- A binding is projected into `web`, its reference is renamed, and it is deleted: the
finalizer goes, and `web` still carries the binding. -/
theorem renamed_reference_leaves_orphan :
    ¬ ∀ (key : String) (first middle begun last : Cluster) (passes : List Cluster) (clock : Clock)
      (exchanges : Talk) (result : Except Halt Action), Life key first passes middle →
      middle.Relabeled begun → begun.binding.key = key → begun.binding.isDeleting = true →
      Runs (reconcile clock PodTemplate.projector begun.binding) exchanges result →
      Undisturbed begun exchanges last →
      (∃ current finalizers answer,
        (⟨.patchFinalizers current finalizers, answer⟩ : Exchange BindingCall.Answer) ∈ exchanges) →
      (∀ place object, first.objects place = some object → object.Canonical) →
      (∀ place object, first.objects place = some object → ¬ object.Carries key) →
      ∀ place object, last.objects place = some object →
        place.namespaceName = begun.binding.namespaceName → ¬ object.Carries key := by
  intro claim
  obtain ⟨object, present, carries⟩ := orphan_carries
  exact claim "orders" twoWorkloads projectedCluster (deletedCluster renamedReference) _
    [twoWorkloads] (.ticking 60) _ _ life_projectedCluster (relabeled_deletedCluster _)
    (by decide +kernel) (by decide +kernel) (runs_restingPass _ _)
    (undisturbed_restingPass _ (deletedCluster renamedReference) (by decide +kernel))
    (patched_of_calls (by decide +kernel)) canonical_twoWorkloads clean_twoWorkloads webPlace
    object present (by decide +kernel) carries

/-- With the renamed reference the orphan is one that the live pass selected and the deleting
pass does not; with the reference as it was, the workload is cleared. -/
theorem renamed_reference_forgets :
    (¬ (deletedCluster renamedReference).Selected webPlace ∧
      ∃ earlier ∈ [twoWorkloads], earlier.Selected webPlace) ∧
    ∃ before after, projectedCluster.objects webPlace = some before ∧
      (restingPass (.ticking 60) (deletedCluster restingBinding.spec.workload)).2.2.objects
        webPlace = some after ∧
      Cleared "orders" before after := by
  have leaves (reference : WorkloadReference)
      (own : (deletedCluster reference).binding.key = "orders")
      (deleting : (deletedCluster reference).binding.isDeleting = true)
      (named : ∀ exchange ∈ (restingPass (.ticking 60) (deletedCluster reference)).1,
        isList exchange.1 = false)
      (released : ((restingPass (.ticking 60) (deletedCluster reference)).1.any fun exchange =>
        writesFinalizers exchange.1) = true) :=
    release_leaves_only_deselected life_projectedCluster (relabeled_deletedCluster reference) own
      deleting
      (runs_restingPass (.ticking 60) (deletedCluster reference))
      (undisturbed_restingPass _ (deletedCluster reference) named) (patched_of_calls released)
      canonical_twoWorkloads clean_twoWorkloads webPlace
  constructor
  · obtain ⟨object, present, carries⟩ := orphan_carries
    have orphaned := leaves renamedReference (by decide +kernel) (by decide +kernel)
      (by decide +kernel) (by decide +kernel) object present
    exact orphaned.2 carries
  · have kept : ((restingPass (.ticking 60)
        (deletedCluster restingBinding.spec.workload)).2.2.objects webPlace).isSome = true := by
      decide +kernel
    obtain ⟨after, present⟩ := Option.isSome_iff_exists.mp kept
    have held : (projectedCluster.objects webPlace).isSome = true := by decide +kernel
    obtain ⟨old, there⟩ := Option.isSome_iff_exists.mp held
    have selected : (deletedCluster restingBinding.spec.workload).Selected webPlace := by
      refine ⟨by decide +kernel, by decide +kernel, old, ?_, ?_⟩
      · rw [objects_deletedCluster, there]
      · exact (selects_named rfl old).mpr
          (congrArg Place.name (projectedCluster.placed _ _ there))
    have cleared := leaves restingBinding.spec.workload (by decide +kernel) (by decide +kernel)
      (by decide +kernel) (by decide +kernel) after present
    obtain ⟨before, begun, clean⟩ := cleared.1 selected
    exact ⟨before, after, begun, present, clean⟩

end Sample

end BindingOperator
