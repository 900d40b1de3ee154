import BindingOperator.Proofs.Accounts

/-!
The root variable that a projection gives a container, and what a removal makes of it. A
container counts as bound for as long as a mount of it is named like the volume of a binding,
whoever mounted it. Where a workload mounts a volume of its own by such a name, the root that
was given to the container stays there when the binding goes, and nothing records it any more.
-/

namespace BindingOperator

/-- The entries of a container that set the root. -/
def rootEntries (fields : Table Json) : List Json :=
  entriesNamed (· = rootVariable) (itemsOf "env" fields)

/-- A container mounts a volume that is named like that of some other binding. -/
def MountsOther (key : String) (fields : Table Json) : Prop :=
  ∃ name, isVolumeName name = true ∧ name ≠ volumeName key ∧
    some name ∈ entryNames (itemsOf "volumeMounts" fields)

/-- What a binding that came and went leaves of the root of a container. -/
structure RootsLeft (key : String) (before after : Table Json) : Prop where
  kept : rootEntries before ≠ [] ∨ ¬ MountsOther key before →
    rootEntries after = rootEntries before
  /-- A root that was not there is given and stays. -/
  stranded : rootEntries before = [] → MountsOther key before → rootEntries after = [rootEntry]

section Entries

theorem named_root_iff (entry : Json) :
    (entryName entry).any (· = rootVariable) = true ↔ entryName entry = some rootVariable := by
  cases entryName entry <;> simp

theorem entriesNamed_root_nil (env : List Json) :
    entriesNamed (· = rootVariable) env = [] ↔ rootOf? env = none := by
  rw [rootOf_eq_none, entriesNamed, List.filter_eq_nil_iff]
  simp only [named_root_iff, entryNames, List.mem_map, not_exists, not_and]

theorem entriesNamed_root_rooted (env : List Json) :
    entriesNamed (· = rootVariable) (rooted env) =
      if entriesNamed (· = rootVariable) env = [] then [rootEntry]
      else entriesNamed (· = rootVariable) env := by
  split
  · next none =>
    have missing : rooted env = env ++ [rootEntry] := by
      simp [rooted, (entriesNamed_root_nil env).mp none]
    have given : entriesNamed (· = rootVariable) [rootEntry] = [rootEntry] := by
      simp [entriesNamed]
    rw [missing, entriesNamed, List.filter_append, ← entriesNamed, ← entriesNamed, none, given,
      List.nil_append]
  · next some =>
    rw [rooted_present]
    by_contra absent
    exact some ((entriesNamed_root_nil env).mpr ((rootOf_eq_none env).mpr absent))

/-- A binding that owned nothing gives a container a root where it has none, and no other. -/
theorem rootEntries_projected (imprint : Imprint) (fields : Table Json) :
    rootEntries (projectedFields imprint [] fields) =
      if rootEntries fields = [] then [rootEntry] else rootEntries fields := by
  have untouched := dropStale_untouched imprint [] (rooted (itemsOf "env" fields)) (by simp)
  rw [rootEntries, itemsOf_env_projected, projectEnv, untouched, ← projectVariables,
    entriesNamed_projectVariables]
  · exact entriesNamed_root_rooted _
  · intro name root
    obtain rfl : name = rootVariable := by simpa using root
    exact ⟨List.not_mem_nil, mem_entryNames_rooted _⟩

theorem entriesNamed_root_stays (owned : NameSet) (leaves : Bool) (env : List Json)
    (unowned : rootVariable ∉ owned) :
    entriesNamed (· = rootVariable) (env.filter (staysEntry owned leaves)) =
      if leaves = true then [] else entriesNamed (· = rootVariable) env := by
  split
  · next gone =>
    rw [entriesNamed, List.filter_filter, List.filter_eq_nil_iff]
    intro entry _ both
    obtain ⟨root, stays⟩ := Bool.and_eq_true_iff.mp both
    rw [staysEntry_iff, (named_root_iff entry).mp root] at stays
    exact stays.2 ⟨gone, rfl⟩
  · next left =>
    apply entriesNamed_filter
    intro entry _ name named root
    obtain rfl : name = rootVariable := by simpa using root
    rw [staysEntry_iff, named]
    exact ⟨unowned, fun both => left both.1⟩

end Entries

section Containers

variable (imprint : Imprint)

theorem isBound_left (previous : NameSet) (fields : Table Json) :
    isBound (unmounted (volumeName imprint.key) (projectedFields imprint previous fields)) = true ↔
      MountsOther imprint.key fields := by
  have left : itemsOf "volumeMounts" (unmounted (volumeName imprint.key)
      (projectedFields imprint previous fields)) =
        (putNamed (imprint.mountEntry (rootPath (itemsOf "env" fields)))
          (itemsOf "volumeMounts" fields)).filter
            fun mount => entryName mount ≠ some (volumeName imprint.key) := by
    rw [unmounted, itemsOf_mapListField_same _ _ _ rfl, itemsOf_mounts_projected]
  have remaining : ∀ name, some name ∈ entryNames (itemsOf "volumeMounts"
      (unmounted (volumeName imprint.key) (projectedFields imprint previous fields))) ↔
        name ≠ volumeName imprint.key ∧ some name ∈ entryNames (itemsOf "volumeMounts" fields) := by
    intro name
    rw [left, mem_entryNames_without, mem_entryNames_putNamed, entryName_mountEntry]
    simp only [ne_eq, Option.some.injEq]
    tauto
  simp only [isBound_iff, remaining, MountsOther]

/-- The root goes with the binding where it was given and nothing else looks mounted. -/
theorem rootsLeft_container (name : String) (fields : Table Json) (ledger : Ledger)
    (canonical : Json.Canonical (.object fields)) (ascending : ledger.Ascending)
    (noted : name ∈ ledger.roots ↔ rootEntries fields = []) :
    RootsLeft imprint.key fields (unprojectContainer (volumeName imprint.key) name
      (projectedNames imprint [] fields) (projectedFields imprint [] fields) ledger).1 := by
  have ordered := Json.canonical_ordered _ (canonical_projectedFields imprint [] fields canonical)
  have unowned := root_unowned imprint [] fields List.not_mem_nil
  have leaves : leavesRoot (volumeName imprint.key) name (projectedFields imprint [] fields)
      ledger = true ↔ ¬ MountsOther imprint.key fields ∧ rootEntries fields = [] := by
    rw [leavesRoot, Bool.and_eq_true_iff, Bool.not_eq_true', ← Bool.not_eq_true, isBound_left,
      List.contains_iff_mem, noted]
  have after : rootEntries (unprojectContainer (volumeName imprint.key) name
      (projectedNames imprint [] fields) (projectedFields imprint [] fields) ledger).1 =
        if leavesRoot (volumeName imprint.key) name (projectedFields imprint [] fields) ledger =
        true then [] else if rootEntries fields = [] then [rootEntry] else rootEntries fields := by
    rw [rootEntries, itemsOf_env_unproject _ _ _ _ _ ordered ascending,
      entriesNamed_root_stays _ _ _ unowned, ← rootEntries, rootEntries_projected]
  constructor
  · intro free
    by_cases none : rootEntries fields = []
    · rw [after, if_pos (leaves.mpr ⟨free.resolve_left (not_not_intro none), none⟩), none]
    · rw [after, if_neg fun gone => none (leaves.mp gone).2, if_neg none]
  · intro none other
    rw [after, if_neg fun gone => (leaves.mp gone).1 other, if_pos none]

end Containers

section Lists

variable (volume : String) (owned : OwnedEnv)

/-- Containers of distinct names are cleared one by one, and each of them finds its own name
among the roots exactly where the ledger had it at first. -/
theorem cleared_each (original : Ledger) (items : List Json) (ledger : Ledger)
    (distinct : (containerNames items).Nodup) (ascending : ledger.Ascending)
    (same : ∀ name ∈ containerNames items, name ∈ ledger.roots ↔ name ∈ original.roots) :
    List.Forall₂ (fun item cleared => ∃ middle : Ledger, middle.Ascending ∧
        cleared = clearedItem volume owned middle item ∧
        ∀ container name, namedContainer? item = some (container, name) →
          (name ∈ middle.roots ↔ name ∈ original.roots))
      items (unprojectContainers volume owned items ledger).1 := by
  induction items generalizing ledger with
  | nil => exact .nil
  | cons item rest ih =>
      rw [unprojectContainers_cons]
      refine .cons ⟨ledger, ascending, rfl, fun container name named => ?_⟩ ?_
      · exact same name
          ((mem_containerNames _ name).mpr ⟨item, List.mem_cons_self, container, named⟩)
      · apply ih _ (containerNames_nodup_rest item rest distinct)
          (ascending_leftLedger volume owned item ledger ascending)
        intro other later
        -- clearing a container takes at most its own name out of the roots
        cases named : namedContainer? item with
        | none =>
            rw [leftLedger, named]
            exact same other (by simpa [containerNames, named] using later)
        | some pair =>
            obtain ⟨container, name⟩ := pair
            rw [containerNames_cons item rest container name named] at same distinct
            have apart : other ≠ name := fun equal =>
              (List.nodup_cons.mp distinct).1 (equal ▸ later)
            rw [leftLedger, named, mem_roots_unprojectContainer _ _ _ _ _ _ ascending,
              same other (List.mem_cons_of_mem _ later)]
            exact and_iff_left fun both => apart both.1

end Lists

section Templates

/-- A template that no binding has recorded anything in, with containers of distinct names. Its
volumes and mounts may have any name. -/
structure Unrecorded (template : Table Json) : Prop where
  annotations : ∀ name, isMark name = true → Table.lookup name (annotationsIn template) = none
  distinct : (containerNames (containersOf (fieldsOf "spec" template))).Nodup

namespace Unrecorded

variable {template : Table Json} (unrecorded : Unrecorded template)
include unrecorded

theorem owned (key : String) : ownedEnvOf key (annotationsIn template) = [] := by
  rw [ownedEnvOf, unrecorded.annotations _ (isMark_annotationName "env" key)]
  exact readRecord_none _ _

theorem ledger : ledgerOf (annotationsIn template) = {} := by
  rw [ledgerOf, unrecorded.annotations _ isMark_ledger]
  exact readRecord_none _ _

theorem tidy (canonical : Json.Canonical (.object template)) : TidyTemplate template where
  canonical
  distinct := unrecorded.distinct
  unowned key name := by
    rw [unrecorded.owned key]
    exact List.not_mem_nil

/-- The roots that a projection notes are those of the containers that had none. -/
theorem mem_roots_noted {item : Json} {container : Table Json} {name : String}
    (member : item ∈ containersOf (fieldsOf "spec" template))
    (named : namedContainer? item = some (container, name)) :
    name ∈ (notedTemplate template).roots ↔ rootEntries container = [] := by
  have before : (trackField (fieldsOf "spec" template) "volumes" "volumes"
      (trackField (fieldsOf "metadata" template) "annotations" "annotations"
        (trackField template "metadata" "metadata" (ledgerOf (annotationsIn template))))).roots =
          [] := by
    rw [roots_trackField, roots_trackField, roots_trackField, unrecorded.ledger]
  rw [notedTemplate, mem_roots_notedItems, before, rootEntries, entriesNamed_root_nil]
  constructor
  · rintro (none | ⟨other, present, fields, found, missing⟩)
    · exact absurd none List.not_mem_nil
    · obtain rfl := named_unique _ item other container fields name unrecorded.distinct member
        present named found
      rw [named, Option.some.injEq, Prod.mk.injEq] at found
      exact found.1 ▸ missing
  · intro missing
    exact .inr ⟨item, member, container, named, missing⟩

end Unrecorded

/-- A container by its name, before a binding came and after it went. -/
def ItemLeft (key : String) (item left : Json) : Prop :=
  ∃ before after name, namedContainer? item = some (before, name) ∧
    namedContainer? left = some (after, name) ∧ RootsLeft key before after

variable {template : Table Json} (imprint : Imprint) (canonical : Json.Canonical (.object template))
  (unrecorded : Unrecorded template)
include canonical unrecorded

theorem rootsLeft_template (shaped : Shaped template) :
    List.Forall₂ (ItemLeft imprint.key) (containersOf (fieldsOf "spec" template))
      (containersOf (fieldsOf "spec"
        (unprojectTemplate imprint.key (projectedTemplate imprint template)))) := by
  have projected := canonical_projectedTemplate imprint template canonical
  have spec := canonical_fieldsOf "spec" _ projected
  have tidy := unrecorded.tidy canonical
  rw [spec_unprojectTemplate _ _ projected, leftSpec,
    containersOf_unprojectSpec _ _ _ _ (Json.canonical_ordered _ spec),
    ledgerOf_projected imprint template canonical, spec_projected, containersOf_projectedSpec]
  have cleared := cleared_each (volumeName imprint.key)
    (ownedEnvOf imprint.key (annotationsIn (projectedTemplate imprint template)))
    (notedTemplate template) ((containersOf (fieldsOf "spec" template)).map
      (projectedItem imprint (ownedEnvOf imprint.key (annotationsIn template)))) _
    (by rw [containerNames_projected]; exact unrecorded.distinct)
    (ascending_unvolumed (volumeName imprint.key) (projectedSpec imprint
      (ownedEnvOf imprint.key (annotationsIn template)) (fieldsOf "spec" template)) _
      (ascending_notedTemplate template))
    (fun name _ => by rw [roots_unvolumed])
  rw [List.forall₂_map_left_iff] at cleared
  refine ((List.forall₂_and_left _ _).mpr ⟨fun item member => member, cleared⟩).imp ?_
  rintro item left ⟨member, middle, ascending, rfl, noted⟩
  obtain ⟨container, name, named, -⟩ := shaped.containers item member
  have given := namedContainer_projectedItem imprint
    (ownedEnvOf imprint.key (annotationsIn template)) item container name named
  have inside : Json.Canonical (.object container) := by
    obtain ⟨rfl, -⟩ := (namedContainer_some _ _ _).mp named
    exact canonical_containersOf _ (canonical_fieldsOf "spec" template canonical) _ member
  have nothing : namesIn (ownedEnvOf imprint.key (annotationsIn template)) name = [] := by
    rw [unrecorded.owned]
    rfl
  have held := tidy.names_projected imprint member named
  rw [nothing] at given held
  refine ⟨container, _, name, named, namedContainer_clearedItem _ _ _ _ name middle
    (Json.canonical_ordered _ (canonical_projectedFields imprint [] container inside)) ascending
    given, ?_⟩
  rw [held]
  exact rootsLeft_container imprint name container middle inside ascending
    ((noted _ name given).trans (unrecorded.mem_roots_noted member named))

/-- The ledger goes with the only binding. -/
theorem ledger_dropped : Table.lookup ledgerAnnotation (annotationsIn
    (unprojectTemplate imprint.key (projectedTemplate imprint template))) = none := by
  have projected := canonical_projectedTemplate imprint template canonical
  have inside := canonical_annotationsIn _ projected
  have bare : hasProjection (eraseAnnotations imprint.key
      (annotationsIn (projectedTemplate imprint template))) = false := by
    rw [Bool.eq_false_iff, Ne, hasProjection_iff _
      (Json.canonical_ordered _ (canonical_eraseAnnotations _ _ inside))]
    rintro ⟨other, present⟩
    obtain ⟨value, found⟩ := (Table.has_iff_exists _ _).mp present
    rw [lookup_eraseAnnotations _ _ _ (Json.canonical_ordered _ inside)] at found
    split at found
    · cases found
    · next foreign =>
      rw [annotationsIn_projected, lookup_marked_other imprint _ _ _ (ordered_annotationsIn template
        canonical) _ (annotationName_ne_ledger "secret" other (by simp))
          fun field known same => foreign ⟨field, known, same⟩,
        unrecorded.annotations _ (isMark_annotationName "secret" other)] at found
      cases found
  rw [annotationsIn_unprojectTemplate _ _ projected, lookup_leftAnnotations _ _ _ _ inside,
    if_pos rfl, bare]
  rfl

end Templates

/-- A binding that is projected into a workload and removed again leaves the roots of every
container as they were, except where the container mounts some other volume that is named like
that of a binding and had no root: there the root that it was given stays. The ledger that knew
of it is gone in any case. -/
theorem injected_roots_left (binding : Binding) (secret : String) (workload projected : Object)
    (canonical : workload.Canonical)
    (unrecorded : ∀ template ∈ workload.template?, Unrecorded template)
    (resolved : binding.secretName = some secret)
    (ran : PodTemplate.projector.project binding workload = .ok projected) :
    ∃ left before after, PodTemplate.projector.unproject binding projected = .ok left ∧
      workload.template? = some before ∧ left.template? = some after ∧
      Table.lookup ledgerAnnotation (annotationsIn after) = none ∧
      List.Forall₂ (ItemLeft binding.key) (containersOf (fieldsOf "spec" before))
        (containersOf (fieldsOf "spec" after)) := by
  obtain ⟨imprint, known, -⟩ := imprint_of_secret resolved
  obtain ⟨key, -, -⟩ := imprint_fields binding imprint known
  obtain ⟨path, template, located, shaped, rfl⟩ :=
    template_of_project binding imprint workload projected known ran
  have plain := canonical_template located canonical
  have bare := unrecorded template (template_located located)
  have placed := located_withTemplateAt located (projectedTemplate imprint template)
  refine ⟨_, template, _, unproject_located binding placed, template_located located,
    template_withTemplateAt placed _, ?_, ?_⟩
  · rw [← key]
    exact ledger_dropped imprint plain bare
  · rw [← key]
    exact rootsLeft_template imprint plain bare shaped

section Sample

/-- A container that mounts a volume of the workload's own, named like that of a binding. -/
def cachingContainer : Table Json :=
  [("name", .string "app"), ("volumeMounts", .array [.object [("mountPath", .string "/cache"),
    ("name", .string "servicebinding-cache")]])]

def cachingTemplate : Table Json :=
  [("spec", .object [("containers", .array [.object cachingContainer]),
    ("volumes", .array [.object [("emptyDir", .object []),
      ("name", .string "servicebinding-cache")]])])]

def cachingWorkload : Object :=
  { metadata := { name := some "web" }
    body := [("spec", .object [("template", .object cachingTemplate)])] }

theorem canonical_cachingWorkload : cachingWorkload.Canonical := by
  have container : "name" < "volumeMounts" := by decide
  have mount : "mountPath" < "name" := by decide
  have spec : "containers" < "volumes" := by decide
  have volume : "emptyDir" < "name" := by decide
  simp [Object.Canonical, cachingWorkload, cachingTemplate, cachingContainer, Json.Canonical,
    Json.CanonicalFields, Json.CanonicalItems, Table.Ordered, container, mount, spec, volume]

theorem unrecorded_cachingWorkload :
    ∀ template ∈ cachingWorkload.template?, Unrecorded template := by
  intro template found
  obtain rfl := Option.some.inj ((show cachingWorkload.template? = some cachingTemplate from
    rfl).symm.trans found)
  exact ⟨fun _ _ => rfl, by decide⟩

/-- The only container had no root, and has one when the binding is gone. -/
theorem caching_root_stranded :
    rootEntries cachingContainer = [] ∧ ∃ left after fields,
      PodTemplate.projector.unproject (mappingBinding "first")
        (history cachingWorkload [.project (mappingBinding "first")]) = .ok left ∧
      left.template? = some after ∧ containersOf (fieldsOf "spec" after) = [.object fields] ∧
      rootEntries fields = [rootEntry] := by
  have bare : rootEntries cachingContainer = [] := by decide
  have other : MountsOther (mappingBinding "first").key cachingContainer :=
    ⟨"servicebinding-cache", by decide, by decide, by decide⟩
  obtain ⟨left, before, after, removed, start, found, -, containers⟩ := injected_roots_left
    (mappingBinding "first") "db" cachingWorkload
    (history cachingWorkload [.project (mappingBinding "first")]) canonical_cachingWorkload
    unrecorded_cachingWorkload rfl (by decide +kernel)
  obtain rfl := Option.some.inj (start.symm.trans rfl)
  rw [show containersOf (fieldsOf "spec" cachingTemplate) = [.object cachingContainer] from rfl,
    List.forall₂_cons_left_iff] at containers
  obtain ⟨item, rest, ⟨fields, cleared, name, named, known, roots⟩, none, every⟩ := containers
  obtain ⟨same, -⟩ := (namedContainer_some _ _ _).mp named
  obtain rfl := Json.object.inj same
  obtain ⟨rfl, -⟩ := (namedContainer_some _ _ _).mp known
  obtain rfl := List.forall₂_nil_left_iff.mp none
  exact ⟨bare, left, after, cleared, removed, found, every, roots.stranded bare other⟩

end Sample

end BindingOperator
