import BindingOperator.Proofs.InPlace

/-!
The books of a pod template agree with what is in it. A variable that a binding lists has one
owner and one entry, a container on the ledger has one root, a field on the ledger is there,
and a binding has one volume and one mount in each container or nothing at all.

An entry that occurs once is never doubled, because putting an entry replaces the one of its
name and everything else that is done to a list takes entries away. So a step only has to
account for the names that it adds, and it adds a name where the name is missing.
-/

namespace BindingOperator

/-- No two entries of a list have the name. -/
def Once (name : String) (entries : List Json) : Prop :=
  (entryNames entries).count (some name) ≤ 1

section Counting

variable {name : String} {entries : List Json}

theorem once_of_absent (absent : some name ∉ entryNames entries) : Once name entries := by
  rw [Once, List.count_eq_zero_of_not_mem absent]
  exact Nat.zero_le 1

theorem Once.exactly (once : Once name entries) (present : some name ∈ entryNames entries) :
    (entryNames entries).count (some name) = 1 :=
  Nat.le_antisymm once (List.count_pos_iff.mpr present)

theorem Once.filter (once : Once name entries) (keep : Json → Bool) :
    Once name (entries.filter keep) :=
  Nat.le_trans ((List.filter_sublist.map entryName).count_le (some name)) once

theorem Once.put (once : Once name entries) (entry : Json) : Once name (putNamed entry entries) := by
  by_cases present : entryName entry ∈ entryNames entries
  · rw [Once, entryNames_putNamed_present entry entries present]
    exact once
  · have alone : entryNames [entry] = [entryName entry] := rfl
    rw [putNamed_absent entry entries present, Once, entryNames_append, List.count_append, alone]
    by_cases same : entryName entry = some name
    · rw [same] at present
      simp [List.count_eq_zero_of_not_mem present, same]
    · rw [List.count_singleton, if_neg (by simpa using same), Nat.add_zero]
      exact once

theorem Once.rooted (once : Once name entries) : Once name (rooted entries) := by
  by_cases present : some rootVariable ∈ entryNames entries
  · rw [rooted_present entries present]
    exact once
  · have added : BindingOperator.rooted entries = putNamed rootEntry entries := by
      rw [BindingOperator.rooted, (rootOf_eq_none entries).mpr present,
        putNamed_absent rootEntry entries (by simpa using present)]
      rfl
    rw [added]
    exact once.put rootEntry

theorem Once.projectVariables (imprint : Imprint) (previous : NameSet)
    (mappings : List EnvMapping) (state : List Json × NameSet) (once : Once name state.1) :
    Once name (projectVariables imprint previous mappings state).1 := by
  induction mappings generalizing state with
  | nil => exact once
  | cons mapping rest ih =>
      apply ih
      by_cases elsewhere : Elsewhere previous state.1 mapping
      · rw [projectVariable_elsewhere imprint previous state mapping elsewhere]
        exact once
      · rw [projectVariable_written imprint previous state mapping elsewhere]
        exact once.put _

variable {container : Table Json} (imprint : Imprint) (previous : NameSet)

/-- Projecting doubles no variable. -/
theorem Once.projectedFields (once : Once name (itemsOf "env" container)) :
    Once name (itemsOf "env" (projectedFields imprint previous container)) := by
  rw [itemsOf_env_projected, projectEnv, ← BindingOperator.projectVariables, dropStale_eq]
  exact .projectVariables imprint previous _ _ (once.rooted.filter _)

/-- A name that a binding collects was its own before, or was nobody's. -/
theorem once_collected
    (counted : ∀ listed ∈ previous, Once listed (itemsOf "env" container))
    (member : name ∈ projectedNames imprint previous container) :
    Once name (itemsOf "env" container) := by
  by_cases owned : name ∈ previous
  · exact counted name owned
  · apply once_of_absent
    intro defined
    exact unowned_projected imprint previous name container owned
      (mem_entryNames_of_rooted name _ defined) member

end Counting

section Ledgers

/-- A ledger notes containers of these names, their fields, and fields outside containers. -/
structure Ledger.Concerns (names : List String) (ledger : Ledger) : Prop where
  roots : ∀ name ∈ ledger.roots, name ∈ names
  created : ∀ marker ∈ ledger.created, marker ∈ templateMarkers ∨
    ∃ name ∈ names, ∃ field ∈ containerFields, marker = containerMarker field name

variable {names : List String} {ledger fewer : Ledger} {template : Table Json}

theorem Ledger.Concerns.within (concerns : ledger.Concerns names) (less : fewer.Within ledger) :
    fewer.Concerns names where
  roots name member := concerns.roots name (less.roots name member)
  created marker member := concerns.created marker (less.created marker member)

theorem Ledger.concerns_empty (names : List String) : Ledger.Concerns names {} :=
  ⟨by simp, by simp⟩

theorem Ledger.Concerns.noted
    (concerns : (ledgerOf (annotationsIn template)).Concerns
      (containerNames (containersOf (fieldsOf "spec" template)))) :
    (notedTemplate template).Concerns (containerNames (containersOf (fieldsOf "spec" template))) := by
  constructor
  · intro name member
    rw [notedTemplate, mem_roots_notedItems] at member
    simp only [roots_trackField] at member
    rcases member with before | ⟨item, present, container, named, -⟩
    · exact concerns.roots name before
    · exact (mem_containerNames _ name).mpr ⟨item, present, container, named⟩
  · intro marker member
    rw [notedTemplate, mem_created_notedItems] at member
    simp only [mem_created_trackField] at member
    rcases member with (((before | ⟨rfl, -⟩) | ⟨rfl, -⟩) | ⟨rfl, -⟩) |
      ⟨item, present, container, name, named, field, known, same, -⟩
    · exact concerns.created marker before
    · exact .inl (by simp)
    · exact .inl (by simp)
    · exact .inl (by simp)
    · exact .inr ⟨name, (mem_containerNames _ name).mpr ⟨item, present, container, named⟩,
        field, known, same⟩

/-- Removing a binding notes nothing. -/
theorem ledger_unproject_within (key : String) (canonical : Json.Canonical (.object template)) :
    (ledgerOf (annotationsIn (unprojectTemplate key template))).Within
      (ledgerOf (annotationsIn template)) := by
  have spec := canonical_fieldsOf "spec" template canonical
  have ascending := ascending_ledgerOf (annotationsIn template)
  have unvolumed_within : (unvolumed (volumeName key) (fieldsOf "spec" template)
      (ledgerOf (annotationsIn template))).2.Within (ledgerOf (annotationsIn template)) := by
    constructor
    · exact fun marker member => ((mem_created_unvolumed _ _ _ marker ascending).mp member).1
    · rw [roots_unvolumed]
      exact fun _ => id
  exact (leftSpec_within key template canonical).trans
    ((unprojectSpec_within _ _ _ _ spec ascending).trans unvolumed_within)

end Ledgers

section Templates

/-- Nothing that is kept in books occurs twice in a container. -/
structure CountedContainer (annotations : Table Json) (name : String) (container : Table Json) :
    Prop where
  mounts : ∀ key, Once (volumeName key) (itemsOf "volumeMounts" container)
  owned : ∀ key, ∀ listed ∈ namesIn (ownedEnvOf key annotations) name,
    Once listed (itemsOf "env" container)
  root : name ∈ (ledgerOf annotations).roots → Once rootVariable (itemsOf "env" container)

theorem FreshNameless.projected {items : List Json} (fresh : FreshNameless items)
    (imprint : Imprint) (previous : OwnedEnv) :
    FreshNameless (items.map (projectedItem imprint previous)) := by
  intro fields member nameless
  obtain ⟨old, present, same⟩ := List.mem_map.mp member
  have unnamed := (namedContainer_none fields).mpr nameless
  rw [← same] at unnamed
  rw [nameless_projectedItem imprint previous old unnamed] at same
  exact fresh fields (same ▸ present) nameless

theorem FreshNameless.cleared {template : Table Json}
    (fresh : FreshNameless (containersOf (fieldsOf "spec" template))) (key : String)
    (canonical : Json.Canonical (.object template)) :
    FreshNameless (containersOf (fieldsOf "spec" (unprojectTemplate key template))) :=
  fun fields member nameless => fresh fields
    (nameless_unprojectTemplate key template canonical _ member
      ((namedContainer_none fields).mpr nameless)) nameless

structure CountedTemplate (template : Table Json) : Prop where
  parted : PartedTemplate template
  volumes : ∀ key, Once (volumeName key) (itemsOf "volumes" (fieldsOf "spec" template))
  containers : ∀ item ∈ containersOf (fieldsOf "spec" template), ∀ container name,
    namedContainer? item = some (container, name) →
      CountedContainer (annotationsIn template) name container
  nameless : FreshNameless (containersOf (fieldsOf "spec" template))
  concerns : (ledgerOf (annotationsIn template)).Concerns
    (containerNames (containersOf (fieldsOf "spec" template)))

namespace CountedTemplate

variable {template : Table Json}

theorem of_fresh (canonical : Json.Canonical (.object template)) (fresh : Fresh template) :
    CountedTemplate template := by
  constructor
  · exact .of_fresh canonical fresh
  · exact fun key => once_of_absent (fresh.spec.volumes _ (isVolumeName_volumeName key))
  · intro item member container name named
    constructor
    · exact fun key => once_of_absent
        (fresh.spec.mounts item member container name named _ (isVolumeName_volumeName key))
    · intro key listed owned
      rw [fresh.owned key] at owned
      exact absurd owned List.not_mem_nil
    · intro rooted
      rw [fresh.ledger] at rooted
      exact absurd rooted List.not_mem_nil
  · exact fresh.spec.nameless
  · rw [fresh.ledger]
    exact Ledger.concerns_empty _

/-- A container is on the ledger after a projection when it was before, or had no root. -/
theorem once_root_noted (counted : CountedTemplate template) {item : Json}
    {container : Table Json} {name : String}
    (member : item ∈ containersOf (fieldsOf "spec" template))
    (named : namedContainer? item = some (container, name))
    (noted : name ∈ (notedTemplate template).roots) :
    Once rootVariable (itemsOf "env" container) := by
  rw [notedTemplate, mem_roots_notedItems] at noted
  simp only [roots_trackField] at noted
  rcases noted with before | ⟨other, present, inner, known, rootless⟩
  · exact (counted.containers item member container name named).root before
  -- the ledger goes by names, which no two containers share
  · have same := named_unique _ item other container inner name
      counted.parted.shared.tidy.distinct member present named known
    rw [← same, named, Option.some.injEq, Prod.mk.injEq] at known
    obtain ⟨rfl, -⟩ := known
    exact once_of_absent ((rootOf_eq_none _).mp rootless)

/-- A projection doubles nothing in a container that is listed or noted afterwards. -/
theorem container_projected (counted : CountedTemplate template) (imprint : Imprint) {item : Json}
    {container : Table Json} {name : String}
    (member : item ∈ containersOf (fieldsOf "spec" template))
    (named : namedContainer? item = some (container, name)) :
    CountedContainer (annotationsIn (projectedTemplate imprint template)) name
      (projectedFields imprint (namesIn (ownedEnvOf imprint.key (annotationsIn template)) name)
        container) := by
  have canonical := counted.parted.shared.tidy.canonical
  have before := counted.containers item member container name named
  constructor
  · intro key
    rw [itemsOf_mounts_projected]
    exact (before.mounts key).put _
  · intro key listed owned
    apply Once.projectedFields
    rw [ownedEnvOf_projected imprint template canonical] at owned
    -- the names of this binding are collected anew, those of others stay listed
    split at owned
    · rw [counted.parted.shared.tidy.collected imprint member named] at owned
      exact once_collected imprint _ (before.owned imprint.key) owned
    · exact before.owned key listed owned
  · intro rooted
    apply Once.projectedFields
    rw [ledgerOf_projected imprint template canonical] at rooted
    exact counted.once_root_noted member named rooted

theorem project (counted : CountedTemplate template) (imprint : Imprint) :
    CountedTemplate (projectedTemplate imprint template) := by
  constructor
  · exact counted.parted.project imprint
  · intro key
    rw [spec_projected, itemsOf_array _ _ _ (lookup_volumes_projectedSpec imprint _ _)]
    exact (counted.volumes key).put _
  · intro item member after name found
    rw [spec_projected, containersOf_projectedSpec] at member
    obtain ⟨old, present, rfl⟩ := List.mem_map.mp member
    obtain ⟨container, named, rfl⟩ := named_of_projected imprint _ old after name found
    exact counted.container_projected imprint present named
  · rw [spec_projected, containersOf_projectedSpec]
    exact counted.nameless.projected imprint _
  · rw [ledgerOf_projected imprint template counted.parted.shared.tidy.canonical,
      containerNames_projectedTemplate]
    exact counted.concerns.noted

theorem container_cleared (counted : CountedTemplate template) (key : String) {item : Json}
    {container : Table Json} {name : String} {middle : Ledger}
    (member : item ∈ containersOf (fieldsOf "spec" template))
    (named : namedContainer? item = some (container, name)) (ordered : Table.Ordered container)
    (ascending : middle.Ascending) :
    CountedContainer (annotationsIn (unprojectTemplate key template)) name
      (unprojectContainer (volumeName key) name
        (namesIn (ownedEnvOf key (annotationsIn template)) name) container middle).1 := by
  have canonical := counted.parted.shared.tidy.canonical
  have before := counted.containers item member container name named
  constructor
  · intro other
    rw [itemsOf_mounts_unproject _ _ _ _ _ ordered ascending]
    exact (before.mounts other).filter _
  · intro other listed owned
    rw [itemsOf_env_unproject _ _ _ _ _ ordered ascending]
    rw [ownedEnvOf_unprojectTemplate key template other canonical] at owned
    split at owned
    · exact absurd owned List.not_mem_nil
    · exact (before.owned other listed owned).filter _
  · intro rooted
    rw [itemsOf_env_unproject _ _ _ _ _ ordered ascending]
    exact (before.root ((ledger_unproject_within key canonical).roots name rooted)).filter _

theorem unproject (counted : CountedTemplate template) (key : String) :
    CountedTemplate (unprojectTemplate key template) := by
  have canonical := counted.parted.shared.tidy.canonical
  have spec := canonical_fieldsOf "spec" template canonical
  constructor
  · exact counted.parted.unproject key
  · intro other
    rw [spec_unprojectTemplate key template canonical, leftSpec,
      itemsOf_volumes_unprojectSpec _ _ _ _ (Json.canonical_ordered _ spec)]
    exact (counted.volumes other).filter _
  · intro item member after name found
    obtain ⟨old, present, middle, ascending, rfl⟩ :=
      cleared_of_unprojectTemplate key template canonical item member
    obtain ⟨container, named, ordered, rfl⟩ := named_of_cleared _ _ old middle
      (canonical_containersOf _ spec old present) ascending after name found
    exact counted.container_cleared key present named ordered ascending
  · exact counted.nameless.cleared key canonical
  · rw [containerNames_unprojectTemplate key template canonical]
    exact counted.concerns.within (ledger_unproject_within key canonical)

end CountedTemplate

theorem lasting_counted : Lasting CountedTemplate where
  canonical _ counted := counted.parted.shared.tidy.canonical
  start _ := CountedTemplate.of_fresh
  project imprint _ counted := counted.project imprint
  unproject key _ counted := counted.unproject key

end Templates

section Books

/-- The field that a marker of the ledger stands for is there. -/
inductive HasMarked (template : Table Json) : String → Prop where
  | metadata (there : Table.has "metadata" template = true) : HasMarked template "metadata"
  | annotations (there : Table.has "annotations" (fieldsOf "metadata" template) = true) :
      HasMarked template "annotations"
  | volumes (there : Table.has "volumes" (fieldsOf "spec" template) = true) :
      HasMarked template "volumes"
  | container {item : Json} {container : Table Json} {name field : String}
      (member : item ∈ containersOf (fieldsOf "spec" template))
      (named : namedContainer? item = some (container, name)) (known : field ∈ containerFields)
      (there : Table.has field container = true) : HasMarked template (containerMarker field name)

/-- The books that bindings keep in annotations agree with the template. -/
structure Accounted (template : Table Json) : Prop where
  distinct : (containerNames (containersOf (fieldsOf "spec" template))).Nodup
  single : ∀ key other name, ∀ listed ∈ namesIn (ownedEnvOf key (annotationsIn template)) name,
    listed ∈ namesIn (ownedEnvOf other (annotationsIn template)) name → key = other
  owned : ∀ key, ∀ item ∈ containersOf (fieldsOf "spec" template), ∀ container name,
    namedContainer? item = some (container, name) →
      ∀ listed ∈ namesIn (ownedEnvOf key (annotationsIn template)) name,
        (entryNames (itemsOf "env" container)).count (some listed) = 1
  unowned : ∀ key name, rootVariable ∉ namesIn (ownedEnvOf key (annotationsIn template)) name
  roots : ∀ name ∈ (ledgerOf (annotationsIn template)).roots,
    ∃ item ∈ containersOf (fieldsOf "spec" template), ∃ container,
      namedContainer? item = some (container, name) ∧
        (entryNames (itemsOf "env" container)).count (some rootVariable) = 1
  created : ∀ marker ∈ (ledgerOf (annotationsIn template)).created, HasMarked template marker
  /-- A binding whose Secret is recorded has one volume, and one mount in every container. -/
  bound : ∀ key, Bound key template →
    (entryNames (itemsOf "volumes" (fieldsOf "spec" template))).count
        (some (volumeName key)) = 1 ∧
      ∀ item ∈ containersOf (fieldsOf "spec" template), ∃ container name,
        namedContainer? item = some (container, name) ∧
          (entryNames (itemsOf "volumeMounts" container)).count (some (volumeName key)) = 1
  /-- A binding whose Secret is not recorded has nothing. -/
  unbound : ∀ key, ¬ Bound key template →
    some (volumeName key) ∉ entryNames (itemsOf "volumes" (fieldsOf "spec" template)) ∧
      (∀ item ∈ containersOf (fieldsOf "spec" template), ∀ container name,
        namedContainer? item = some (container, name) →
          some (volumeName key) ∉ entryNames (itemsOf "volumeMounts" container)) ∧
      ∀ field ∈ markFields,
        Table.lookup (annotationName field key) (annotationsIn template) = none
  /-- No binding has a mount in an item without a name. -/
  nameless : FreshNameless (containersOf (fieldsOf "spec" template))
  idle : (∀ key, ¬ Bound key template) →
    Table.lookup ledgerAnnotation (annotationsIn template) = none

/-- Where a binding is projected, every item of the container lists is a container. -/
def Whole (template : Table Json) : Prop :=
  ∀ key, Bound key template → ∀ item ∈ containersOf (fieldsOf "spec" template),
    ∃ container name, namedContainer? item = some (container, name)

variable {template : Table Json}

theorem whole_of_fresh (fresh : Fresh template) : Whole template := fun key held =>
  absurd (fresh.annotations _ (isMark_annotationName "secret" key)) held

/-- A projection goes through only when every item is a container. -/
theorem whole_projected (imprint : Imprint) (shaped : Shaped template) :
    Whole (projectedTemplate imprint template) := by
  intro key _ item member
  rw [spec_projected, containersOf_projectedSpec] at member
  obtain ⟨old, present, rfl⟩ := List.mem_map.mp member
  obtain ⟨container, name, named, -⟩ := shaped.containers old present
  exact ⟨_, name, namedContainer_projectedItem imprint _ old container name named⟩

theorem Whole.unproject (whole : Whole template) (key : String)
    (canonical : Json.Canonical (.object template)) : Whole (unprojectTemplate key template) := by
  intro other held item member
  obtain ⟨old, present, middle, ascending, rfl⟩ :=
    cleared_of_unprojectTemplate key template canonical item member
  have before := ((SharedTemplate.bound_unprojected key canonical other).mp held).2
  obtain ⟨container, name, named⟩ := whole other before old present
  have ordered := ordered_of_named old container name
    (canonical_containersOf _ (canonical_fieldsOf "spec" template canonical) old present) named
  exact ⟨_, name, namedContainer_clearedItem _ _ old container name middle ordered ascending named⟩

namespace CountedTemplate

variable (counted : CountedTemplate template)
include counted

/-- What a ledger notes, it notes for a binding. -/
theorem live (noted : ledgerOf (annotationsIn template) ≠ {}) : ∃ key, Bound key template := by
  by_contra nobody
  exact noted (counted.parted.shared.ledger_idle fun key held => nobody ⟨key, held⟩)

theorem root_once (name : String) (noted : name ∈ (ledgerOf (annotationsIn template)).roots) :
    ∃ item ∈ containersOf (fieldsOf "spec" template), ∃ container,
      namedContainer? item = some (container, name) ∧
        (entryNames (itemsOf "env" container)).count (some rootVariable) = 1 := by
  obtain ⟨key, held⟩ := counted.live fun empty => by simp [empty] at noted
  obtain ⟨item, member, container, named⟩ :=
    (mem_containerNames _ name).mp (counted.concerns.roots name noted)
  have there := (counted.parted.shared.containers item member).root container name named key held
  exact ⟨item, member, container, named,
    ((counted.containers item member container name named).root noted).exactly there⟩

/-- While a binding is projected, every field that the ledger could note is in use. -/
theorem has_marked (marker : String)
    (noted : marker ∈ (ledgerOf (annotationsIn template)).created) : HasMarked template marker := by
  obtain ⟨key, held⟩ := counted.live fun empty => by simp [empty] at noted
  have shared := counted.parted.shared
  have annotations : Table.lookup "annotations" (fieldsOf "metadata" template) =
      some (.object (annotationsIn template)) := lookup_of_field _ held
  rcases counted.concerns.created marker noted with outside | ⟨name, listed, field, known, rfl⟩
  · simp only [mem_templateMarkers] at outside
    rcases outside with rfl | rfl | rfl
    · exact .metadata (has_of_lookup (lookup_of_field "annotations" (by simp [annotations])))
    · exact .annotations (has_of_lookup annotations)
    · exact .volumes (has_of_lookup (lookup_of_entryName ((shared.volumes key).mpr held)))
  · obtain ⟨item, member, container, named⟩ := (mem_containerNames _ name).mp listed
    have there := shared.containers item member
    refine .container member named known ?_
    simp only [mem_containerFields] at known
    rcases known with rfl | rfl
    · exact has_of_lookup (lookup_of_entryName (there.root container name named key held))
    · exact has_of_lookup
        (lookup_of_entryName ((there.mounts container name named key).mpr held))

theorem accounted (whole : Whole template) : Accounted template := by
  have parted := counted.parted
  have shared := parted.shared
  constructor
  · exact shared.tidy.distinct
  · intro key other name listed mine theirs
    by_contra different
    exact parted.apart key other different name listed mine theirs
  · intro key item member container name named listed owned
    exact ((counted.containers item member container name named).owned key listed owned).exactly
      (parted.defined key item member container name named listed owned)
  · exact shared.tidy.unowned
  · exact counted.root_once
  · exact counted.has_marked
  · intro key held
    refine ⟨(counted.volumes key).exactly ((shared.volumes key).mpr held), ?_⟩
    intro item member
    obtain ⟨container, name, named⟩ := whole key held item member
    refine ⟨container, name, named, ?_⟩
    exact ((counted.containers item member container name named).mounts key).exactly
      (((shared.containers item member).mounts container name named key).mpr held)
  · intro key absent
    refine ⟨fun there => absent ((shared.volumes key).mp there), ?_, ?_⟩
    · intro item member container name named there
      exact absent (((shared.containers item member).mounts container name named key).mp there)
    · intro field known
      by_contra present
      exact absent (shared.marks key field known present)
  · exact counted.nameless
  · intro nobody
    have idle : hasProjection (annotationsIn template) = false := by
      rw [← Bool.not_eq_true, SharedTemplate.hasProjection_bound shared.tidy.canonical]
      exact fun projected => projected.elim nobody
    have written := shared.written
    rw [idle] at written
    exact written

end CountedTemplate

end Books

section Workloads

variable {workload : Object} {template : Table Json}

theorem whole_run {changed : Object} (canonical : workload.Canonical) (step : ProjectionStep)
    (ran : step.run workload = .ok changed) (whole : ∀ template ∈ workload.template?, Whole template) :
    ∀ template ∈ changed.template?, Whole template := by
  intro after found
  obtain ⟨path, template, located, ⟨-, rfl⟩ | ⟨-, imprint, -, shaped, rfl⟩⟩ :=
    step.run_cases workload changed ran
  · rw [Option.mem_def, template_withTemplateAt located, Option.some.injEq] at found
    have before := whole template (template_located located)
    exact found ▸ before.unproject step.key (canonical_template located canonical)
  · rw [Option.mem_def, template_withTemplateAt located, Option.some.injEq] at found
    exact found ▸ whole_projected imprint shaped

/-- A step that fails leaves the workload, so only those that go through count. -/
theorem whole_history (origin : Object) (steps : List ProjectionStep) (canonical : origin.Canonical)
    (fresh : origin.Fresh) : ∀ template ∈ (history origin steps).template?, Whole template := by
  induction steps using List.reverseRecOn with
  | nil => exact fun template found => whole_of_fresh (fresh template found)
  | append_singleton steps step ih =>
      rw [history_concat]
      cases ran : step.run (history origin steps) with
      | error failure =>
          rw [step.after_error _ failure ran]
          exact ih
      | ok changed =>
          rw [step.after_ok _ changed ran]
          exact whole_run
            ((lasting_canonical.fresh canonical fresh).history lasting_canonical steps).canonical
            step ran ih

/-- Whatever bindings are projected into a fresh workload and removed from it, in any order
and under changing specs, their books agree with its pod template. -/
theorem reached_accounted (workload : Object) (reached : workload.Reached) :
    ∀ template ∈ workload.template?, Accounted template := by
  intro template found
  obtain ⟨path, located⟩ := template_some.mp found
  have counted := (reached.keeps lasting_counted).template path template located
  obtain ⟨origin, steps, canonical, fresh, same⟩ := reached
  have body : workload.template? = (history origin steps).template? := template_of_body same
  exact counted.accounted (whole_history origin steps canonical fresh template (body ▸ found))

/-- Two bindings map the same variable: it is the first comer's alone, and the volume of the
other one is there once. -/
theorem shared_workload_accounted : ∃ template, sharedWorkload.template? = some template ∧
    "URL" ∈ namesIn (ownedEnvOf (mappingBinding "second").key (annotationsIn template)) "app" ∧
    "URL" ∉ namesIn (ownedEnvOf (mappingBinding "first").key (annotationsIn template)) "app" ∧
    (entryNames (itemsOf "volumes" (fieldsOf "spec" template))).count
      (some (volumeName (mappingBinding "first").key)) = 1 := by
  have read : (sharedWorkload.template?.map fun template =>
      (namesIn (ownedEnvOf (mappingBinding "second").key (annotationsIn template)) "app",
        (Table.lookup (annotationName "secret" (mappingBinding "first").key)
          (annotationsIn template)).isSome)) = some (["URL"], true) := by
    decide +kernel
  obtain ⟨template, found, same⟩ := Option.map_eq_some_iff.mp read
  rw [Prod.mk.injEq] at same
  obtain ⟨listed, recorded⟩ := same
  have accounted := reached_accounted sharedWorkload reached_sharedWorkload template found
  have mine : "URL" ∈ namesIn (ownedEnvOf (mappingBinding "second").key
      (annotationsIn template)) "app" := by simp [listed]
  refine ⟨template, found, mine, ?_, (accounted.bound _ ?_).1⟩
  · intro theirs
    exact absurd (accounted.single _ _ "app" "URL" mine theirs) (by decide)
  · exact Option.isSome_iff_ne_none.mp recorded

end Workloads

end BindingOperator
