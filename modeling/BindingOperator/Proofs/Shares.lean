import BindingOperator.Proofs.Idempotence

/-!
What is a binding's in a shared template: its annotations, its volume, and in every container
its mount and the variables that are recorded as owned. No variable is owned twice, and every
owned one is there, so what one binding writes or takes away is never part of what another
binding has, and its share stays exactly as it was.
-/

namespace BindingOperator

/-- The entries of a list whose names pass. -/
def entriesNamed (keep : String → Bool) (entries : List Json) : List Json :=
  entries.filter fun entry => (entryName entry).any keep

structure ContainerShare where
  name : String
  mounts : List Json
  env : List Json

structure Share where
  annotations : List (Option Json)
  volumes : List Json
  /-- Items that are no container have no share. -/
  containers : List (Option ContainerShare)

def containerShare? (key : String) (owned : OwnedEnv) (item : Json) : Option ContainerShare :=
  (namedContainer? item).map fun (container, name) =>
    { name
      mounts := entriesNamed (· = volumeName key) (itemsOf "volumeMounts" container)
      env := entriesNamed (namesIn owned name).contains (itemsOf "env" container) }

def shareIn (key : String) (template : Table Json) : Share where
  annotations := markFields.map fun field =>
    Table.lookup (annotationName field key) (annotationsIn template)
  volumes := entriesNamed (· = volumeName key) (itemsOf "volumes" (fieldsOf "spec" template))
  containers := (containersOf (fieldsOf "spec" template)).map
    (containerShare? key (ownedEnvOf key (annotationsIn template)))

def Object.share? (workload : Object) (key : String) : Option Share :=
  workload.template?.map (shareIn key)

section Entries

variable (keep : String → Bool)

/-- Putting an entry of another name leaves the entries of a name alone. -/
theorem entriesNamed_putNamed (entry : Json) (entries : List Json)
    (apart : (entryName entry).any keep = false) :
    entriesNamed keep (putNamed entry entries) = entriesNamed keep entries := by
  induction entries with
  | nil => simp [putNamed, entriesNamed, apart]
  | cons first rest ih =>
      by_cases same : entryName first = entryName entry
      · simp [putNamed, entriesNamed, same, apart]
      · simp only [putNamed, if_neg same, entriesNamed, List.filter_cons] at ih ⊢
        rw [ih]

theorem entriesNamed_filter (passes : Json → Bool) (entries : List Json)
    (passing : ∀ entry ∈ entries, ∀ name, entryName entry = some name → keep name = true →
      passes entry = true) :
    entriesNamed keep (entries.filter passes) = entriesNamed keep entries := by
  unfold entriesNamed
  rw [List.filter_filter]
  apply List.filter_congr
  intro entry member
  cases named : entryName entry with
  | none => rfl
  | some name =>
      cases kept : keep name with
      | false => simp [kept]
      | true => simp [kept, passing entry member name named kept]

/-- The volume or mount of one binding is not that of another. -/
theorem entriesNamed_withoutVolume {key other : String} (different : other ≠ key)
    (entries : List Json) :
    entriesNamed (· = volumeName other)
        (entries.filter fun entry => entryName entry ≠ some (volumeName key)) =
      entriesNamed (· = volumeName other) entries := by
  apply entriesNamed_filter
  intro entry _ name named kept
  rw [decide_eq_true_eq] at kept ⊢
  rw [named, kept, Ne, Option.some.injEq, volumeName_inj]
  exact different

variable (imprint : Imprint) (previous : NameSet)

/-- Variables that are defined and not this binding's are neither replaced nor added to. -/
theorem entriesNamed_projectVariables (mappings : List EnvMapping) (state : List Json × NameSet)
    (foreign : ∀ name, keep name = true → name ∉ previous ∧ some name ∈ entryNames state.1) :
    entriesNamed keep (projectVariables imprint previous mappings state).1 =
      entriesNamed keep state.1 := by
  induction mappings generalizing state with
  | nil => rfl
  | cons mapping rest ih =>
      rw [projectVariables, List.foldl_cons, ← projectVariables, ih]
      · by_cases elsewhere : Elsewhere previous state.1 mapping
        · rw [projectVariable_elsewhere imprint previous state mapping elsewhere]
        · rw [projectVariable_written imprint previous state mapping elsewhere]
          apply entriesNamed_putNamed
          rw [entryName_variableEntry, Option.any_some, ← Bool.not_eq_true]
          exact fun kept => elsewhere (foreign mapping.name kept)
      · intro name kept
        obtain ⟨unowned, defined⟩ := foreign name kept
        exact ⟨unowned, (mem_entryNames_projectVariable imprint previous name state mapping).mpr
          (.inr defined)⟩

theorem mem_entryNames_of_rooted (name : String) (env : List Json)
    (defined : some name ∈ entryNames env) : some name ∈ entryNames (rooted env) := by
  unfold rooted
  split
  · exact defined
  · rw [entryNames_append]
    exact List.mem_append_left _ defined

theorem entriesNamed_rooted (env : List Json)
    (defined : ∀ name, keep name = true → some name ∈ entryNames env) :
    entriesNamed keep (rooted env) = entriesNamed keep env := by
  by_cases present : some rootVariable ∈ entryNames env
  · rw [rooted_present env present]
  · have apart : keep rootVariable = false := by
      rw [← Bool.not_eq_true]
      exact fun kept => present (defined rootVariable kept)
    unfold rooted
    split
    · rfl
    · simp [entriesNamed, apart]

theorem entriesNamed_projectedFields (container : Table Json)
    (foreign : ∀ name, keep name = true →
      name ∉ previous ∧ some name ∈ entryNames (itemsOf "env" container)) :
    entriesNamed keep (itemsOf "env" (projectedFields imprint previous container)) =
      entriesNamed keep (itemsOf "env" container) := by
  have rooted := entriesNamed_rooted keep (itemsOf "env" container) fun name kept =>
    (foreign name kept).2
  have dropped : entriesNamed keep (dropStale imprint previous (BindingOperator.rooted
      (itemsOf "env" container))) = entriesNamed keep (itemsOf "env" container) := by
    rw [dropStale_eq, entriesNamed_filter, rooted]
    intro entry _ name named kept
    rw [keepsEntry_iff, named]
    exact fun stale => absurd stale (foreign name kept).1
  rw [itemsOf_env_projected, projectEnv, ← projectVariables, entriesNamed_projectVariables, dropped]
  intro name kept
  obtain ⟨unowned, defined⟩ := foreign name kept
  exact ⟨unowned, (mem_entryNames_dropStale imprint previous name _ unowned).mpr
    (mem_entryNames_of_rooted name _ defined)⟩

end Entries

section Parting

/-- Every variable that a record lists for a container is defined there. -/
def DefinesOwned (owned : OwnedEnv) (item : Json) : Prop :=
  ∀ container name, namedContainer? item = some (container, name) →
    ∀ listed ∈ namesIn owned name, some listed ∈ entryNames (itemsOf "env" container)

/-- A shared template in which no variable is owned twice and none that is owned is missing. -/
structure PartedTemplate (template : Table Json) : Prop where
  shared : SharedTemplate template
  apart : ∀ key other, key ≠ other → ∀ name,
    ∀ listed ∈ namesIn (ownedEnvOf key (annotationsIn template)) name,
      listed ∉ namesIn (ownedEnvOf other (annotationsIn template)) name
  defined : ∀ key, ∀ item ∈ containersOf (fieldsOf "spec" template),
    DefinesOwned (ownedEnvOf key (annotationsIn template)) item

variable {template : Table Json}

theorem collected_apart (parted : PartedTemplate template) (imprint : Imprint) (other : String)
    (different : other ≠ imprint.key) (name listed : String)
    (member : listed ∈ namesIn (collectedTemplate imprint template) name) :
    listed ∉ namesIn (ownedEnvOf other (annotationsIn template)) name := by
  intro foreign
  by_cases known : name ∈ containerNames (containersOf (fieldsOf "spec" template))
  · obtain ⟨item, present, container, named⟩ := (mem_containerNames _ name).mp known
    rw [parted.shared.tidy.collected imprint present named] at member
    refine unowned_projected imprint _ listed container ?_ ?_ member
    · exact parted.apart other imprint.key different name listed foreign
    · exact mem_entryNames_of_rooted listed _
        (parted.defined other item present container name named listed foreign)
  · rw [collectedTemplate, namesIn_collected_other imprint _ _ name [] known] at member
    exact absurd member List.not_mem_nil

theorem definesOwned_projected (parted : PartedTemplate template) (imprint : Imprint)
    (key : String) (item : Json) (present : item ∈ containersOf (fieldsOf "spec" template)) :
    DefinesOwned (if key = imprint.key then collectedTemplate imprint template
        else ownedEnvOf key (annotationsIn template))
      (projectedItem imprint (ownedEnvOf imprint.key (annotationsIn template)) item) := by
  intro after name found listed member
  cases named : namedContainer? item with
  | none => simp [projectedItem, named] at found
  | some pair =>
      obtain ⟨container, inside⟩ := pair
      rw [namedContainer_projectedItem imprint _ item container inside named, Option.some.injEq,
        Prod.mk.injEq] at found
      obtain ⟨rfl, rfl⟩ := found
      split at member
      · rw [parted.shared.tidy.collected imprint present named] at member
        rcases mapped_of_owned imprint _ listed imprint.env _ member with before | mapped
        · exact absurd before List.not_mem_nil
        · rw [itemsOf_env_projected]
          exact (mem_entryNames_projectVariables imprint _ listed imprint.env _).mpr (.inl mapped)
      · next different =>
        refine (defined_projected imprint _ listed container ?_ ?_).1
        · exact parted.apart key imprint.key different inside listed member
        · exact mem_entryNames_of_rooted listed _
            (parted.defined key item present container inside named listed member)

/-- Removing a binding takes no variable that another one owns, and nobody owns the root. -/
theorem stays_foreign (parted : PartedTemplate template) {key other : String}
    (different : other ≠ key) (name listed : String)
    (member : listed ∈ namesIn (ownedEnvOf other (annotationsIn template)) name) (leaves : Bool)
    (entry : Json) (named : entryName entry = some listed) :
    staysEntry (namesIn (ownedEnvOf key (annotationsIn template)) name) leaves entry = true := by
  rw [staysEntry_iff, named]
  refine ⟨parted.apart other key different name listed member, ?_⟩
  rintro ⟨-, root⟩
  rw [show listed = rootVariable from root] at member
  exact parted.shared.tidy.unowned other name member

theorem definesOwned_cleared (parted : PartedTemplate template) {key other : String}
    (different : other ≠ key) (volume : String) (item : Json) (ledger : Ledger)
    (present : item ∈ containersOf (fieldsOf "spec" template)) (ascending : ledger.Ascending) :
    DefinesOwned (ownedEnvOf other (annotationsIn template))
      (clearedItem volume (ownedEnvOf key (annotationsIn template)) ledger item) := by
  have canonical := canonical_containersOf _
    (canonical_fieldsOf "spec" template parted.shared.tidy.canonical) item present
  intro after name found listed member
  obtain ⟨container, named, ordered, rfl⟩ :=
    named_of_cleared volume _ item ledger canonical ascending after name found
  obtain ⟨entry, inside, called⟩ := List.mem_map.mp
    (parted.defined other item present container name named listed member)
  rw [itemsOf_env_unproject _ _ _ _ _ ordered ascending]
  exact List.mem_map.mpr ⟨entry, List.mem_filter.mpr ⟨inside,
    stays_foreign parted different name listed member _ entry called⟩, called⟩

namespace PartedTemplate

theorem of_fresh (canonical : Json.Canonical (.object template)) (fresh : Fresh template) :
    PartedTemplate template := by
  refine ⟨.of_fresh canonical fresh, ?_, ?_⟩
  · intro key other _ name listed member
    rw [fresh.owned key] at member
    exact absurd member List.not_mem_nil
  · intro key item _ container name _ listed member
    rw [fresh.owned key] at member
    exact absurd member List.not_mem_nil

theorem project (parted : PartedTemplate template) (imprint : Imprint) :
    PartedTemplate (projectedTemplate imprint template) := by
  have owned := ownedEnvOf_projected imprint template parted.shared.tidy.canonical
  refine ⟨parted.shared.project imprint, ?_, ?_⟩
  · intro key other different name listed member
    rw [owned] at member ⊢
    split at member
    · next own =>
      rw [if_neg fun same => different (own.trans same.symm)]
      exact collected_apart parted imprint other (fun same => different (own.trans same.symm)) name
        listed member
    · next foreign =>
      split
      · exact fun mine => collected_apart parted imprint key foreign name listed mine member
      · exact parted.apart key other different name listed member
  · intro key item member
    rw [spec_projected, containersOf_projectedSpec] at member
    obtain ⟨old, present, rfl⟩ := List.mem_map.mp member
    rw [owned]
    exact definesOwned_projected parted imprint key old present

theorem unproject (parted : PartedTemplate template) (key : String) :
    PartedTemplate (unprojectTemplate key template) := by
  have canonical := parted.shared.tidy.canonical
  have owned := fun other => ownedEnvOf_unprojectTemplate key template other canonical
  refine ⟨parted.shared.unproject key, ?_, ?_⟩
  · intro one other different name listed member
    rw [owned] at member ⊢
    split at member
    · exact absurd member List.not_mem_nil
    · split
      · exact List.not_mem_nil
      · exact parted.apart one other different name listed member
  · intro other item member
    obtain ⟨old, present, middle, ascending, rfl⟩ :=
      cleared_of_unprojectTemplate key template canonical item member
    rw [owned]
    split
    · intro container name _ listed none
      exact absurd none List.not_mem_nil
    · next different =>
      exact definesOwned_cleared parted different _ old middle present ascending

end PartedTemplate

theorem lasting_parted : Lasting PartedTemplate where
  canonical _ parted := parted.shared.tidy.canonical
  start _ := PartedTemplate.of_fresh
  project imprint _ parted := parted.project imprint
  unproject key _ parted := parted.unproject key

end Parting

section Framing

variable {template : Table Json}

theorem containerShare_projected (parted : PartedTemplate template) (imprint : Imprint)
    (other : String) (different : other ≠ imprint.key) (item : Json)
    (present : item ∈ containersOf (fieldsOf "spec" template)) :
    containerShare? other (ownedEnvOf other (annotationsIn template))
        (projectedItem imprint (ownedEnvOf imprint.key (annotationsIn template)) item) =
      containerShare? other (ownedEnvOf other (annotationsIn template)) item := by
  cases named : namedContainer? item with
  | none => simp [projectedItem, named]
  | some pair =>
      obtain ⟨container, name⟩ := pair
      have mounts := entriesNamed_putNamed (· = volumeName other)
        (imprint.mountEntry (rootPath (itemsOf "env" container))) (itemsOf "volumeMounts" container)
        (by simpa [volumeName_inj] using different.symm)
      have env := entriesNamed_projectedFields
        (namesIn (ownedEnvOf other (annotationsIn template)) name).contains imprint
        (namesIn (ownedEnvOf imprint.key (annotationsIn template)) name) container (by
          intro listed kept
          rw [List.contains_iff_mem] at kept
          exact ⟨parted.apart other imprint.key different name listed kept,
            parted.defined other item present container name named listed kept⟩)
      simp only [containerShare?, named, Option.map_some,
        namedContainer_projectedItem imprint _ item container name named, itemsOf_mounts_projected,
        mounts, env]

theorem containerShare_cleared (parted : PartedTemplate template) {key other : String}
    (different : other ≠ key) (item : Json) (ledger : Ledger)
    (present : item ∈ containersOf (fieldsOf "spec" template)) (ascending : ledger.Ascending) :
    containerShare? other (ownedEnvOf other (annotationsIn template))
        (clearedItem (volumeName key) (ownedEnvOf key (annotationsIn template)) ledger item) =
      containerShare? other (ownedEnvOf other (annotationsIn template)) item := by
  cases named : namedContainer? item with
  | none => simp [clearedItem, named]
  | some pair =>
      obtain ⟨container, name⟩ := pair
      have canonical := canonical_containersOf _
        (canonical_fieldsOf "spec" template parted.shared.tidy.canonical) item present
      have ordered := ordered_of_named item container name canonical named
      have mounts := entriesNamed_withoutVolume different (itemsOf "volumeMounts" container)
      have env := entriesNamed_filter
        (namesIn (ownedEnvOf other (annotationsIn template)) name).contains
        (staysEntry (namesIn (ownedEnvOf key (annotationsIn template)) name)
          (leavesRoot (volumeName key) name container ledger)) (itemsOf "env" container) (by
          intro entry _ listed called kept
          rw [List.contains_iff_mem] at kept
          exact stays_foreign parted different name listed kept _ entry called)
      simp only [containerShare?, named, Option.map_some,
        namedContainer_clearedItem _ _ item container name ledger ordered ascending named,
        itemsOf_mounts_unproject _ _ _ _ _ ordered ascending,
        itemsOf_env_unproject _ _ _ _ _ ordered ascending, mounts, env]

/-- Projecting a binding leaves the share of every other one as it is. -/
theorem share_projected (parted : PartedTemplate template) (imprint : Imprint) (other : String)
    (different : other ≠ imprint.key) :
    shareIn other (projectedTemplate imprint template) = shareIn other template := by
  have canonical := parted.shared.tidy.canonical
  have ordered := ordered_annotationsIn template canonical
  have annotations : ∀ field ∈ markFields,
      Table.lookup (annotationName field other)
          (annotationsIn (projectedTemplate imprint template)) =
        Table.lookup (annotationName field other) (annotationsIn template) := by
    intro field known
    rw [annotationsIn_projected, lookup_marked_other imprint _ _ _ ordered _
      (annotationName_ne_ledger field other known) fun listed present =>
        annotationName_ne_of_key field listed imprint.key other known present different]
  have owned := ownedEnvOf_projected imprint template canonical other
  rw [if_neg different] at owned
  have volumes : itemsOf "volumes" (fieldsOf "spec" (projectedTemplate imprint template)) =
      putNamed imprint.volumeEntry (itemsOf "volumes" (fieldsOf "spec" template)) := by
    rw [spec_projected]
    exact itemsOf_array _ _ _ (lookup_volumes_projectedSpec imprint _ _)
  unfold shareIn
  rw [List.map_congr_left annotations, owned, volumes, entriesNamed_putNamed, spec_projected,
    containersOf_projectedSpec, List.map_map]
  · refine congrArg (Share.mk _ _) (List.map_congr_left fun item member => ?_)
    exact containerShare_projected parted imprint other different item member
  · simpa [volumeName_inj] using different.symm

/-- Removing a binding leaves the share of every other one as it is. -/
theorem share_unprojected (parted : PartedTemplate template) (key other : String)
    (different : other ≠ key) :
    shareIn other (unprojectTemplate key template) = shareIn other template := by
  have canonical := parted.shared.tidy.canonical
  have ordered := Json.canonical_ordered _ (canonical_fieldsOf "spec" template canonical)
  have inside := canonical_annotationsIn template canonical
  have annotations : ∀ field ∈ markFields,
      Table.lookup (annotationName field other) (annotationsIn (unprojectTemplate key template)) =
        Table.lookup (annotationName field other) (annotationsIn template) := by
    intro field known
    rw [annotationsIn_unprojectTemplate key template canonical, lookup_leftAnnotations key _ _ _
      inside, if_neg (annotationName_ne_ledger field other known), if_neg]
    rintro ⟨listed, present, same⟩
    exact different ((annotationName_inj field listed other key known present).mp same).2
  have owned := ownedEnvOf_unprojectTemplate key template other canonical
  rw [if_neg different] at owned
  unfold shareIn
  rw [List.map_congr_left annotations, owned, spec_unprojectTemplate key template canonical,
    leftSpec, itemsOf_volumes_unprojectSpec _ _ _ _ ordered,
    containersOf_unprojectSpec _ _ _ _ ordered, entriesNamed_withoutVolume different,
    map_unprojectContainers _ _ _ _ _ (ascending_unvolumed _ _ _ (ascending_ledgerOf _))]
  intro item present ledger ascending
  exact containerShare_cleared parted different item ledger present ascending

theorem share_located {workload : Object} {path : List String}
    (located : Located workload path template) (key : String) :
    workload.share? key = some (shareIn key template) := by
  rw [Object.share?, template_located located, Option.map_some]

/-- A step of one binding leaves the share of every other one exactly as it was. -/
theorem share_run {workload changed : Object} (parted : workload.Keeps PartedTemplate)
    (step : ProjectionStep) (ran : step.run workload = .ok changed) (other : String)
    (different : other ≠ step.key) : changed.share? other = workload.share? other := by
  obtain ⟨path, template, located, ⟨-, rfl⟩ | ⟨-, imprint, same, -, rfl⟩⟩ :=
    step.run_cases workload changed ran
  · have inner := parted.template path template located
    rw [share_located (located_withTemplateAt located _), share_located located,
      share_unprojected inner step.key other different]
  · have inner := parted.template path template located
    rw [share_located (located_withTemplateAt located _), share_located located,
      share_projected inner imprint other (same ▸ different)]

end Framing

end BindingOperator
