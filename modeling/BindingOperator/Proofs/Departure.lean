import BindingOperator.Proofs.Shares

/-!
A binding that leaves takes with it exactly what it brought. Another binding that came after
it finds, once it is gone, what it would have found without it: every list in its order, and
the bookkeeping that both of them shared.
-/

namespace BindingOperator

section Entries

/-- An entry that stays is put in the same place, whatever else is taken out. -/
theorem filter_putNamed (keep : Json → Bool) (entry : Json) (entries : List Json)
    (stays : keep entry = true)
    (alike : ∀ other ∈ entries, entryName other = entryName entry → keep other = true) :
    (putNamed entry entries).filter keep = putNamed entry (entries.filter keep) := by
  induction entries with
  | nil => simp [putNamed, stays]
  | cons first rest ih =>
      have tail := ih fun other member => alike other (List.mem_cons_of_mem first member)
      by_cases same : entryName first = entryName entry
      · simp [putNamed, same, stays, alike first List.mem_cons_self same]
      · cases kept : keep first <;> simp [putNamed, same, kept, tail]

/-- A volume or mount that is put behind those of another binding is alone once that left. -/
theorem putNamed_without (volume : String) (entry other : Json) (entries : List Json)
    (absent : some volume ∉ entryNames entries) (named : entryName entry = some volume)
    (apart : entryName other ≠ some volume) :
    (putNamed other (putNamed entry entries)).filter (fun item => entryName item ≠ some volume) =
      putNamed other entries := by
  rw [filter_putNamed _ _ _ (by simpa using apart)
      fun item _ same => by simpa [same] using apart,
    putNamed_absent entry entries (by rwa [named]), List.filter_append,
    filter_unmounted volume entries absent]
  simp [named]

end Entries

section Variables

variable (imprint : Imprint) (previous : NameSet)

theorem projectVariables_filter (keep : Json → Bool) (mappings : List EnvMapping)
    (state : List Json × NameSet)
    (stays : ∀ mapping ∈ mappings, ∀ entry, entryName entry = some mapping.name →
      keep entry = true) :
    projectVariables imprint previous mappings (state.1.filter keep, state.2) =
      ((projectVariables imprint previous mappings state).1.filter keep,
        (projectVariables imprint previous mappings state).2) := by
  induction mappings generalizing state with
  | nil => rfl
  | cons mapping rest ih =>
      have here := stays mapping List.mem_cons_self
      have later := fun next member => stays next (List.mem_cons_of_mem mapping member)
      have step : projectVariable imprint previous (state.1.filter keep, state.2) mapping =
          ((projectVariable imprint previous state mapping).1.filter keep,
            (projectVariable imprint previous state mapping).2) := by
        have defined : some mapping.name ∈ entryNames (state.1.filter keep) ↔
            some mapping.name ∈ entryNames state.1 :=
          (mem_entryNames_filter keep True _ _ fun entry _ named =>
            iff_true_intro (here entry named)).trans (iff_of_eq (true_and _))
        by_cases elsewhere : Elsewhere previous state.1 mapping
        · rw [projectVariable_elsewhere imprint previous _ mapping
            ⟨elsewhere.1, defined.mpr elsewhere.2⟩,
            projectVariable_elsewhere imprint previous state mapping elsewhere]
        · rw [projectVariable_written imprint previous _ mapping
              fun now => elsewhere ⟨now.1, defined.mp now.2⟩,
            projectVariable_written imprint previous state mapping elsewhere,
            filter_putNamed keep _ _ (here _ (entryName_variableEntry imprint mapping))
              fun other _ same => here other (same.trans (entryName_variableEntry imprint mapping))]
      rw [projectVariables, List.foldl_cons, step, ← projectVariables, ih _ later]
      rfl

/-- What a binding writes and owns does not depend on variables that it does not map. -/
theorem projectEnv_filter (keep : Json → Bool) (env : List Json)
    (stays : ∀ mapping ∈ imprint.env, ∀ entry, entryName entry = some mapping.name →
      keep entry = true) :
    projectEnv imprint previous (env.filter keep) =
      ((projectEnv imprint previous env).1.filter keep, (projectEnv imprint previous env).2) := by
  have dropped : dropStale imprint previous (env.filter keep) =
      (dropStale imprint previous env).filter keep := by
    rw [dropStale_eq, dropStale_eq, List.filter_filter, List.filter_filter]
    simp only [Bool.and_comm]
  have written := projectVariables_filter imprint previous keep imprint.env
    (dropStale imprint previous env, []) stays
  rw [← dropped] at written
  exact written

/-- What a binding adds where it had nothing before can be told by the owned names. -/
theorem projectEnv_newcomer (env : List Json) (nonblank : ¬ Mapped imprint "") :
    (projectEnv imprint [] env).1.filter (staysEntry (projectEnv imprint [] env).2 false) =
      env := by
  have apart : ∀ name ∈ ([] : NameSet), some name ∉ entryNames env := by simp
  have nobody : Extras (fun _ => False) [] := .nil fun _ => id
  obtain ⟨extras, same, extra, outside⟩ :=
    projectEnv_extras imprint [] apart List.not_mem_nil nobody
  simp only [List.append_nil, false_and, false_or] at same extra outside
  rw [same, List.filter_append, List.filter_eq_self.mpr, List.filter_eq_nil_iff.mpr,
    List.append_nil]
  · intro entry member
    cases named : entryName entry with
    | none => exact absurd (List.mem_map.mpr ⟨entry, member, named⟩) extra.named
    | some name =>
        have owned := (extra.complete name).mp (List.mem_map.mpr ⟨entry, member, named⟩)
        simp [staysEntry, named, owned]
  · intro entry member
    rw [staysEntry_iff]
    refine ⟨fun owned => ?_, by simp⟩
    cases named : entryName entry with
    | none =>
        rw [named] at owned
        rcases mapped_of_owned imprint [] _ imprint.env _ owned with before | mapped
        · cases before
        · exact nonblank mapped
    | some name =>
        rw [named] at owned
        exact (outside name owned).1 (List.mem_map.mpr ⟨entry, member, named⟩)

end Variables

/-- Two bindings that write under different names, the first one only under real ones. -/
structure Unrelated (one other : Imprint) : Prop where
  keys : one.key ≠ other.key
  nonblank : ¬ Mapped one ""
  names : ∀ name, Mapped one name → ¬ Mapped other name

section Containers

variable {one other : Imprint} (previous : NameSet)

theorem Unrelated.stays (unrelated : Unrelated one other) (env : List Json) :
    ∀ mapping ∈ other.env, ∀ entry, entryName entry = some mapping.name →
      staysEntry (projectEnv one [] env).2 false entry = true := by
  intro mapping member entry named
  rw [staysEntry_iff, named]
  refine ⟨fun owned => ?_, by simp⟩
  rcases mapped_of_owned one [] _ one.env _ owned with before | mapped
  · cases before
  · exact unrelated.names mapping.name mapped ⟨mapping, member, rfl⟩

theorem variables_departed (unrelated : Unrelated one other) (container : Table Json) :
    (itemsOf "env" (projectedFields other previous (projectedFields one [] container))).filter
        (staysEntry (projectedNames one [] container) false) =
      itemsOf "env" (projectedFields other previous container) ∧
    projectedNames other previous (projectedFields one [] container) =
      projectedNames other previous container := by
  have root := (root_projected one [] container List.not_mem_nil).1
  have after := projectEnv_filter other previous _
    (projectEnv one [] (rooted (itemsOf "env" container))).1
    (unrelated.stays (rooted (itemsOf "env" container)))
  rw [projectEnv_newcomer one _ unrelated.nonblank] at after
  rw [itemsOf_env_projected other previous (projectedFields one [] container),
    itemsOf_env_projected other previous container, projectedNames, projectedNames, projectedNames,
    rooted_present _ root, itemsOf_env_projected]
  exact ⟨(congrArg Prod.fst after).symm, (congrArg Prod.snd after).symm⟩

theorem mounts_departed (unrelated : Unrelated one other) (container : Table Json)
    (vacant : some (volumeName one.key) ∉ entryNames (itemsOf "volumeMounts" container)) :
    (itemsOf "volumeMounts" (projectedFields other previous
        (projectedFields one [] container))).filter
        (fun mount => entryName mount ≠ some (volumeName one.key)) =
      itemsOf "volumeMounts" (projectedFields other previous container) := by
  rw [itemsOf_mounts_projected, itemsOf_mounts_projected, itemsOf_mounts_projected,
    rootPath_projected one [] container List.not_mem_nil]
  apply putNamed_without _ _ _ _ vacant (entryName_mountEntry one _)
  rw [entryName_mountEntry, Ne, Option.some.injEq, volumeName_inj]
  exact unrelated.keys.symm

/-- The lists of a container that a binding is projected into are in use. -/
theorem used_projectedFields (imprint : Imprint) (container : Table Json)
    (unowned : rootVariable ∉ previous) (field : String) (known : field ∈ containerFields) :
    (Table.lookup field (projectedFields imprint previous container)).any isEmptyCollection =
      false := by
  simp only [mem_containerFields] at known
  rcases known with rfl | rfl
  · exact used_named "env" rootVariable _ (root_projected imprint previous container unowned).1
  · exact used_named "volumeMounts" (volumeName imprint.key) _
      ((mem_mounts_projected imprint previous imprint.key container).mpr (.inl rfl))

/-- Each of the two lists is cleared to what the other binding has there alone. -/
theorem fields_departed (unrelated : Unrelated one other) (container : Table Json)
    (vacant : some (volumeName one.key) ∉ entryNames (itemsOf "volumeMounts" container))
    (field : String) (known : field ∈ containerFields) :
    Table.lookup field (clearedFields (volumeName one.key) (projectedNames one [] container) false
        (projectedFields other previous (projectedFields one [] container))) =
      Table.lookup field (projectedFields other previous container) := by
  obtain ⟨items, found⟩ := lists_projectedFields other previous container field known
  obtain ⟨both, present⟩ :=
    lists_projectedFields other previous (projectedFields one [] container) field known
  simp only [mem_containerFields] at known
  rw [lookup_clearedFields, found]
  rcases known with rfl | rfl
  · rw [if_pos rfl, present, ← itemsOf_array _ _ _ found,
      ← (variables_departed previous unrelated container).1, itemsOf_array _ _ _ present]
    rfl
  · rw [if_neg (by decide), if_pos rfl, present, ← itemsOf_array _ _ _ found,
      ← mounts_departed previous unrelated container vacant, itemsOf_array _ _ _ present]
    rfl

/-- Leaving a container that someone else was projected into later undoes the projection, and
it leaves the ledger: nothing that it notes is unused. -/
theorem unprojectContainer_departed (unrelated : Unrelated one other) (name : String)
    (container : Table Json) (ledger : Ledger) (ordered : Table.Ordered container)
    (ascending : ledger.Ascending)
    (vacant : some (volumeName one.key) ∉ entryNames (itemsOf "volumeMounts" container))
    (unowned : rootVariable ∉ previous) :
    unprojectContainer (volumeName one.key) name (projectedNames one [] container)
        (projectedFields other previous (projectedFields one [] container)) ledger =
      (projectedFields other previous container, ledger) := by
  have alone := ordered_projectedFields other previous container ordered
  have both := ordered_projectedFields other previous _
    (ordered_projectedFields one [] container ordered)
  have used := used_projectedFields previous other container unowned
  have cleared := fields_departed previous unrelated container vacant
  have stays := leavesRoot_other unrelated.keys.symm name _ ledger
    ((mem_mounts_projected other previous other.key (projectedFields one [] container)).mpr
      (.inl rfl))
  apply Prod.ext
  · apply Table.ext _ _ (ordered_unprojectContainer _ _ _ _ _ both) alone
    intro field
    rw [lookup_unprojectContainer _ _ _ _ _ _ both ascending, stays]
    split
    · next known =>
      rw [cleared field known]
      exact releasedValue_kept _ _ fun empty => by simp [used field known] at empty
    · next unknown =>
      simp only [mem_containerFields, not_or] at unknown
      simp only [lookup_projectedFields, if_neg unknown.1, if_neg unknown.2]
  · apply Ledger.ext_mem _ _ (ascending_unprojectContainer _ _ _ _ _ ascending) ascending
    · intro marker
      rw [mem_created_unprojectContainer _ _ _ _ _ _ both ascending, stays]
      refine and_iff_left_of_imp fun _ field known _ => ?_
      rw [cleared field known]
      exact used field known
    · intro one
      rw [mem_roots_unprojectContainer _ _ _ _ _ _ ascending, stays]
      simp

end Containers

section Specs

variable {one other : Imprint} (previous : OwnedEnv) {collected : OwnedEnv}

/-- The record that a newcomer leaves lists what it wrote in each container. -/
def RecordsItem (one : Imprint) (collected : OwnedEnv) (item : Json) : Prop :=
  ∀ container name, namedContainer? item = some (container, name) →
    namesIn collected name = projectedNames one [] container

theorem item_departed (unrelated : Unrelated one other) (item : Json) (ledger : Ledger)
    (canonical : Json.Canonical item) (ascending : ledger.Ascending)
    (vacant : UnmountedItem (volumeName one.key) item) (records : RecordsItem one collected item)
    (unowned : ∀ name, rootVariable ∉ namesIn previous name) :
    clearedItem (volumeName one.key) collected ledger
        (projectedItem other previous (projectedItem one [] item)) =
      projectedItem other previous item ∧
    leftLedger (volumeName one.key) collected ledger
        (projectedItem other previous (projectedItem one [] item)) = ledger := by
  cases named : namedContainer? item with
  | none => simp [clearedItem, leftLedger, projectedItem, named]
  | some pair =>
      obtain ⟨container, name⟩ := pair
      have first := namedContainer_projectedItem one [] item container name named
      have second := namedContainer_projectedItem other previous _ _ name first
      have departed := unprojectContainer_departed _ unrelated name container ledger
        (ordered_of_named item container name canonical named) ascending
        (vacant container name named) (unowned name)
      rw [← records container name named] at departed
      have empty : namesIn [] name = [] := rfl
      simp only [clearedItem, leftLedger, second]
      simp only [projectedItem, named, empty, departed, and_self]

theorem items_departed (unrelated : Unrelated one other) (items : List Json) (ledger : Ledger)
    (canonical : ∀ item ∈ items, Json.Canonical item) (ascending : ledger.Ascending)
    (vacant : ∀ item ∈ items, UnmountedItem (volumeName one.key) item)
    (records : ∀ item ∈ items, RecordsItem one collected item)
    (unowned : ∀ name, rootVariable ∉ namesIn previous name) :
    unprojectContainers (volumeName one.key) collected
        ((items.map (projectedItem one [])).map (projectedItem other previous)) ledger =
      (items.map (projectedItem other previous), ledger) := by
  induction items with
  | nil => rfl
  | cons item rest ih =>
      obtain ⟨cleared, left⟩ := item_departed previous unrelated item ledger
        (canonical item List.mem_cons_self) ascending (vacant item List.mem_cons_self)
        (records item List.mem_cons_self) unowned
      simp only [List.map_cons]
      rw [unprojectContainers_cons, cleared, left,
        ih (fun next member => canonical next (List.mem_cons_of_mem _ member))
          (fun next member => vacant next (List.mem_cons_of_mem _ member))
          (fun next member => records next (List.mem_cons_of_mem _ member))]

theorem volumes_departed (unrelated : Unrelated one other) (spec : Table Json)
    (vacant : some (volumeName one.key) ∉ entryNames (itemsOf "volumes" spec)) :
    (Table.lookup "volumes" (projectedSpec other previous (projectedSpec one [] spec))).map
        (changeItems fun volumes => volumes.filter
          fun entry => entryName entry ≠ some (volumeName one.key)) =
      Table.lookup "volumes" (projectedSpec other previous spec) := by
  have apart : entryName other.volumeEntry ≠ some (volumeName one.key) := by
    rw [entryName_volumeEntry, Ne, Option.some.injEq, volumeName_inj]
    exact unrelated.keys.symm
  rw [lookup_volumes_projectedSpec, lookup_volumes_projectedSpec,
    itemsOf_array _ _ _ (lookup_volumes_projectedSpec one _ _), Option.map_some, changeItems,
    putNamed_without _ _ _ _ vacant (entryName_volumeEntry one) apart]

theorem used_volumes (imprint : Imprint) (spec : Table Json) :
    (Table.lookup "volumes" (projectedSpec imprint previous spec)).any isEmptyCollection =
      false := by
  apply used_items "volumes" _ imprint.volumeEntry
  rw [itemsOf_array _ _ _ (lookup_volumes_projectedSpec imprint previous spec)]
  exact mem_putNamed_self _ _

/-- The volumes are in use, so that the ledger stays for the lists of containers. -/
theorem unvolumed_departed (unrelated : Unrelated one other) (spec : Table Json) (ledger : Ledger)
    (ascending : ledger.Ascending)
    (vacant : some (volumeName one.key) ∉ entryNames (itemsOf "volumes" spec)) :
    (unvolumed (volumeName one.key) (projectedSpec other previous (projectedSpec one [] spec))
      ledger).2 = ledger := by
  apply Ledger.ext_mem _ _ (ascending_unvolumed _ _ _ ascending) ascending
  · intro marker
    rw [mem_created_unvolumed _ _ _ _ ascending, volumes_departed previous unrelated spec vacant,
      used_volumes previous other spec]
    simp
  · intro name
    rw [roots_unvolumed]

section Lists

variable (unrelated : Unrelated one other) (spec : Table Json) (ledger : Ledger)
  (canonical : Json.Canonical (.object spec)) (ascending : ledger.Ascending)
  (vacant : ∀ item ∈ containersOf spec, UnmountedItem (volumeName one.key) item)
  (records : ∀ item ∈ containersOf spec, RecordsItem one collected item)
  (unowned : ∀ name, rootVariable ∉ namesIn previous name)
include unrelated canonical ascending vacant records unowned

theorem containers_departed (items : List Json) (inside : ∀ item ∈ items, item ∈ containersOf spec) :
    unprojectContainers (volumeName one.key) collected
        ((items.map (projectedItem one [])).map (projectedItem other previous)) ledger =
      (items.map (projectedItem other previous), ledger) :=
  items_departed previous unrelated items ledger
    (fun item member => canonical_containersOf spec canonical item (inside item member)) ascending
    (fun item member => vacant item (inside item member))
    (fun item member => records item (inside item member)) unowned

theorem lists_departed (list : String) (known : list ∈ containerLists) :
    (Table.lookup list (projectedSpec other previous (projectedSpec one [] spec))).map
        (changeItems fun items => (unprojectContainers (volumeName one.key) collected items
          ledger).1) =
      Table.lookup list (projectedSpec other previous spec) := by
  rw [lookup_list_projectedSpec _ _ _ list known, lookup_list_projectedSpec _ _ _ list known,
    lookup_list_projectedSpec _ _ _ list known, map_changeItems, map_changeItems]
  apply lookup_changeItems_congr
  exact congrArg Prod.fst (containers_departed previous unrelated spec ledger canonical ascending
    vacant records unowned _ (mem_containersOf list spec known))

theorem spec_departed (absent : some (volumeName one.key) ∉ entryNames (itemsOf "volumes" spec)) :
    unprojectSpec (volumeName one.key) collected
        (projectedSpec other previous (projectedSpec one [] spec)) ledger =
      (projectedSpec other previous spec, ledger) := by
  have ordered := Json.canonical_ordered spec canonical
  have both := ordered_projectedSpec other previous _ (ordered_projectedSpec one [] spec ordered)
  have kept := unvolumed_departed previous unrelated spec ledger ascending absent
  have each := containers_departed previous unrelated spec ledger canonical ascending vacant
    records unowned
  have lists := lists_departed previous unrelated spec ledger canonical ascending vacant records
    unowned
  have init : (unprojectContainers (volumeName one.key) collected (itemsOf "initContainers"
      (projectedSpec other previous (projectedSpec one [] spec))) ledger).2 = ledger := by
    have known : "initContainers" ∈ containerLists := by simp
    rw [itemsOf_projectedSpec _ _ _ _ known, itemsOf_projectedSpec _ _ _ _ known,
      each _ (mem_containersOf _ spec known)]
  apply Prod.ext
  · apply Table.ext _ _ (ordered_unprojectSpec _ _ _ _ both)
      (ordered_projectedSpec other previous spec ordered)
    intro field
    rw [lookup_unprojectSpec _ _ _ _ _ both, kept, init]
    by_cases main : field = "containers"
    · rw [if_pos main, main, lists "containers" (by simp)]
    · by_cases early : field = "initContainers"
      · rw [if_neg main, if_pos early, early, lists "initContainers" (by simp)]
      · have unlisted : field ∉ containerLists := by simp [main, early]
        rw [if_neg main, if_neg early, lookup_unvolumed _ _ _ _ both]
        by_cases volume : field = "volumes"
        · rw [if_pos volume, volume, volumes_departed previous unrelated spec absent]
          exact releasedValue_kept _ _ fun empty => by
            simp [used_volumes previous other spec] at empty
        · rw [if_neg volume, lookup_projectedSpec other _ _ field volume,
            lookup_projectedSpec one _ _ field volume, lookup_projectedSpec other _ _ field volume]
          simp only [if_neg unlisted]
  · rw [unprojectSpec_eq _ _ _ _ both, kept, containersOf_projectedSpec, containersOf_projectedSpec,
      each _ fun _ => id]

end Lists

end Specs

section Annotations

variable {one other : Imprint}

/-- A removal that leaves a binding writes the ledger as it was. -/
theorem annotations_departed (keys : one.key ≠ other.key) (owned : OwnedEnv)
    (recorded : OwnedEnv) (ledger : Ledger) (annotations : Table Json)
    (canonical : Json.Canonical (.object annotations))
    (absent : ∀ field ∈ markFields,
      Table.lookup (annotationName field one.key) annotations = none) :
    leftAnnotations one.key ledger
        (markedAnnotations other owned ledger (markedAnnotations one recorded ledger annotations)) =
      markedAnnotations other owned ledger annotations := by
  have first := canonical_markedAnnotations one recorded ledger annotations canonical
  have both := canonical_markedAnnotations other owned ledger _ first
  have ordered := Json.canonical_ordered _ canonical
  have firstOrdered := Json.canonical_ordered _ first
  have secret : "secret" ∈ markFields := by simp
  have erased := canonical_eraseAnnotations one.key _ both
  have projected : hasProjection (eraseAnnotations one.key (markedAnnotations other owned ledger
      (markedAnnotations one recorded ledger annotations))) = true := by
    rw [hasProjection_iff _ (Json.canonical_ordered _ erased)]
    refine ⟨other.key, ?_⟩
    rw [Table.has, lookup_eraseAnnotations _ _ _ (Json.canonical_ordered _ both), if_neg,
      lookup_marked_secret other _ _ _ firstOrdered]
    · rfl
    · rintro ⟨field, known, same⟩
      exact annotationName_ne_of_key "secret" field one.key other.key secret known keys.symm same
  apply Table.ext _ _ (Json.canonical_ordered _ (canonical_leftAnnotations _ _ _ both))
    (ordered_markedAnnotations other _ _ _ ordered)
  intro name
  rw [lookup_leftAnnotations _ _ _ _ both, projected]
  by_cases shared : name = ledgerAnnotation
  · rw [if_pos shared, shared, lookup_markedAnnotations other _ _ _ ordered, if_pos rfl]
    simp
  · rw [if_neg shared]
    by_cases own : ∃ field ∈ markFields, name = annotationName field one.key
    · obtain ⟨field, known, rfl⟩ := own
      rw [if_pos ⟨field, known, rfl⟩, lookup_marked_other other _ _ _ ordered _ shared,
        absent _ known]
      exact fun listed present =>
        annotationName_ne_of_key field listed other.key one.key known present keys
    · rw [if_neg own, lookup_markedAnnotations other _ _ _ firstOrdered,
        lookup_markedAnnotations other _ _ _ ordered,
        lookup_marked_other one _ _ _ ordered _ shared]
      exact fun field known same => own ⟨field, known, same⟩

end Annotations

section Templates

variable {one other : Imprint} {template : Table Json}

/-- What the next binding owns does not depend on a newcomer that maps other names. -/
theorem collected_departed (unrelated : Unrelated one other) (items : List Json)
    (previous : OwnedEnv) :
    (items.map (projectedItem one [])).foldl (collectedItem other previous) [] =
      items.foldl (collectedItem other previous) [] := by
  rw [List.foldl_map]
  apply List.foldl_ext
  intro owned item _
  cases named : namedContainer? item with
  | none => simp [collectedItem, projectedItem, named]
  | some pair =>
      obtain ⟨container, name⟩ := pair
      have empty : namesIn [] name = [] := rfl
      rw [collectedItem, namedContainer_projectedItem one [] item container name named,
        collectedItem, named]
      simp only [empty, (variables_departed (namesIn previous name) unrelated container).2]

/-- The metadata is in use, because the binding is recorded there. -/
theorem used_annotations (imprint : Imprint) (canonical : Json.Canonical (.object template)) :
    (Table.lookup "annotations" (fieldsOf "metadata" (projectedTemplate imprint template))).any
      isEmptyCollection = false :=
  used_fields "annotations" _ _ ((SharedTemplate.bound_projected imprint canonical _).mpr (.inl rfl))

theorem used_metadata (imprint : Imprint) (template : Table Json) :
    (Table.lookup "metadata" (projectedTemplate imprint template)).any isEmptyCollection =
      false := by
  apply used_fields "metadata" "annotations"
  rw [metadata_projected, Table.lookup_insert_same]
  simp

section Leaving

variable (parted : PartedTemplate template) (unrelated : Unrelated one other)
  (absent : ¬ Bound one.key template)
include parted unrelated

theorem ownedEnvOf_departed :
    ownedEnvOf other.key (annotationsIn (projectedTemplate one template)) =
      ownedEnvOf other.key (annotationsIn template) := by
  rw [ownedEnvOf_projected one template parted.shared.tidy.canonical,
    if_neg unrelated.keys.symm]

include absent

theorem collectedTemplate_departed :
    collectedTemplate other (projectedTemplate one template) = collectedTemplate other template := by
  rw [collectedTemplate, ownedEnvOf_departed parted unrelated, spec_projected,
    containersOf_projectedSpec,
    ownedEnvOf_settled one.key template (parted.shared.settled one.key absent),
    collected_departed unrelated]
  rfl

/-- The removal finds the records of the newcomer and the ledger as the others left it. -/
theorem leftSpec_departed :
    leftSpec one.key (projectedTemplate other (projectedTemplate one template)) =
      (projectedSpec other (ownedEnvOf other.key (annotationsIn template))
        (fieldsOf "spec" template), notedTemplate template) := by
  have tidy := parted.shared.tidy
  have settled := parted.shared.settled one.key absent
  have first := canonical_projectedTemplate one template tidy.canonical
  have nothing := ownedEnvOf_settled one.key template settled
  have recorded : ownedEnvOf one.key (annotationsIn (projectedTemplate other
      (projectedTemplate one template))) = collectedTemplate one template := by
    rw [ownedEnvOf_projected other _ first, if_neg unrelated.keys,
      ownedEnvOf_projected one _ tidy.canonical, if_pos rfl]
  rw [leftSpec, recorded, spec_projected, spec_projected, ownedEnvOf_departed parted unrelated,
    nothing, ledgerOf_projected other _ first,
    notedTemplate_projected one template tidy.canonical (tidy.unowned one.key)]
  refine spec_departed _ unrelated _ _ (canonical_fieldsOf "spec" template tidy.canonical)
    (ascending_notedTemplate template) settled.spec.unmounted ?_ (tidy.unowned other.key)
    settled.spec.absent
  intro item member container name named
  rw [collectedTemplate, nothing]
  exact recorded_names one [] _ item container name tidy.distinct member named

theorem leftMetadata_departed :
    leftMetadata one.key (projectedTemplate other (projectedTemplate one template))
        (fieldsOf "metadata" (projectedTemplate other (projectedTemplate one template))) =
      fieldsOf "metadata" (projectedTemplate other template) := by
  have tidy := parted.shared.tidy
  have canonical := tidy.canonical
  have annotations := annotations_departed unrelated.keys (collectedTemplate other template)
    (collectedTemplate one template) (notedTemplate template) (annotationsIn template)
    (canonical_annotationsIn template canonical) (parted.shared.settled one.key absent).marks
  have before := canonical_fieldsOf "metadata" _ (canonical_projectedTemplate other _
    (canonical_projectedTemplate one template canonical))
  have target := canonical_fieldsOf "metadata" _
    (canonical_projectedTemplate other template canonical)
  have used := used_annotations other canonical
  apply Table.ext _ _ (Json.canonical_ordered _ (canonical_leftMetadata one.key _ _ before))
    (Json.canonical_ordered _ target)
  intro field
  rw [lookup_leftMetadata one.key _ _ field (Json.canonical_ordered _ before),
    leftSpec_departed parted unrelated absent]
  by_cases known : field = "annotations"
  · rw [metadata_projected other template, Table.lookup_insert_same] at used
    rw [if_pos known, known, metadata_projected other (projectedTemplate one template),
      metadata_projected other template, Table.lookup_insert_same, Table.lookup_insert_same,
      annotationsIn_projected one template, collectedTemplate_departed parted unrelated absent,
      notedTemplate_projected one template canonical (tidy.unowned one.key), Option.map_some,
      changeFields, annotations]
    exact releasedValue_kept _ _ fun empty => by simp [used] at empty
  · rw [if_neg known, metadata_projected, metadata_projected, metadata_projected,
      Table.lookup_insert_other _ _ _ _ known, Table.lookup_insert_other _ _ _ _ known,
      Table.lookup_insert_other _ _ _ _ known]

/-- Whatever else is projected, a binding that comes and goes leaves nothing behind. -/
theorem template_departed :
    unprojectTemplate one.key (projectedTemplate other (projectedTemplate one template)) =
      projectedTemplate other template := by
  have canonical := parted.shared.tidy.canonical
  have both := canonical_projectedTemplate other _
    (canonical_projectedTemplate one template canonical)
  have target := canonical_projectedTemplate other template canonical
  have spec := leftSpec_departed parted unrelated absent
  have used := used_metadata other template
  apply Table.ext _ _ (Json.canonical_ordered _ (canonical_unprojectTemplate one.key _ both))
    (Json.canonical_ordered _ target)
  intro field
  rw [lookup_unprojectTemplate one.key _ field both]
  by_cases outside : field = "metadata"
  · have found := lookup_metadata_projected other (projectedTemplate one template)
    rw [← metadata_projected] at found
    have goal := lookup_metadata_projected other template
    rw [← metadata_projected] at goal
    rw [goal] at used
    rw [if_pos outside, outside, found, goal, Option.map_some, changeFields,
      leftMetadata_departed parted unrelated absent]
    exact releasedValue_kept _ _ fun empty => by simp [used] at empty
  · rw [if_neg outside]
    by_cases inside : field = "spec"
    · have found := lookup_spec_projected other (projectedTemplate one template)
      rw [← spec_projected] at found
      rw [if_pos inside, inside, found, lookup_spec_projected other template, Option.map_some,
        changeFields]
      exact congrArg (fun result : Table Json × Ledger => some (Json.object result.1)) spec
    · rw [if_neg inside, lookup_projected_other _ _ _ inside outside,
        lookup_projected_other _ _ _ inside outside, lookup_projected_other _ _ _ inside outside]

end Leaving

end Templates

/-- Removing a binding removes exactly what its projection brought: a binding with other
variables that was projected in between is found as it would be without the first one. -/
theorem departure_exact (workload withOne : Object) (one other : Binding)
    (reached : workload.Reached) (different : one.key ≠ other.key)
    (known : one.secretName.isSome = true) (otherKnown : other.secretName.isSome = true)
    (nonblank : ∀ mapping ∈ one.spec.env, mapping.name ≠ "")
    (apart : ∀ mapping ∈ one.spec.env, ∀ foreign ∈ other.spec.env, mapping.name ≠ foreign.name)
    (absent : ¬ workload.Projects one.key)
    (projected : PodTemplate.projector.project one workload = .ok withOne) :
    ∃ both without,
      PodTemplate.projector.project other withOne = .ok both ∧
      PodTemplate.projector.unproject one both = .ok without ∧
      PodTemplate.projector.project other workload = .ok without := by
  obtain ⟨secret, found⟩ := Option.isSome_iff_exists.mp known
  obtain ⟨otherSecret, otherFound⟩ := Option.isSome_iff_exists.mp otherKnown
  obtain ⟨first, firstKnown⟩ : ∃ imprint, one.imprint? = some imprint :=
    ⟨_, by rw [Binding.imprint?, found]; rfl⟩
  obtain ⟨second, secondKnown⟩ : ∃ imprint, other.imprint? = some imprint :=
    ⟨_, by rw [Binding.imprint?, otherFound]; rfl⟩
  obtain ⟨firstKey, firstEnv, -⟩ := imprint_fields one first firstKnown
  obtain ⟨secondKey, secondEnv, -⟩ := imprint_fields other second secondKnown
  have unrelated : Unrelated first second := by
    refine ⟨by rwa [firstKey, secondKey], ?_, ?_⟩
    · rintro ⟨mapping, member, blank⟩
      exact nonblank mapping (firstEnv ▸ member) blank
    · rintro name ⟨mapping, member, named⟩ ⟨foreign, present, same⟩
      exact apart mapping (firstEnv ▸ member) foreign (secondEnv ▸ present) (named.trans same.symm)
  obtain ⟨path, template, located, shaped, rfl⟩ :=
    template_of_project one first workload withOne firstKnown projected
  have parted := (reached.keeps lasting_parted).template path template located
  rw [projects_located located, ← firstKey] at absent
  have departed := template_departed parted unrelated absent
  have between := located_withTemplateAt located (projectedTemplate first template)
  have worksBoth := (project_located other second between secondKnown).resolve_right fun fails =>
    fails.1 (shaped_projectedTemplate first template shaped)
  have worksAlone := (project_located other second located secondKnown).resolve_right fun fails =>
    fails.1 shaped
  refine ⟨_, _, worksBoth.2, ?_, worksAlone.2⟩
  rw [withTemplateAt_twice located]
  refine (unproject_located one (located_withTemplateAt located _)).trans ?_
  rw [← firstKey, departed, withTemplateAt_twice located]

section Sample

/-- A third binding, which maps a variable of its own. -/
def visitingBinding : Binding :=
  { mappingBinding "third" with
    spec := { (mappingBinding "third").spec with env := [{ name := "HOST", key := "host" }] } }

theorem visitor_absent : ¬ sharedWorkload.Projects visitingBinding.key := by
  rintro ⟨path, template, located, held⟩
  have unmarked : ((sharedWorkload.template?.map annotationsIn).bind
      (Table.lookup (annotationName "secret" visitingBinding.key))) = none := by decide +kernel
  rw [template_located located] at unmarked
  exact held unmarked

/-- A visitor comes to a workload with two bindings and goes after one of them was renewed. -/
theorem departure_exact_visit :
    ∃ visited both without,
      PodTemplate.projector.project visitingBinding sharedWorkload = .ok visited ∧
      PodTemplate.projector.project (mappingBinding "second") visited = .ok both ∧
      PodTemplate.projector.unproject visitingBinding both = .ok without ∧
      PodTemplate.projector.project (mappingBinding "second") sharedWorkload = .ok without := by
  cases projected : PodTemplate.projector.project visitingBinding sharedWorkload with
  | error failure =>
      have works : (PodTemplate.projector.project visitingBinding
        sharedWorkload).toOption.isSome = true := by decide +kernel
      simp [projected, Except.toOption] at works
  | ok visited =>
      obtain ⟨both, without, departs⟩ := departure_exact sharedWorkload visited visitingBinding
        (mappingBinding "second") reached_sharedWorkload (by decide) (by decide) (by decide)
        (by decide) (by decide) visitor_absent projected
      exact ⟨visited, both, without, rfl, departs⟩

end Sample

end BindingOperator
