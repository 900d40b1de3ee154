import BindingOperator.Proofs.Projection.Templates

/-!
Pod templates under removal. What is left of the spec, of the annotations and of the ledger
is given by functions of their own, and `Settled` says that a binding has left nothing to
remove. A settled template is a fixed point of removal, and removal settles any template,
whatever bookkeeping it finds.
-/

namespace BindingOperator

section Specs

variable (volume : String) (owned : OwnedEnv)

theorem unprojectContainers_append (left right : List Json) (ledger : Ledger) :
    unprojectContainers volume owned (left ++ right) ledger =
      ((unprojectContainers volume owned left ledger).1 ++
        (unprojectContainers volume owned right (unprojectContainers volume owned left ledger).2).1,
        (unprojectContainers volume owned right
          (unprojectContainers volume owned left ledger).2).2) := by
  induction left generalizing ledger with
  | nil => rfl
  | cons item rest ih =>
      rw [List.cons_append, unprojectContainers_cons, ih, unprojectContainers_cons]
      rfl

theorem unprojectContainerLists_cons (list : String) (rest : List String) (spec : Table Json)
    (ledger : Ledger) :
    unprojectContainerLists volume owned (list :: rest) (spec, ledger) =
      unprojectContainerLists volume owned rest
        (mapListField list (fun items => (unprojectContainers volume owned items ledger).1) spec,
          (unprojectContainers volume owned (itemsOf list spec) ledger).2) := by
  rw [unprojectContainerLists, mapListField, itemsOf]
  cases (Table.lookup list spec).bind Json.asArray? <;> rfl

def unvolumed (spec : Table Json) (ledger : Ledger) : Table Json × Ledger :=
  releaseField (mapListField "volumes"
    (fun volumes => volumes.filter fun entry => entryName entry ≠ some volume) spec)
    "volumes" "volumes" ledger

theorem lookup_unvolumed (field : String) (spec : Table Json) (ledger : Ledger)
    (ordered : Table.Ordered spec) :
    Table.lookup field (unvolumed volume spec ledger).1 =
      if field = "volumes" then releasedValue ((Table.lookup "volumes" spec).map
        (changeItems fun volumes => volumes.filter fun entry => entryName entry ≠ some volume))
        ("volumes" ∈ ledger.created)
      else Table.lookup field spec := by
  rw [unvolumed, lookup_releaseField _ _ _ _ _ (ordered_mapListField _ _ _ ordered),
    lookup_mapListField, lookup_mapListField]
  simp only [if_true]
  split
  · rfl
  · rfl

/-- The lists of containers are cleared one after the other, under one ledger. -/
theorem unprojectSpec_eq (spec : Table Json) (ledger : Ledger) (ordered : Table.Ordered spec) :
    unprojectSpec volume owned spec ledger =
      (mapListField "containers" (fun items => (unprojectContainers volume owned items
          (unprojectContainers volume owned (itemsOf "initContainers" spec)
            (unvolumed volume spec ledger).2).2).1)
        (mapListField "initContainers" (fun items => (unprojectContainers volume owned items
          (unvolumed volume spec ledger).2).1) (unvolumed volume spec ledger).1),
        (unprojectContainers volume owned (containersOf spec) (unvolumed volume spec ledger).2).2) := by
  have same : ∀ list ∈ containerLists,
      itemsOf list (unvolumed volume spec ledger).1 = itemsOf list spec := by
    intro list known
    apply itemsOf_congr
    rw [lookup_unvolumed volume list spec ledger ordered, if_neg]
    rintro rfl
    simp at known
  change unprojectContainerLists volume owned containerLists (unvolumed volume spec ledger) = _
  rw [containerLists, ← Prod.mk.eta (p := unvolumed volume spec ledger),
    unprojectContainerLists_cons, unprojectContainerLists_cons,
    itemsOf_mapListField_other _ _ _ _ (by decide), same _ (by simp),
    same _ (by simp), containersOf, unprojectContainers_append]
  rfl

end Specs

section Specs

variable (volume : String) (owned : OwnedEnv) (spec : Table Json) (ledger : Ledger)

/-- What a removal from a pod spec leaves to be found in it. -/
theorem lookup_unprojectSpec (field : String) (ordered : Table.Ordered spec) :
    Table.lookup field (unprojectSpec volume owned spec ledger).1 =
      if field = "containers" then (Table.lookup "containers" spec).map
        (changeItems fun items => (unprojectContainers volume owned items
          (unprojectContainers volume owned (itemsOf "initContainers" spec)
            (unvolumed volume spec ledger).2).2).1)
      else if field = "initContainers" then (Table.lookup "initContainers" spec).map
        (changeItems fun items => (unprojectContainers volume owned items
          (unvolumed volume spec ledger).2).1)
      else Table.lookup field (unvolumed volume spec ledger).1 := by
  have main := lookup_unvolumed volume "containers" spec ledger ordered
  have init := lookup_unvolumed volume "initContainers" spec ledger ordered
  have apart : ¬ "containers" = "initContainers" := by decide
  rw [if_neg (by decide)] at main init
  rw [unprojectSpec_eq volume owned spec ledger ordered, lookup_mapListField,
    lookup_mapListField, lookup_mapListField, main, init]
  simp only [apart, if_false]

theorem containersOf_unprojectSpec (ordered : Table.Ordered spec) :
    containersOf (unprojectSpec volume owned spec ledger).1 =
      (unprojectContainers volume owned (containersOf spec) (unvolumed volume spec ledger).2).1 := by
  have found := fun field => lookup_unprojectSpec volume owned spec ledger field ordered
  have main := itemsOf_changed "containers" spec _ _ rfl ((found "containers").trans (if_pos rfl))
  have init := itemsOf_changed "initContainers" spec _ _ rfl
    ((found "initContainers").trans ((if_neg (by decide)).trans (if_pos rfl)))
  rw [containersOf, main, init, containersOf, unprojectContainers_append]

theorem lookup_volumes_unprojectSpec (ordered : Table.Ordered spec) :
    Table.lookup "volumes" (unprojectSpec volume owned spec ledger).1 =
      releasedValue ((Table.lookup "volumes" spec).map
        (changeItems fun volumes => volumes.filter fun entry => entryName entry ≠ some volume))
        ("volumes" ∈ ledger.created) := by
  rw [lookup_unprojectSpec volume owned spec ledger "volumes" ordered, if_neg (by decide),
    if_neg (by decide), lookup_unvolumed volume "volumes" spec ledger ordered, if_pos rfl]

theorem itemsOf_volumes_unprojectSpec (ordered : Table.Ordered spec) :
    itemsOf "volumes" (unprojectSpec volume owned spec ledger).1 =
      (itemsOf "volumes" spec).filter fun entry => entryName entry ≠ some volume :=
  itemsOf_released _ spec _ _ _ rfl (lookup_volumes_unprojectSpec volume owned spec ledger ordered)

theorem ascending_unvolumed (ascending : ledger.Ascending) :
    (unvolumed volume spec ledger).2.Ascending :=
  ascending_releaseField _ _ _ _ ascending

theorem mem_created_unvolumed (marker : String) (ascending : ledger.Ascending) :
    marker ∈ (unvolumed volume spec ledger).2.created ↔
      marker ∈ ledger.created ∧ ¬ (marker = "volumes" ∧
        ((Table.lookup "volumes" spec).map (changeItems fun volumes =>
          volumes.filter fun entry => entryName entry ≠ some volume)).any isEmptyCollection =
            true) := by
  rw [unvolumed, mem_created_releaseField _ _ _ _ _ ascending, lookup_mapListField, if_pos rfl]

theorem roots_unvolumed : (unvolumed volume spec ledger).2.roots = ledger.roots :=
  roots_releaseField _ _ _ _

theorem ascending_unprojectSpec (ordered : Table.Ordered spec) (ascending : ledger.Ascending) :
    (unprojectSpec volume owned spec ledger).2.Ascending := by
  rw [unprojectSpec_eq volume owned spec ledger ordered]
  exact ascending_unprojectContainers _ _ _ _ (ascending_unvolumed volume spec ledger ascending)

theorem unprojectSpec_within (canonical : Json.Canonical (.object spec))
    (ascending : ledger.Ascending) :
    (unprojectSpec volume owned spec ledger).2.Within (unvolumed volume spec ledger).2 := by
  rw [unprojectSpec_eq volume owned spec ledger (Json.canonical_ordered spec canonical)]
  exact unprojectContainers_within _ _ _ _ (canonical_containersOf spec canonical)
    (ascending_unvolumed volume spec ledger ascending)

/-- The markers of the metadata are not the spec's to remove. -/
theorem mem_created_unprojectSpec (marker : String) (canonical : Json.Canonical (.object spec))
    (ascending : ledger.Ascending) (known : marker ∈ templateMarkers)
    (different : marker ≠ "volumes") :
    marker ∈ (unprojectSpec volume owned spec ledger).2.created ↔ marker ∈ ledger.created := by
  rw [unprojectSpec_eq volume owned spec ledger (Json.canonical_ordered spec canonical),
    unprojectContainers_template _ _ _ _ marker (canonical_containersOf spec canonical)
      (ascending_unvolumed volume spec ledger ascending) known,
    mem_created_unvolumed volume spec ledger marker ascending]
  simp [different]

theorem ordered_unprojectSpec (ordered : Table.Ordered spec) :
    Table.Ordered (unprojectSpec volume owned spec ledger).1 := by
  rw [unprojectSpec_eq volume owned spec ledger ordered]
  exact ordered_mapListField _ _ _ (ordered_mapListField _ _ _
    (ordered_releaseField _ _ _ _ (ordered_mapListField _ _ _ ordered)))

theorem canonical_unvolumed (canonical : Json.Canonical (.object spec)) :
    Json.Canonical (.object (unvolumed volume spec ledger).1) := by
  refine canonical_releaseField _ _ _ _ (canonical_mapListField _ _ _ canonical ?_)
  exact fun item member => canonical_itemsOf "volumes" spec canonical item
    (List.mem_filter.mp member).1

theorem canonical_unprojectSpec (canonical : Json.Canonical (.object spec))
    (ascending : ledger.Ascending) :
    Json.Canonical (.object (unprojectSpec volume owned spec ledger).1) := by
  have ordered := Json.canonical_ordered spec canonical
  have left := ascending_unvolumed volume spec ledger ascending
  have cleared : ∀ (list : String) (ledger : Ledger) (parent : Table Json), ledger.Ascending →
      Json.Canonical (.object parent) → Json.Canonical (.object (mapListField list
        (fun items => (unprojectContainers volume owned items ledger).1) parent)) := by
    intro list ledger parent ascending inner
    apply canonical_mapListField _ _ _ inner
    intro item member
    exact (mem_unprojectContainers volume owned _ ledger
      (canonical_itemsOf list parent inner) ascending item member).1
  rw [unprojectSpec_eq volume owned spec ledger ordered]
  exact cleared _ _ _ (ascending_unprojectContainers _ _ _ _ left)
    (cleared _ _ _ left (canonical_unvolumed volume spec ledger canonical))

/-- Nothing of a volume is left in a pod spec, and nothing that the ledger notes is unused. -/
structure SettledSpec : Prop where
  absent : some volume ∉ entryNames (itemsOf "volumes" spec)
  used : (Table.lookup "volumes" spec).any isEmptyCollection = true → "volumes" ∉ ledger.created
  containers : ∀ item ∈ containersOf spec, SettledItem ledger item
  unmounted : ∀ item ∈ containersOf spec, UnmountedItem volume item

theorem SettledSpec.mono {volume : String} {spec : Table Json} {ledger fewer : Ledger}
    (settled : SettledSpec volume spec ledger) (less : fewer.Within ledger) :
    SettledSpec volume spec fewer where
  absent := settled.absent
  used empty member := settled.used empty (less.created _ member)
  containers item member := (settled.containers item member).mono less
  unmounted := settled.unmounted

theorem unvolumed_settled (ordered : Table.Ordered spec)
    (settled : SettledSpec volume spec ledger) :
    unvolumed volume spec ledger = (spec, ledger) := by
  have same : mapListField "volumes" (fun volumes =>
      volumes.filter fun entry => entryName entry ≠ some volume) spec = spec :=
    mapListField_self _ _ _ ordered (filter_unmounted volume _ settled.absent)
  rw [unvolumed, same, releaseField]
  rw [if_neg]
  intro both
  simp only [Bool.and_eq_true, List.contains_iff_mem] at both
  exact settled.used both.1 both.2

theorem unprojectSpec_settled (canonical : Json.Canonical (.object spec))
    (ascending : ledger.Ascending) (settled : SettledSpec volume spec ledger) :
    unprojectSpec volume [] spec ledger = (spec, ledger) := by
  have ordered := Json.canonical_ordered spec canonical
  have same : ∀ items, (∀ item ∈ items, item ∈ containersOf spec) →
      unprojectContainers volume [] items ledger = (items, ledger) := fun items inside =>
    unprojectContainers_settled volume items ledger
      (fun item member => canonical_containersOf spec canonical item (inside item member))
      ascending (fun item member => settled.containers item (inside item member))
      (fun item member => settled.unmounted item (inside item member))
  have init := same (itemsOf "initContainers" spec) fun item member => List.mem_append_left _ member
  have main := same (itemsOf "containers" spec) fun item member => List.mem_append_right _ member
  have all := same (containersOf spec) fun item member => member
  apply Prod.ext
  · apply Table.ext _ _ (ordered_unprojectSpec volume [] spec ledger ordered) ordered
    intro field
    have unchanged : ∀ (list : String) (cleared : Ledger), cleared = ledger →
        unprojectContainers volume [] (itemsOf list spec) ledger = (itemsOf list spec, ledger) →
        (Table.lookup list spec).map (changeItems fun items =>
          (unprojectContainers volume [] items cleared).1) = Table.lookup list spec := by
      rintro list cleared rfl kept
      apply lookup_sameItems
      rw [kept]
    rw [lookup_unprojectSpec volume [] spec ledger field ordered,
      unvolumed_settled volume spec ledger ordered settled]
    split
    · next known => rw [known, unchanged "containers" _ (by rw [init]) main]
    · split
      · next known => rw [known, unchanged "initContainers" _ rfl init]
      · rfl
  · rw [unprojectSpec_eq volume [] spec ledger ordered,
      unvolumed_settled volume spec ledger ordered settled, all]

/-- Removal settles a pod spec under the ledger that it leaves. -/
theorem settled_unprojectSpec (canonical : Json.Canonical (.object spec))
    (ascending : ledger.Ascending) :
    SettledSpec volume (unprojectSpec volume owned spec ledger).1
      (unprojectSpec volume owned spec ledger).2 := by
  have ordered := Json.canonical_ordered spec canonical
  have each := mem_unprojectContainers volume owned (containersOf spec)
    (unvolumed volume spec ledger).2 (canonical_containersOf spec canonical)
    (ascending_unvolumed volume spec ledger ascending)
  have last : (unprojectSpec volume owned spec ledger).2 = (unprojectContainers volume owned
      (containersOf spec) (unvolumed volume spec ledger).2).2 := by
    rw [unprojectSpec_eq volume owned spec ledger ordered]
  constructor
  · rw [itemsOf_volumes_unprojectSpec volume owned spec ledger ordered]
    intro member
    obtain ⟨entry, present, named⟩ := List.mem_map.mp member
    simpa [named] using (List.mem_filter.mp present).2
  · intro empty member
    have before := (unprojectSpec_within volume owned spec ledger canonical ascending).created
      "volumes" member
    rw [mem_created_unvolumed volume spec ledger "volumes" ascending] at before
    rw [lookup_volumes_unprojectSpec volume owned spec ledger ordered, releasedValue_kept _ _
      fun nothing => absurd ⟨rfl, nothing⟩ before.2] at empty
    exact before.2 ⟨rfl, empty⟩
  · rw [containersOf_unprojectSpec volume owned spec ledger ordered, last]
    exact fun item member => (each item member).2.2
  · rw [containersOf_unprojectSpec volume owned spec ledger ordered]
    exact fun item member => (each item member).2.1

end Specs

section Annotations

variable (key : String) (annotations : Table Json)

theorem lookup_eraseAnnotations (name : String) (ordered : Table.Ordered annotations) :
    Table.lookup name (eraseAnnotations key annotations) =
      if ∃ field ∈ markFields, name = annotationName field key then none
      else Table.lookup name annotations := by
  have erased : ∀ (fields : List String) (table : Table Json), Table.Ordered table →
      Table.lookup name (fields.foldl
        (fun table field => Table.erase (annotationName field key) table) table) =
        if ∃ field ∈ fields, name = annotationName field key then none
        else Table.lookup name table := by
    intro fields
    induction fields with
    | nil => simp
    | cons field rest ih =>
        intro table ordered
        rw [List.foldl_cons, ih _ (Table.ordered_erase _ _ ordered),
          Table.lookup_erase _ _ _ ordered]
        simp only [List.exists_mem_cons_iff]
        by_cases first : name = annotationName field key
        · simp [first]
        · simp [first]
  exact erased markFields annotations ordered

/-- Erasing the annotations of a binding erases its Secret and no other. -/
theorem secret_erased (ordered : Table.Ordered annotations) (other : String) :
    Table.lookup (annotationName "secret" other) (eraseAnnotations key annotations) ≠ none ↔
      other ≠ key ∧ Table.lookup (annotationName "secret" other) annotations ≠ none := by
  rw [lookup_eraseAnnotations key annotations _ ordered]
  by_cases own : other = key
  · rw [if_pos ⟨"secret", by simp, by rw [own]⟩]
    simp [own]
  · rw [if_neg]
    · simp [own]
    · rintro ⟨field, known, same⟩
      exact own ((annotationName_inj "secret" field other key (by simp) known).mp same).2

theorem canonical_eraseAnnotations (canonical : Json.Canonical (.object annotations)) :
    Json.Canonical (.object (eraseAnnotations key annotations)) :=
  Json.canonical_erase _ _ (Json.canonical_erase _ _ (Json.canonical_erase _ _
    (Json.canonical_erase _ _ canonical)))

def leftAnnotations (ledger : Ledger) (annotations : Table Json) : Table Json :=
  writeRecord ledgerAnnotation ledger.toJson
    (!hasProjection (eraseAnnotations key annotations) || ledger.isEmpty)
    (eraseAnnotations key annotations)

theorem canonical_leftAnnotations (ledger : Ledger)
    (canonical : Json.Canonical (.object annotations)) :
    Json.Canonical (.object (leftAnnotations key ledger annotations)) :=
  canonical_writeRecord _ _ _ _ (canonical_eraseAnnotations key annotations canonical)

theorem lookup_leftAnnotations (ledger : Ledger) (name : String)
    (canonical : Json.Canonical (.object annotations)) :
    Table.lookup name (leftAnnotations key ledger annotations) =
      if name = ledgerAnnotation then
        if !hasProjection (eraseAnnotations key annotations) || ledger.isEmpty then none
        else some (.string ledger.toJson.compact)
      else if ∃ field ∈ markFields, name = annotationName field key then none
      else Table.lookup name annotations := by
  have erased := Json.canonical_ordered _ (canonical_eraseAnnotations key annotations canonical)
  rw [leftAnnotations, writeRecord, Table.lookup_assign _ _ _ _ erased,
    lookup_eraseAnnotations key annotations name (Json.canonical_ordered _ canonical)]

/-- An annotation that is not one of the binding that leaves, and not the ledger, stays. -/
theorem lookup_left_other (ledger : Ledger) (name : String)
    (canonical : Json.Canonical (.object annotations)) (shared : name ≠ ledgerAnnotation)
    (foreign : ¬ ∃ field ∈ markFields, name = annotationName field key) :
    Table.lookup name (leftAnnotations key ledger annotations) =
      Table.lookup name annotations := by
  rw [lookup_leftAnnotations key annotations ledger name canonical, if_neg shared,
    if_neg foreign]

/-- The ledger that can be read after a removal: what was left, as long as some binding is
projected. -/
theorem ledgerOf_left (ledger : Ledger) (canonical : Json.Canonical (.object annotations))
    (ascending : ledger.Ascending) :
    ledgerOf (leftAnnotations key ledger annotations) =
      if hasProjection (eraseAnnotations key annotations) = true then ledger else {} := by
  rw [ledgerOf, lookup_leftAnnotations key annotations ledger _ canonical, if_pos rfl]
  cases projected : hasProjection (eraseAnnotations key annotations) with
  | true => simpa using readRecord_ledger ledger ascending
  | false => rfl

theorem ledgerOf_left_within (ledger : Ledger) (canonical : Json.Canonical (.object annotations))
    (ascending : ledger.Ascending) :
    (ledgerOf (leftAnnotations key ledger annotations)).Within ledger := by
  rw [ledgerOf_left key annotations ledger canonical ascending]
  split
  · exact .refl ledger
  · exact ledger.within_of_empty

theorem eraseAnnotations_absent
    (absent : ∀ field ∈ markFields, Table.lookup (annotationName field key) annotations = none) :
    eraseAnnotations key annotations = annotations := by
  have erased : ∀ fields : List String,
      (∀ field ∈ fields, Table.lookup (annotationName field key) annotations = none) →
      fields.foldl (fun table field => Table.erase (annotationName field key) table) annotations =
        annotations := by
    intro fields
    induction fields with
    | nil => exact fun _ => rfl
    | cons field rest ih =>
        intro none
        rw [List.foldl_cons, Table.erase_absent _ _ (none field List.mem_cons_self)]
        exact ih fun other member => none other (List.mem_cons_of_mem _ member)
  exact erased markFields absent

theorem hasProjection_congr (left right : Table Json) (leftOrdered : Table.Ordered left)
    (rightOrdered : Table.Ordered right)
    (same : ∀ key, Table.lookup (annotationName "secret" key) left =
      Table.lookup (annotationName "secret" key) right) :
    hasProjection left = hasProjection right := by
  rw [Bool.eq_iff_iff, hasProjection_iff left leftOrdered, hasProjection_iff right rightOrdered]
  simp only [Table.has, same]

theorem marks_leftAnnotations (ledger : Ledger) (canonical : Json.Canonical (.object annotations)) :
    ∀ field ∈ markFields,
      Table.lookup (annotationName field key) (leftAnnotations key ledger annotations) = none := by
  intro field known
  rw [lookup_leftAnnotations key annotations ledger _ canonical,
    if_neg (annotationName_ne_ledger field key known), if_pos ⟨field, known, rfl⟩]

/-- The ledger annotation does not say who is projected. -/
theorem hasProjection_leftAnnotations (ledger : Ledger)
    (canonical : Json.Canonical (.object annotations)) :
    hasProjection (leftAnnotations key ledger annotations) =
      hasProjection (eraseAnnotations key annotations) := by
  have left := canonical_leftAnnotations key annotations ledger canonical
  have erased := canonical_eraseAnnotations key annotations canonical
  apply hasProjection_congr _ _ (Json.canonical_ordered _ left) (Json.canonical_ordered _ erased)
  intro other
  rw [lookup_leftAnnotations key annotations ledger _ canonical,
    if_neg (annotationName_ne_ledger "secret" other (by simp)),
    lookup_eraseAnnotations key annotations _ (Json.canonical_ordered _ canonical)]

/-- Annotations that a binding has left are left as they are by another removal. -/
theorem leftAnnotations_again (ledger : Ledger) (canonical : Json.Canonical (.object annotations))
    (ascending : ledger.Ascending) :
    leftAnnotations key (ledgerOf (leftAnnotations key ledger annotations))
      (leftAnnotations key ledger annotations) = leftAnnotations key ledger annotations := by
  have first := canonical_leftAnnotations key annotations ledger canonical
  have ordered := Json.canonical_ordered _ first
  have erased := eraseAnnotations_absent key _
    (marks_leftAnnotations key annotations ledger canonical)
  rw [leftAnnotations, erased, hasProjection_leftAnnotations key annotations ledger canonical,
    writeRecord]
  apply Table.assign_same _ _ _ ordered
  rw [lookup_leftAnnotations key annotations ledger _ canonical, if_pos rfl,
    ledgerOf_left key annotations ledger canonical ascending]
  cases hasProjection (eraseAnnotations key annotations) with
  | true => simp
  | false => simp

end Annotations

section Templates

variable (key : String) (template : Table Json)

def leftSpec : Table Json × Ledger :=
  unprojectSpec (volumeName key) (ownedEnvOf key (annotationsIn template))
    (fieldsOf "spec" template) (ledgerOf (annotationsIn template))

def leftMetadata (metadata : Table Json) : Table Json :=
  (releaseField (mapTable "annotations" (leftAnnotations key (leftSpec key template).2) metadata)
    "annotations" "annotations" (leftSpec key template).2).1

theorem ascending_leftSpec (canonical : Json.Canonical (.object template)) :
    (leftSpec key template).2.Ascending :=
  ascending_unprojectSpec _ _ _ _ (Json.canonical_ordered _ (canonical_fieldsOf _ _ canonical))
    (ascending_ledgerOf _)

def leftTemplate : Table Json :=
  mapTable "metadata" (leftMetadata key template)
    (mapTable "spec" (fun spec => (unprojectSpec (volumeName key)
      (ownedEnvOf key (annotationsIn template)) spec (ledgerOf (annotationsIn template))).1) template)

/-- Only the last step of a removal reads the ledger about the metadata. -/
theorem unprojectTemplate_eq (ordered : Table.Ordered template) :
    ∃ metadata, unprojectTemplate key template = (releaseField (leftTemplate key template)
      "metadata" "metadata" (releaseField metadata "annotations" "annotations"
        (leftSpec key template).2).2).1 := by
  have records : ((annotationsOf? template).map fun annotations =>
      (ledgerOf annotations, ownedEnvOf key annotations)).getD ({}, []) =
      (ledgerOf (annotationsIn template), ownedEnvOf key (annotationsIn template)) :=
    annotationsOf_getD template _ _ rfl
  have spec : ∀ change : Table Json → Table Json,
      fieldsOf "spec" (mapTable "metadata" change template) = fieldsOf "spec" template := by
    intro change
    have apart : ¬ "spec" = "metadata" := by decide
    simp only [fieldsOf, lookup_mapTable, apart, if_false]
  unfold unprojectTemplate
  simp only [records, mapAnnotations_eq]
  rw [mapTableField_eq "spec" _ _ _ rfl]
  simp only [spec]
  rw [mapTableField_eq "metadata" _ _ _ rfl, ← leftSpec, mapTable_mapTable,
    mapTable_comm "spec" "metadata" _ _ _ ordered (by decide), mapTable_mapTable]
  simp only [mapTable_mapTable]
  exact ⟨_, rfl⟩

/-- What a removal leaves to be found in a template. -/
theorem lookup_unprojectTemplate (field : String) (canonical : Json.Canonical (.object template)) :
    Table.lookup field (unprojectTemplate key template) =
      if field = "metadata" then
        releasedValue ((Table.lookup "metadata" template).map
          (changeFields (leftMetadata key template))) ("metadata" ∈ (leftSpec key template).2.created)
      else if field = "spec" then (Table.lookup "spec" template).map
        (changeFields fun spec => (unprojectSpec (volumeName key)
          (ownedEnvOf key (annotationsIn template)) spec (ledgerOf (annotationsIn template))).1)
      else Table.lookup field template := by
  have before := Json.canonical_ordered _ canonical
  obtain ⟨metadata, same⟩ := unprojectTemplate_eq key template before
  have ordered : Table.Ordered (leftTemplate key template) :=
    ordered_mapTable _ _ _ (ordered_mapTable _ _ _ before)
  have marked : "metadata" ∈ (releaseField metadata "annotations" "annotations"
      (leftSpec key template).2).2.created ↔ "metadata" ∈ (leftSpec key template).2.created := by
    rw [mem_created_releaseField _ _ _ _ _ (ascending_leftSpec key template canonical)]
    simp
  have inside : Table.lookup "metadata" (leftTemplate key template) =
      (Table.lookup "metadata" template).map (changeFields (leftMetadata key template)) := by
    rw [leftTemplate, lookup_mapTable, if_pos rfl, lookup_mapTable, if_neg (by decide)]
  rw [same, lookup_releaseField _ _ _ _ _ ordered, inside]
  by_cases known : field = "metadata"
  · simp only [known, marked, if_true]
  · rw [if_neg known, if_neg known, leftTemplate, lookup_mapTable, if_neg known, lookup_mapTable]

theorem spec_unprojectTemplate (canonical : Json.Canonical (.object template)) :
    fieldsOf "spec" (unprojectTemplate key template) = (leftSpec key template).1 := by
  refine fieldsOf_changed "spec" template _ (fun spec => (unprojectSpec (volumeName key)
    (ownedEnvOf key (annotationsIn template)) spec (ledgerOf (annotationsIn template))).1) rfl ?_
  rw [lookup_unprojectTemplate key template "spec" canonical, if_neg (by decide), if_pos rfl]

/-- Every container of the template that is left was cleared under a ledger of its own. -/
theorem cleared_of_unprojectTemplate (canonical : Json.Canonical (.object template)) :
    ∀ item ∈ containersOf (fieldsOf "spec" (unprojectTemplate key template)),
      ∃ old ∈ containersOf (fieldsOf "spec" template), ∃ middle : Ledger, middle.Ascending ∧
        item = clearedItem (volumeName key) (ownedEnvOf key (annotationsIn template)) middle old := by
  have ordered := Json.canonical_ordered _ (canonical_fieldsOf "spec" template canonical)
  rw [spec_unprojectTemplate key template canonical, leftSpec,
    containersOf_unprojectSpec _ _ _ _ ordered]
  exact cleared_of_mem _ _ _ _ (ascending_unvolumed _ _ _ (ascending_ledgerOf _))

theorem containerNames_unprojectTemplate (canonical : Json.Canonical (.object template)) :
    containerNames (containersOf (fieldsOf "spec" (unprojectTemplate key template))) =
      containerNames (containersOf (fieldsOf "spec" template)) := by
  have spec := canonical_fieldsOf "spec" template canonical
  rw [spec_unprojectTemplate key template canonical, leftSpec,
    containersOf_unprojectSpec _ _ _ _ (Json.canonical_ordered _ spec),
    containerNames_unprojected _ _ _ _ (canonical_containersOf _ spec)
      (ascending_unvolumed _ _ _ (ascending_ledgerOf _))]

theorem metadata_unprojectTemplate (canonical : Json.Canonical (.object template)) :
    fieldsOf "metadata" (unprojectTemplate key template) =
      leftMetadata key template (fieldsOf "metadata" template) := by
  refine fieldsOf_released "metadata" template _ _
    ("metadata" ∈ (leftSpec key template).2.created) rfl ?_
  rw [lookup_unprojectTemplate key template "metadata" canonical, if_pos rfl]

theorem lookup_leftMetadata (metadata : Table Json) (field : String)
    (ordered : Table.Ordered metadata) :
    Table.lookup field (leftMetadata key template metadata) =
      if field = "annotations" then
        releasedValue ((Table.lookup "annotations" metadata).map
          (changeFields (leftAnnotations key (leftSpec key template).2)))
          ("annotations" ∈ (leftSpec key template).2.created)
      else Table.lookup field metadata := by
  rw [leftMetadata, lookup_releaseField _ _ _ _ _ (ordered_mapTable _ _ _ ordered),
    lookup_mapTable, lookup_mapTable]
  split
  · rfl
  · rfl

theorem annotationsIn_unprojectTemplate (canonical : Json.Canonical (.object template)) :
    annotationsIn (unprojectTemplate key template) =
      leftAnnotations key (leftSpec key template).2 (annotationsIn template) := by
  have ordered := Json.canonical_ordered _ (canonical_fieldsOf "metadata" template canonical)
  rw [annotationsIn, metadata_unprojectTemplate key template canonical]
  refine fieldsOf_released "annotations" (fieldsOf "metadata" template) _ _
    ("annotations" ∈ (leftSpec key template).2.created) rfl ?_
  rw [lookup_leftMetadata key template _ _ ordered, if_pos rfl]

theorem canonical_annotationsIn (canonical : Json.Canonical (.object template)) :
    Json.Canonical (.object (annotationsIn template)) :=
  canonical_fieldsOf _ _ (canonical_fieldsOf _ _ canonical)

theorem secret_unprojected (canonical : Json.Canonical (.object template)) (other : String) :
    Table.lookup (annotationName "secret" other)
        (annotationsIn (unprojectTemplate key template)) ≠ none ↔
      other ≠ key ∧
        Table.lookup (annotationName "secret" other) (annotationsIn template) ≠ none := by
  rw [annotationsIn_unprojectTemplate key template canonical,
    lookup_leftAnnotations key _ _ _ (canonical_annotationsIn template canonical),
    if_neg (annotationName_ne_ledger "secret" other (by simp)),
    ← lookup_eraseAnnotations key _ _ (ordered_annotationsIn template canonical)]
  exact secret_erased key _ (ordered_annotationsIn template canonical) other

theorem canonical_leftMetadata (metadata : Table Json)
    (canonical : Json.Canonical (.object metadata)) :
    Json.Canonical (.object (leftMetadata key template metadata)) :=
  canonical_releaseField _ _ _ _ (canonical_mapTable _ _ _ canonical
    (canonical_leftAnnotations _ _ _ (canonical_fieldsOf _ _ canonical)))

theorem canonical_unprojectTemplate (canonical : Json.Canonical (.object template)) :
    Json.Canonical (.object (unprojectTemplate key template)) := by
  obtain ⟨metadata, same⟩ :=
    unprojectTemplate_eq key template (Json.canonical_ordered _ canonical)
  rw [same]
  have spec := canonical_mapTable "spec" (fun spec => (unprojectSpec (volumeName key)
    (ownedEnvOf key (annotationsIn template)) spec (ledgerOf (annotationsIn template))).1) template
    canonical (canonical_unprojectSpec _ _ _ _ (canonical_fieldsOf _ _ canonical)
      (ascending_ledgerOf _))
  exact canonical_releaseField _ _ _ _ (canonical_mapTable _ _ _ spec
    (canonical_leftMetadata key template _ (canonical_fieldsOf _ _ spec)))

theorem ownedEnvOf_unprojectTemplate (other : String)
    (canonical : Json.Canonical (.object template)) :
    ownedEnvOf other (annotationsIn (unprojectTemplate key template)) =
      if other = key then [] else ownedEnvOf other (annotationsIn template) := by
  have known : "env" ∈ markFields := by simp
  rw [annotationsIn_unprojectTemplate key template canonical, ownedEnvOf,
    lookup_leftAnnotations key _ _ _ (canonical_annotationsIn template canonical),
    if_neg (annotationName_ne_ledger "env" other known)]
  by_cases same : other = key
  · rw [if_pos ⟨"env", known, by rw [same]⟩, if_pos same, readRecord_none]
  · rw [if_neg, if_neg same, ← ownedEnvOf]
    rintro ⟨field, present, equal⟩
    exact same ((annotationName_inj "env" field other key known present).mp equal).2

/-- A binding has left nothing to remove from a template. -/
structure Settled : Prop where
  marks : ∀ field ∈ markFields,
    Table.lookup (annotationName field key) (annotationsIn template) = none
  spec : SettledSpec (volumeName key) (fieldsOf "spec" template)
    (ledgerOf (annotationsIn template))
  written : leftAnnotations key (ledgerOf (annotationsIn template)) (annotationsIn template) =
    annotationsIn template
  annotations : (Table.lookup "annotations" (fieldsOf "metadata" template)).any
    isEmptyCollection = true → "annotations" ∉ (ledgerOf (annotationsIn template)).created
  metadata : (Table.lookup "metadata" template).any isEmptyCollection = true →
    "metadata" ∉ (ledgerOf (annotationsIn template)).created

section Settled

variable (canonical : Json.Canonical (.object template)) (settled : Settled key template)
include settled

theorem ownedEnvOf_settled : ownedEnvOf key (annotationsIn template) = [] := by
  rw [ownedEnvOf, settled.marks "env" (by simp), readRecord_none]

include canonical

theorem leftSpec_settled :
    leftSpec key template = (fieldsOf "spec" template, ledgerOf (annotationsIn template)) := by
  rw [leftSpec, ownedEnvOf_settled key template settled]
  exact unprojectSpec_settled (volumeName key) _ _ (canonical_fieldsOf "spec" template canonical)
    (ascending_ledgerOf _) settled.spec

theorem leftMetadata_settled (fields : Table Json)
    (found : Table.lookup "metadata" template = some (.object fields)) :
    leftMetadata key template fields = fields := by
  have inside := fieldsOf_object _ _ _ found
  have within := canonical_fieldsOf "metadata" template canonical
  rw [inside] at within
  have ordered := Json.canonical_ordered _ within
  apply Table.ext _ _ (Json.canonical_ordered _ (canonical_leftMetadata key template fields within))
    ordered
  intro field
  -- only the annotations are changed, and they are what was written before
  rw [lookup_leftMetadata key template fields field ordered, lookup_sameFields]
  · split
    · next known =>
      rw [known, leftSpec_settled key template canonical settled, ← inside]
      exact releasedValue_kept _ _ settled.annotations
    · rfl
  · intro annotations present
    have read : annotationsIn template = annotations := by
      rw [annotationsIn, inside, fieldsOf_object _ _ _ present]
    rw [leftSpec_settled key template canonical settled, ← read]
    exact settled.written

/-- Removing from a settled template changes nothing. -/
theorem unprojectTemplate_settled : unprojectTemplate key template = template := by
  apply Table.ext _ _ (Json.canonical_ordered _ (canonical_unprojectTemplate key template
    canonical)) (Json.canonical_ordered _ canonical)
  intro field
  rw [lookup_unprojectTemplate key template field canonical,
    lookup_sameFields "metadata" template _ (leftMetadata_settled key template canonical settled)]
  split
  · next known =>
    rw [known, leftSpec_settled key template canonical settled]
    exact releasedValue_kept _ _ settled.metadata
  · split
    · next known =>
      rw [known]
      apply lookup_sameFields
      intro fields found
      have same := congrArg Prod.fst (leftSpec_settled key template canonical settled)
      rwa [leftSpec, fieldsOf_object _ _ _ found] at same
    · rfl

end Settled

theorem leftSpec_within (canonical : Json.Canonical (.object template)) :
    (ledgerOf (annotationsIn (unprojectTemplate key template))).Within (leftSpec key template).2 := by
  rw [annotationsIn_unprojectTemplate key template canonical]
  exact ledgerOf_left_within key _ _ (canonical_annotationsIn template canonical)
    (ascending_leftSpec key template canonical)

theorem settled_unprojectTemplate (canonical : Json.Canonical (.object template)) :
    Settled key (unprojectTemplate key template) := by
  have inside := canonical_annotationsIn template canonical
  have ascending := ascending_leftSpec key template canonical
  have within := leftSpec_within key template canonical
  constructor
  · rw [annotationsIn_unprojectTemplate key template canonical]
    exact marks_leftAnnotations key _ _ inside
  · rw [spec_unprojectTemplate key template canonical]
    exact (settled_unprojectSpec _ _ _ _ (canonical_fieldsOf _ _ canonical)
      (ascending_ledgerOf _)).mono within
  · rw [annotationsIn_unprojectTemplate key template canonical]
    exact leftAnnotations_again key _ _ inside ascending
  · intro empty member
    have created := within.created _ member
    rw [metadata_unprojectTemplate key template canonical, lookup_leftMetadata key template _ _
      (Json.canonical_ordered _ (canonical_fieldsOf _ _ canonical)), if_pos rfl] at empty
    exact released_full _ _ empty created
  · intro empty member
    rw [lookup_unprojectTemplate key template _ canonical, if_pos rfl] at empty
    exact released_full _ _ empty (within.created _ member)

/-- Removal takes every variable away that the binding owned. -/
theorem disowned_unprojectTemplate (canonical : Json.Canonical (.object template)) :
    ∀ item ∈ containersOf (fieldsOf "spec" (unprojectTemplate key template)),
      DisownedItem (ownedEnvOf key (annotationsIn template)) item := by
  have spec := canonical_fieldsOf "spec" template canonical
  rw [spec_unprojectTemplate key template canonical, leftSpec,
    containersOf_unprojectSpec _ _ _ _ (Json.canonical_ordered _ spec)]
  exact disowned_unprojectContainers _ _ _ _ (canonical_containersOf _ spec)
    (ascending_unvolumed _ _ _ (ascending_ledgerOf _))

theorem nameless_unprojectTemplate (canonical : Json.Canonical (.object template)) :
    ∀ item ∈ containersOf (fieldsOf "spec" (unprojectTemplate key template)),
      namedContainer? item = none → item ∈ containersOf (fieldsOf "spec" template) := by
  have spec := canonical_fieldsOf "spec" template canonical
  rw [spec_unprojectTemplate key template canonical, leftSpec,
    containersOf_unprojectSpec _ _ _ _ (Json.canonical_ordered _ spec)]
  exact nameless_unprojectContainers _ _ _ _ (canonical_containersOf _ spec)
    (ascending_unvolumed _ _ _ (ascending_ledgerOf _))

theorem unprojectTemplate_again (canonical : Json.Canonical (.object template)) :
    unprojectTemplate key (unprojectTemplate key template) = unprojectTemplate key template :=
  unprojectTemplate_settled key _ (canonical_unprojectTemplate key template canonical)
    (settled_unprojectTemplate key template canonical)

end Templates

end BindingOperator
