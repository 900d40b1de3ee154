import BindingOperator.Proofs.Projection.ContainerLists

/-!
Pod templates under projection. `Shaped` says when projecting succeeds, and
`projectedTemplate` what it gives then; the lemmas after it say what can be read from the
result, so that nothing else needs to look at how a template is put together.
-/

namespace BindingOperator

/-- The annotations of a template; none where it has no table of them. -/
def annotationsIn (template : Table Json) : Table Json :=
  fieldsOf "annotations" (fieldsOf "metadata" template)

/-- The containers of a pod in the order they are visited. -/
def containersOf (spec : Table Json) : List Json :=
  itemsOf "initContainers" spec ++ itemsOf "containers" spec

def mapContainers (change : Json → Json) (spec : Table Json) : Table Json :=
  mapListField "containers" (List.map change)
    (mapListField "initContainers" (List.map change) spec)

theorem annotationsOf_getD {α : Type} (template : Table Json) (read : Table Json → α) (fallback : α)
    (empty : read [] = fallback) :
    ((annotationsOf? template).map read).getD fallback = read (annotationsIn template) := by
  unfold annotationsOf? annotationsIn fieldsOf
  cases (Table.lookup "metadata" template).bind Json.asObject? with
  | none => simp [empty]
  | some metadata =>
      simp only [Option.bind_some, Option.getD_some]
      cases (Table.lookup "annotations" metadata).bind Json.asObject? with
      | none => simp [empty]
      | some annotations => simp

section Containers

theorem lookup_mapContainers (change : Json → Json) (field : String) (spec : Table Json) :
    Table.lookup field (mapContainers change spec) =
      if field ∈ containerLists then
        (Table.lookup field spec).map (changeItems (List.map change))
      else Table.lookup field spec := by
  rw [mapContainers, lookup_mapListField, lookup_mapListField, lookup_mapListField]
  by_cases main : field = "containers"
  · simp [main]
  · by_cases init : field = "initContainers"
    · simp [init]
    · simp [main, init]

theorem ordered_mapContainers (change : Json → Json) (spec : Table Json)
    (ordered : Table.Ordered spec) : Table.Ordered (mapContainers change spec) :=
  ordered_mapListField _ _ _ (ordered_mapListField _ _ _ ordered)

theorem containersOf_mapContainers (change : Json → Json) (spec : Table Json) :
    containersOf (mapContainers change spec) = (containersOf spec).map change := by
  unfold containersOf mapContainers
  rw [itemsOf_mapListField_other _ _ _ _ (by decide), itemsOf_mapListField_same _ _ _ rfl,
    itemsOf_mapListField_same _ _ _ rfl, itemsOf_mapListField_other _ _ _ _ (by decide),
    List.map_append]

theorem containersOf_congr (spec other : Table Json)
    (same : ∀ list ∈ containerLists, Table.lookup list spec = Table.lookup list other) :
    containersOf spec = containersOf other := by
  unfold containersOf
  rw [itemsOf_congr _ _ _ (same "initContainers" (by simp)),
    itemsOf_congr _ _ _ (same "containers" (by simp))]

theorem mem_containersOf (list : String) (spec : Table Json) (known : list ∈ containerLists)
    (item : Json) (member : item ∈ itemsOf list spec) : item ∈ containersOf spec := by
  simp only [mem_containerLists] at known
  rcases known with rfl | rfl
  · exact List.mem_append_left _ member
  · exact List.mem_append_right _ member

theorem canonical_containersOf (spec : Table Json) (canonical : Json.Canonical (.object spec)) :
    ∀ item ∈ containersOf spec, Json.Canonical item := by
  intro item member
  rcases List.mem_append.mp member with init | main
  · exact canonical_itemsOf _ _ canonical item init
  · exact canonical_itemsOf _ _ canonical item main

theorem canonical_mapContainers (change : Json → Json) (spec : Table Json)
    (canonical : Json.Canonical (.object spec))
    (each : ∀ item, Json.Canonical item → Json.Canonical (change item)) :
    Json.Canonical (.object (mapContainers change spec)) := by
  have mapped : ∀ (field : String) (parent : Table Json), Json.Canonical (.object parent) →
      Json.Canonical (.object (mapListField field (List.map change) parent)) := by
    intro field parent inner
    apply canonical_mapListField _ _ _ inner
    intro item member
    obtain ⟨old, present, rfl⟩ := List.mem_map.mp member
    exact each old (canonical_itemsOf field parent inner old present)
  exact mapped _ _ (mapped _ _ canonical)

theorem projectContainerLists_cons (imprint : Imprint) (previous : OwnedEnv) (list : String)
    (rest : List String) (spec : Table Json) (state : Ledger × OwnedEnv)
    (result : Table Json × Ledger × OwnedEnv) :
    projectContainerLists imprint previous (list :: rest) (spec, state) = some result ↔
      (∀ item ∈ itemsOf list spec, Projectable item) ∧
        projectContainerLists imprint previous rest
          (mapListField list (List.map (projectedItem imprint previous)) spec,
            (itemsOf list spec).foldl notedItem state.1,
            (itemsOf list spec).foldl (collectedItem imprint previous) state.2) = some result := by
  rw [projectContainerLists]
  cases read : (Table.lookup list spec).bind Json.asArray? with
  | none => simp [itemsOf, read, mapListField]
  | some items =>
      simp only [itemsOf, read, mapListField, Option.getD_some, Option.bind_eq_bind,
        Option.bind_eq_some_iff, projectContainers_some]
      constructor
      · rintro ⟨projected, ⟨shaped, rfl⟩, more⟩
        exact ⟨shaped, more⟩
      · rintro ⟨shaped, more⟩
        exact ⟨_, ⟨shaped, rfl⟩, more⟩

theorem projectContainerLists_some (imprint : Imprint) (previous : OwnedEnv) (spec : Table Json)
    (state : Ledger × OwnedEnv) (result : Table Json × Ledger × OwnedEnv) :
    projectContainerLists imprint previous containerLists (spec, state) = some result ↔
      (∀ item ∈ containersOf spec, Projectable item) ∧
        result = (mapContainers (projectedItem imprint previous) spec,
          (containersOf spec).foldl notedItem state.1,
          (containersOf spec).foldl (collectedItem imprint previous) state.2) := by
  have apart : itemsOf "containers" (mapListField "initContainers"
      (List.map (projectedItem imprint previous)) spec) = itemsOf "containers" spec :=
    itemsOf_mapListField_other _ _ _ _ (by decide)
  rw [containerLists, projectContainerLists_cons, projectContainerLists_cons, apart]
  simp only [projectContainerLists, Option.some.injEq, containersOf, List.forall_mem_append,
    List.foldl_append, mapContainers, and_assoc, eq_comm]

end Containers

def Tabled (field : String) (parent : Table Json) : Prop :=
  Table.lookup field parent = none ∨
    Table.lookup field parent = some (.object (fieldsOf field parent))

theorem tableField_iff (field : String) (parent fields : Table Json) :
    tableField? parent field = some fields ↔
      Tabled field parent ∧ fieldsOf field parent = fields := by
  rw [tableField_some, Tabled]
  constructor
  · rintro ⟨present, same⟩
    exact ⟨same ▸ present, same⟩
  · rintro ⟨present, same⟩
    exact ⟨same ▸ present, same⟩

/-- A table that is as it was is dropped exactly when it was not there. -/
theorem released_fields (field : String) (original : Table Json) (created : Prop)
    [Decidable created] (tabled : Tabled field original)
    (missing : created ↔ Table.lookup field original = none) :
    releasedValue (some (.object (fieldsOf field original))) created =
      Table.lookup field original := by
  refine released_original _ _ created ?_ missing
  rcases tabled with absent | present
  · exact .inr ⟨absent, by simp [fieldsOf, absent, isEmptyCollection]⟩
  · exact .inl present

structure Shaped (template : Table Json) : Prop where
  spec : Table.lookup "spec" template = some (.object (fieldsOf "spec" template))
  volumes : Listed "volumes" (fieldsOf "spec" template)
  containers : ∀ item ∈ containersOf (fieldsOf "spec" template), Projectable item
  metadata : Tabled "metadata" template
  annotations : Tabled "annotations" (fieldsOf "metadata" template)

section Projecting

variable (imprint : Imprint)

def projectedSpec (previous : OwnedEnv) (spec : Table Json) : Table Json :=
  mapContainers (projectedItem imprint previous)
    (Table.insert "volumes" (.array (putNamed imprint.volumeEntry (itemsOf "volumes" spec))) spec)

def notedTemplate (template : Table Json) : Ledger :=
  (containersOf (fieldsOf "spec" template)).foldl notedItem
    (trackField (fieldsOf "spec" template) "volumes" "volumes"
      (trackField (fieldsOf "metadata" template) "annotations" "annotations"
        (trackField template "metadata" "metadata" (ledgerOf (annotationsIn template)))))

def collectedTemplate (template : Table Json) : OwnedEnv :=
  (containersOf (fieldsOf "spec" template)).foldl
    (collectedItem imprint (ownedEnvOf imprint.key (annotationsIn template))) []

def markedAnnotations (owned : OwnedEnv) (ledger : Ledger) (annotations : Table Json) :
    Table Json :=
  writeRecord ledgerAnnotation ledger.toJson ledger.isEmpty
    (writeRecord (annotationName "env" imprint.key) (OwnedEnv.toJson owned) owned.isEmpty
      (Table.assign (annotationName "provider" imprint.key) (imprint.provider.map .string)
        (Table.assign (annotationName "type" imprint.key) (imprint.type.map .string)
          (Table.insert (annotationName "secret" imprint.key) (.string imprint.secret)
            annotations))))

def projectedTemplate (template : Table Json) : Table Json :=
  Table.insert "metadata" (.object (Table.insert "annotations"
    (.object (markedAnnotations imprint (collectedTemplate imprint template)
      (notedTemplate template) (annotationsIn template))) (fieldsOf "metadata" template)))
    (Table.insert "spec" (.object (projectedSpec imprint
      (ownedEnvOf imprint.key (annotationsIn template)) (fieldsOf "spec" template))) template)

theorem containersOf_withVolumes (volumes : Json) (spec : Table Json) :
    containersOf (Table.insert "volumes" volumes spec) = containersOf spec := by
  apply containersOf_congr
  intro list known
  apply Table.lookup_insert_other
  rintro rfl
  simp at known

theorem records_eq (template : Table Json) :
    ((annotationsOf? template).map fun annotations =>
      (ledgerOf annotations, ownedEnvOf imprint.key annotations)).getD ({}, []) =
      (ledgerOf (annotationsIn template), ownedEnvOf imprint.key (annotationsIn template)) :=
  annotationsOf_getD template _ _ rfl

theorem track_annotations_eq (template : Table Json) (ledger : Ledger) :
    (if ((Table.lookup "metadata" template).bind Json.asObject?).any (Table.has "annotations")
      then ledger else ledger.noteCreated "annotations") =
      trackField (fieldsOf "metadata" template) "annotations" "annotations" ledger := by
  unfold trackField fieldsOf
  cases (Table.lookup "metadata" template).bind Json.asObject? with
  | none => simp [Table.has]
  | some metadata => simp

/-- Projection succeeds exactly on templates of the right shape. -/
theorem projectTemplate_some (template result : Table Json) :
    projectTemplate imprint template = some result ↔
      Shaped template ∧ result = projectedTemplate imprint template := by
  have apart : ∀ spec, Table.lookup "metadata" (Table.insert "spec" (.object spec) template) =
      Table.lookup "metadata" template := fun spec =>
    Table.lookup_insert_other _ _ _ _ (by decide)
  have metadataRead : ∀ (spec : Table Json),
      tableField? (Table.insert "spec" (.object spec) template) "metadata" =
        tableField? template "metadata" := by
    intro spec
    simp only [tableField?, apart]
  unfold projectTemplate
  simp only [records_eq, track_annotations_eq, metadataRead, Option.bind_eq_bind, Option.bind_eq_some_iff,
    Option.pure_def, Option.some.injEq, listField_some, tableField_iff,
    projectContainerLists_some, containersOf_withVolumes]
  constructor
  · rintro ⟨spec, ⟨value, found, isObject⟩, _, ⟨volumes, rfl⟩, _, ⟨containers, rfl⟩, _,
      ⟨metadata, rfl⟩, _, ⟨annotations, rfl⟩, rfl⟩
    rw [asObject_some isObject] at found
    have same := fieldsOf_object _ _ _ found
    refine ⟨⟨same ▸ found, same ▸ volumes, same ▸ containers, metadata, annotations⟩, ?_⟩
    simp only [projectedTemplate, projectedSpec, notedTemplate, collectedTemplate, annotationsIn,
      markedAnnotations, same]
  · rintro ⟨shaped, rfl⟩
    exact ⟨_, ⟨_, shaped.spec, rfl⟩, _, ⟨shaped.volumes, rfl⟩, _, ⟨shaped.containers, rfl⟩, _,
      ⟨shaped.metadata, rfl⟩, _, ⟨shaped.annotations, rfl⟩, rfl⟩

end Projecting

section Reading

variable (imprint : Imprint)

theorem lookup_markedAnnotations (owned : OwnedEnv) (ledger : Ledger) (annotations : Table Json)
    (ordered : Table.Ordered annotations) (name : String) :
    Table.lookup name (markedAnnotations imprint owned ledger annotations) =
      if name = ledgerAnnotation then
        if ledger.isEmpty then none else some (.string ledger.toJson.compact)
      else if name = annotationName "env" imprint.key then
        if owned.isEmpty then none else some (.string (OwnedEnv.toJson owned).compact)
      else if name = annotationName "provider" imprint.key then imprint.provider.map .string
      else if name = annotationName "type" imprint.key then imprint.type.map .string
      else if name = annotationName "secret" imprint.key then some (.string imprint.secret)
      else Table.lookup name annotations := by
  have secret := Table.ordered_insert (annotationName "secret" imprint.key)
    (.string imprint.secret) annotations ordered
  have type := Table.ordered_assign (annotationName "type" imprint.key)
    (imprint.type.map .string) _ secret
  have provider := Table.ordered_assign (annotationName "provider" imprint.key)
    (imprint.provider.map .string) _ type
  have env := Table.ordered_assign (annotationName "env" imprint.key)
    (if owned.isEmpty then none else some (.string (OwnedEnv.toJson owned).compact)) _ provider
  unfold markedAnnotations writeRecord
  rw [Table.lookup_assign _ _ _ _ env, Table.lookup_assign _ _ _ _ provider,
    Table.lookup_assign _ _ _ _ type, Table.lookup_assign _ _ _ _ secret, Table.lookup_insert]

theorem ordered_markedAnnotations (owned : OwnedEnv) (ledger : Ledger) (annotations : Table Json)
    (ordered : Table.Ordered annotations) :
    Table.Ordered (markedAnnotations imprint owned ledger annotations) :=
  Table.ordered_assign _ _ _ (Table.ordered_assign _ _ _ (Table.ordered_assign _ _ _
    (Table.ordered_assign _ _ _ (Table.ordered_insert _ _ _ ordered))))

/-- An annotation that is no mark of this binding and not the ledger stays. -/
theorem lookup_marked_other (owned : OwnedEnv) (ledger : Ledger) (annotations : Table Json)
    (ordered : Table.Ordered annotations) (name : String) (shared : name ≠ ledgerAnnotation)
    (foreign : ∀ field ∈ markFields, name ≠ annotationName field imprint.key) :
    Table.lookup name (markedAnnotations imprint owned ledger annotations) =
      Table.lookup name annotations := by
  rw [lookup_markedAnnotations imprint owned ledger annotations ordered, if_neg shared,
    if_neg (foreign "env" (by simp)),
    if_neg (foreign "provider" (by simp)),
    if_neg (foreign "type" (by simp)),
    if_neg (foreign "secret" (by simp))]

theorem annotationName_ne_of_key (field other key different : String) (known : field ∈ markFields)
    (otherKnown : other ∈ markFields) (apart : different ≠ key) :
    annotationName field different ≠ annotationName other key := by
  rw [Ne, annotationName_inj field other different key known otherKnown]
  exact fun both => apart both.2

theorem annotationName_ne_of_field (field other key : String) (known : field ∈ markFields)
    (otherKnown : other ∈ markFields) (apart : field ≠ other) :
    annotationName field key ≠ annotationName other key := by
  rw [Ne, annotationName_inj field other key key known otherKnown]
  exact fun both => apart both.1

theorem lookup_marked_secret (owned : OwnedEnv) (ledger : Ledger) (annotations : Table Json)
    (ordered : Table.Ordered annotations) :
    Table.lookup (annotationName "secret" imprint.key)
      (markedAnnotations imprint owned ledger annotations) = some (.string imprint.secret) := by
  have apart : ∀ other ∈ markFields, "secret" ≠ other →
      annotationName "secret" imprint.key ≠ annotationName other imprint.key := fun other known =>
    annotationName_ne_of_field "secret" other imprint.key (by simp) known
  rw [lookup_markedAnnotations imprint owned ledger annotations ordered,
    if_neg (annotationName_ne_ledger "secret" imprint.key (by simp)),
    if_neg (apart "env" (by simp) (by decide)),
    if_neg (apart "provider" (by simp) (by decide)),
    if_neg (apart "type" (by simp) (by decide)), if_pos rfl]

/-- The ledger and the owned variables are read back as they were written. -/
theorem ledgerOf_marked (owned : OwnedEnv) (ledger : Ledger) (annotations : Table Json)
    (ordered : Table.Ordered annotations) (ascending : ledger.Ascending) :
    ledgerOf (markedAnnotations imprint owned ledger annotations) = ledger := by
  rw [ledgerOf, lookup_markedAnnotations imprint owned ledger annotations ordered, if_pos rfl]
  exact readRecord_ledger ledger ascending

theorem ownedEnvOf_marked (owned : OwnedEnv) (ledger : Ledger) (annotations : Table Json)
    (ordered : Table.Ordered annotations) (ascending : OwnedEnv.Ascending owned) :
    ownedEnvOf imprint.key (markedAnnotations imprint owned ledger annotations) = owned := by
  rw [ownedEnvOf, lookup_markedAnnotations imprint owned ledger annotations ordered,
    if_neg (annotationName_ne_ledger "env" imprint.key (by simp)), if_pos rfl]
  exact readRecord_owned owned ascending

theorem ownedEnvOf_marked_other (owned : OwnedEnv) (ledger : Ledger) (annotations : Table Json)
    (ordered : Table.Ordered annotations) (key : String) (different : key ≠ imprint.key) :
    ownedEnvOf key (markedAnnotations imprint owned ledger annotations) =
      ownedEnvOf key annotations := by
  rw [ownedEnvOf, ownedEnvOf, lookup_marked_other imprint owned ledger annotations ordered _
    (annotationName_ne_ledger "env" key (by simp))
    fun field known => annotationName_ne_of_key "env" field imprint.key key (by simp)
      known different]

variable (template : Table Json)

theorem lookup_projected_other (field : String) (spec : field ≠ "spec")
    (metadata : field ≠ "metadata") :
    Table.lookup field (projectedTemplate imprint template) = Table.lookup field template := by
  rw [projectedTemplate, Table.lookup_insert_other _ _ _ _ metadata,
    Table.lookup_insert_other _ _ _ _ spec]

theorem lookup_spec_projected :
    Table.lookup "spec" (projectedTemplate imprint template) =
      some (.object (projectedSpec imprint (ownedEnvOf imprint.key (annotationsIn template))
        (fieldsOf "spec" template))) := by
  rw [projectedTemplate, Table.lookup_insert_other _ _ _ _ (by decide), Table.lookup_insert_same]

theorem spec_projected :
    fieldsOf "spec" (projectedTemplate imprint template) =
      projectedSpec imprint (ownedEnvOf imprint.key (annotationsIn template))
        (fieldsOf "spec" template) :=
  fieldsOf_object _ _ _ (lookup_spec_projected imprint template)

theorem lookup_metadata_projected :
    Table.lookup "metadata" (projectedTemplate imprint template) =
      some (.object (Table.insert "annotations" (.object (markedAnnotations imprint
        (collectedTemplate imprint template) (notedTemplate template) (annotationsIn template)))
        (fieldsOf "metadata" template))) := by
  rw [projectedTemplate, Table.lookup_insert_same]

theorem metadata_projected :
    fieldsOf "metadata" (projectedTemplate imprint template) =
      Table.insert "annotations" (.object (markedAnnotations imprint
        (collectedTemplate imprint template) (notedTemplate template) (annotationsIn template)))
        (fieldsOf "metadata" template) :=
  fieldsOf_object _ _ _ (lookup_metadata_projected imprint template)

theorem annotationsIn_projected :
    annotationsIn (projectedTemplate imprint template) =
      markedAnnotations imprint (collectedTemplate imprint template) (notedTemplate template)
        (annotationsIn template) := by
  rw [annotationsIn, metadata_projected]
  exact fieldsOf_object _ _ _ (Table.lookup_insert_same _ _ _)

theorem containersOf_projectedSpec (previous : OwnedEnv) (spec : Table Json) :
    containersOf (projectedSpec imprint previous spec) =
      (containersOf spec).map (projectedItem imprint previous) := by
  rw [projectedSpec, containersOf_mapContainers, containersOf_withVolumes]

theorem lookup_volumes_projectedSpec (previous : OwnedEnv) (spec : Table Json) :
    Table.lookup "volumes" (projectedSpec imprint previous spec) =
      some (.array (putNamed imprint.volumeEntry (itemsOf "volumes" spec))) := by
  rw [projectedSpec, lookup_mapContainers, if_neg (by simp),
    Table.lookup_insert_same]

theorem ascending_notedTemplate : (notedTemplate template).Ascending :=
  ascending_notedItems _ _ (ascending_trackField _ _ _ _ (ascending_trackField _ _ _ _
    (ascending_trackField _ _ _ _ (ascending_ledgerOf _))))

theorem ascending_collectedTemplate : OwnedEnv.Ascending (collectedTemplate imprint template) :=
  ascending_collectedItems _ _ _ _ OwnedEnv.ascending_empty

theorem ordered_annotationsIn (canonical : Json.Canonical (.object template)) :
    Table.Ordered (annotationsIn template) :=
  Json.canonical_ordered _ (canonical_fieldsOf _ _ (canonical_fieldsOf _ _ canonical))

/-- Projection records the Secret of its binding, and leaves those of the others recorded. -/
theorem secret_projected (canonical : Json.Canonical (.object template)) (key : String) :
    Table.lookup (annotationName "secret" key)
        (annotationsIn (projectedTemplate imprint template)) ≠ none ↔
      key = imprint.key ∨
        Table.lookup (annotationName "secret" key) (annotationsIn template) ≠ none := by
  have ordered := ordered_annotationsIn template canonical
  rw [annotationsIn_projected]
  by_cases own : key = imprint.key
  · rw [own, lookup_marked_secret imprint _ _ _ ordered]
    simp
  · rw [lookup_marked_other imprint _ _ _ ordered _
      (annotationName_ne_ledger "secret" key (by simp))
      fun field known => annotationName_ne_of_key "secret" field imprint.key key
        (by simp) known own]
    simp [own]

theorem ledgerOf_projected (canonical : Json.Canonical (.object template)) :
    ledgerOf (annotationsIn (projectedTemplate imprint template)) = notedTemplate template := by
  rw [annotationsIn_projected]
  exact ledgerOf_marked imprint _ _ _ (ordered_annotationsIn template canonical)
    (ascending_notedTemplate template)

theorem ownedEnvOf_projected (canonical : Json.Canonical (.object template)) (key : String) :
    ownedEnvOf key (annotationsIn (projectedTemplate imprint template)) =
      if key = imprint.key then collectedTemplate imprint template
      else ownedEnvOf key (annotationsIn template) := by
  have ordered := ordered_annotationsIn template canonical
  rw [annotationsIn_projected]
  split
  · next same =>
    rw [same]
    exact ownedEnvOf_marked imprint _ _ _ ordered (ascending_collectedTemplate imprint template)
  · next different => exact ownedEnvOf_marked_other imprint _ _ _ ordered key different

theorem canonical_writeRecord (key : String) (record : Json) (empty : Bool)
    (annotations : Table Json) (canonical : Json.Canonical (.object annotations)) :
    Json.Canonical (.object (writeRecord key record empty annotations)) := by
  apply Json.canonical_assign _ _ _ canonical
  intro value written
  split at written
  · simp at written
  · rw [← Option.some.inj written]
    trivial

theorem canonical_markedAnnotations (owned : OwnedEnv) (ledger : Ledger) (annotations : Table Json)
    (canonical : Json.Canonical (.object annotations)) :
    Json.Canonical (.object (markedAnnotations imprint owned ledger annotations)) := by
  refine canonical_writeRecord _ _ _ _ (canonical_writeRecord _ _ _ _
    (Json.canonical_assign _ _ _ (Json.canonical_assign _ _ _
      (Json.canonical_insert _ _ _ canonical trivial) ?_) ?_))
  · intro value written
    obtain ⟨text, -, rfl⟩ := Option.map_eq_some_iff.mp written
    trivial
  · intro value written
    obtain ⟨text, -, rfl⟩ := Option.map_eq_some_iff.mp written
    trivial

theorem canonical_projectedTemplate (canonical : Json.Canonical (.object template)) :
    Json.Canonical (.object (projectedTemplate imprint template)) := by
  have metadata := canonical_fieldsOf "metadata" template canonical
  have spec := canonical_fieldsOf "spec" template canonical
  have volumes := (Json.canonical_array _).mpr (canonical_putNamed imprint.volumeEntry
    (itemsOf "volumes" (fieldsOf "spec" template)) (canonical_volumeEntry imprint)
    (canonical_itemsOf "volumes" _ spec))
  refine Json.canonical_insert _ _ _ (Json.canonical_insert _ _ _ canonical ?_) ?_
  · exact canonical_mapContainers _ _ (Json.canonical_insert _ _ _ spec volumes)
      fun item => canonical_projectedItem imprint _ item
  · exact Json.canonical_insert _ _ _ metadata (canonical_markedAnnotations imprint _ _ _
      (canonical_fieldsOf _ _ metadata))

theorem containerNames_projectedTemplate :
    containerNames (containersOf (fieldsOf "spec" (projectedTemplate imprint template))) =
      containerNames (containersOf (fieldsOf "spec" template)) := by
  rw [spec_projected, containersOf_projectedSpec, containerNames_projected]

end Reading

end BindingOperator
