import BindingOperator.Projection.Projector
import BindingOperator.Proofs.Documents

/-!
The names under which bindings mark a pod template do not collide: volumes and annotations
of different keys differ, annotations of different fields differ, none of them is the
shared ledger, and the markers of created fields tell container and field apart.
-/

namespace BindingOperator

def markPrefix : List Char := (annotationPrefix ++ "/").toList

def isMark (name : String) : Bool := markPrefix.isPrefixOf name.toList

/-- The fields of a binding that are kept in annotations of their own. -/
def markFields : List String := ["env", "secret", "type", "provider"]

@[simp] theorem mem_markFields {field : String} :
    field ∈ markFields ↔
      field = "env" ∨ field = "secret" ∨ field = "type" ∨ field = "provider" := by
  simp [markFields]

@[simp] theorem mem_containerFields {field : String} :
    field ∈ containerFields ↔ field = "env" ∨ field = "volumeMounts" := by
  simp [containerFields]

@[simp] theorem mem_containerLists {list : String} :
    list ∈ containerLists ↔ list = "initContainers" ∨ list = "containers" := by
  simp [containerLists]

theorem toList_annotationName (field key : String) :
    (annotationName field key).toList = markPrefix ++ (field.toList ++ '-' :: key.toList) := by
  simp [annotationName, markPrefix]

theorem toList_ledgerAnnotation :
    ledgerAnnotation.toList = markPrefix ++ ['s', 't', 'a', 't', 'e'] := by
  rfl

theorem isMark_annotationName (field key : String) : isMark (annotationName field key) = true := by
  rw [isMark, toList_annotationName, List.isPrefixOf_iff_prefix]
  exact List.prefix_append _ _

theorem isMark_ledger : isMark ledgerAnnotation = true := by
  rw [isMark, toList_ledgerAnnotation, List.isPrefixOf_iff_prefix]
  exact List.prefix_append _ _

/-- An annotation that is no mark is neither the shared ledger nor one of a binding. -/
theorem unmarked_ne_ledger {name : String} (unmarked : isMark name = false) :
    name ≠ ledgerAnnotation := by
  rintro rfl
  simp [isMark_ledger] at unmarked

theorem unmarked_ne_annotationName {name : String} (unmarked : isMark name = false)
    (field key : String) : name ≠ annotationName field key := by
  rintro rfl
  simp [isMark_annotationName] at unmarked

theorem annotationName_inj (field other key otherKey : String) (known : field ∈ markFields)
    (otherKnown : other ∈ markFields) :
    annotationName field key = annotationName other otherKey ↔ field = other ∧ key = otherKey := by
  constructor
  · intro same
    have lists := congrArg String.toList same
    rw [toList_annotationName, toList_annotationName, List.append_cancel_left_eq] at lists
    simp only [mem_markFields] at known otherKnown
    rcases known with rfl | rfl | rfl | rfl <;> rcases otherKnown with rfl | rfl | rfl | rfl <;>
      simp_all [String.toList_inj]
  · rintro ⟨rfl, rfl⟩
    rfl

theorem annotationName_ne_ledger (field key : String) (known : field ∈ markFields) :
    annotationName field key ≠ ledgerAnnotation := by
  intro same
  have lists := congrArg String.toList same
  rw [toList_annotationName, toList_ledgerAnnotation, List.append_cancel_left_eq] at lists
  simp only [mem_markFields] at known
  rcases known with rfl | rfl | rfl | rfl <;> simp at lists

theorem volumeName_inj (key other : String) : volumeName key = volumeName other ↔ key = other :=
  String.append_right_inj volumePrefix

def isVolumeName (name : String) : Bool := volumePrefix.toList.isPrefixOf name.toList

theorem isVolumeName_volumeName (key : String) : isVolumeName (volumeName key) = true := by
  rw [isVolumeName, volumeName, String.toList_append, List.isPrefixOf_iff_prefix]
  exact List.prefix_append _ _

theorem containerMarker_inj (field other container otherContainer : String)
    (known : field ∈ containerFields) (otherKnown : other ∈ containerFields) :
    containerMarker field container = containerMarker other otherContainer ↔
      field = other ∧ container = otherContainer := by
  constructor
  · intro same
    have lists := congrArg String.toList same
    simp only [containerMarker, String.toList_append, List.append_assoc] at lists
    simp only [mem_containerFields] at known otherKnown
    rcases known with rfl | rfl <;> rcases otherKnown with rfl | rfl <;>
      simp_all [String.toList_inj]
  · rintro ⟨rfl, rfl⟩
    rfl

/-- Markers of fields outside containers. -/
def templateMarkers : List String := ["metadata", "annotations", "volumes"]

@[simp] theorem mem_templateMarkers {marker : String} :
    marker ∈ templateMarkers ↔ marker = "metadata" ∨ marker = "annotations" ∨ marker = "volumes" := by
  simp [templateMarkers]

theorem containerMarker_ne_template (field container marker : String)
    (known : field ∈ containerFields) (outside : marker ∈ templateMarkers) :
    containerMarker field container ≠ marker := by
  intro same
  have lists := congrArg String.toList same
  simp only [containerMarker, String.toList_append, List.append_assoc] at lists
  simp only [mem_containerFields, mem_templateMarkers]
    at known outside
  rcases known with rfl | rfl <;> rcases outside with rfl | rfl | rfl <;> simp at lists

theorem isPrefixOf_secret_iff (name : String) :
    (annotationName "secret" "").toList.isPrefixOf name.toList = true ↔
      ∃ key, name = annotationName "secret" key := by
  rw [List.isPrefixOf_iff_prefix, toList_annotationName]
  constructor
  · rintro ⟨rest, same⟩
    refine ⟨String.ofList rest, String.toList_inj.mp ?_⟩
    rw [← same, toList_annotationName, String.toList_ofList]
    simp
  · rintro ⟨key, rfl⟩
    rw [toList_annotationName]
    exact ⟨key.toList, by simp⟩

/-- Some binding is projected when some key has its secret recorded. -/
theorem hasProjection_iff (annotations : Table Json) (ordered : Table.Ordered annotations) :
    hasProjection annotations = true ↔
      ∃ key, Table.has (annotationName "secret" key) annotations = true := by
  unfold hasProjection
  rw [Table.any_keys_iff (fun name => (annotationName "secret" "").toList.isPrefixOf name.toList)
    annotations ordered]
  constructor
  · rintro ⟨name, present, passes⟩
    obtain ⟨key, rfl⟩ := (isPrefixOf_secret_iff name).mp passes
    exact ⟨key, present⟩
  · rintro ⟨key, present⟩
    exact ⟨_, present, (isPrefixOf_secret_iff _).mpr ⟨key, rfl⟩⟩

section Entries

theorem entryName_record (name : String) (fields : List (String × Option Json))
    (absent : ∀ field ∈ fields, field.1 ≠ "name") :
    entryName (Json.record (("name", some (.string name)) :: fields)) = some name := by
  have rest : (fields.reverse.findSome? fun field =>
      if field.1 = "name" then field.2 else none) = none := by
    rw [List.findSome?_eq_none_iff]
    intro field member
    simp [absent field (List.mem_reverse.mp member)]
  simp [entryName, Json.lookup_record, List.findSome?_append, rest, Json.asString?]

@[simp] theorem entryName_rootEntry : entryName rootEntry = some rootVariable :=
  entryName_record _ _ (by simp)

@[simp] theorem entryName_volumeEntry (imprint : Imprint) :
    entryName imprint.volumeEntry = some (volumeName imprint.key) :=
  entryName_record _ _ (by simp)

@[simp] theorem entryName_variableEntry (imprint : Imprint) (mapping : EnvMapping) :
    entryName (imprint.variableEntry mapping) = some mapping.name :=
  entryName_record _ _ (by simp)

@[simp] theorem entryName_mountEntry (imprint : Imprint) (root : String) :
    entryName (imprint.mountEntry root) = some (volumeName imprint.key) :=
  entryName_record _ _ (by simp)

theorem canonical_rootEntry : Json.Canonical rootEntry :=
  Json.canonical_record _ (by simp [Json.Canonical])

theorem canonical_variableEntry (imprint : Imprint) (mapping : EnvMapping) :
    Json.Canonical (imprint.variableEntry mapping) := by
  have key : Json.Canonical (Json.record [("name", some (.string imprint.secret)),
      ("key", some (.string mapping.key))]) :=
    Json.canonical_record _ (by simp [Json.Canonical])
  have reference := Json.canonical_column "secretKeyRef" _ key
  exact Json.canonical_record _ (by simp [Json.Canonical, reference])

theorem canonical_mountEntry (imprint : Imprint) (root : String) :
    Json.Canonical (imprint.mountEntry root) :=
  Json.canonical_record _ (by simp [Json.Canonical])

theorem canonical_annotationFile (field key : String) :
    Json.Canonical (Imprint.annotationFile field key) := by
  have path := Json.canonical_column "fieldPath"
    (.string ("metadata.annotations['" ++ annotationName field key ++ "']")) trivial
  exact Json.canonical_record _ (by simp [Json.Canonical, path])

theorem canonical_volumeEntry (imprint : Imprint) : Json.Canonical imprint.volumeEntry := by
  have lists : ∀ (key : String) (items : List Json), (∀ item ∈ items, Json.Canonical item) →
      Json.Canonical (Json.record [(key, some (.array items))]) := fun key items each =>
    Json.canonical_column key _ ((Json.canonical_array items).mpr each)
  have volume : ∀ items : List Json, (∀ item ∈ items, Json.Canonical item) →
      Json.Canonical (Json.record [("name", some (.string imprint.volume)),
        ("projected", some (Json.record [("sources", some (.array items))]))]) :=
    fun items each => Json.canonical_record _
      (by simp [Json.Canonical, lists "sources" items each])
  have secret := Json.canonical_column "secret" _
    (Json.canonical_column "name" (.string imprint.secret) trivial)
  unfold Imprint.volumeEntry
  apply volume
  intro item member
  split at member
  · rw [List.mem_singleton.mp member]
    exact secret
  · rcases List.mem_cons.mp member with rfl | rest
    · exact secret
    · rw [List.mem_singleton.mp rest]
      refine Json.canonical_column "downwardAPI" _ (lists "items" _ fun file present => ?_)
      rcases List.mem_append.mp present with type | provider
      · obtain ⟨-, -, rfl⟩ := Option.map_eq_some_iff.mp (Option.mem_toList.mp type)
        exact canonical_annotationFile _ _
      · obtain ⟨-, -, rfl⟩ := Option.map_eq_some_iff.mp (Option.mem_toList.mp provider)
        exact canonical_annotationFile _ _

end Entries

end BindingOperator
