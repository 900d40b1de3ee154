import BindingOperator.Proofs.Repetition

/-!
Templates that bindings share. A binding whose Secret is recorded has its volume and a mount
in every container, and a binding without that record has nothing at all; the ledger is kept
as long as some binding is projected, and every field that it may note is in use then. Any
step of the projector keeps this, so removing a binding that is not there changes nothing.
-/

namespace BindingOperator

/-- A template records the Secret of a binding for as long as the binding is projected. -/
def Bound (key : String) (template : Table Json) : Prop :=
  Table.lookup (annotationName "secret" key) (annotationsIn template) ≠ none

/-- A container mounts the volumes of the bindings that are there, below a root. -/
structure SharedItem (bound : String → Prop) (item : Json) : Prop where
  mounts : ∀ container name, namedContainer? item = some (container, name) → ∀ key,
    some (volumeName key) ∈ entryNames (itemsOf "volumeMounts" container) ↔ bound key
  root : ∀ container name, namedContainer? item = some (container, name) → ∀ key, bound key →
    some rootVariable ∈ entryNames (itemsOf "env" container)

structure SharedTemplate (template : Table Json) : Prop where
  tidy : TidyTemplate template
  marks : ∀ key, ∀ field ∈ markFields,
    Table.lookup (annotationName field key) (annotationsIn template) ≠ none → Bound key template
  volumes : ∀ key,
    some (volumeName key) ∈ entryNames (itemsOf "volumes" (fieldsOf "spec" template)) ↔
      Bound key template
  containers : ∀ item ∈ containersOf (fieldsOf "spec" template), SharedItem (Bound · template) item
  /-- The ledger annotation is what a removal would write. -/
  written : Table.lookup ledgerAnnotation (annotationsIn template) =
    if !hasProjection (annotationsIn template) || (ledgerOf (annotationsIn template)).isEmpty
    then none else some (.string (ledgerOf (annotationsIn template)).toJson.compact)

theorem SharedItem.congr {bound other : String → Prop} {item : Json}
    (shared : SharedItem bound item) (same : ∀ key, bound key ↔ other key) :
    SharedItem other item where
  mounts container name named key := (shared.mounts container name named key).trans (same key)
  root container name named key held := shared.root container name named key ((same key).mpr held)

section Uses

theorem used_items (field : String) (parent : Table Json) (entry : Json)
    (member : entry ∈ itemsOf field parent) :
    (Table.lookup field parent).any isEmptyCollection = false := by
  rw [lookup_of_item member]
  simp [isEmptyCollection, List.ne_nil_of_mem member]

theorem used_named (field name : String) (parent : Table Json)
    (member : some name ∈ entryNames (itemsOf field parent)) :
    (Table.lookup field parent).any isEmptyCollection = false := by
  obtain ⟨entry, present, -⟩ := List.mem_map.mp member
  exact used_items field parent entry present

theorem used_fields (field name : String) (parent : Table Json)
    (present : Table.lookup name (fieldsOf field parent) ≠ none) :
    (Table.lookup field parent).any isEmptyCollection = false := by
  rw [lookup_of_field name present]
  cases fields : fieldsOf field parent with
  | nil => simp [fields] at present
  | cons entry rest => rfl

end Uses

section Items

variable {bound : String → Prop} {item : Json}

theorem SharedItem.project (shared : SharedItem bound item) (imprint : Imprint)
    (previous : OwnedEnv) (unowned : ∀ name, rootVariable ∉ namesIn previous name) :
    SharedItem (fun key => key = imprint.key ∨ bound key)
      (projectedItem imprint previous item) := by
  cases known : namedContainer? item with
  | none =>
      have same : projectedItem imprint previous item = item := by simp [projectedItem, known]
      have nameless : ∀ container name,
          namedContainer? (projectedItem imprint previous item) ≠ some (container, name) := by
        simp [same, known]
      exact ⟨fun container name named => absurd named (nameless container name),
        fun container name named => absurd named (nameless container name)⟩
  | some pair =>
      obtain ⟨container, name⟩ := pair
      have still := namedContainer_projectedItem imprint previous item container name known
      constructor
      · intro after _ named key
        rw [still, Option.some.injEq, Prod.mk.injEq] at named
        obtain ⟨rfl, rfl⟩ := named
        rw [mem_mounts_projected, shared.mounts container name known]
      · intro after _ named key _
        rw [still, Option.some.injEq, Prod.mk.injEq] at named
        obtain ⟨rfl, rfl⟩ := named
        exact (root_projected imprint _ container (unowned name)).1

/-- The root stays as long as the mount of another binding does. -/
theorem SharedItem.unproject (shared : SharedItem bound item) (key : String) (owned : OwnedEnv)
    (unowned : ∀ name, rootVariable ∉ namesIn owned name) (ledger : Ledger)
    (canonical : Json.Canonical item) (ascending : ledger.Ascending) :
    SharedItem (fun other => other ≠ key ∧ bound other)
      (clearedItem (volumeName key) owned ledger item) := by
  constructor
  · intro after name found other
    obtain ⟨container, known, ordered, rfl⟩ :=
      named_of_cleared _ owned item ledger canonical ascending after name found
    rw [itemsOf_mounts_unproject _ _ _ _ _ ordered ascending, mem_volumeNames_without,
      shared.mounts container name known other]
  · rintro after name found other ⟨different, held⟩
    obtain ⟨container, known, ordered, rfl⟩ :=
      named_of_cleared _ owned item ledger canonical ascending after name found
    have kept := leavesRoot_other different name container ledger
      ((shared.mounts container name known other).mpr held)
    obtain ⟨entry, member, named⟩ := List.mem_map.mp (shared.root container name known other held)
    rw [itemsOf_env_unproject _ _ _ _ _ ordered ascending]
    refine List.mem_map.mpr ⟨entry, List.mem_filter.mpr ⟨member, ?_⟩, named⟩
    rw [staysEntry_iff, named, kept]
    exact ⟨unowned name, by simp⟩

end Items

namespace SharedTemplate

variable {template : Table Json}

theorem of_fresh (canonical : Json.Canonical (.object template)) (fresh : Fresh template) :
    SharedTemplate template := by
  have nobody : ∀ key, ¬ Bound key template := fun key held =>
    held (fresh.annotations _ (isMark_annotationName "secret" key))
  constructor
  · exact .of_fresh canonical fresh
  · intro key field _ present
    exact absurd (fresh.annotations _ (isMark_annotationName field key)) present
  · intro key
    exact iff_of_false (fresh.spec.volumes _ (isVolumeName_volumeName key)) (nobody key)
  · intro item member
    constructor
    · intro container name named key
      exact iff_of_false (fresh.spec.mounts item member container name named _
        (isVolumeName_volumeName key)) (nobody key)
    · exact fun _ _ _ key held => absurd held (nobody key)
  · rw [fresh.annotations _ isMark_ledger, fresh.ledger]
    simp [Ledger.isEmpty]

theorem bound_projected (imprint : Imprint) (canonical : Json.Canonical (.object template))
    (key : String) :
    Bound key (projectedTemplate imprint template) ↔ key = imprint.key ∨ Bound key template :=
  secret_projected imprint template canonical key

theorem bound_unprojected (key : String) (canonical : Json.Canonical (.object template))
    (other : String) :
    Bound other (unprojectTemplate key template) ↔ other ≠ key ∧ Bound other template :=
  secret_unprojected key template canonical other

theorem hasProjection_bound (canonical : Json.Canonical (.object template)) :
    hasProjection (annotationsIn template) = true ↔ ∃ key, Bound key template := by
  rw [hasProjection_iff _ (ordered_annotationsIn template canonical)]
  simp [Bound, Table.has, Option.isSome_iff_ne_none]

theorem project (shared : SharedTemplate template) (imprint : Imprint) :
    SharedTemplate (projectedTemplate imprint template) := by
  have canonical := shared.tidy.canonical
  have ordered := ordered_annotationsIn template canonical
  have bound := bound_projected imprint canonical
  constructor
  · exact shared.tidy.project imprint
  · intro key field known present
    rw [bound]
    by_cases own : key = imprint.key
    · exact .inl own
    · rw [annotationsIn_projected, lookup_marked_other imprint _ _ _ ordered _
        (annotationName_ne_ledger field key known) fun other listed =>
          annotationName_ne_of_key field other imprint.key key known listed own] at present
      exact .inr (shared.marks key field known present)
  · intro key
    rw [bound, spec_projected, itemsOf_array _ _ _ (lookup_volumes_projectedSpec imprint _ _),
      mem_entryNames_putNamed, entryName_volumeEntry, Option.some.injEq, volumeName_inj,
      shared.volumes]
  · rw [spec_projected, containersOf_projectedSpec]
    intro item member
    obtain ⟨old, present, rfl⟩ := List.mem_map.mp member
    have changed :=
      (shared.containers old present).project imprint _ (shared.tidy.unowned imprint.key)
    exact changed.congr fun key => (bound key).symm
  · have projected : hasProjection (annotationsIn (projectedTemplate imprint template)) = true :=
      (hasProjection_bound (canonical_projectedTemplate imprint template canonical)).mpr
        ⟨imprint.key, (bound _).mpr (.inl rfl)⟩
    rw [projected, ledgerOf_projected imprint template canonical, annotationsIn_projected,
      lookup_markedAnnotations imprint _ _ _ ordered, if_pos rfl]
    simp

theorem unproject (shared : SharedTemplate template) (key : String) :
    SharedTemplate (unprojectTemplate key template) := by
  have canonical := shared.tidy.canonical
  have spec := canonical_fieldsOf "spec" template canonical
  have ordered := Json.canonical_ordered _ spec
  have inside := canonical_annotationsIn template canonical
  have bound := bound_unprojected key canonical
  constructor
  · exact shared.tidy.unproject key
  · intro other field known present
    rw [annotationsIn_unprojectTemplate key template canonical, lookup_leftAnnotations key _ _ _
      inside, if_neg (annotationName_ne_ledger field other known)] at present
    split at present
    · exact absurd rfl present
    · next apart =>
      rw [bound]
      refine ⟨?_, shared.marks other field known present⟩
      rintro rfl
      exact apart ⟨field, known, rfl⟩
  · intro other
    rw [bound, spec_unprojectTemplate key template canonical, leftSpec,
      itemsOf_volumes_unprojectSpec _ _ _ _ ordered, ← shared.volumes]
    exact mem_volumeNames_without key other _
  · intro item member
    obtain ⟨old, present, middle, ascending, rfl⟩ :=
      cleared_of_unprojectTemplate key template canonical item member
    exact ((shared.containers old present).unproject key _ (shared.tidy.unowned key) middle
      (canonical_containersOf _ spec old present) ascending).congr fun other => (bound other).symm
  · rw [annotationsIn_unprojectTemplate key template canonical,
      hasProjection_leftAnnotations key _ _ inside, lookup_leftAnnotations key _ _ _ inside,
      if_pos rfl, ledgerOf_left key _ _ inside (ascending_leftSpec key template canonical)]
    cases hasProjection (eraseAnnotations key (annotationsIn template)) with
    | true => simp
    | false => simp

/-- Without a binding there is no ledger. -/
theorem ledger_idle (shared : SharedTemplate template) (nobody : ∀ key, ¬ Bound key template) :
    ledgerOf (annotationsIn template) = {} := by
  have idle : hasProjection (annotationsIn template) = false := by
    rw [← Bool.not_eq_true, hasProjection_bound shared.tidy.canonical]
    exact fun some => some.elim nobody
  have absent := shared.written
  rw [idle] at absent
  rw [ledgerOf, absent]
  exact readRecord_none _ _

/-- What the ledger notes about a container is in use. -/
theorem settledItem (shared : SharedTemplate template) (item : Json)
    (member : item ∈ containersOf (fieldsOf "spec" template)) :
    SettledItem (ledgerOf (annotationsIn template)) item := by
  by_cases live : ∃ key, Bound key template
  · obtain ⟨key, held⟩ := live
    intro container name named
    have mounted := ((shared.containers item member).mounts container name named key).mpr held
    have rooted := (shared.containers item member).root container name named key held
    constructor
    · intro unbound
      have inUse : isBound container = true :=
        (isBound_iff container).mpr ⟨_, isVolumeName_volumeName key, mounted⟩
      simp [inUse] at unbound
    · intro field known empty
      simp only [mem_containerFields] at known
      rcases known with rfl | rfl
      · simp [used_named "env" rootVariable container rooted] at empty
      · simp [used_named "volumeMounts" (volumeName key) container mounted] at empty
  · rw [shared.ledger_idle fun key held => live ⟨key, held⟩]
    exact settledItem_empty item

/-- A binding that is not there has left nothing to remove. -/
theorem settled (shared : SharedTemplate template) (key : String) (absent : ¬ Bound key template) :
    Settled key template := by
  have canonical := shared.tidy.canonical
  have marks : ∀ field ∈ markFields,
      Table.lookup (annotationName field key) (annotationsIn template) = none := by
    intro field known
    by_contra present
    exact absent (shared.marks key field known present)
  -- a field that may be empty is not noted: either somebody uses it, or there is no ledger
  have unnoted : ∀ (value : Option Json) (marker : String),
      (∀ other, Bound other template → value.any isEmptyCollection = false) →
      value.any isEmptyCollection = true →
        marker ∉ (ledgerOf (annotationsIn template)).created := by
    intro value marker used empty
    have nobody : ∀ other, ¬ Bound other template := by
      intro other held
      simp [used other held] at empty
    simp [shared.ledger_idle nobody]
  refine ⟨marks, ⟨?_, ?_, shared.settledItem, ?_⟩, ?_, ?_, ?_⟩
  · exact fun present => absent ((shared.volumes key).mp present)
  · apply unnoted
    exact fun other held => used_named _ (volumeName other) _ ((shared.volumes other).mpr held)
  · intro item member container name named present
    exact absent (((shared.containers item member).mounts container name named key).mp present)
  · rw [leftAnnotations, eraseAnnotations_absent key _ marks, writeRecord]
    exact Table.assign_same _ _ _ (ordered_annotationsIn template canonical) shared.written
  · apply unnoted
    exact fun other held => used_fields _ (annotationName "secret" other) _ held
  · apply unnoted
    intro other held
    apply used_fields "metadata" "annotations" template
    intro none
    rw [Bound, annotationsIn, fieldsOf, none] at held
    simp at held

theorem unproject_absent (shared : SharedTemplate template) (key : String)
    (absent : ¬ Bound key template) : unprojectTemplate key template = template :=
  unprojectTemplate_settled key template shared.tidy.canonical (shared.settled key absent)

end SharedTemplate

end BindingOperator
