import BindingOperator.Proofs.Projection.LayeredSpecs

/-!
Layers on a pod template. The bookkeeping in the annotations is part of the invariant: what
is recorded there is the holding itself, and the shared ledger notes exactly what the
original template lacks for as long as anybody is projected. So the last binding that
leaves knows everything it needs to bring the original back.
-/

namespace BindingOperator

/-- A template that no binding has touched: none of its annotations, volumes and mounts is
one of a binding, and its containers have distinct names. -/
structure Fresh (template : Table Json) : Prop where
  annotations : ∀ name, isMark name = true →
    Table.lookup name (annotationsIn template) = none
  spec : FreshSpec (fieldsOf "spec" template)

/-- A template with the entries and the bookkeeping of a holding. -/
structure LayeredTemplate (holding : Holding) (original current : Table Json) : Prop where
  sound : holding.Sound
  idle : ¬ holding.Live → current = original
  others : ∀ field, field ≠ "metadata" → field ≠ "spec" →
    Table.lookup field current = Table.lookup field original
  present : Table.lookup "spec" current = some (.object (fieldsOf "spec" current))
  spec : LayeredSpec holding (fieldsOf "spec" original) (fieldsOf "spec" current)
  metadata : ∀ field, field ≠ "annotations" → Table.lookup field (fieldsOf "metadata" current) =
    Table.lookup field (fieldsOf "metadata" original)
  full : holding.Live →
    Table.lookup "metadata" current = some (.object (fieldsOf "metadata" current)) ∧
      Table.lookup "annotations" (fieldsOf "metadata" current) =
        some (.object (annotationsIn current))
  ordinary : ∀ name, isMark name = false →
    Table.lookup name (annotationsIn current) = Table.lookup name (annotationsIn original)
  marks : ∀ name, isMark name = true → Table.lookup name (annotationsIn current) ≠ none →
    name = ledgerAnnotation ∨ ∃ key, holding.bound key ∧
      ∃ field ∈ markFields, name = annotationName field key
  secrets : ∀ key, holding.bound key ↔
    Table.lookup (annotationName "secret" key) (annotationsIn current) ≠ none
  records : ∀ key container,
    namesIn (ownedEnvOf key (annotationsIn current)) container = holding.owned key container
  ledger : holding.Live → ledgerOf (annotationsIn current) = notedTemplate original

namespace Shaped

variable {template : Table Json}

theorem shapedSpec (shaped : Shaped template) : ShapedSpec (fieldsOf "spec" template) :=
  ⟨shaped.volumes, shaped.containers⟩

end Shaped

namespace Fresh

variable {template : Table Json}

theorem ledger (fresh : Fresh template) : ledgerOf (annotationsIn template) = {} := by
  rw [ledgerOf, fresh.annotations _ isMark_ledger, readRecord_none]

theorem owned (fresh : Fresh template) (key : String) :
    ownedEnvOf key (annotationsIn template) = [] := by
  rw [ownedEnvOf, fresh.annotations _ (isMark_annotationName "env" key), readRecord_none]

/-- A binding that was never projected has nothing to remove. -/
theorem settled (fresh : Fresh template) (key : String) : Settled key template where
  marks field _ := fresh.annotations _ (isMark_annotationName field key)
  spec := by
    rw [fresh.ledger]
    refine ⟨fresh.spec.volumes _ (isVolumeName_volumeName key), fun _ => by simp,
      fun item _ => settledItem_empty item, ?_⟩
    intro item member container name known
    exact fresh.spec.mounts item member container name known _ (isVolumeName_volumeName key)
  written := by
    have erased := eraseAnnotations_absent key (annotationsIn template)
      fun field _ => fresh.annotations _ (isMark_annotationName field key)
    rw [leftAnnotations, erased, fresh.ledger, writeRecord]
    simp only [Ledger.isEmpty, List.isEmpty_nil, Bool.and_self, Bool.or_true, if_true]
    exact Table.erase_absent _ _ (fresh.annotations _ isMark_ledger)
  annotations _ := by simp [fresh.ledger]
  metadata _ := by simp [fresh.ledger]

theorem created_noted (fresh : Fresh template) (marker : String) :
    marker ∈ (notedTemplate template).created ↔
      (((marker = "metadata" ∧ Table.lookup "metadata" template = none) ∨
        (marker = "annotations" ∧
          Table.lookup "annotations" (fieldsOf "metadata" template) = none)) ∨
        (marker = "volumes" ∧ Table.lookup "volumes" (fieldsOf "spec" template) = none)) ∨
      ∃ item ∈ containersOf (fieldsOf "spec" template), ∃ container name,
        namedContainer? item = some (container, name) ∧ ∃ field ∈ containerFields,
          marker = containerMarker field name ∧ Table.lookup field container = none := by
  rw [notedTemplate, mem_created_notedItems, mem_created_trackField, mem_created_trackField,
    mem_created_trackField, fresh.ledger]
  simp

/-- Containers with distinct names are known by their names. -/
theorem named_container (fresh : Fresh template) {item other : Json}
    {container inner : Table Json} {name : String}
    (member : item ∈ containersOf (fieldsOf "spec" template))
    (present : other ∈ containersOf (fieldsOf "spec" template))
    (known : namedContainer? item = some (container, name))
    (found : namedContainer? other = some (inner, name)) : inner = container := by
  have same := named_unique _ item other container inner name fresh.spec.names member present
    known found
  rw [← same, known, Option.some.injEq, Prod.mk.injEq] at found
  exact found.1.symm

theorem noted_containers (fresh : Fresh template) (item : Json)
    (member : item ∈ containersOf (fieldsOf "spec" template)) :
    NotedItem (notedTemplate template) item := by
  intro container name known
  constructor
  · rw [notedTemplate, mem_roots_notedItems, roots_trackField, roots_trackField,
      roots_trackField, fresh.ledger, ← rootOf_eq_none]
    constructor
    · rintro (none | ⟨other, present, inner, found, missing⟩)
      · simp at none
      · rwa [fresh.named_container member present known found] at missing
    · exact fun missing => .inr ⟨item, member, container, known, missing⟩
  · intro field present
    rw [fresh.created_noted]
    constructor
    · rintro (template | ⟨other, held, inner, otherName, found, changed, listed, same, missing⟩)
      · have different := containerMarker_ne_template field name
        rcases template with (⟨same, -⟩ | ⟨same, -⟩) | ⟨same, -⟩
        · exact absurd same (different _ present (by simp))
        · exact absurd same (different _ present (by simp))
        · exact absurd same (different _ present (by simp))
      · obtain ⟨rfl, rfl⟩ := (containerMarker_inj field changed name otherName present listed).mp same
        rwa [fresh.named_container member held known found] at missing
    · exact fun missing => .inr ⟨item, member, container, name, known, field, present, rfl, missing⟩

/-- What a first projection notes about a fresh template: every field that is missing. -/
theorem noted (fresh : Fresh template) :
    ("metadata" ∈ (notedTemplate template).created ↔ Table.lookup "metadata" template = none) ∧
    ("annotations" ∈ (notedTemplate template).created ↔
      Table.lookup "annotations" (fieldsOf "metadata" template) = none) ∧
    LayeredSpec.Noted (notedTemplate template) (fieldsOf "spec" template) := by
  have outside : ∀ marker ∈ templateMarkers, ¬ ∃ item ∈ containersOf (fieldsOf "spec" template),
      ∃ container name, namedContainer? item = some (container, name) ∧
        ∃ field ∈ containerFields, marker = containerMarker field name ∧
          Table.lookup field container = none := by
    rintro marker known ⟨_, _, _, name, _, field, present, same, _⟩
    exact containerMarker_ne_template field name marker present known same.symm
  refine ⟨?_, ?_, ?_, fresh.noted_containers⟩
  · rw [fresh.created_noted, or_iff_left (outside _ (by simp))]
    simp
  · rw [fresh.created_noted, or_iff_left (outside _ (by simp))]
    simp
  · rw [fresh.created_noted, or_iff_left (outside _ (by simp))]
    simp

end Fresh

namespace LayeredTemplate

variable {holding : Holding} {original current : Table Json}

/-- Where nobody is projected the template is the original. -/
theorem start (template : Table Json) (shaped : Shaped template) (fresh : Fresh template) :
    LayeredTemplate .nothing template template where
  sound := Holding.sound_nothing
  idle _ := rfl
  others _ _ _ := rfl
  present := shaped.spec
  spec := .start _ shaped.shapedSpec
  metadata _ _ := rfl
  full live := absurd live Holding.not_live_nothing
  ordinary _ _ := rfl
  marks name mark present := absurd (fresh.annotations name mark) present
  secrets key := by
    simp [Holding.nothing, fresh.annotations _ (isMark_annotationName "secret" key)]
  records key container := by
    rw [fresh.owned key]
    rfl
  ledger live := absurd live Holding.not_live_nothing

/-- The original has the layers of any holding in which nobody is projected. -/
theorem restored (sound : holding.Sound) (last : ¬ holding.Live) (shaped : Shaped original)
    (fresh : Fresh original) : LayeredTemplate holding original original := by
  have bound : holding.bound = Holding.nothing.bound := by
    funext key
    exact propext ⟨fun held => last ⟨key, held⟩, False.elim⟩
  have owned : holding.owned = Holding.nothing.owned := by
    funext key container
    apply List.eq_nil_iff_forall_not_mem.mpr
    exact fun name member => last ⟨key, sound.bound key container name member⟩
  -- a holding in which nobody is projected owns nothing either, since it is sound
  have same : holding = .nothing := by
    cases holding
    simp only at bound owned
    rw [bound, owned]
  rw [same]
  exact start original shaped fresh

section Joining

variable (imprint : Imprint)

/-- In a template with a projection in it nothing is missing. -/
theorem noted_live (layered : LayeredTemplate holding original current) (live : holding.Live) :
    notedTemplate current = ledgerOf (annotationsIn current) := by
  obtain ⟨metadata, annotations⟩ := layered.full live
  rw [notedTemplate, trackField_present _ _ _ _ (has_of_lookup metadata),
    trackField_present _ _ _ _ (has_of_lookup annotations),
    trackField_present _ _ _ _ (has_of_lookup (layered.spec.full live))]
  apply notedItems_complete
  have each : ∀ item ∈ containersOf (fieldsOf "spec" current), ∃ before after name,
      namedContainer? item = some (after, name) ∧
        LayeredContainer holding name before after := by
    have all := layered.spec.containers
    intro item member
    obtain ⟨before, -, layer⟩ := exists_layered all item member
    obtain ⟨before, after, name, -, known, container⟩ := layer.named
    exact ⟨before, after, name, known, container⟩
  intro item member container name known
  obtain ⟨before, after, found, named, layer⟩ := each item member
  rw [known, Option.some.injEq, Prod.mk.injEq] at named
  obtain ⟨rfl, rfl⟩ := named
  refine ⟨fun field present => has_of_lookup (layer.full live field present), ?_⟩
  obtain ⟨extras, env, extra⟩ := layer.env
  rw [env, entryNames_append, List.mem_append]
  -- the root is in every container while somebody is projected: as its own, or as an extra
  by_cases own : some rootVariable ∈ entryNames (itemsOf "env" before)
  · exact .inl own
  · exact .inr ((extra.complete _).mpr (.inl ⟨live, rfl, own⟩))

theorem noted_original (layered : LayeredTemplate holding original current) :
    notedTemplate current = notedTemplate original := by
  by_cases live : holding.Live
  · rw [layered.noted_live live, layered.ledger live]
  · rw [layered.idle live]

variable (fresh : Fresh original)
include fresh

theorem names_distinct (layered : LayeredTemplate holding original current) :
    (containerNames (containersOf (fieldsOf "spec" current))).Nodup := by
  rw [layered.spec.containerNames]
  exact fresh.spec.names

/-- What a binding owns after projection, container by container. -/
theorem collected_names (layered : LayeredTemplate holding original current) (name : String) :
    namesIn (collectedTemplate imprint current) name = [] ∨
      ∃ item ∈ containersOf (fieldsOf "spec" current), ∃ container,
        namedContainer? item = some (container, name) ∧
          namesIn (collectedTemplate imprint current) name =
            projectedNames imprint (holding.owned imprint.key name) container := by
  by_cases known : name ∈ containerNames (containersOf (fieldsOf "spec" current))
  · obtain ⟨item, member, container, named⟩ := (mem_containerNames _ _).mp known
    refine .inr ⟨item, member, container, named, ?_⟩
    rw [← layered.records imprint.key name]
    exact recorded_names imprint _ _ item container name (layered.names_distinct fresh) member named
  · left
    exact namesIn_collected_other imprint _ _ name [] known

theorem join_sound (layered : LayeredTemplate holding original current)
    (nonblank : ∀ mapping ∈ imprint.env, mapping.name ≠ "") :
    (holding.join imprint.key (namesIn (collectedTemplate imprint current))).Sound := by
  apply layered.sound.join imprint.key
  · intro container member
    rcases layered.collected_names imprint fresh container with none | ⟨_, _, fields, _, same⟩
    · simp [none] at member
    · rw [same] at member
      exact root_unowned imprint _ fields (layered.sound.root imprint.key container) member
  · intro container member
    rcases layered.collected_names imprint fresh container with none | ⟨_, _, fields, _, same⟩
    · simp [none] at member
    · rw [same] at member
      rcases mapped_of_owned imprint _ _ _ _ member with before | ⟨mapping, present, blank⟩
      · simp at before
      · exact nonblank mapping present blank
  · intro other container name different member held
    rcases layered.collected_names imprint fresh container with
      none | ⟨item, present, fields, named, same⟩
    · simp [none] at member
    · rw [same] at member
      obtain ⟨before, -, layer⟩ := exists_layered layered.spec.containers item present
      obtain ⟨before, after, found, -, known, inner⟩ := layer.named
      rw [named, Option.some.injEq, Prod.mk.injEq] at known
      obtain ⟨rfl, rfl⟩ := known
      exact (inner.origin imprint layered.sound name member).2 other different held

theorem join_spec (layered : LayeredTemplate holding original current) :
    LayeredSpec (holding.join imprint.key (namesIn (collectedTemplate imprint current)))
      (fieldsOf "spec" original) (fieldsOf "spec" (projectedTemplate imprint current)) := by
  rw [spec_projected]
  apply layered.spec.join imprint _ _ layered.sound fresh.spec (layered.records imprint.key)
  intro item member container name named
  exact recorded_names imprint _ _ item container name (layered.names_distinct fresh) member named

omit fresh
variable (canonical : Json.Canonical (.object current))
include canonical

theorem join_ordinary (layered : LayeredTemplate holding original current) (name : String)
    (unmarked : isMark name = false) :
    Table.lookup name (annotationsIn (projectedTemplate imprint current)) =
      Table.lookup name (annotationsIn original) := by
  rw [annotationsIn_projected, lookup_marked_other imprint _ _ _
    (ordered_annotationsIn current canonical) name (unmarked_ne_ledger unmarked)
    fun field _ => unmarked_ne_annotationName unmarked field imprint.key]
  exact layered.ordinary name unmarked

/-- A mark is of the binding that joins, or it was there before. -/
theorem join_marks (layered : LayeredTemplate holding original current)
    (owned : String → List String) (name : String) (mark : isMark name = true)
    (present : Table.lookup name (annotationsIn (projectedTemplate imprint current)) ≠ none) :
    name = ledgerAnnotation ∨ ∃ key, (holding.join imprint.key owned).bound key ∧
      ∃ field ∈ markFields, name = annotationName field key := by
  by_cases shared : name = ledgerAnnotation
  · exact .inl shared
  by_cases own : ∃ field ∈ markFields, name = annotationName field imprint.key
  · exact .inr ⟨imprint.key, .inl rfl, own⟩
  rw [annotationsIn_projected, lookup_marked_other imprint _ _ _
    (ordered_annotationsIn current canonical) name shared
    fun field known same => own ⟨field, known, same⟩] at present
  rcases layered.marks name mark present with same | ⟨key, bound, named⟩
  · exact .inl same
  · exact .inr ⟨key, .inr bound, named⟩

theorem join_secrets (layered : LayeredTemplate holding original current)
    (owned : String → List String) (key : String) :
    (holding.join imprint.key owned).bound key ↔ Table.lookup (annotationName "secret" key)
      (annotationsIn (projectedTemplate imprint current)) ≠ none := by
  rw [secret_projected imprint current canonical, ← layered.secrets key]
  rfl

theorem join_records (layered : LayeredTemplate holding original current)
    (key container : String) :
    namesIn (ownedEnvOf key (annotationsIn (projectedTemplate imprint current))) container =
      (holding.join imprint.key (namesIn (collectedTemplate imprint current))).owned key
        container := by
  rw [ownedEnvOf_projected imprint current canonical]
  by_cases same : key = imprint.key
  · simp [Holding.join, same]
  · simp [Holding.join, same, layered.records]

include fresh

/-- Projection takes a binding into the holding, with the names it collects. -/
theorem join (layered : LayeredTemplate holding original current)
    (nonblank : ∀ mapping ∈ imprint.env, mapping.name ≠ "") :
    LayeredTemplate (holding.join imprint.key (namesIn (collectedTemplate imprint current)))
      original (projectedTemplate imprint current) where
  sound := layered.join_sound imprint fresh nonblank
  idle nobody := absurd (holding.live_join imprint.key _) nobody
  others field metadata spec := by
    rw [lookup_projected_other imprint current field spec metadata]
    exact layered.others field metadata spec
  present := by
    rw [spec_projected]
    exact lookup_spec_projected imprint current
  spec := layered.join_spec imprint fresh
  metadata field different := by
    rw [metadata_projected, Table.lookup_insert_other _ _ _ _ different]
    exact layered.metadata field different
  full _ := by
    rw [annotationsIn_projected, metadata_projected, Table.lookup_insert_same]
    exact ⟨lookup_metadata_projected imprint current, rfl⟩
  ordinary := layered.join_ordinary imprint canonical
  marks := layered.join_marks imprint canonical _
  secrets := layered.join_secrets imprint canonical _
  records := layered.join_records imprint canonical
  ledger _ := by
    rw [ledgerOf_projected imprint current canonical]
    exact layered.noted_original

end Joining

section Leaving

variable (key : String)

theorem bound_left (layered : LayeredTemplate holding original current)
    (canonical : Json.Canonical (.object current)) (other : String) :
    (holding.leave key).bound other ↔ Table.lookup (annotationName "secret" other)
      (eraseAnnotations key (annotationsIn current)) ≠ none := by
  rw [secret_erased key _ (ordered_annotationsIn current canonical), ← layered.secrets]
  rfl

theorem hasProjection_left (layered : LayeredTemplate holding original current)
    (canonical : Json.Canonical (.object current)) :
    hasProjection (eraseAnnotations key (annotationsIn current)) = true ↔
      (holding.leave key).Live := by
  rw [hasProjection_iff _ (Json.canonical_ordered _ (canonical_eraseAnnotations key _
    (canonical_annotationsIn current canonical)))]
  simp only [Holding.Live, layered.bound_left key canonical, Table.has, Option.isSome_iff_ne_none]

section Annotations

variable (canonical : Json.Canonical (.object current))
include canonical

theorem secrets_left (layered : LayeredTemplate holding original current) (other : String) :
    (holding.leave key).bound other ↔ Table.lookup (annotationName "secret" other)
      (annotationsIn (unprojectTemplate key current)) ≠ none := by
  rw [secret_unprojected key current canonical, ← layered.secrets]
  rfl

/-- Neither the annotations nor the metadata get empty while somebody stays projected. -/
theorem full_left (layered : LayeredTemplate holding original current)
    (live : (holding.leave key).Live) :
    Table.lookup "metadata" (unprojectTemplate key current) =
        some (.object (fieldsOf "metadata" (unprojectTemplate key current))) ∧
      Table.lookup "annotations" (fieldsOf "metadata" (unprojectTemplate key current)) =
        some (.object (annotationsIn (unprojectTemplate key current))) := by
  obtain ⟨metadataFull, annotationsFull⟩ := layered.full (Holding.live_of_leave key live)
  have metadata := metadata_unprojectTemplate key current canonical
  have annotations := annotationsIn_unprojectTemplate key current canonical
  -- the one who stays has its Secret in the annotations
  have someAnnotation : annotationsIn (unprojectTemplate key current) ≠ [] := by
    obtain ⟨other, bound⟩ := live
    intro empty
    exact (layered.secrets_left key canonical other).mp bound (by rw [empty]; rfl)
  have annotationsKept : Table.lookup "annotations"
      (fieldsOf "metadata" (unprojectTemplate key current)) =
      some (.object (annotationsIn (unprojectTemplate key current))) := by
    rw [annotations] at someAnnotation
    rw [annotations, metadata, lookup_leftMetadata key current _ _ (Json.canonical_ordered _
      (canonical_fieldsOf "metadata" current canonical)), if_pos rfl, annotationsFull]
    apply releasedValue_kept
    intro empty
    exact absurd (by simpa [changeFields, isEmptyCollection] using empty) someAnnotation
  refine ⟨?_, annotationsKept⟩
  rw [metadata] at annotationsKept ⊢
  rw [lookup_unprojectTemplate key current _ canonical, if_pos rfl, metadataFull]
  apply releasedValue_kept
  intro empty
  have nothing : leftMetadata key current (fieldsOf "metadata" current) = [] := by
    simpa [changeFields, isEmptyCollection] using empty
  rw [nothing] at annotationsKept
  simp at annotationsKept

/-- Removal leaves the annotations alone that are no marks, whatever it writes back to the
ledger. -/
theorem ordinary_left (layered : LayeredTemplate holding original current) (ledger : Ledger)
    (name : String) (unmarked : isMark name = false) :
    Table.lookup name (leftAnnotations key ledger (annotationsIn current)) =
      Table.lookup name (annotationsIn original) := by
  rw [lookup_left_other key _ ledger name (canonical_annotationsIn current canonical)
    (unmarked_ne_ledger unmarked)]
  · exact layered.ordinary name unmarked
  · rintro ⟨field, -, same⟩
    exact unmarked_ne_annotationName unmarked field key same

/-- The marks that are left are those of the bindings that stay. -/
theorem marks_left (layered : LayeredTemplate holding original current) (ledger : Ledger)
    (name : String) (mark : isMark name = true)
    (present : Table.lookup name (leftAnnotations key ledger (annotationsIn current)) ≠ none) :
    name = ledgerAnnotation ∨ ∃ other, (holding.leave key).bound other ∧
      ∃ field ∈ markFields, name = annotationName field other := by
  rw [lookup_leftAnnotations key _ ledger name (canonical_annotationsIn current canonical)]
    at present
  by_cases shared : name = ledgerAnnotation
  · exact .inl shared
  rw [if_neg shared] at present
  split at present
  · exact absurd rfl present
  · next foreign =>
    rcases layered.marks name mark present with same | ⟨other, bound, field, known, same⟩
    · exact .inl same
    · refine .inr ⟨other, ⟨?_, bound⟩, field, known, same⟩
      rintro rfl
      exact foreign ⟨field, known, same⟩

theorem records_left (layered : LayeredTemplate holding original current)
    (other container : String) :
    namesIn (ownedEnvOf other (annotationsIn (unprojectTemplate key current))) container =
      (holding.leave key).owned other container := by
  rw [ownedEnvOf_unprojectTemplate key current other canonical]
  by_cases same : other = key
  · simp [Holding.leave, same, namesIn]
  · simp [Holding.leave, same, layered.records]

end Annotations

variable (fresh : Fresh original) (canonical : Json.Canonical (.object current))
include fresh canonical

/-- While others stay, the entries of the binding go from the spec and the ledger is not
touched by it. -/
theorem spec_left (layered : LayeredTemplate holding original current)
    (live : (holding.leave key).Live) :
    LayeredSpec (holding.leave key) (fieldsOf "spec" original) (leftSpec key current).1 ∧
      (leftSpec key current).2 = ledgerOf (annotationsIn current) :=
  layered.spec.leave key (ownedEnvOf key (annotationsIn current)) layered.sound fresh.spec
    (layered.ledger (Holding.live_of_leave key live) ▸ fresh.noted.2.2)
    (canonical_fieldsOf "spec" current canonical) (ascending_ledgerOf _)
    (layered.records key) live

theorem ledger_left (layered : LayeredTemplate holding original current)
    (live : (holding.leave key).Live) :
    ledgerOf (annotationsIn (unprojectTemplate key current)) = notedTemplate original := by
  rw [annotationsIn_unprojectTemplate key current canonical,
    ledgerOf_left key _ _ (canonical_annotationsIn current canonical)
      (ascending_leftSpec key current canonical),
    if_pos ((layered.hasProjection_left key canonical).mpr live),
    (layered.spec_left key fresh canonical live).2]
  exact layered.ledger (Holding.live_of_leave key live)

theorem leave_others (layered : LayeredTemplate holding original current)
    (live : (holding.leave key).Live) :
    LayeredTemplate (holding.leave key) original (unprojectTemplate key current) where
  sound := layered.sound.leave key
  idle nobody := absurd live nobody
  others field metadata different := by
    rw [lookup_unprojectTemplate key current _ canonical, if_neg metadata, if_neg different]
    exact layered.others field metadata different
  present := by
    rw [spec_unprojectTemplate key current canonical,
      lookup_unprojectTemplate key current _ canonical, if_neg (by decide), if_pos rfl,
      layered.present]
    rfl
  spec := by
    rw [spec_unprojectTemplate key current canonical]
    exact (layered.spec_left key fresh canonical live).1
  metadata field different := by
    rw [metadata_unprojectTemplate key current canonical, lookup_leftMetadata key current _ _
      (Json.canonical_ordered _ (canonical_fieldsOf "metadata" current canonical)),
      if_neg different]
    exact layered.metadata field different
  full := layered.full_left key canonical
  ordinary name unmarked := by
    rw [annotationsIn_unprojectTemplate key current canonical]
    exact layered.ordinary_left key canonical _ name unmarked
  marks name mark present := by
    rw [annotationsIn_unprojectTemplate key current canonical] at present
    exact layered.marks_left key canonical _ name mark present
  secrets := layered.secrets_left key canonical
  records := layered.records_left key canonical
  ledger := layered.ledger_left key fresh canonical

/-- Every mark belongs to a binding, so none is left when the last one leaves. -/
theorem annotations_left_last (layered : LayeredTemplate holding original current)
    (originalCanonical : Json.Canonical (.object original)) (left : Ledger)
    (last : ¬ (holding.leave key).Live) :
    leftAnnotations key left (annotationsIn current) = annotationsIn original := by
  have inside := canonical_annotationsIn current canonical
  have gone : ¬ hasProjection (eraseAnnotations key (annotationsIn current)) = true :=
    fun projected => last ((layered.hasProjection_left key canonical).mp projected)
  apply Table.ext _ _ (Json.canonical_ordered _ (canonical_leftAnnotations key _ _ inside))
    (ordered_annotationsIn original originalCanonical)
  intro name
  cases mark : isMark name with
  | false => exact layered.ordinary_left key canonical left name mark
  | true =>
      rw [fresh.annotations name mark]
      by_contra present
      rcases layered.marks_left key canonical left name mark present with
        rfl | ⟨other, bound, -⟩
      · rw [lookup_leftAnnotations key _ _ _ inside, if_pos rfl] at present
        simp [gone] at present
      · exact last ⟨other, bound⟩

omit fresh in
/-- The ledger still knows after the removal what was missing in the original metadata. -/
theorem created_left (layered : LayeredTemplate holding original current) (live : holding.Live)
    (marker : String) (known : marker ∈ templateMarkers) (apart : marker ≠ "volumes") :
    marker ∈ (leftSpec key current).2.created ↔ marker ∈ (notedTemplate original).created := by
  rw [← layered.ledger live]
  exact mem_created_unprojectSpec (volumeName key) (ownedEnvOf key (annotationsIn current))
    (fieldsOf "spec" current) (ledgerOf (annotationsIn current)) marker
    (canonical_fieldsOf "spec" current canonical) (ascending_ledgerOf _) known apart

theorem metadata_left_last (layered : LayeredTemplate holding original current)
    (shaped : Shaped original) (originalCanonical : Json.Canonical (.object original))
    (live : holding.Live) (last : ¬ (holding.leave key).Live) :
    leftMetadata key current (fieldsOf "metadata" current) = fieldsOf "metadata" original := by
  have inside := canonical_fieldsOf "metadata" current canonical
  apply Table.ext _ _ (Json.canonical_ordered _ (canonical_leftMetadata key current _ inside))
    (Json.canonical_ordered _ (canonical_fieldsOf "metadata" original originalCanonical))
  intro field
  rw [lookup_leftMetadata key current _ _ (Json.canonical_ordered _ inside)]
  split
  · next known =>
    rw [known, (layered.full live).2]
    simp only [Option.map_some, changeFields,
      layered.annotations_left_last key fresh canonical originalCanonical _ last]
    apply released_fields "annotations" _ _ shaped.annotations
    rw [layered.created_left key canonical live "annotations" (by simp)
      (by decide)]
    exact fresh.noted.2.1
  · next different => exact layered.metadata field different

/-- The last binding that leaves restores the original template. -/
theorem leave_last (layered : LayeredTemplate holding original current) (shaped : Shaped original)
    (originalCanonical : Json.Canonical (.object original)) (live : holding.Live)
    (last : ¬ (holding.leave key).Live) : unprojectTemplate key current = original := by
  have spec : (leftSpec key current).1 = fieldsOf "spec" original :=
    layered.spec.leave_last key _ layered.sound fresh.spec shaped.shapedSpec
      (layered.ledger live ▸ fresh.noted.2.2) (canonical_fieldsOf "spec" current canonical)
      (canonical_fieldsOf "spec" original originalCanonical) (ascending_ledgerOf _)
      (layered.records key) live last
  apply Table.ext _ _ (Json.canonical_ordered _ (canonical_unprojectTemplate key current
    canonical)) (Json.canonical_ordered _ originalCanonical)
  intro field
  rw [lookup_unprojectTemplate key current _ canonical]
  split
  · next known =>
    rw [known, (layered.full live).1]
    simp only [Option.map_some, changeFields,
      layered.metadata_left_last key fresh canonical shaped originalCanonical live last]
    apply released_fields "metadata" _ _ shaped.metadata
    rw [layered.created_left key canonical live "metadata" (by simp) (by decide)]
    exact fresh.noted.1
  · next apart =>
    split
    · next known =>
      rw [known, layered.present, shaped.spec]
      exact congrArg (fun spec => some (Json.object spec)) spec
    · next different => exact layered.others field apart different

/-- Removal takes a binding out of the holding, whether or not it was in it. -/
theorem leave (layered : LayeredTemplate holding original current) (shaped : Shaped original)
    (originalCanonical : Json.Canonical (.object original)) :
    LayeredTemplate (holding.leave key) original (unprojectTemplate key current) := by
  by_cases live : (holding.leave key).Live
  · exact layered.leave_others key fresh canonical live
  -- with nobody left there may have been nobody before, and then nothing is removed
  · have back : unprojectTemplate key current = original := by
      by_cases before : holding.Live
      · exact layered.leave_last key fresh canonical shaped originalCanonical before live
      · rw [layered.idle before]
        exact unprojectTemplate_settled key original originalCanonical (fresh.settled key)
    rw [back]
    exact restored (layered.sound.leave key) live shaped fresh

end Leaving

end LayeredTemplate

end BindingOperator
