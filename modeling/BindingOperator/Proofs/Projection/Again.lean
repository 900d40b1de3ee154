import BindingOperator.Proofs.Projection.Templates

/-!
Projecting again. A binding that maps every variable once, projected into a template that
it was just projected into, finds every entry, every annotation and the ledger as it would
write them. Two facts about the template carry this: containers have distinct names, so the
record of owned variables tells them apart, and the root is nobody's variable.
-/

namespace BindingOperator

variable (imprint : Imprint)

theorem listed_of_array (field : String) (parent : Table Json) (items : List Json)
    (found : Table.lookup field parent = some (.array items)) : Listed field parent := by
  right
  rw [itemsOf_array field parent items found]
  exact found

theorem has_of_lookup {field : String} {parent : Table Json} {value : Json}
    (found : Table.lookup field parent = some value) : Table.has field parent = true :=
  (Table.has_iff_exists field parent).mpr ⟨value, found⟩

section Containers

variable (previous : OwnedEnv)

theorem lists_projectedFields (names : NameSet) (container : Table Json) :
    ∀ field ∈ containerFields, ∃ items,
      Table.lookup field (projectedFields imprint names container) = some (.array items) := by
  intro field known
  simp only [mem_containerFields] at known
  rcases known with rfl | rfl
  · exact ⟨_, by rw [lookup_projectedFields, if_neg (by decide), if_pos rfl]⟩
  · exact ⟨_, by rw [lookup_projectedFields, if_pos rfl]⟩

theorem projectable_projectedItem (item : Json) (projectable : Projectable item) :
    Projectable (projectedItem imprint previous item) := by
  obtain ⟨container, name, named, -⟩ := projectable
  refine ⟨_, name, namedContainer_projectedItem imprint previous item container name named, ?_⟩
  intro field known
  obtain ⟨items, found⟩ := lists_projectedFields imprint _ container field known
  exact listed_of_array field _ items found

theorem ordered_projectedSpec (spec : Table Json) (ordered : Table.Ordered spec) :
    Table.Ordered (projectedSpec imprint previous spec) :=
  ordered_mapContainers _ _ (Table.ordered_insert _ _ _ ordered)

theorem lookup_projectedSpec (spec : Table Json) (field : String) (apart : field ≠ "volumes") :
    Table.lookup field (projectedSpec imprint previous spec) =
      if field ∈ containerLists then
        (Table.lookup field spec).map (changeItems (List.map (projectedItem imprint previous)))
      else Table.lookup field spec := by
  rw [projectedSpec, lookup_mapContainers, Table.lookup_insert_other _ _ _ _ apart]

theorem lookup_list_projectedSpec (spec : Table Json) (list : String)
    (known : list ∈ containerLists) :
    Table.lookup list (projectedSpec imprint previous spec) =
      (Table.lookup list spec).map (changeItems (List.map (projectedItem imprint previous))) := by
  rw [lookup_projectedSpec imprint previous spec list, if_pos known]
  rintro rfl
  simp at known

theorem itemsOf_projectedSpec (spec : Table Json) (list : String)
    (known : list ∈ containerLists) :
    itemsOf list (projectedSpec imprint previous spec) =
      (itemsOf list spec).map (projectedItem imprint previous) :=
  itemsOf_changed list spec _ _ rfl (lookup_list_projectedSpec imprint previous spec list known)

/-- The owned names of every container, as a list of containers records them. -/
theorem recorded_names (items : List Json) (item : Json) (container : Table Json) (name : String)
    (distinct : (containerNames items).Nodup) (member : item ∈ items)
    (named : namedContainer? item = some (container, name)) :
    namesIn (items.foldl (collectedItem imprint previous) []) name =
      projectedNames imprint (namesIn previous name) container :=
  namesIn_collected imprint previous items item container name [] distinct member named rfl

variable (once : (imprint.env.map EnvMapping.name).Nodup)
  (unowned : ∀ name, rootVariable ∉ namesIn previous name)
include once unowned

theorem projectedItem_again (items : List Json) (item : Json)
    (distinct : (containerNames items).Nodup) (member : item ∈ items)
    (canonical : Json.Canonical item) :
    projectedItem imprint (items.foldl (collectedItem imprint previous) [])
      (projectedItem imprint previous item) = projectedItem imprint previous item := by
  cases named : namedContainer? item with
  | none => simp [projectedItem, named]
  | some pair =>
      obtain ⟨container, name⟩ := pair
      have recorded := recorded_names imprint previous items item container name distinct member
        named
      have ordered := ordered_of_named item container name canonical named
      rw [projectedItem, namedContainer_projectedItem imprint previous item container name named]
      simp only [recorded, projectedItem, named]
      rw [(projectedFields_again imprint _ container ordered once (unowned name)).1]

theorem collectedItems_again (items : List Json) (distinct : (containerNames items).Nodup)
    (canonical : ∀ item ∈ items, Json.Canonical item) :
    (items.map (projectedItem imprint previous)).foldl
        (collectedItem imprint (items.foldl (collectedItem imprint previous) [])) [] =
      items.foldl (collectedItem imprint previous) [] := by
  rw [List.foldl_map]
  apply List.foldl_ext
  intro owned item member
  cases named : namedContainer? item with
  | none => simp [collectedItem, projectedItem, named]
  | some pair =>
      obtain ⟨container, name⟩ := pair
      have recorded := recorded_names imprint previous items item container name distinct member
        named
      have ordered := ordered_of_named item container name (canonical item member) named
      rw [collectedItem, namedContainer_projectedItem imprint previous item container name named]
      simp only [recorded, collectedItem, named]
      rw [(projectedFields_again imprint _ container ordered once (unowned name)).2]

omit once in
/-- Nothing is missing in a list of containers that was just projected into. -/
theorem notedItems_projected (items : List Json) (ledger : Ledger) :
    (items.map (projectedItem imprint previous)).foldl notedItem ledger = ledger := by
  apply notedItems_complete _ ledger
  intro item member container name named
  obtain ⟨old, -, rfl⟩ := List.mem_map.mp member
  cases before : namedContainer? old with
  | none =>
      rw [projectedItem] at named
      simp [before] at named
  | some pair =>
      rw [namedContainer_projectedItem imprint previous old pair.1 pair.2 before,
        Option.some.injEq, Prod.mk.injEq] at named
      obtain ⟨rfl, rfl⟩ := named
      refine ⟨?_, (root_projected imprint _ pair.1 (unowned pair.2)).1⟩
      intro field known
      obtain ⟨items, found⟩ := lists_projectedFields imprint _ pair.1 field known
      exact has_of_lookup found

theorem projectedSpec_again (spec : Table Json) (canonical : Json.Canonical (.object spec))
    (distinct : (containerNames (containersOf spec)).Nodup) :
    projectedSpec imprint ((containersOf spec).foldl (collectedItem imprint previous) [])
      (projectedSpec imprint previous spec) = projectedSpec imprint previous spec := by
  have first := ordered_projectedSpec imprint previous spec (Json.canonical_ordered spec canonical)
  apply Table.ext _ _ (ordered_projectedSpec imprint _ _ first) first
  intro field
  by_cases volumes : field = "volumes"
  · rw [volumes, lookup_volumes_projectedSpec, lookup_volumes_projectedSpec,
      itemsOf_array _ _ _ (lookup_volumes_projectedSpec imprint previous spec)]
    rw [putNamed_present]
    rw [firstNamed_putNamed_same]
  · rw [lookup_projectedSpec imprint _ _ field volumes,
      lookup_projectedSpec imprint previous spec field volumes]
    split
    · next known =>
      rw [map_changeItems]
      apply lookup_changeItems_congr
      rw [List.map_map]
      apply List.map_congr_left
      intro item member
      have inside := mem_containersOf field spec known item member
      exact projectedItem_again imprint previous once unowned _ item distinct inside
        (canonical_containersOf spec canonical item inside)
    · rfl

end Containers

theorem markedAnnotations_again (owned : OwnedEnv) (ledger : Ledger) (annotations : Table Json)
    (ordered : Table.Ordered annotations) :
    markedAnnotations imprint owned ledger (markedAnnotations imprint owned ledger annotations) =
      markedAnnotations imprint owned ledger annotations := by
  have first := ordered_markedAnnotations imprint owned ledger annotations ordered
  apply Table.ext _ _ (ordered_markedAnnotations imprint _ _ _ first) first
  intro name
  rw [lookup_markedAnnotations imprint owned ledger _ first,
    lookup_markedAnnotations imprint owned ledger annotations ordered]
  repeat' split
  all_goals rfl

variable (template : Table Json)

theorem shaped_projectedTemplate (shaped : Shaped template) :
    Shaped (projectedTemplate imprint template) where
  spec := by rw [spec_projected, lookup_spec_projected]
  volumes := by
    rw [spec_projected]
    exact listed_of_array _ _ _ (lookup_volumes_projectedSpec imprint _ _)
  containers := by
    rw [spec_projected, containersOf_projectedSpec]
    intro item member
    obtain ⟨old, present, rfl⟩ := List.mem_map.mp member
    exact projectable_projectedItem imprint _ old (shaped.containers old present)
  metadata := by
    right
    rw [metadata_projected, lookup_metadata_projected]
  annotations := by
    right
    rw [metadata_projected, Table.lookup_insert_same,
      fieldsOf_object _ _ _ (Table.lookup_insert_same _ _ _)]

/-- Whoever is projected next finds every field that it would note. -/
theorem notedTemplate_projected (canonical : Json.Canonical (.object template))
    (unowned : ∀ name,
      rootVariable ∉ namesIn (ownedEnvOf imprint.key (annotationsIn template)) name) :
    notedTemplate (projectedTemplate imprint template) = notedTemplate template := by
  rw [notedTemplate, ledgerOf_projected imprint template canonical, spec_projected,
    containersOf_projectedSpec, metadata_projected,
    trackField_present _ _ _ _ (has_of_lookup (lookup_metadata_projected imprint template)),
    trackField_present _ _ _ _ (has_of_lookup (Table.lookup_insert_same _ _ _)),
    trackField_present _ _ _ _ (has_of_lookup (lookup_volumes_projectedSpec imprint _ _))]
  exact notedItems_projected imprint _ unowned _ _

/-- A template that a binding was just projected into is left as it is when the binding is
projected into it again. -/
theorem projectTemplate_again (canonical : Json.Canonical (.object template))
    (shaped : Shaped template) (once : (imprint.env.map EnvMapping.name).Nodup)
    (distinct : (containerNames (containersOf (fieldsOf "spec" template))).Nodup)
    (unowned : ∀ name,
      rootVariable ∉ namesIn (ownedEnvOf imprint.key (annotationsIn template)) name) :
    projectTemplate imprint (projectedTemplate imprint template) =
      some (projectedTemplate imprint template) := by
  have spec := canonical_fieldsOf "spec" template canonical
  have ordered := ordered_annotationsIn template canonical
  have owned : ownedEnvOf imprint.key (annotationsIn (projectedTemplate imprint template)) =
      collectedTemplate imprint template := by
    rw [ownedEnvOf_projected imprint template canonical, if_pos rfl]
  have collected : collectedTemplate imprint (projectedTemplate imprint template) =
      collectedTemplate imprint template := by
    rw [collectedTemplate, owned, spec_projected, containersOf_projectedSpec]
    exact collectedItems_again imprint _ once unowned _ distinct
      (canonical_containersOf _ spec)
  have noted := notedTemplate_projected imprint template canonical unowned
  refine (projectTemplate_some imprint _ _).mpr
    ⟨shaped_projectedTemplate imprint template shaped, ?_⟩
  have first := Json.canonical_ordered _ (canonical_projectedTemplate imprint template canonical)
  have second := Json.canonical_ordered _ (canonical_projectedTemplate imprint _
    (canonical_projectedTemplate imprint template canonical))
  apply Table.ext _ _ first second
  intro field
  by_cases metadata : field = "metadata"
  · rw [metadata, lookup_metadata_projected, lookup_metadata_projected, collected, noted,
      metadata_projected, annotationsIn_projected, Table.insert_insert,
      markedAnnotations_again imprint _ _ _ ordered]
  · by_cases inner : field = "spec"
    · rw [inner, lookup_spec_projected, lookup_spec_projected, owned, spec_projected]
      rw [show collectedTemplate imprint template = (containersOf (fieldsOf "spec" template)).foldl
        (collectedItem imprint (ownedEnvOf imprint.key (annotationsIn template))) [] from rfl,
        projectedSpec_again imprint _ once unowned _ spec distinct]
    · exact (lookup_projected_other imprint _ field inner metadata).symm

end BindingOperator
