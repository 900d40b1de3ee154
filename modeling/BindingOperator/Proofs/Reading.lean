import BindingOperator.Proofs.Documents
import BindingOperator.Proofs.Projection.Workloads
import BindingOperator.Webhook.Review

/-!
Objects as they are read. A document may write its fields in any order and more than once;
what is read from it is canonical in its body and in its metadata, and so is the document
that the object is written as.
-/

namespace BindingOperator

namespace Json

mutual

theorem canonical_canonical : ∀ value : Json, (canonical value).Canonical
  | .array items => canonical_canonicalItems items
  | .object fields => canonical_inserts (canonicalFields fields) [] canonical_empty
      ((canonicalFields_iff _).mp (canonical_canonicalFields fields))
  | .null | .bool _ | .number _ | .string _ => trivial

theorem canonical_canonicalItems : ∀ items : List Json, CanonicalItems (canonicalItems items)
  | [] => trivial
  | item :: rest => ⟨canonical_canonical item, canonical_canonicalItems rest⟩

theorem canonical_canonicalFields :
    ∀ fields : List (String × Json), CanonicalFields (canonicalFields fields)
  | [] => trivial
  | (_, value) :: rest => ⟨canonical_canonical value, canonical_canonicalFields rest⟩

end

section Fields

variable {α : Type}

theorem optional_some {column : Option Json} {decode : Json → Option α} {read : α}
    (found : optional decode column = some (some read)) :
    ∃ value, column = some value ∧ decode value = some read := by
  unfold optional at found
  split at found
  · cases found
  · cases found
  · next value _ =>
      obtain ⟨decoded, same, inner⟩ := Option.map_eq_some_iff.mp found
      exact ⟨value, rfl, Option.some.inj inner ▸ same⟩

theorem keys_mapM (decode : Json → Option α) (fields : Table Json) (table : Table α)
    (read : (fields.mapM fun field => (decode field.2).map fun value => (field.1, value)) =
      some table) : table.map Prod.fst = fields.map Prod.fst := by
  induction fields generalizing table with
  | nil =>
      obtain rfl : [] = table := Option.some.inj read
      rfl
  | cons field rest ih =>
      simp only [List.mapM_cons, Option.bind_eq_bind, Option.bind_eq_some_iff,
        Option.map_eq_some_iff] at read
      obtain ⟨entry, ⟨value, -, rfl⟩, more, later, same⟩ := read
      obtain rfl : (field.1, value) :: more = table := Option.some.inj same
      simp [ih more later]

theorem ordered_tableOf (decode : Json → Option α) (value : Json) (canonical : value.Canonical)
    (table : Table α) (read : tableOf? decode value = some table) : Table.Ordered table := by
  obtain ⟨fields, found, entries⟩ := Option.bind_eq_some_iff.mp read
  obtain rfl := asObject_some found
  rw [Table.ordered_iff_keys, keys_mapM decode fields table entries, ← Table.ordered_iff_keys]
  exact canonical_ordered fields canonical

theorem mem_listOf {decode : Json → Option α} {value : Json} {items : List α}
    (read : listOf? decode value = some items) (item : α) (member : item ∈ items)
    (canonical : value.Canonical) : ∃ inner : Json, inner.Canonical ∧ decode inner = some item := by
  obtain ⟨inners, found, decoded⟩ := Option.bind_eq_some_iff.mp read
  obtain ⟨rfl⟩ : value = .array inners := by
    cases value <;> simp [asArray?] at found
    rw [found]
  have each := (canonical_array inners).mp canonical
  clear read found canonical
  induction inners generalizing items with
  | nil =>
      obtain rfl : [] = items := Option.some.inj decoded
      cases member
  | cons inner rest ih =>
      simp only [List.mapM_cons, Option.bind_eq_bind, Option.bind_eq_some_iff] at decoded
      obtain ⟨first, here, more, later, same⟩ := decoded
      obtain rfl : first :: more = items := Option.some.inj same
      rcases List.mem_cons.mp member with rfl | again
      · exact ⟨inner, each inner List.mem_cons_self, here⟩
      · exact ih again later fun other present => each other (List.mem_cons_of_mem _ present)

theorem canonical_ofStringTable (table : Table String) (ordered : Table.Ordered table) :
    (ofStringTable table).Canonical := by
  refine (canonical_object _).mpr ⟨?_, ?_⟩
  · rw [Table.ordered_iff_keys] at ordered ⊢
    simpa [Function.comp_def] using ordered
  · intro field member
    obtain ⟨entry, -, rfl⟩ := List.mem_map.mp member
    trivial

theorem canonical_strings (values : List String) : (strings values).Canonical := by
  refine (canonical_array _).mpr fun item member => ?_
  obtain ⟨value, -, rfl⟩ := List.mem_map.mp member
  trivial

end Fields

end Json

section Metadata

theorem ManagedFields.canonical_toJson (value : Json) (canonical : value.Canonical)
    (managed : ManagedFields) (read : ofJson? value = some managed) : managed.toJson.Canonical := by
  simp only [ofJson?, Option.bind_eq_bind, Option.bind_eq_some_iff, Option.pure_def,
    Option.some.injEq] at read
  obtain ⟨fields, object, version, -, type, -, kept, keptRead, manager, -, operation, -,
    subresource, -, time, -, rfl⟩ := read
  obtain rfl := asObject_some object
  apply Json.canonical_record
  intro field member inner found
  simp only [List.mem_cons, List.not_mem_nil, or_false] at member
  rcases member with rfl | rfl | rfl | rfl | rfl | rfl | rfl
  case inr.inr.inl =>
    obtain rfl : kept = some inner := found
    obtain ⟨source, present, same⟩ := Json.optional_some keptRead
    exact Option.some.inj same ▸ Json.canonical_lookup "fieldsV1" source fields canonical present
  all_goals
    obtain ⟨text, -, rfl⟩ := Option.map_eq_some_iff.mp found
    trivial

theorem OwnerReference.canonical_toJson (owner : OwnerReference) : owner.toJson.Canonical := by
  apply Json.canonical_record
  intro field member inner found
  simp only [List.mem_cons, List.not_mem_nil, or_false] at member
  rcases member with rfl | rfl | rfl | rfl | rfl | rfl
  case inl | inr.inr.inr.inl | inr.inr.inr.inr.inl | inr.inr.inr.inr.inr =>
    obtain rfl := Option.some.inj found
    trivial
  all_goals
    obtain ⟨value, -, rfl⟩ := Option.map_eq_some_iff.mp found
    trivial

theorem canonical_ofOptional {α : Type} (encode : α → Json) (value : Option α)
    (each : ∀ present ∈ value, (encode present).Canonical) :
    ∀ inner ∈ value.map encode, inner.Canonical := by
  intro inner found
  obtain ⟨present, here, rfl⟩ := Option.map_eq_some_iff.mp found
  exact each present here

/-- Metadata that was read is written as a canonical document. -/
theorem Metadata.canonical_toJson (value : Json) (canonical : value.Canonical)
    (metadata : Metadata) (read : ofJson? value = some metadata) : metadata.toJson.Canonical := by
  obtain ⟨fields, object, read⟩ := Option.bind_eq_some_iff.mp read
  obtain ⟨annotations, annotationsRead, read⟩ := Option.bind_eq_some_iff.mp read
  iterate 6 obtain ⟨_, -, read⟩ := Option.bind_eq_some_iff.mp read
  obtain ⟨labels, labelsRead, read⟩ := Option.bind_eq_some_iff.mp read
  obtain ⟨managed, managedRead, read⟩ := Option.bind_eq_some_iff.mp read
  iterate 6 obtain ⟨_, -, read⟩ := Option.bind_eq_some_iff.mp read
  obtain rfl := Option.some.inj read
  obtain rfl := asObject_some object
  have table : ∀ (key : String) (texts : Option (Table String)),
      Json.field fields key Json.stringTable? = some texts →
      ∀ present ∈ texts, (Json.ofStringTable present).Canonical := by
    intro key texts found present here
    obtain rfl := here
    obtain ⟨source, there, decoded⟩ := Json.optional_some found
    exact Json.canonical_ofStringTable present (Json.ordered_tableOf _ source
      (Json.canonical_lookup key source fields canonical there) present decoded)
  have plain : ∀ {α : Type} (encode : α → Json) (value : Option α),
      (∀ present, (encode present).Canonical) → ∀ inner ∈ value.map encode, inner.Canonical :=
    fun encode value each => canonical_ofOptional encode value fun present _ => each present
  apply Json.canonical_record
  simp only [List.forall_mem_cons, List.not_mem_nil, false_implies, implies_true, and_true]
  refine ⟨?annotations, ?created, ?grace, ?deletion, ?finalizers, ?generated, ?generation,
    ?labels, ?managed, ?name, ?namespaceName, ?owners, ?version, ?link, ?uid⟩
  case annotations => exact canonical_ofOptional _ _ (table "annotations" _ annotationsRead)
  case labels => exact canonical_ofOptional _ _ (table "labels" _ labelsRead)
  case finalizers => exact plain _ _ Json.canonical_strings
  case owners =>
    refine plain _ _ fun present => (Json.canonical_array _).mpr ?_
    simpa using fun owner _ => OwnerReference.canonical_toJson owner
  case managed =>
    refine canonical_ofOptional _ _ fun present here => (Json.canonical_array _).mpr ?_
    intro item member
    obtain ⟨entry, inside, rfl⟩ := List.mem_map.mp member
    obtain rfl := here
    obtain ⟨source, there, decoded⟩ := Json.optional_some managedRead
    obtain ⟨inner, innerCanonical, same⟩ := Json.mem_listOf decoded entry inside
      (Json.canonical_lookup _ source fields canonical there)
    exact ManagedFields.canonical_toJson inner innerCanonical entry same
  all_goals exact plain _ _ fun _ => trivial

end Metadata

section Objects

/-- An object whose body and metadata are canonical documents. -/
structure Object.Sound (object : Object) : Prop where
  body : object.Canonical
  metadata : object.metadata.toJson.Canonical

theorem Object.Sound.canonical_toJson {object : Object} (sound : object.Sound) :
    object.toJson.Canonical := by
  rw [Object.toJson]
  apply Json.canonical_insert _ _ _ _ sound.metadata
  cases object.tag with
  | none => exact sound.body
  | some tag =>
      exact Json.canonical_insert _ _ _ (Json.canonical_insert _ _ _ sound.body trivial) trivial

theorem canonical_splitTag (fields : Table Json) (canonical : Json.Canonical (.object fields)) :
    Json.Canonical (.object (Object.splitTag fields).2) := by
  have once := Json.canonical_erase "apiVersion" fields canonical
  simp only [Object.splitTag]
  split
  · exact Json.canonical_erase "kind" fields canonical
  · split
    · exact Json.canonical_erase "kind" _ once
    · exact Json.canonical_erase "kind" _ once
  · exact once

theorem canonical_none : Json.Canonical ({} : Metadata).toJson := by
  apply Json.canonical_record
  simp

theorem Object.sound_ofJson (value : Json) (canonical : value.Canonical) (object : Object)
    (read : ofJson? value = some object) : object.Sound := by
  simp only [ofJson?, Option.bind_eq_bind, Option.bind_eq_some_iff, Option.pure_def,
    Option.some.injEq] at read
  obtain ⟨fields, found, metadata, metadataRead, rfl⟩ := read
  obtain rfl := asObject_some found
  constructor
  case body => exact canonical_splitTag _ (Json.canonical_erase "metadata" fields canonical)
  case metadata =>
    cases present : Table.lookup "metadata" fields with
    | none =>
        rw [present] at metadataRead
        obtain rfl := Option.some.inj metadataRead
        exact canonical_none
    | some source =>
        rw [present] at metadataRead
        exact Metadata.canonical_toJson source
          (Json.canonical_lookup "metadata" source fields canonical present) metadata metadataRead

end Objects

section Reviews

namespace AdmissionRequest

theorem sound_object? (value : Json) (object : Object) (read : object? value = some object) :
    object.Sound := by
  unfold object? at read
  split at read
  · cases read
  · exact Object.sound_ofJson value.canonical value.canonical_canonical object read

/-- The object of a request that was read is sound, whatever the document was like. -/
theorem sound_object (document : Json) (request : AdmissionRequest)
    (read : ofJson? document = some request) (object : Object)
    (submitted : request.object = some object) : object.Sound := by
  unfold ofJson? at read
  split at read
  · cases read
  · obtain ⟨columns, -, read⟩ := Option.bind_eq_some_iff.mp read
    split at read
    · -- what stands before the object in the record
      iterate 11 obtain ⟨_, -, read⟩ := Option.bind_eq_some_iff.mp read
      obtain ⟨found, objectRead, read⟩ := Option.bind_eq_some_iff.mp read
      iterate 2 obtain ⟨_, -, read⟩ := Option.bind_eq_some_iff.mp read
      obtain rfl := Option.some.inj read
      obtain rfl : found = some object := submitted
      obtain ⟨value, -, same⟩ := Json.optional_some objectRead
      exact sound_object? value object same
    · cases read

end AdmissionRequest

end Reviews

end BindingOperator
