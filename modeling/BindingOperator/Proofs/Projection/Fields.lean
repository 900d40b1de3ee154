import BindingOperator.Proofs.Bookkeeping
import BindingOperator.Proofs.Projection.Variables

/-!
Fields that projection changes in place: a list whose items are changed or replaced, a
table whose fields are changed, and a field that is dropped once nothing is left in it.
Each operation is described by what every lookup finds afterwards, so that two templates
are compared field by field.
-/

namespace BindingOperator

/-- The items of a list field; none where the field is no list. -/
def itemsOf (field : String) (parent : Table Json) : List Json :=
  ((Table.lookup field parent).bind Json.asArray?).getD []

/-- The fields of a table field; none where the field is no table. -/
def fieldsOf (field : String) (parent : Table Json) : Table Json :=
  ((Table.lookup field parent).bind Json.asObject?).getD []

theorem itemsOf_array (field : String) (parent : Table Json) (items : List Json)
    (found : Table.lookup field parent = some (.array items)) : itemsOf field parent = items := by
  simp [itemsOf, found, Json.asArray?]

theorem itemsOf_congr (field : String) (parent other : Table Json)
    (same : Table.lookup field parent = Table.lookup field other) :
    itemsOf field parent = itemsOf field other := by
  simp [itemsOf, same]

theorem fieldsOf_object (field : String) (parent fields : Table Json)
    (found : Table.lookup field parent = some (.object fields)) : fieldsOf field parent = fields := by
  simp [fieldsOf, found, Json.asObject?]

theorem asArray_some {value : Json} {items : List Json} (read : value.asArray? = some items) :
    value = .array items := by
  cases value <;> simp_all [Json.asArray?]

theorem asObject_some {value : Json} {fields : Table Json} (read : value.asObject? = some fields) :
    value = .object fields := by
  cases value <;> simp_all [Json.asObject?]

theorem lookup_of_item {field : String} {parent : Table Json} {entry : Json}
    (member : entry ∈ itemsOf field parent) :
    Table.lookup field parent = some (.array (itemsOf field parent)) := by
  unfold itemsOf at member ⊢
  cases found : Table.lookup field parent with
  | none => simp [found] at member
  | some value => cases value <;> simp_all [Json.asArray?]

theorem lookup_of_entryName {field name : String} {parent : Table Json}
    (member : some name ∈ entryNames (itemsOf field parent)) :
    Table.lookup field parent = some (.array (itemsOf field parent)) := by
  obtain ⟨entry, present, -⟩ := List.mem_map.mp member
  exact lookup_of_item present

theorem lookup_of_field {field : String} {parent : Table Json} (name : String)
    (present : Table.lookup name (fieldsOf field parent) ≠ none) :
    Table.lookup field parent = some (.object (fieldsOf field parent)) := by
  unfold fieldsOf at present ⊢
  cases found : Table.lookup field parent with
  | none => simp [found] at present
  | some value => cases value <;> simp_all [Json.asObject?]

/-- A field that can be projected into: absent or a list. -/
def Listed (field : String) (parent : Table Json) : Prop :=
  Table.lookup field parent = none ∨
    Table.lookup field parent = some (.array (itemsOf field parent))

theorem listField_some (field : String) (parent : Table Json) (items : List Json) :
    listField? parent field = some items ↔
      Listed field parent ∧ itemsOf field parent = items := by
  unfold listField? Listed itemsOf
  cases Table.lookup field parent with
  | none => simp
  | some value => cases value <;> simp [Json.asArray?]

theorem tableField_some (field : String) (parent fields : Table Json) :
    tableField? parent field = some fields ↔
      (Table.lookup field parent = none ∨ Table.lookup field parent = some (.object fields)) ∧
        fieldsOf field parent = fields := by
  unfold tableField? fieldsOf
  cases Table.lookup field parent with
  | none => simp
  | some value =>
      cases value <;> simp [Json.asObject?]

theorem canonical_itemsOf (field : String) (parent : Table Json)
    (canonical : Json.Canonical (.object parent)) :
    ∀ item ∈ itemsOf field parent, Json.Canonical item := by
  intro item member
  cases found : Table.lookup field parent with
  | none => simp [itemsOf, found] at member
  | some value =>
      cases value with
      | array items =>
          rw [itemsOf_array field parent items found] at member
          have inner := Json.canonical_lookup field _ parent canonical found
          exact (Json.canonical_array items).mp inner item member
      | _ => simp [itemsOf, found, Json.asArray?] at member

theorem canonical_fieldsOf (field : String) (parent : Table Json)
    (canonical : Json.Canonical (.object parent)) :
    Json.Canonical (.object (fieldsOf field parent)) := by
  cases found : Table.lookup field parent with
  | none => simpa [fieldsOf, found] using Json.canonical_empty
  | some value =>
      cases value with
      | object fields =>
          rw [fieldsOf_object field parent fields found]
          exact Json.canonical_lookup field _ parent canonical found
      | _ => simpa [fieldsOf, found, Json.asObject?] using Json.canonical_empty

section Changing

def changeItems (change : List Json → List Json) (value : Json) : Json :=
  match value with
  | .array items => .array (change items)
  | other => other

def changeFields (change : Table Json → Table Json) (value : Json) : Json :=
  match value with
  | .object fields => .object (change fields)
  | other => other

theorem changeItems_self (change : List Json → List Json) (value : Json)
    (same : ∀ items, value = .array items → change items = items) :
    changeItems change value = value := by
  cases value with
  | array items => simp [changeItems, same items rfl]
  | _ => rfl

theorem changeFields_self (change : Table Json → Table Json) (value : Json)
    (same : ∀ fields, value = .object fields → change fields = fields) :
    changeFields change value = value := by
  cases value with
  | object fields => simp [changeFields, same fields rfl]
  | _ => rfl

theorem map_changeItems (first second : List Json → List Json) (value : Option Json) :
    (value.map (changeItems first)).map (changeItems second) =
      value.map (changeItems fun items => second (first items)) := by
  rw [Option.map_map]
  congr 1
  funext value
  cases value <;> rfl

/-- Two changes that agree on the items of a field change the field alike. -/
theorem lookup_changeItems_congr (field : String) (parent : Table Json)
    (first second : List Json → List Json)
    (same : first (itemsOf field parent) = second (itemsOf field parent)) :
    (Table.lookup field parent).map (changeItems first) =
      (Table.lookup field parent).map (changeItems second) := by
  cases found : Table.lookup field parent with
  | none => rfl
  | some value =>
      cases value with
      | array items =>
          rw [itemsOf_array field parent items found] at same
          simp [changeItems, same]
      | _ => rfl

/-- A list field is what it was when its items are. -/
theorem lookup_sameItems (field : String) (parent : Table Json) (change : List Json → List Json)
    (same : change (itemsOf field parent) = itemsOf field parent) :
    (Table.lookup field parent).map (changeItems change) = Table.lookup field parent := by
  cases found : Table.lookup field parent with
  | none => rfl
  | some value =>
      apply congrArg some
      apply changeItems_self
      rintro items rfl
      rwa [itemsOf_array field parent items found] at same

theorem lookup_sameFields (field : String) (parent : Table Json)
    (change : Table Json → Table Json)
    (same : ∀ fields, Table.lookup field parent = some (.object fields) → change fields = fields) :
    (Table.lookup field parent).map (changeFields change) = Table.lookup field parent := by
  cases found : Table.lookup field parent with
  | none => rfl
  | some value =>
      apply congrArg some
      apply changeFields_self
      rintro fields rfl
      exact same fields found

theorem lookup_mapListField (field other : String) (change : List Json → List Json)
    (parent : Table Json) :
    Table.lookup other (mapListField field change parent) =
      if other = field then (Table.lookup field parent).map (changeItems change)
      else Table.lookup other parent := by
  unfold mapListField
  cases found : Table.lookup field parent with
  | none =>
      by_cases same : other = field
      · simp [same, found]
      · simp [same]
  | some value =>
      cases value with
      | array items => simp [Json.asArray?, Table.lookup_insert, changeItems]
      | _ =>
          by_cases same : other = field
          · simp [same, found, Json.asArray?, changeItems]
          · simp [same, Json.asArray?]

theorem ordered_mapListField (field : String) (change : List Json → List Json)
    (parent : Table Json) (ordered : Table.Ordered parent) :
    Table.Ordered (mapListField field change parent) := by
  unfold mapListField
  split
  · exact Table.ordered_insert _ _ _ ordered
  · exact ordered

theorem mapListField_self (field : String) (change : List Json → List Json) (parent : Table Json)
    (ordered : Table.Ordered parent)
    (same : change (itemsOf field parent) = itemsOf field parent) :
    mapListField field change parent = parent := by
  apply Table.ext _ _ (ordered_mapListField _ _ _ ordered) ordered
  intro other
  rw [lookup_mapListField, lookup_sameItems field parent change same]
  split
  · next known => rw [known]
  · rfl

theorem canonical_mapListField (field : String) (change : List Json → List Json)
    (parent : Table Json) (canonical : Json.Canonical (.object parent))
    (items : ∀ item ∈ change (itemsOf field parent), Json.Canonical item) :
    Json.Canonical (.object (mapListField field change parent)) := by
  unfold mapListField
  split
  · next found read =>
    obtain ⟨value, present, array⟩ := Option.bind_eq_some_iff.mp read
    rw [asArray_some array] at present
    rw [itemsOf_array field parent _ present] at items
    exact Json.canonical_insert _ _ _ canonical ((Json.canonical_array _).mpr items)
  · exact canonical

theorem itemsOf_mapListField_same (field : String) (change : List Json → List Json)
    (parent : Table Json) (empty : change [] = []) :
    itemsOf field (mapListField field change parent) = change (itemsOf field parent) := by
  cases found : Table.lookup field parent with
  | none => simp [itemsOf, lookup_mapListField, found, empty]
  | some value =>
      cases value <;> simp [itemsOf, lookup_mapListField, found, changeItems, Json.asArray?, empty]

theorem itemsOf_mapListField_other (field other : String) (change : List Json → List Json)
    (parent : Table Json) (different : other ≠ field) :
    itemsOf other (mapListField field change parent) = itemsOf other parent :=
  itemsOf_congr _ _ _ (by rw [lookup_mapListField, if_neg different])

end Changing

section Releasing

/-- What is left of a value that may be dropped when nothing is in it. -/
def releasedValue (value : Option Json) (created : Prop) [Decidable created] : Option Json :=
  if value.any isEmptyCollection = true ∧ created then none else value

theorem releasedValue_kept (value : Option Json) (created : Prop) [Decidable created]
    (kept : value.any isEmptyCollection = true → ¬ created) :
    releasedValue value created = value := by
  unfold releasedValue
  rw [if_neg]
  exact fun both => kept both.1 both.2

theorem released_full (value : Option Json) (created : Prop) [Decidable created]
    (empty : (releasedValue value created).any isEmptyCollection = true) : ¬ created := by
  intro marked
  by_cases both : value.any isEmptyCollection = true ∧ created
  · simp [releasedValue, both] at empty
  · rw [releasedValue, if_neg both] at empty
    exact both ⟨empty, marked⟩

/-- A value that is as it was found is dropped exactly when nothing was found. -/
theorem released_original (value : Json) (found : Option Json) (created : Prop)
    [Decidable created]
    (original : found = some value ∨ found = none ∧ isEmptyCollection value = true)
    (missing : created ↔ found = none) : releasedValue (some value) created = found := by
  rcases original with rfl | ⟨rfl, empty⟩
  · exact releasedValue_kept _ _ fun _ marked => Option.some_ne_none value (missing.mp marked)
  · rw [releasedValue, if_pos ⟨by simpa using empty, missing.mpr rfl⟩]

/-- A list that is as it was is dropped exactly when it was not there. -/
theorem released_items (field : String) (original : Table Json) (created : Prop)
    [Decidable created] (listed : Listed field original)
    (missing : created ↔ Table.lookup field original = none) :
    releasedValue (some (.array (itemsOf field original))) created =
      Table.lookup field original := by
  refine released_original _ _ created ?_ missing
  rcases listed with absent | present
  · exact .inr ⟨absent, by simp [itemsOf, absent, isEmptyCollection]⟩
  · exact .inl present

theorem itemsOf_released (field : String) (parent changed : Table Json)
    (change : List Json → List Json) (created : Prop) [Decidable created] (empty : change [] = [])
    (found : Table.lookup field changed =
      releasedValue ((Table.lookup field parent).map (changeItems change)) created) :
    itemsOf field changed = change (itemsOf field parent) := by
  unfold itemsOf
  rw [found]
  cases Table.lookup field parent with
  | none => simp [releasedValue, empty]
  | some value =>
      by_cases both : isEmptyCollection (changeItems change value) = true ∧ created
      · cases value with
        | array items => simp_all [releasedValue, changeItems, isEmptyCollection, Json.asArray?]
        | _ => simp_all [releasedValue, changeItems, Json.asArray?]
      · rw [releasedValue_kept _ _ fun nothing marked => both ⟨by simpa using nothing, marked⟩]
        cases value <;> simp [changeItems, Json.asArray?, empty]

theorem fieldsOf_released (field : String) (parent changed : Table Json)
    (change : Table Json → Table Json) (created : Prop) [Decidable created]
    (empty : change [] = [])
    (found : Table.lookup field changed =
      releasedValue ((Table.lookup field parent).map (changeFields change)) created) :
    fieldsOf field changed = change (fieldsOf field parent) := by
  unfold fieldsOf
  rw [found]
  cases Table.lookup field parent with
  | none => simp [releasedValue, empty]
  | some value =>
      by_cases both : isEmptyCollection (changeFields change value) = true ∧ created
      · cases value with
        | object fields => simp_all [releasedValue, changeFields, isEmptyCollection, Json.asObject?]
        | _ => simp_all [releasedValue, changeFields, Json.asObject?]
      · rw [releasedValue_kept _ _ fun nothing marked => both ⟨by simpa using nothing, marked⟩]
        cases value <;> simp [changeFields, Json.asObject?, empty]

theorem itemsOf_changed (field : String) (parent changed : Table Json)
    (change : List Json → List Json) (empty : change [] = [])
    (found : Table.lookup field changed = (Table.lookup field parent).map (changeItems change)) :
    itemsOf field changed = change (itemsOf field parent) :=
  itemsOf_released field parent changed change False empty
    (found.trans (releasedValue_kept _ _ fun _ => id).symm)

theorem fieldsOf_changed (field : String) (parent changed : Table Json)
    (change : Table Json → Table Json) (empty : change [] = [])
    (found : Table.lookup field changed = (Table.lookup field parent).map (changeFields change)) :
    fieldsOf field changed = change (fieldsOf field parent) :=
  fieldsOf_released field parent changed change False empty
    (found.trans (releasedValue_kept _ _ fun _ => id).symm)

theorem lookup_releaseField (parent : Table Json) (field other marker : String) (ledger : Ledger)
    (ordered : Table.Ordered parent) :
    Table.lookup other (releaseField parent field marker ledger).1 =
      if other = field then releasedValue (Table.lookup field parent) (marker ∈ ledger.created)
      else Table.lookup other parent := by
  by_cases both : (Table.lookup field parent).any isEmptyCollection = true ∧
      marker ∈ ledger.created
  · have released : (releaseField parent field marker ledger).1 = Table.erase field parent := by
      simp [releaseField, both]
    rw [released, Table.lookup_erase field other parent ordered, releasedValue, if_pos both]
  · have kept : (releaseField parent field marker ledger).1 = parent := by
      unfold releaseField
      rw [if_neg (by simpa using both)]
    rw [kept, releasedValue, if_neg both]
    split
    · next same => rw [same]
    · rfl

theorem ordered_releaseField (parent : Table Json) (field marker : String) (ledger : Ledger)
    (ordered : Table.Ordered parent) :
    Table.Ordered (releaseField parent field marker ledger).1 := by
  unfold releaseField
  split
  · exact Table.ordered_erase field parent ordered
  · exact ordered

theorem canonical_releaseField (parent : Table Json) (field marker : String) (ledger : Ledger)
    (canonical : Json.Canonical (.object parent)) :
    Json.Canonical (.object (releaseField parent field marker ledger).1) := by
  unfold releaseField
  split
  · exact Json.canonical_erase field parent canonical
  · exact canonical

theorem roots_releaseField (parent : Table Json) (field marker : String) (ledger : Ledger) :
    (releaseField parent field marker ledger).2.roots = ledger.roots := by
  unfold releaseField
  split <;> rfl

/-- Only the marker of the field itself may go, and only with an empty field. -/
theorem mem_created_releaseField (parent : Table Json) (field marker other : String)
    (ledger : Ledger) (ascending : ledger.Ascending) :
    other ∈ (releaseField parent field marker ledger).2.created ↔
      other ∈ ledger.created ∧
        ¬ (other = marker ∧ (Table.lookup field parent).any isEmptyCollection = true) := by
  by_cases both : (Table.lookup field parent).any isEmptyCollection = true ∧
      marker ∈ ledger.created
  · have released : (releaseField parent field marker ledger).2.created =
        NameSet.erase marker ledger.created := by
      simp [releaseField, both]
    rw [released, NameSet.mem_erase marker other _ ascending.created]
    simp [both.1]
  · have kept : (releaseField parent field marker ledger).2 = ledger := by
      unfold releaseField
      rw [if_neg (by simpa using both)]
    rw [kept]
    constructor
    · rintro member
      refine ⟨member, ?_⟩
      rintro ⟨rfl, empty⟩
      exact both ⟨empty, member⟩
    · exact And.left

theorem ascending_releaseField (parent : Table Json) (field marker : String) (ledger : Ledger)
    (ascending : ledger.Ascending) :
    (releaseField parent field marker ledger).2.Ascending := by
  unfold releaseField
  split
  · exact ⟨NameSet.ascending_erase marker _ ascending.created, ascending.roots⟩
  · exact ascending

theorem mem_created_trackField (parent : Table Json) (field marker other : String)
    (ledger : Ledger) :
    other ∈ (trackField parent field marker ledger).created ↔
      other ∈ ledger.created ∨ (other = marker ∧ Table.lookup field parent = none) := by
  unfold trackField
  split
  · next present =>
    have some : Table.lookup field parent ≠ none := by
      simpa [Table.has, Option.isSome_iff_ne_none] using present
    simp [some]
  · next absent =>
    have none : Table.lookup field parent = none := by
      simpa [Table.has] using absent
    simp [none, Ledger.noteCreated, NameSet.mem_insert, or_comm]

theorem roots_trackField (parent : Table Json) (field marker : String) (ledger : Ledger) :
    (trackField parent field marker ledger).roots = ledger.roots := by
  unfold trackField
  split <;> rfl

theorem ascending_trackField (parent : Table Json) (field marker : String) (ledger : Ledger)
    (ascending : ledger.Ascending) : (trackField parent field marker ledger).Ascending := by
  unfold trackField
  split
  · exact ascending
  · exact Ledger.ascending_noteCreated marker ledger ascending

theorem trackField_present (parent : Table Json) (field marker : String) (ledger : Ledger)
    (present : Table.has field parent = true) :
    trackField parent field marker ledger = ledger := by
  simp [trackField, present]

end Releasing

section Tables

def mapTable (field : String) (change : Table Json → Table Json) (parent : Table Json) :
    Table Json :=
  match (Table.lookup field parent).bind Json.asObject? with
  | some fields => Table.insert field (.object (change fields)) parent
  | none => parent

theorem lookup_mapTable (field other : String) (change : Table Json → Table Json)
    (parent : Table Json) :
    Table.lookup other (mapTable field change parent) =
      if other = field then (Table.lookup field parent).map (changeFields change)
      else Table.lookup other parent := by
  unfold mapTable
  cases found : Table.lookup field parent with
  | none =>
      by_cases same : other = field
      · simp [same, found]
      · simp [same]
  | some value =>
      cases value with
      | object fields => simp [Json.asObject?, Table.lookup_insert, changeFields]
      | _ =>
          by_cases same : other = field
          · simp [same, found, Json.asObject?, changeFields]
          · simp [same, Json.asObject?]

theorem ordered_mapTable (field : String) (change : Table Json → Table Json)
    (parent : Table Json) (ordered : Table.Ordered parent) :
    Table.Ordered (mapTable field change parent) := by
  unfold mapTable
  split
  · exact Table.ordered_insert _ _ _ ordered
  · exact ordered

theorem canonical_mapTable (field : String) (change : Table Json → Table Json)
    (parent : Table Json) (canonical : Json.Canonical (.object parent))
    (changed : Json.Canonical (.object (change (fieldsOf field parent)))) :
    Json.Canonical (.object (mapTable field change parent)) := by
  unfold mapTable
  split
  · next fields read =>
    obtain ⟨value, present, object⟩ := Option.bind_eq_some_iff.mp read
    rw [asObject_some object] at present
    rw [fieldsOf_object field parent _ present] at changed
    exact Json.canonical_insert _ _ _ canonical changed
  · exact canonical

theorem mapTable_mapTable (field : String) (first second : Table Json → Table Json)
    (parent : Table Json) :
    mapTable field second (mapTable field first parent) =
      mapTable field (fun fields => second (first fields)) parent := by
  cases read : (Table.lookup field parent).bind Json.asObject? with
  | none => simp [mapTable, read]
  | some fields =>
      simp [mapTable, read, Table.lookup_insert_same, Json.asObject?, Table.insert_insert]

theorem mapTable_comm (field other : String) (first second : Table Json → Table Json)
    (parent : Table Json) (ordered : Table.Ordered parent) (apart : field ≠ other) :
    mapTable field first (mapTable other second parent) =
      mapTable other second (mapTable field first parent) := by
  refine Table.ext _ _ (ordered_mapTable _ _ _ (ordered_mapTable _ _ _ ordered))
    (ordered_mapTable _ _ _ (ordered_mapTable _ _ _ ordered)) ?_
  intro name
  simp only [lookup_mapTable, if_neg apart, if_neg apart.symm]
  by_cases known : name = field
  · simp [known, apart]
  · simp [known]

/-- The ledger part of a change does not see whether it is made in a table of its own. -/
theorem mapTableField_eq (field : String)
    (change : Table Json → Ledger → Table Json × Ledger) (parent : Table Json) (ledger : Ledger)
    (empty : (change [] ledger).2 = ledger) :
    mapTableField field change parent ledger =
      (mapTable field (fun fields => (change fields ledger).1) parent,
        (change (fieldsOf field parent) ledger).2) := by
  unfold mapTableField mapTable fieldsOf
  cases (Table.lookup field parent).bind Json.asObject? with
  | none => simp [empty]
  | some fields => simp

theorem mapAnnotations_eq (change : Table Json → Table Json) (template : Table Json) :
    mapAnnotations change template =
      mapTable "metadata" (mapTable "annotations" change) template := by
  unfold mapAnnotations mapTableField mapTable
  cases (Table.lookup "metadata" template).bind Json.asObject? with
  | none => rfl
  | some metadata =>
      simp only
      cases (Table.lookup "annotations" metadata).bind Json.asObject? <;> rfl

end Tables

end BindingOperator
