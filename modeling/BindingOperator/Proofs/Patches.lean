import BindingOperator.Json.Patch
import BindingOperator.Proofs.Documents

/-!
Performing the difference of two documents turns the first into the second. An operation
names its place by a path from the root, so the argument runs inside a spot of a document:
what is around the spot stays, and a place inside it is again a spot.
-/

namespace BindingOperator.Json

/-- The documents `spot value` only differ at the path, where they have that value. -/
def Spot (path : Path) (spot : Json → Json) : Prop :=
  ∀ (change : Json → Option Json) (value : Json),
    modifyAt? change path (spot value) = (change value).map spot

section Spots

variable {path : Path} {spot : Json → Json}

theorem spot_root : Spot [] id := by
  intro change value
  simp [modifyAt?]

theorem modifyAt_append (change : Json → Option Json) (first second : Path) (document : Json) :
    modifyAt? change (first ++ second) document =
      modifyAt? (modifyAt? change second) first document := by
  induction first generalizing document with
  | nil => rfl
  | cons step rest ih =>
      cases document <;> cases step <;> simp [modifyAt?, ih]

theorem Spot.field (within : Spot path spot) (key : String) (fields : Table Json) :
    Spot (path ++ [.field key]) fun value => spot (.object (Table.insert key value fields)) := by
  intro change value
  rw [modifyAt_append, within]
  cases changed : change value with
  | none => simp [modifyAt?, Table.lookup_insert_same, changed]
  | some result =>
      simp [modifyAt?, Table.lookup_insert_same, changed, Table.insert_insert]

theorem Spot.place (within : Spot path spot) (done more : List Json) :
    Spot (path ++ [.place done.length]) fun value => spot (.array (done ++ value :: more)) := by
  intro change value
  rw [modifyAt_append, within]
  cases changed : change value <;> simp [modifyAt?, changed]

theorem Spot.replace (within : Spot path spot) (old new : Json) :
    Patch.perform? [.replace path new] (spot old) = some (spot new) := by
  simp only [Patch.perform?, Operation.perform?]
  rw [within]
  rfl

theorem splitLast_append (path : Path) (step : Step) :
    splitLast? (path ++ [step]) = some (path, step) := by
  simp [splitLast?]

theorem Spot.add (within : Spot path spot) (step : Step) (value around : Json) :
    (Operation.add (path ++ [step]) value).perform? (spot around) =
      (addStep? step value around).map spot := by
  simp only [Operation.perform?, splitLast_append]
  exact within _ _

theorem Spot.remove (within : Spot path spot) (step : Step) (around : Json) :
    (Operation.remove (path ++ [step])).perform? (spot around) =
      (removeStep? step around).map spot := by
  simp only [Operation.perform?, splitLast_append, Option.bind_some]
  exact within _ _

/-- A value is replaced unless it is there already. -/
theorem Spot.settle (within : Spot path spot) (old new : Json) :
    (if old = new then [] else [.replace path new] : Patch).perform? (spot old) =
      some (spot new) := by
  by_cases same : old = new
  · rw [if_pos same, same]
    rfl
  · rw [if_neg same]
    exact within.replace old new

end Spots

theorem perform_append (first second : Patch) (document : Json) :
    (first ++ second).perform? document = (first.perform? document).bind second.perform? := by
  induction first generalizing document with
  | nil => rfl
  | cons operation rest ih =>
      simp only [List.cons_append, Patch.perform?, Option.bind_assoc]
      congr 1
      exact funext ih

section Objects

/-- The fields that a table has once others are written over it. -/
def overwritten (fields : Table Json) (entries : Table Json) : Table Json :=
  entries.foldl (fun table entry => Table.insert entry.1 entry.2 table) fields

theorem ordered_overwritten (entries fields : Table Json) (ordered : Table.Ordered fields) :
    Table.Ordered (overwritten fields entries) := by
  induction entries generalizing fields with
  | nil => exact ordered
  | cons entry rest ih => exact ih _ (Table.ordered_insert entry.1 entry.2 fields ordered)

theorem lookup_overwritten (entries fields : Table Json) (ordered : Table.Ordered entries)
    (key : String) :
    Table.lookup key (overwritten fields entries) =
      (Table.lookup key entries).or (Table.lookup key fields) := by
  induction entries generalizing fields with
  | nil => simp [overwritten]
  | cons entry rest ih =>
      obtain ⟨above, later⟩ := (Table.ordered_cons entry rest).mp ordered
      have unwritten := Table.lookup_none_of_above entry.1 rest above
      have step := ih (Table.insert entry.1 entry.2 fields) later
      rw [Table.lookup_insert] at step
      rw [Table.lookup_cons]
      refine step.trans ?_
      by_cases same : entry.1 = key
      · subst same; simp [unwritten]
      · simp [same, Ne.symm same]

/-- Takes the fields of the old table away that the new one does not have. -/
def cleared (old new fields : Table Json) : Table Json :=
  (old.filter fun field => !Table.has field.1 new).foldl
    (fun table field => Table.erase field.1 table) fields

theorem erased_each (gone fields : Table Json) (ordered : Table.Ordered fields) :
    Table.Ordered (gone.foldl (fun table field => Table.erase field.1 table) fields) ∧
      ∀ key, Table.lookup key (gone.foldl (fun table field => Table.erase field.1 table) fields) =
        if key ∈ gone.map Prod.fst then none else Table.lookup key fields := by
  induction gone generalizing fields with
  | nil => exact ⟨ordered, by simp⟩
  | cons field rest ih =>
      obtain ⟨stays, reads⟩ := ih _ (Table.ordered_erase field.1 fields ordered)
      refine ⟨stays, fun key => ?_⟩
      rw [List.foldl_cons, reads, Table.lookup_erase field.1 key fields ordered]
      by_cases first : key = field.1 <;> by_cases later : key ∈ rest.map Prod.fst <;>
        simp [first, later]

/-- Written over and cleared, the old table is the new one. -/
theorem cleared_overwritten (old new : Table Json) (oldOrdered : Table.Ordered old)
    (newOrdered : Table.Ordered new) : cleared old new (overwritten old new) = new := by
  obtain ⟨ordered, reads⟩ := erased_each (old.filter fun field => !Table.has field.1 new)
    (overwritten old new) (ordered_overwritten new old oldOrdered)
  refine Table.ext _ _ ordered newOrdered fun key => ?_
  rw [cleared, reads, lookup_overwritten new old newOrdered]
  cases kept : Table.lookup key new with
  | some value => simp [Table.has, kept]
  | none =>
      cases before : Table.lookup key old with
      | none => simp
      | some value =>
          have member := Table.mem_of_lookup key value old before
          have gone : key ∈ (old.filter fun field => !Table.has field.1 new).map Prod.fst :=
            List.mem_map.mpr ⟨(key, value),
              List.mem_filter.mpr ⟨member, by simp [Table.has, kept]⟩, rfl⟩
          simp [gone]

variable {path : Path} {spot : Json → Json}

theorem perform_removeFields (within : Spot path spot) (gone fields : Table Json)
    (ordered : Table.Ordered fields) (distinct : (gone.map Prod.fst).Nodup)
    (present : ∀ field ∈ gone, Table.has field.1 fields = true) :
    Patch.perform? (gone.map fun field => .remove (path ++ [.field field.1]))
        (spot (.object fields)) =
      some (spot (.object (gone.foldl (fun table field => Table.erase field.1 table) fields))) := by
  induction gone generalizing fields with
  | nil => rfl
  | cons field rest ih =>
      obtain ⟨apart, later⟩ := List.nodup_cons.mp distinct
      have here := present field List.mem_cons_self
      simp only [List.map_cons, Patch.perform?, within.remove, removeStep?, here, ↓reduceIte,
        Option.map_some, Option.bind_some, List.foldl_cons]
      refine ih _ (Table.ordered_erase field.1 fields ordered) later fun other member => ?_
      have different : other.1 ≠ field.1 := fun same =>
        apart (same ▸ List.mem_map_of_mem member)
      rw [Table.has, Table.lookup_erase_other field.1 other.1 fields different]
      exact present other (List.mem_cons_of_mem _ member)

/-- Once everything new is written over an object, removal leaves what is new. -/
theorem perform_leftover (within : Spot path spot) (old new : Table Json)
    (oldOrdered : Table.Ordered old) (newOrdered : Table.Ordered new) :
    (removeFields path old new).perform? (spot (.object (overwritten old new))) =
      some (spot (.object new)) := by
  have distinct : ((old.filter fun field => !Table.has field.1 new).map Prod.fst).Nodup :=
    ((Table.ordered_iff_keys old).mp oldOrdered).nodup.sublist
      (List.filter_sublist.map Prod.fst)
  have emptied := perform_removeFields within (old.filter fun field => !Table.has field.1 new)
    (overwritten old new) (ordered_overwritten new old oldOrdered) distinct
    fun field member => by
      have found := Table.lookup_of_mem old oldOrdered field.1 field.2
        (List.mem_of_mem_filter member)
      rw [Table.has, lookup_overwritten new old newOrdered, found]
      cases Table.lookup field.1 new <;> rfl
  rw [removeFields, emptied]
  exact congrArg (fun fields => some (spot (.object fields)))
    (cleared_overwritten old new oldOrdered newOrdered)

end Objects

section Arrays

variable {path : Path} {spot : Json → Json}

theorem perform_addItems (within : Spot path spot) (items done : List Json) :
    (addItems path done.length items).perform? (spot (.array done)) =
      some (spot (.array (done ++ items))) := by
  induction items generalizing done with
  | nil => simp [addItems, Patch.perform?]
  | cons item rest ih =>
      have step := ih (done ++ [item])
      simp only [List.length_append, List.length_cons, List.length_nil, List.append_assoc,
        List.cons_append, List.nil_append] at step
      simp [addItems, Patch.perform?, within.add, addStep?, step]

theorem perform_removeItems (within : Spot path spot) (items done : List Json) :
    Patch.perform? (items.map fun _ => .remove (path ++ [.place done.length]))
        (spot (.array (done ++ items))) = some (spot (.array done)) := by
  induction items with
  | nil => simp [Patch.perform?]
  | cons item rest ih =>
      have first : (done ++ item :: rest).eraseIdx done.length = done ++ rest := by
        simp [List.eraseIdx_append_of_length_le]
      simp only [List.map_cons, Patch.perform?, within.remove, removeStep?, first]
      simpa using ih

end Arrays

mutual

theorem perform_diffAt {path : Path} {spot : Json → Json} (within : Spot path spot) :
    ∀ (new old : Json), old.Canonical → new.Canonical →
      (diffAt path old new).perform? (spot old) = some (spot new)
  | .object new, old, oldCanonical, newCanonical => by
      cases old with
      | object old =>
          obtain ⟨oldOrdered, -⟩ := (canonical_object old).mp oldCanonical
          obtain ⟨newOrdered, newValues⟩ := newCanonical
          have written := perform_diffFields within new old old oldOrdered oldCanonical
            newOrdered newValues fun _ _ => rfl
          rw [diffAt, perform_append, written, Option.bind_some]
          exact perform_leftover within old new oldOrdered newOrdered
      | _ => exact within.replace _ _
  | .array new, old, oldCanonical, newCanonical => by
      cases old with
      | array old => exact perform_diffItems within new [] old oldCanonical newCanonical
      | _ => exact within.replace _ _
  | .null, old, _, _ => by simpa [diffAt] using within.settle old .null
  | .bool value, old, _, _ => by simpa [diffAt] using within.settle old (.bool value)
  | .number value, old, _, _ => by simpa [diffAt] using within.settle old (.number value)
  | .string value, old, _, _ => by simpa [diffAt] using within.settle old (.string value)

theorem perform_diffFields {path : Path} {spot : Json → Json} (within : Spot path spot) :
    ∀ (entries : List (String × Json)) (old fields : Table Json), Table.Ordered fields →
      Canonical (.object old) → Table.Ordered entries → CanonicalFields entries →
      (∀ entry ∈ entries, Table.lookup entry.1 fields = Table.lookup entry.1 old) →
      (diffFields path old entries).perform? (spot (.object fields)) =
        some (spot (.object (overwritten fields entries)))
  | [], _, _, _, _, _, _, _ => rfl
  | (key, value) :: rest, old, fields, ordered, canonical, entriesOrdered, values, untouched => by
      obtain ⟨above, later⟩ := (Table.ordered_cons _ rest).mp entriesOrdered
      have unread : ∀ entry ∈ rest,
          Table.lookup entry.1 (Table.insert key value fields) = Table.lookup entry.1 old := by
        intro entry member
        rw [Table.lookup_insert_other key entry.1 value fields (above entry member).ne']
        exact untouched entry (List.mem_cons_of_mem _ member)
      have tail := perform_diffFields within rest old (Table.insert key value fields)
        (Table.ordered_insert key value fields ordered) canonical later values.2 unread
      have current : Table.lookup key fields = Table.lookup key old :=
        untouched (key, value) List.mem_cons_self
      cases before : Table.lookup key old with
      | none =>
          simp only [diffFields, before, List.cons_append, List.nil_append, Patch.perform?,
            within.add, addStep?, Option.map_some, Option.bind_some]
          exact tail
      | some old =>
          have head := perform_diffAt (within.field key fields) value old
            (canonical_lookup key old _ canonical before) values.1
          simp only [Table.insert_present key old fields ordered (current.trans before)] at head
          simp only [diffFields, before, perform_append, head, Option.bind_some]
          exact tail

theorem perform_diffItems {path : Path} {spot : Json → Json} (within : Spot path spot) :
    ∀ (items done old : List Json), CanonicalItems old → CanonicalItems items →
      (diffItems path done.length old items).perform? (spot (.array (done ++ old))) =
        some (spot (.array (done ++ items)))
  | [], done, old, _, _ => by
      rw [diffItems, perform_removeItems within old done, List.append_nil]
  | item :: rest, done, old, oldCanonical, newCanonical => by
      cases old with
      | nil => rw [diffItems, List.append_nil, perform_addItems within (item :: rest) done]
      | cons before more =>
          have head := perform_diffAt (within.place done more) item before oldCanonical.1
            newCanonical.1
          have tail := perform_diffItems within rest (done ++ [item]) more oldCanonical.2
            newCanonical.2
          simp only [List.length_append, List.length_cons, List.length_nil, List.append_assoc,
            List.cons_append, List.nil_append] at tail
          rw [diffItems, perform_append, head, Option.bind_some]
          exact tail

end

/-- Performed on the old document, a difference gives the new one. -/
theorem perform_diff (old new : Json) (oldCanonical : old.Canonical)
    (newCanonical : new.Canonical) : (diff old new).perform? old = some new :=
  perform_diffAt spot_root new old oldCanonical newCanonical

section Unchanged

theorem removeFields_self (path : Path) (fields : Table Json) (ordered : Table.Ordered fields) :
    removeFields path fields fields = [] := by
  simp only [removeFields, List.map_eq_nil_iff, List.filter_eq_nil_iff]
  rintro ⟨key, value⟩ member
  simp [Table.has, Table.lookup_of_mem fields ordered key value member]

mutual

theorem diffAt_self : ∀ (path : Path) (value : Json), value.Canonical → diffAt path value value = []
  | path, .object fields, canonical => by
      have ordered := canonical_ordered fields canonical
      rw [diffAt, removeFields_self path fields ordered, List.append_nil]
      exact diffFields_self path fields fields canonical.2 fun entry member =>
        Table.lookup_of_mem fields ordered entry.1 entry.2 member
  | path, .array items, canonical => by
      rw [diffAt]
      exact diffItems_self path 0 items canonical
  | _, .null, _ | _, .bool _, _ | _, .number _, _ | _, .string _, _ => by simp [diffAt]

theorem diffFields_self : ∀ (path : Path) (entries : List (String × Json)) (old : Table Json),
    CanonicalFields entries → (∀ entry ∈ entries, Table.lookup entry.1 old = some entry.2) →
    diffFields path old entries = []
  | _, [], _, _, _ => rfl
  | path, (key, value) :: rest, old, canonical, found => by
      have head : Table.lookup key old = some value := found (key, value) List.mem_cons_self
      rw [diffFields, head]
      simp only [diffAt_self (path ++ [.field key]) value canonical.1, List.nil_append]
      exact diffFields_self path rest old canonical.2 fun entry member =>
        found entry (List.mem_cons_of_mem _ member)

theorem diffItems_self : ∀ (path : Path) (index : Nat) (items : List Json), CanonicalItems items →
    diffItems path index items items = []
  | _, _, [], _ => rfl
  | path, index, item :: rest, canonical => by
      have head := diffAt_self (path ++ [.place index]) item canonical.1
      have tail := diffItems_self path (index + 1) rest canonical.2
      simp only [diffItems, head, tail, List.append_nil]

end

end Unchanged

/-- Only between equal documents is there nothing to do. -/
theorem diff_eq_nil (old new : Json) (oldCanonical : old.Canonical)
    (newCanonical : new.Canonical) : diff old new = [] ↔ old = new := by
  constructor
  · intro nothing
    have performed := perform_diff old new oldCanonical newCanonical
    rw [nothing] at performed
    exact Option.some.inj performed
  · rintro rfl
    exact diffAt_self [] old oldCanonical

end BindingOperator.Json
