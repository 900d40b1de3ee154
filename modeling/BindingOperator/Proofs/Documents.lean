import BindingOperator.Json.Basic
import BindingOperator.Proofs.Tables

/-!
Canonical documents: every table inside is ordered. Reading a part of a canonical document
gives a canonical one, and putting a canonical part into it keeps it canonical. Replacing
what a path leads to is observed by the same path, and only the last replacement counts.
-/

namespace BindingOperator.Json

theorem canonicalItems_iff (items : List Json) :
    CanonicalItems items ↔ ∀ item ∈ items, Canonical item := by
  induction items with
  | nil => simp [CanonicalItems]
  | cons item rest ih => simp [CanonicalItems, ih]

theorem canonicalFields_iff (fields : Table Json) :
    CanonicalFields fields ↔ ∀ field ∈ fields, Canonical field.2 := by
  induction fields with
  | nil => simp [CanonicalFields]
  | cons field rest ih =>
      obtain ⟨key, value⟩ := field
      simp [CanonicalFields, ih]

theorem canonical_array (items : List Json) :
    Canonical (.array items) ↔ ∀ item ∈ items, Canonical item :=
  canonicalItems_iff items

theorem canonical_object (fields : Table Json) :
    Canonical (.object fields) ↔
      Table.Ordered fields ∧ ∀ field ∈ fields, Canonical field.2 := by
  simp only [Canonical, canonicalFields_iff]

theorem canonical_lookup (key : String) (value : Json) (fields : Table Json)
    (canonical : Canonical (.object fields)) (found : Table.lookup key fields = some value) :
    Canonical value :=
  ((canonical_object fields).mp canonical).2 _ (Table.mem_of_lookup key value fields found)

theorem canonical_ordered (fields : Table Json) (canonical : Canonical (.object fields)) :
    Table.Ordered fields :=
  ((canonical_object fields).mp canonical).1

theorem canonical_insert (key : String) (value : Json) (fields : Table Json)
    (canonical : Canonical (.object fields)) (inserted : Canonical value) :
    Canonical (.object (Table.insert key value fields)) := by
  obtain ⟨ordered, values⟩ := (canonical_object fields).mp canonical
  refine (canonical_object _).mpr ⟨Table.ordered_insert key value fields ordered, ?_⟩
  intro field member
  rcases Table.mem_insert key value fields field member with same | old
  · rw [same]; exact inserted
  · exact values field old

theorem canonical_erase (key : String) (fields : Table Json)
    (canonical : Canonical (.object fields)) :
    Canonical (.object (Table.erase key fields)) := by
  obtain ⟨ordered, values⟩ := (canonical_object fields).mp canonical
  exact (canonical_object _).mpr ⟨Table.ordered_erase key fields ordered,
    fun field member => values field (Table.mem_of_mem_erase key fields field member)⟩

theorem canonical_assign (key : String) (value : Option Json) (fields : Table Json)
    (canonical : Canonical (.object fields)) (assigned : ∀ present ∈ value, Canonical present) :
    Canonical (.object (Table.assign key value fields)) := by
  cases value with
  | none => exact canonical_erase key fields canonical
  | some value => exact canonical_insert key value fields canonical (assigned value rfl)

theorem canonical_empty : Canonical (.object []) := ⟨trivial, trivial⟩

/-- Entries that are written one after the other into a table, whatever their order. -/
theorem canonical_inserts (entries : List (String × Json)) (table : Table Json)
    (canonical : Canonical (.object table)) (values : ∀ entry ∈ entries, Canonical entry.2) :
    Canonical (.object (entries.foldl
      (fun table entry => Table.insert entry.1 entry.2 table) table)) := by
  induction entries generalizing table with
  | nil => exact canonical
  | cons entry rest ih =>
      exact ih _ (canonical_insert _ _ _ canonical (values entry List.mem_cons_self))
        fun other member => values other (List.mem_cons_of_mem _ member)

theorem canonical_record (fields : List (String × Option Json))
    (values : ∀ field ∈ fields, ∀ value ∈ field.2, Canonical value) :
    Canonical (record fields) := by
  apply canonical_inserts _ [] canonical_empty
  intro entry member
  obtain ⟨field, present, written⟩ := List.mem_filterMap.mp member
  obtain ⟨value, found, rfl⟩ := Option.map_eq_some_iff.mp written
  exact values field present value found

theorem canonical_column (key : String) (value : Json) (canonical : value.Canonical) :
    (record [(key, some value)]).Canonical :=
  canonical_record _ (by simpa using canonical)

/-- A field of a record is the last value that is present under its name. -/
theorem lookup_record (key : String) (fields : List (String × Option Json)) :
    (record fields).field? key =
      fields.reverse.findSome? fun field => if field.1 = key then field.2 else none := by
  have grows : ∀ (fields : List (String × Option Json)) (table : Table Json),
      Table.lookup key ((fields.filterMap fun entry =>
        entry.2.map fun value => (entry.1, value)).foldl
          (fun table entry => Table.insert entry.1 entry.2 table) table) =
        (fields.reverse.findSome? fun field => if field.1 = key then field.2 else none).or
          (Table.lookup key table) := by
    intro fields
    induction fields with
    | nil => simp
    | cons field rest ih =>
        intro table
        obtain ⟨name, value⟩ := field
        cases value with
        | none => simp [ih, List.findSome?_append]
        | some value =>
            simp only [List.filterMap_cons, Option.map_some, List.foldl_cons, ih,
              Table.lookup_insert, List.reverse_cons, List.findSome?_append]
            by_cases same : name = key
            · simp [same]
            · have swapped : ¬ key = name := fun equal => same equal.symm
              simp [same, swapped]
  simpa [record, field?, Table.ofOptional, Table.ofEntries] using grows fields []

theorem canonical_field (key : String) (value inner : Json) (canonical : Canonical value)
    (found : value.field? key = some inner) : Canonical inner := by
  cases value with
  | object fields => exact canonical_lookup key inner fields canonical found
  | _ => simp [field?] at found

theorem canonical_at (path : List String) (value inner : Json) (canonical : Canonical value)
    (found : value.at? path = some inner) : Canonical inner := by
  induction path generalizing value with
  | nil =>
      simp only [at?, Option.some.injEq] at found
      exact found ▸ canonical
  | cons key rest ih =>
      obtain ⟨middle, first, last⟩ := Option.bind_eq_some_iff.mp found
      exact ih middle (canonical_field key value middle canonical first) last

section Replacement

theorem replaceAt_cons_of_field (new inner : Json) (key : String) (rest : List String)
    (fields : Table Json) (found : Table.lookup key fields = some inner) :
    replaceAt new (key :: rest) (.object fields) =
      .object (Table.insert key (replaceAt new rest inner) fields) := by
  simp [replaceAt, found]

theorem at_replaceAt (new old : Json) (path : List String) (value : Json)
    (found : value.at? path = some old) : (replaceAt new path value).at? path = some new := by
  induction path generalizing value with
  | nil => rfl
  | cons key rest ih =>
      obtain ⟨inner, first, last⟩ := Option.bind_eq_some_iff.mp found
      cases value with
      | object fields =>
          rw [replaceAt_cons_of_field new inner key rest fields first]
          simp [at?, field?, Table.lookup_insert_same, ih inner last]
      | _ => simp [field?] at first

/-- The last of two replacements counts. -/
theorem replaceAt_replaceAt (first second : Json) (path : List String) (value : Json) :
    replaceAt second path (replaceAt first path value) = replaceAt second path value := by
  induction path generalizing value with
  | nil => rfl
  | cons key rest ih =>
      cases value with
      | object fields =>
          cases found : Table.lookup key fields with
          | none => simp [replaceAt, found]
          | some inner =>
              rw [replaceAt_cons_of_field _ inner _ _ _ found,
                replaceAt_cons_of_field _ _ _ _ _ (Table.lookup_insert_same _ _ _), ih,
                Table.insert_insert, replaceAt_cons_of_field _ inner _ _ _ found]
      | _ => rfl

theorem replaceAt_self (old : Json) (path : List String) (value : Json)
    (canonical : Canonical value) (found : value.at? path = some old) :
    replaceAt old path value = value := by
  induction path generalizing value with
  | nil =>
      simp only [at?, Option.some.injEq] at found
      exact found.symm
  | cons key rest ih =>
      obtain ⟨inner, first, last⟩ := Option.bind_eq_some_iff.mp found
      cases value with
      | object fields =>
          rw [replaceAt_cons_of_field old inner key rest fields first,
            ih inner (canonical_lookup key inner fields canonical first) last,
            Table.insert_present key inner fields (canonical_ordered fields canonical) first]
      | _ => simp [field?] at first

theorem canonical_replaceAt (new : Json) (path : List String) (value : Json)
    (canonical : Canonical value) (fresh : Canonical new) :
    Canonical (replaceAt new path value) := by
  induction path generalizing value with
  | nil => exact fresh
  | cons key rest ih =>
      cases value with
      | object fields =>
          cases found : Table.lookup key fields with
          | none => simpa [replaceAt, found] using canonical
          | some inner =>
              rw [replaceAt_cons_of_field new inner key rest fields found]
              exact canonical_insert key _ fields canonical
                (ih inner (canonical_lookup key inner fields canonical found))
      | _ => exact canonical

/-- A path that leaves the other one at its first key leads where it led before. -/
theorem at_replaceAt_apart (new : Json) (path other : List String) (key different : String)
    (apart : different ≠ key) (value : Json) :
    (replaceAt new (key :: path) value).at? (different :: other) =
      value.at? (different :: other) := by
  cases value with
  | object fields =>
      cases found : Table.lookup key fields with
      | none => simp [replaceAt, found]
      | some inner =>
          rw [replaceAt_cons_of_field new inner key path fields found]
          simp [at?, field?, Table.lookup_insert_other key different _ fields apart]
  | _ => rfl

/-- A path that neither leads to the replaced value nor below it leads where it led before. -/
theorem at_replaceAt_elsewhere (new : Json) (path other : List String) (value : Json)
    (above : ¬ other <+: path) (below : ¬ path <+: other) :
    (replaceAt new path value).at? other = value.at? other := by
  induction path generalizing other value with
  | nil => exact absurd (List.nil_prefix) below
  | cons key rest ih =>
      cases other with
      | nil => exact absurd (List.nil_prefix) above
      | cons first more =>
          by_cases apart : first = key
          · subst apart
            rw [List.prefix_cons_inj] at above below
            cases value with
            | object fields =>
                cases found : Table.lookup first fields with
                | none => simp [replaceAt, found]
                | some inner =>
                    rw [replaceAt_cons_of_field new inner first rest fields found]
                    simp [at?, field?, Table.lookup_insert_same, found, ih more inner above below]
            | _ => rfl
          · exact at_replaceAt_apart new rest more key first apart value

theorem replaceAt_object (new : Json) (key : String) (rest : List String) (fields : Table Json) :
    ∃ replaced, replaceAt new (key :: rest) (.object fields) = .object replaced := by
  cases found : Table.lookup key fields with
  | none => exact ⟨fields, by simp [replaceAt, found]⟩
  | some inner => exact ⟨_, replaceAt_cons_of_field new inner key rest fields found⟩

end Replacement

end BindingOperator.Json
