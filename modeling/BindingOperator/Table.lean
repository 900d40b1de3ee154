/-!
Tables keyed by text, kept in ascending key order, and sets of names kept the same way.
Insertion and removal keep the order, so two ordered tables with the same entries are
the same list: equality of documents does not depend on the history of their fields.
`Ordered` is a predicate beside the operations because the document type nests tables.
-/

namespace BindingOperator

abbrev Table (α : Type) := List (String × α)

namespace Table

variable {α β : Type}

def Ordered : Table α → Prop
  | [] => True
  | [_] => True
  | first :: second :: rest => first.1 < second.1 ∧ Ordered (second :: rest)

def lookup (key : String) : Table α → Option α
  | [] => none
  | (name, value) :: rest => if name = key then some value else lookup key rest

def has (key : String) (table : Table α) : Bool :=
  (lookup key table).isSome

/-- Writing a key replaces its value or adds it at its place in the order. -/
def insert (key : String) (value : α) : Table α → Table α
  | [] => [(key, value)]
  | (name, old) :: rest =>
      if name = key then (key, value) :: rest
      else if key < name then (key, value) :: (name, old) :: rest
      else (name, old) :: insert key value rest

def erase (key : String) : Table α → Table α
  | [] => []
  | (name, value) :: rest =>
      if name = key then rest else (name, value) :: erase key rest

def keys (table : Table α) : List String :=
  table.map Prod.fst

/-- Entries in the order they were written: a later one replaces an earlier one. -/
def ofEntries (entries : List (String × α)) : Table α :=
  entries.foldl (fun table entry => insert entry.1 entry.2 table) []

def ofOptional (entries : List (String × Option α)) : Table α :=
  ofEntries (entries.filterMap fun entry => entry.2.map fun value => (entry.1, value))

/-- No text is written for an absent value: `none` removes the key. -/
def assign (key : String) (value : Option α) (table : Table α) : Table α :=
  match value with
  | some value => insert key value table
  | none => erase key table

@[simp] theorem lookup_nil (key : String) : lookup key ([] : Table α) = none := rfl

theorem lookup_insert_same (key : String) (value : α) (table : Table α) :
    lookup key (insert key value table) = some value := by
  induction table with
  | nil => simp [insert, lookup]
  | cons entry rest ih =>
      obtain ⟨name, old⟩ := entry
      by_cases same : name = key
      · simp [insert, same, lookup]
      · by_cases before : key < name <;> simp [insert, same, before, lookup, ih]

theorem lookup_insert_other (key other : String) (value : α) (table : Table α)
    (different : other ≠ key) :
    lookup other (insert key value table) = lookup other table := by
  have swapped : ¬ key = other := fun same => different same.symm
  induction table with
  | nil => simp [insert, lookup, swapped]
  | cons entry rest ih =>
      obtain ⟨name, old⟩ := entry
      by_cases same : name = key
      · subst same; simp [insert, lookup, swapped]
      · by_cases before : key < name
        · simp [insert, same, before, lookup, swapped]
        · simp [insert, same, before, lookup, ih]

theorem lookup_erase_other (key other : String) (table : Table α) (different : other ≠ key) :
    lookup other (erase key table) = lookup other table := by
  have swapped : ¬ key = other := fun same => different same.symm
  induction table with
  | nil => rfl
  | cons entry rest ih =>
      obtain ⟨name, old⟩ := entry
      by_cases same : name = key
      · subst same; simp [erase, lookup, swapped]
      · simp [erase, same, lookup, ih]

end Table

/-- A set of names: ascending, without repetition. -/
abbrev NameSet := List String

namespace NameSet

def insert (name : String) : NameSet → NameSet
  | [] => [name]
  | first :: rest =>
      if first = name then first :: rest
      else if name < first then name :: first :: rest
      else first :: insert name rest

def erase (name : String) : NameSet → NameSet
  | [] => []
  | first :: rest => if first = name then rest else first :: erase name rest

def ofNames (names : List String) : NameSet :=
  names.foldl (fun set name => insert name set) []

theorem mem_insert (name other : String) (set : NameSet) :
    other ∈ insert name set ↔ other = name ∨ other ∈ set := by
  induction set with
  | nil => simp [insert]
  | cons first rest ih =>
      by_cases same : first = name
      · subst same; simp [insert]
      · by_cases before : name < first
        · simp [insert, same, before]
        · simp only [insert, same, before, ↓reduceIte, List.mem_cons, ih]
          constructor
          · rintro (rfl | rfl | member)
            · exact .inr (.inl rfl)
            · exact .inl rfl
            · exact .inr (.inr member)
          · rintro (rfl | rfl | member)
            · exact .inr (.inl rfl)
            · exact .inl rfl
            · exact .inr (.inr member)

end NameSet

end BindingOperator
