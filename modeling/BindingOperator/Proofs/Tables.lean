import Mathlib.Data.String.Basic
import Mathlib.Data.List.Sort
import Mathlib.Tactic.Tauto
import BindingOperator.Table

/-!
Laws of ordered tables and of ascending name sets. Reading a key observes a table
completely: two ordered tables that answer every key alike are equal. Name sets are
observed by membership in the same way. Both survive being written entry by entry.
-/

namespace BindingOperator.Table

variable {α β : Type}

theorem ordered_cons (entry : String × α) (rest : Table α) :
    Ordered (entry :: rest) ↔ (∀ other ∈ rest, entry.1 < other.1) ∧ Ordered rest := by
  induction rest generalizing entry with
  | nil => simp [Ordered]
  | cons second rest ih =>
      constructor
      · rintro ⟨first, tail⟩
        refine ⟨?_, tail⟩
        intro other member
        rcases List.mem_cons.mp member with same | later
        · rw [same]; exact first
        · exact lt_trans first (((ih second).mp tail).1 other later)
      · rintro ⟨above, tail⟩
        exact ⟨above second List.mem_cons_self, tail⟩

/-- Only the keys of a table decide whether it is ordered. -/
theorem ordered_iff_keys (table : Table α) :
    Ordered table ↔ (table.map Prod.fst).Pairwise (· < ·) := by
  induction table with
  | nil => simp [Ordered]
  | cons entry rest ih =>
      rw [ordered_cons, List.map_cons, List.pairwise_cons, ih]
      simp only [List.forall_mem_map]

theorem lookup_cons (key : String) (entry : String × α) (rest : Table α) :
    lookup key (entry :: rest) = if entry.1 = key then some entry.2 else lookup key rest := rfl

theorem lookup_insert (key other : String) (value : α) (table : Table α) :
    lookup other (insert key value table) =
      if other = key then some value else lookup other table := by
  by_cases same : other = key
  · rw [same, lookup_insert_same]; simp
  · simp [same, lookup_insert_other key other value table same]

theorem mem_of_lookup (key : String) (value : α) (table : Table α)
    (found : lookup key table = some value) : (key, value) ∈ table := by
  induction table with
  | nil => simp at found
  | cons entry rest ih =>
      obtain ⟨name, old⟩ := entry
      by_cases same : name = key
      · subst name
        simp only [lookup, ↓reduceIte, Option.some.injEq] at found
        simp [found]
      · simp only [lookup, same, ↓reduceIte] at found
        exact List.mem_cons_of_mem _ (ih found)

theorem lookup_none_of_above (key : String) (table : Table α)
    (above : ∀ entry ∈ table, key < entry.1) : lookup key table = none := by
  cases found : lookup key table with
  | none => rfl
  | some value =>
      have member := mem_of_lookup key value table found
      exact absurd (above _ member) (lt_irrefl key)

theorem lookup_of_mem (table : Table α) (ordered : Ordered table) (key : String) (value : α)
    (member : (key, value) ∈ table) : lookup key table = some value := by
  induction table with
  | nil => simp at member
  | cons entry rest ih =>
      obtain ⟨above, tail⟩ := (ordered_cons entry rest).mp ordered
      rcases List.mem_cons.mp member with same | later
      · simp [lookup, ← same]
      · have different : entry.1 ≠ key := ne_of_lt (above _ later)
        simp [lookup, different, ih tail later]

theorem has_iff_exists (key : String) (table : Table α) :
    has key table = true ↔ ∃ value, lookup key table = some value := by
  simp [has, Option.isSome_iff_exists]

theorem any_keys_iff (test : String → Bool) (table : Table α) (ordered : Ordered table) :
    (table.any fun entry => test entry.1) = true ↔ ∃ key, has key table = true ∧ test key := by
  simp only [List.any_eq_true, has_iff_exists]
  constructor
  · rintro ⟨⟨key, value⟩, member, passes⟩
    exact ⟨key, ⟨value, lookup_of_mem table ordered key value member⟩, passes⟩
  · rintro ⟨key, ⟨value, found⟩, passes⟩
    exact ⟨(key, value), mem_of_lookup key value table found, passes⟩

theorem mem_insert (key : String) (value : α) (table : Table α) (entry : String × α)
    (member : entry ∈ insert key value table) : entry = (key, value) ∨ entry ∈ table := by
  induction table with
  | nil => exact .inl (List.mem_singleton.mp member)
  | cons first rest ih =>
      obtain ⟨name, old⟩ := first
      simp only [insert] at member
      split at member
      · rcases List.mem_cons.mp member with same | later
        · exact .inl same
        · exact .inr (List.mem_cons_of_mem _ later)
      · split at member
        · rcases List.mem_cons.mp member with same | later
          · exact .inl same
          · exact .inr later
        · rcases List.mem_cons.mp member with same | later
          · exact .inr (same ▸ List.mem_cons_self)
          · exact (ih later).imp id (List.mem_cons_of_mem _)

theorem mem_of_mem_erase (key : String) (table : Table α) (entry : String × α)
    (member : entry ∈ erase key table) : entry ∈ table := by
  induction table with
  | nil => exact member
  | cons first rest ih =>
      obtain ⟨name, old⟩ := first
      simp only [erase] at member
      split at member
      · exact List.mem_cons_of_mem _ member
      · rcases List.mem_cons.mp member with same | later
        · exact same ▸ List.mem_cons_self
        · exact List.mem_cons_of_mem _ (ih later)

theorem ordered_insert (key : String) (value : α) (table : Table α) (ordered : Ordered table) :
    Ordered (insert key value table) := by
  induction table with
  | nil => trivial
  | cons first rest ih =>
      obtain ⟨name, old⟩ := first
      obtain ⟨above, tail⟩ := (ordered_cons _ rest).mp ordered
      simp only [insert]
      split
      · next same => exact (ordered_cons _ rest).mpr ⟨same ▸ above, tail⟩
      · next different =>
        split
        · next before =>
          refine (ordered_cons _ _).mpr ⟨?_, ordered⟩
          intro other member
          rcases List.mem_cons.mp member with same | later
          · rw [same]; exact before
          · exact lt_trans before (above other later)
        -- the key goes further back, so the first entry stays below everything behind it
        · next behind =>
          refine (ordered_cons _ _).mpr ⟨?_, ih tail⟩
          intro other member
          rcases mem_insert key value rest other member with same | later
          · rw [same]; exact lt_of_le_of_ne (not_lt.mp behind) different
          · exact above other later

theorem ordered_erase (key : String) (table : Table α) (ordered : Ordered table) :
    Ordered (erase key table) := by
  induction table with
  | nil => trivial
  | cons first rest ih =>
      obtain ⟨name, old⟩ := first
      obtain ⟨above, tail⟩ := (ordered_cons _ rest).mp ordered
      simp only [erase]
      split
      · exact tail
      · exact (ordered_cons _ _).mpr
          ⟨fun other member => above other (mem_of_mem_erase key rest other member), ih tail⟩

theorem lookup_erase_same (key : String) (table : Table α) (ordered : Ordered table) :
    lookup key (erase key table) = none := by
  induction table with
  | nil => rfl
  | cons first rest ih =>
      obtain ⟨name, old⟩ := first
      obtain ⟨above, tail⟩ := (ordered_cons _ rest).mp ordered
      by_cases same : name = key
      · subst name
        simpa [erase] using lookup_none_of_above key rest above
      · simp [erase, same, lookup, ih tail]

theorem lookup_erase (key other : String) (table : Table α) (ordered : Ordered table) :
    lookup other (erase key table) = if other = key then none else lookup other table := by
  by_cases same : other = key
  · rw [same, lookup_erase_same key table ordered]; simp
  · simp [same, lookup_erase_other key other table same]

theorem erase_absent (key : String) (table : Table α) (absent : lookup key table = none) :
    erase key table = table := by
  induction table with
  | nil => rfl
  | cons first rest ih =>
      obtain ⟨name, old⟩ := first
      by_cases same : name = key
      · simp [lookup, same] at absent
      · simp only [lookup, same, ↓reduceIte] at absent
        simp [erase, same, ih absent]

theorem lookup_assign (key other : String) (value : Option α) (table : Table α)
    (ordered : Ordered table) :
    lookup other (assign key value table) =
      if other = key then value else lookup other table := by
  cases value with
  | none => exact lookup_erase key other table ordered
  | some value => exact lookup_insert key other value table

theorem ordered_assign (key : String) (value : Option α) (table : Table α)
    (ordered : Ordered table) : Ordered (assign key value table) := by
  cases value with
  | none => exact ordered_erase key table ordered
  | some value => exact ordered_insert key value table ordered

/-- A key below all keys of an ordered table would be answered by the other table only. -/
theorem head_not_less {first second : String × α} {rest others : Table α}
    (ordered : Ordered (second :: others))
    (same : ∀ key, lookup key (first :: rest) = lookup key (second :: others)) :
    ¬ first.1 < second.1 := by
  intro less
  obtain ⟨above, -⟩ := (ordered_cons _ _).mp ordered
  have absent : lookup first.1 (second :: others) = none :=
    lookup_none_of_above _ _ (List.forall_mem_cons.mpr
      ⟨less, fun entry member => lt_trans less (above entry member)⟩)
  have answers := same first.1
  rw [absent, lookup_cons] at answers
  simp at answers

/-- Answers to all keys determine an ordered table. -/
theorem ext (left right : Table α) (leftOrdered : Ordered left) (rightOrdered : Ordered right)
    (same : ∀ key, lookup key left = lookup key right) : left = right := by
  induction left generalizing right with
  | nil =>
      cases right with
      | nil => rfl
      | cons entry rest => simpa [lookup] using same entry.1
  | cons first leftRest ih =>
      obtain ⟨leftAbove, leftTail⟩ := (ordered_cons _ _).mp leftOrdered
      cases right with
      | nil => simpa [lookup] using same first.1
      | cons second rightRest =>
          obtain ⟨rightAbove, rightTail⟩ := (ordered_cons _ _).mp rightOrdered
          have keys : first.1 = second.1 :=
            le_antisymm (not_lt.mp (head_not_less leftOrdered fun key => (same key).symm))
              (not_lt.mp (head_not_less rightOrdered same))
          have values : first.2 = second.2 := by
            simpa [lookup, keys] using same first.1
          have tails : leftRest = rightRest := by
            apply ih rightRest leftTail rightTail
            intro key
            by_cases head : key = first.1
            · rw [head, lookup_none_of_above _ _ leftAbove,
                lookup_none_of_above _ _ (keys ▸ rightAbove)]
            · have swapped : ¬ first.1 = key := fun equal => head equal.symm
              have other : ¬ second.1 = key := keys ▸ swapped
              simpa [lookup, swapped, other] using same key
          rw [Prod.ext keys values, tails]

theorem insert_present (key : String) (value : α) (table : Table α) (ordered : Ordered table)
    (present : lookup key table = some value) : insert key value table = table := by
  apply ext _ _ (ordered_insert key value table ordered) ordered
  intro other
  rw [lookup_insert]
  split
  · next same => rw [same, present]
  · rfl

theorem assign_same (key : String) (value : Option α) (table : Table α)
    (ordered : Ordered table) (same : lookup key table = value) :
    assign key value table = table := by
  cases value with
  | none => exact erase_absent key table same
  | some value => exact insert_present key value table ordered same

theorem assign_eq_self_iff (key : String) (value : Option α) (table : Table α)
    (ordered : Ordered table) : assign key value table = table ↔ lookup key table = value := by
  constructor
  · intro same
    have found := lookup_assign key key value table ordered
    rwa [same, if_pos rfl] at found
  · exact assign_same key value table ordered

/-- The last of two writes counts. No order is needed: both stop at the same place. -/
theorem insert_insert (key : String) (first second : α) (table : Table α) :
    insert key second (insert key first table) = insert key second table := by
  induction table with
  | nil => simp [insert]
  | cons entry rest ih =>
      obtain ⟨name, old⟩ := entry
      by_cases same : name = key
      · simp [insert, same]
      · by_cases before : key < name
        · simp [insert, same, before]
        · simp [insert, same, before, ih]

theorem insert_above (key : String) (value : α) (table : Table α)
    (above : ∀ entry ∈ table, entry.1 < key) : insert key value table = table ++ [(key, value)] := by
  induction table with
  | nil => rfl
  | cons entry rest ih =>
      have less := above entry List.mem_cons_self
      have tail := ih fun other member => above other (List.mem_cons_of_mem _ member)
      simp [insert, ne_of_lt less, not_lt_of_gt less, tail]

theorem foldl_insert_ordered (entries table : Table α) (ordered : Ordered entries)
    (above : ∀ entry ∈ entries, ∀ old ∈ table, old.1 < entry.1) :
    entries.foldl (fun table entry => insert entry.1 entry.2 table) table = table ++ entries := by
  induction entries generalizing table with
  | nil => simp
  | cons entry rest ih =>
      obtain ⟨later, tail⟩ := (ordered_cons _ _).mp ordered
      rw [List.foldl_cons, insert_above _ _ _ (above entry List.mem_cons_self), ih _ tail]
      · simp
      · intro other member old present
        rcases List.mem_append.mp present with before | new
        · exact above other (List.mem_cons_of_mem _ member) old before
        · rw [List.mem_singleton.mp new]; exact later other member

/-- An ordered table is what its own entries make. -/
theorem ofEntries_ordered (table : Table α) (ordered : Ordered table) :
    ofEntries table = table := by
  simpa [ofEntries] using foldl_insert_ordered table [] ordered (by simp)

end BindingOperator.Table

namespace BindingOperator.NameSet

def Ascending (set : NameSet) : Prop := set.Pairwise (· < ·)

theorem ascending_insert (name : String) (set : NameSet) (ascending : Ascending set) :
    Ascending (insert name set) := by
  induction set with
  | nil => simp [insert, Ascending]
  | cons first rest ih =>
      obtain ⟨above, tail⟩ := List.pairwise_cons.mp ascending
      simp only [insert]
      split
      · exact ascending
      · next different =>
        split
        · next before =>
          refine List.pairwise_cons.mpr ⟨?_, ascending⟩
          intro other member
          rcases List.mem_cons.mp member with same | later
          · rw [same]; exact before
          · exact lt_trans before (above other later)
        · next behind =>
          refine List.pairwise_cons.mpr ⟨?_, ih tail⟩
          intro other member
          rcases (mem_insert name other rest).mp member with same | later
          · rw [same]; exact lt_of_le_of_ne (not_lt.mp behind) different
          · exact above other later

theorem erase_sublist (name : String) (set : NameSet) : (erase name set).Sublist set := by
  induction set with
  | nil => exact .refl _
  | cons first rest ih =>
      by_cases same : first = name
      · simp [erase, same]
      · simp [erase, same, ih]

theorem ascending_erase (name : String) (set : NameSet) (ascending : Ascending set) :
    Ascending (erase name set) :=
  List.Pairwise.sublist (erase_sublist name set) ascending

theorem mem_erase (name other : String) (set : NameSet) (ascending : Ascending set) :
    other ∈ erase name set ↔ other ∈ set ∧ other ≠ name := by
  induction set with
  | nil => simp [erase]
  | cons first rest ih =>
      obtain ⟨above, tail⟩ := List.pairwise_cons.mp ascending
      by_cases same : first = name
      · subst first
        simp only [erase, ↓reduceIte, List.mem_cons]
        constructor
        · exact fun member => ⟨.inr member, ne_of_gt (above other member)⟩
        · rintro ⟨rfl | member, different⟩
          · exact absurd rfl different
          · exact member
      · simp only [erase, same, ↓reduceIte, List.mem_cons, ih tail]
        constructor
        · rintro (rfl | ⟨member, different⟩)
          · exact ⟨.inl rfl, same⟩
          · exact ⟨.inr member, different⟩
        · rintro ⟨rfl | member, different⟩
          · exact .inl rfl
          · exact .inr ⟨member, different⟩

/-- Members determine an ascending set. -/
theorem ext (left right : NameSet) (leftAscending : Ascending left)
    (rightAscending : Ascending right) (same : ∀ name, name ∈ left ↔ name ∈ right) :
    left = right := by
  have order : left.Perm right :=
    (List.perm_ext_iff_of_nodup leftAscending.nodup rightAscending.nodup).mpr same
  exact order.eq_of_pairwise' leftAscending rightAscending

theorem ascending_ofNames (names : List String) : Ascending (ofNames names) := by
  have grows : ∀ set, Ascending set →
      Ascending (names.foldl (fun set name => insert name set) set) := by
    induction names with
    | nil => exact fun _ ascending => ascending
    | cons name rest ih => exact fun set ascending => ih _ (ascending_insert name set ascending)
  exact grows [] List.Pairwise.nil

theorem mem_ofNames (names : List String) (name : String) :
    name ∈ ofNames names ↔ name ∈ names := by
  have grows : ∀ set, name ∈ names.foldl (fun set name => insert name set) set ↔
      name ∈ set ∨ name ∈ names := by
    induction names with
    | nil => simp
    | cons first rest ih =>
        intro set
        rw [List.foldl_cons, ih, mem_insert, List.mem_cons]
        tauto
  simpa [ofNames] using grows []

/-- An ascending set is what its own members make. -/
theorem ofNames_ascending (set : NameSet) (ascending : Ascending set) : ofNames set = set :=
  ext _ _ (ascending_ofNames set) ascending (mem_ofNames set)

end BindingOperator.NameSet
