import BindingOperator.Proofs.Projection.Names

/-!
Lists of named entries. Putting an entry replaces the first one of its name or adds it at
the end, so what a list had before stays a prefix of it as long as only new names are put.
`Extras` describes what follows that prefix: entries that all have a name, no name twice,
and exactly the names that belong there.
-/

namespace BindingOperator

def entryNames (entries : List Json) : List (Option String) := entries.map entryName

def firstNamed (name : Option String) (entries : List Json) : Option Json :=
  entries.find? fun entry => entryName entry = name

theorem firstNamed_eq_none (name : Option String) (entries : List Json) :
    firstNamed name entries = none ↔ name ∉ entryNames entries := by
  simp [firstNamed, entryNames]

theorem firstNamed_append (name : Option String) (left right : List Json) :
    firstNamed name (left ++ right) = (firstNamed name left).or (firstNamed name right) := by
  simp [firstNamed, List.find?_append]

section Putting

theorem firstNamed_putNamed_same (entry : Json) (entries : List Json) :
    firstNamed (entryName entry) (putNamed entry entries) = some entry := by
  induction entries with
  | nil => simp [putNamed, firstNamed]
  | cons first rest ih =>
      by_cases same : entryName first = entryName entry
      · simp [putNamed, same, firstNamed]
      · simpa [putNamed, same, firstNamed] using ih

theorem firstNamed_putNamed_other (name : Option String) (entry : Json) (entries : List Json)
    (different : entryName entry ≠ name) :
    firstNamed name (putNamed entry entries) = firstNamed name entries := by
  induction entries with
  | nil => simp [putNamed, firstNamed, different]
  | cons first rest ih =>
      by_cases same : entryName first = entryName entry
      · have other : ¬ entryName first = name := fun equal => different (same.symm.trans equal)
        rw [putNamed, if_pos same]
        simp [firstNamed, different, other]
      · rw [putNamed, if_neg same]
        by_cases found : entryName first = name
        · simp [firstNamed, found]
        · simpa [firstNamed, found] using ih

theorem putNamed_present (entry : Json) (entries : List Json)
    (present : firstNamed (entryName entry) entries = some entry) :
    putNamed entry entries = entries := by
  induction entries with
  | nil => simp [firstNamed] at present
  | cons first rest ih =>
      by_cases same : entryName first = entryName entry
      · simp only [firstNamed, List.find?_cons, same, decide_true, Option.some.injEq] at present
        simp [putNamed, present]
      · simp only [firstNamed, List.find?_cons, same, decide_false] at present
        simp [putNamed, same, ih present]

theorem putNamed_absent (entry : Json) (entries : List Json)
    (absent : entryName entry ∉ entryNames entries) :
    putNamed entry entries = entries ++ [entry] := by
  induction entries with
  | nil => rfl
  | cons first rest ih =>
      simp only [entryNames, List.map_cons, List.mem_cons, not_or] at absent
      have different : ¬ entryName first = entryName entry := fun equal => absent.1 equal.symm
      simp [putNamed, different, ih absent.2]

/-- An entry whose name a list does not have is put behind that list. -/
theorem putNamed_append (entry : Json) (items extras : List Json)
    (absent : entryName entry ∉ entryNames items) :
    putNamed entry (items ++ extras) = items ++ putNamed entry extras := by
  induction items with
  | nil => rfl
  | cons first rest ih =>
      simp only [entryNames, List.map_cons, List.mem_cons, not_or] at absent
      have different : ¬ entryName first = entryName entry := fun equal => absent.1 equal.symm
      simp [putNamed, different, ih absent.2]

theorem entryNames_putNamed_present (entry : Json) (entries : List Json)
    (present : entryName entry ∈ entryNames entries) :
    entryNames (putNamed entry entries) = entryNames entries := by
  induction entries with
  | nil => simp [entryNames] at present
  | cons first rest ih =>
      by_cases same : entryName first = entryName entry
      · simp [putNamed, same, entryNames]
      · have later : entryName entry ∈ entryNames rest :=
          (List.mem_cons.mp present).resolve_left fun equal => same equal.symm
        simpa [putNamed, same, entryNames] using ih later

theorem mem_entryNames_putNamed (name : Option String) (entry : Json) (entries : List Json) :
    name ∈ entryNames (putNamed entry entries) ↔
      name = entryName entry ∨ name ∈ entryNames entries := by
  by_cases present : entryName entry ∈ entryNames entries
  · rw [entryNames_putNamed_present entry entries present]
    constructor
    · exact .inr
    · rintro (rfl | member)
      · exact present
      · exact member
  · rw [putNamed_absent entry entries present]
    simp [entryNames, or_comm]

/-- A filter that judges the entries of a name alike keeps the name or loses it. -/
theorem mem_entryNames_filter (keep : Json → Bool) (stays : Prop) (name : Option String)
    (entries : List Json)
    (judged : ∀ entry ∈ entries, entryName entry = name → (keep entry = true ↔ stays)) :
    name ∈ entryNames (entries.filter keep) ↔ stays ∧ name ∈ entryNames entries := by
  simp only [entryNames, List.mem_map, List.mem_filter]
  constructor
  · rintro ⟨entry, ⟨member, kept⟩, named⟩
    exact ⟨(judged entry member named).mp kept, entry, member, named⟩
  · rintro ⟨kept, entry, member, named⟩
    exact ⟨entry, ⟨member, (judged entry member named).mpr kept⟩, named⟩

theorem mem_entryNames_without (volume name : String) (entries : List Json) :
    some name ∈ entryNames (entries.filter fun entry => entryName entry ≠ some volume) ↔
      name ≠ volume ∧ some name ∈ entryNames entries :=
  mem_entryNames_filter _ _ _ _ fun entry _ named => by simp [named]

/-- Without the volume or mount of a binding those of the others are left. -/
theorem mem_volumeNames_without (key other : String) (entries : List Json) :
    some (volumeName other) ∈
        entryNames (entries.filter fun entry => entryName entry ≠ some (volumeName key)) ↔
      other ≠ key ∧ some (volumeName other) ∈ entryNames entries := by
  rw [mem_entryNames_without, Ne, volumeName_inj]

theorem mem_putNamed (entry other : Json) (entries : List Json)
    (member : other ∈ putNamed entry entries) : other = entry ∨ other ∈ entries := by
  induction entries with
  | nil => exact .inl (List.mem_singleton.mp member)
  | cons first rest ih =>
      simp only [putNamed] at member
      split at member
      · exact (List.mem_cons.mp member).imp id (List.mem_cons_of_mem _)
      · rcases List.mem_cons.mp member with same | later
        · exact .inr (same ▸ List.mem_cons_self)
        · exact (ih later).imp id (List.mem_cons_of_mem _)

theorem mem_putNamed_self (entry : Json) (entries : List Json) :
    entry ∈ putNamed entry entries := by
  have found := firstNamed_putNamed_same entry entries
  exact List.mem_of_find?_eq_some found

end Putting

/-- The entries that follow what a list had on its own. -/
structure Extras (belongs : String → Prop) (extras : List Json) : Prop where
  complete : ∀ name, some name ∈ entryNames extras ↔ belongs name
  named : none ∉ entryNames extras
  once : (entryNames extras).Nodup

namespace Extras

variable {belongs other : String → Prop} {extras : List Json}

theorem nil (empty : ∀ name, ¬ belongs name) : Extras belongs [] :=
  ⟨by simpa [entryNames] using empty, by simp [entryNames], List.nodup_nil⟩

theorem congr (same : ∀ name, belongs name ↔ other name) (extra : Extras belongs extras) :
    Extras other extras :=
  ⟨fun name => (extra.complete name).trans (same name), extra.named, extra.once⟩

theorem eq_nil (extra : Extras belongs extras) (empty : ∀ name, ¬ belongs name) :
    extras = [] := by
  cases extras with
  | nil => rfl
  | cons first rest =>
      cases named : entryName first with
      | none => exact absurd (by simp [entryNames, named]) extra.named
      | some name =>
          exact absurd ((extra.complete name).mp (by simp [entryNames, named])) (empty name)

theorem ne_nil (extra : Extras belongs extras) (name : String) (member : belongs name) :
    extras ≠ [] := by
  intro empty
  have present := (extra.complete name).mpr member
  simp [empty, entryNames] at present

theorem put (extra : Extras belongs extras) (entry : Json) (name : String)
    (named : entryName entry = some name) :
    Extras (fun other => other = name ∨ belongs other) (putNamed entry extras) := by
  constructor
  · intro other
    rw [mem_entryNames_putNamed, named, extra.complete]
    simp
  · rw [mem_entryNames_putNamed, named]
    simpa using extra.named
  · by_cases present : entryName entry ∈ entryNames extras
    · rw [entryNames_putNamed_present entry extras present]
      exact extra.once
    · rw [putNamed_absent entry extras present]
      simp only [entryNames, List.map_append, List.map_cons, List.map_nil]
      exact extra.once.append (List.nodup_singleton _) (by simpa [entryNames] using present)

/-- A filter that judges entries by their names keeps exactly those names. -/
theorem filter (extra : Extras belongs extras) (keep : Json → Bool) (kept : String → Prop)
    (judged : ∀ entry ∈ extras, ∀ name, entryName entry = some name →
      (keep entry = true ↔ kept name)) :
    Extras (fun name => belongs name ∧ kept name) (extras.filter keep) := by
  constructor
  · intro name
    rw [← extra.complete, and_comm]
    exact mem_entryNames_filter keep _ _ _ fun entry member => judged entry member name
  · intro member
    obtain ⟨entry, present, named⟩ := List.mem_map.mp member
    exact extra.named (List.mem_map.mpr ⟨entry, (List.mem_filter.mp present).1, named⟩)
  · exact extra.once.sublist (List.filter_sublist.map entryName)

end Extras

end BindingOperator
