import BindingOperator.Proofs.Projection.Entries

/-!
The variables of one container. Projecting leaves every name that was there, adds the root
and every mapped name, and owns only mapped names that nobody else defines; the root itself
is never owned once it is not owned already. With one mapping a name, projecting again with
the names now owned changes nothing.
-/

namespace BindingOperator

def rooted (env : List Json) : List Json :=
  if (rootOf? env).isSome then env else env ++ [rootEntry]

def rootPath (env : List Json) : String := (rootOf? env).getD defaultRoot

theorem rootOf_eq (env : List Json) :
    rootOf? env = (firstNamed (some rootVariable) env).map fun entry =>
      ((entry.field? "value").bind Json.asString?).getD defaultRoot := rfl

theorem rootOf_eq_none (env : List Json) :
    rootOf? env = none ↔ some rootVariable ∉ entryNames env := by
  rw [rootOf_eq, Option.map_eq_none_iff, firstNamed_eq_none]

theorem mem_entryNames_rooted (env : List Json) : some rootVariable ∈ entryNames (rooted env) := by
  unfold rooted
  split
  · next present =>
    by_contra absent
    rw [(rootOf_eq_none env).mpr absent] at present
    simp at present
  · simp [entryNames]

theorem rooted_present (env : List Json) (present : some rootVariable ∈ entryNames env) :
    rooted env = env := by
  unfold rooted
  split
  · rfl
  · next absent =>
    rw [Option.not_isSome_iff_eq_none, rootOf_eq_none] at absent
    exact absurd present absent

/-- The path that a mount is put under is the same once the root is in place. -/
theorem rootPath_rooted (env : List Json) : rootPath (rooted env) = rootPath env := by
  unfold rooted
  split
  · rfl
  · next absent =>
    rw [Option.not_isSome_iff_eq_none] at absent
    have missing := (firstNamed_eq_none _ _).mpr ((rootOf_eq_none env).mp absent)
    have value : (rootEntry.field? "value").bind Json.asString? = some defaultRoot := by
      simp [rootEntry, Json.lookup_record, Json.asString?]
    have found : firstNamed (some rootVariable) [rootEntry] = some rootEntry := by
      simp [firstNamed]
    simp [rootPath, absent, rootOf_eq, firstNamed_append, missing, found, value]

theorem rootPath_congr (env other : List Json)
    (same : firstNamed (some rootVariable) env = firstNamed (some rootVariable) other) :
    rootPath env = rootPath other := by
  rw [rootPath, rootPath, rootOf_eq, rootOf_eq, same]

section Dropping

variable (imprint : Imprint) (previous : NameSet)

def Mapped (name : String) : Prop := ∃ mapping ∈ imprint.env, mapping.name = name

theorem any_mapped_iff (name : String) :
    (imprint.env.any (·.name = name)) = true ↔ Mapped imprint name := by
  simp [Mapped]

def keepsEntry (entry : Json) : Bool :=
  !(previous.contains ((entryName entry).getD "") &&
    !imprint.env.any (·.name = (entryName entry).getD ""))

theorem dropStale_eq (env : List Json) :
    dropStale imprint previous env = env.filter (keepsEntry imprint previous) := rfl

theorem keepsEntry_iff (entry : Json) :
    keepsEntry imprint previous entry = true ↔
      ((entryName entry).getD "" ∈ previous → Mapped imprint ((entryName entry).getD "")) := by
  rw [← any_mapped_iff]
  simp only [keepsEntry]
  by_cases member : (entryName entry).getD "" ∈ previous <;> simp [member]

theorem dropStale_untouched (env : List Json)
    (untouched : ∀ entry ∈ env, (entryName entry).getD "" ∈ previous →
      Mapped imprint ((entryName entry).getD "")) :
    dropStale imprint previous env = env := by
  rw [dropStale_eq, List.filter_eq_self]
  exact fun entry member => (keepsEntry_iff imprint previous entry).mpr (untouched entry member)

theorem firstNamed_filter (name : Option String) (keep : Json → Bool) (entries : List Json)
    (kept : ∀ entry ∈ entries, entryName entry = name → keep entry = true) :
    firstNamed name (entries.filter keep) = firstNamed name entries := by
  induction entries with
  | nil => rfl
  | cons first rest ih =>
      have tail := ih fun entry member => kept entry (List.mem_cons_of_mem _ member)
      by_cases same : entryName first = name
      · have stays := kept first List.mem_cons_self same
        simp [stays, firstNamed, same]
      · by_cases stays : keep first = true
        · simpa [List.filter_cons, stays, firstNamed, same] using tail
        · simpa [List.filter_cons, stays, firstNamed, same] using tail

/-- Dropping keeps a name that was not owned. -/
theorem firstNamed_dropStale (name : String) (env : List Json) (unowned : name ∉ previous) :
    firstNamed (some name) (dropStale imprint previous env) = firstNamed (some name) env := by
  rw [dropStale_eq]
  apply firstNamed_filter (some name) _ env
  intro entry _ named
  rw [keepsEntry_iff, named]
  exact fun member => absurd member unowned

theorem mem_entryNames_dropStale (name : String) (env : List Json) (unowned : name ∉ previous) :
    some name ∈ entryNames (dropStale imprint previous env) ↔ some name ∈ entryNames env := by
  rw [← not_iff_not, ← firstNamed_eq_none, ← firstNamed_eq_none,
    firstNamed_dropStale imprint previous name env unowned]

end Dropping

section Writing

variable (imprint : Imprint) (previous : NameSet)

def projectVariables (mappings : List EnvMapping) (state : List Json × NameSet) :
    List Json × NameSet :=
  mappings.foldl (projectVariable imprint previous) state

/-- Someone else defines the variable of a mapping. -/
def Elsewhere (env : List Json) (mapping : EnvMapping) : Prop :=
  mapping.name ∉ previous ∧ some mapping.name ∈ entryNames env

theorem projectVariable_elsewhere (state : List Json × NameSet) (mapping : EnvMapping)
    (elsewhere : Elsewhere previous state.1 mapping) :
    projectVariable imprint previous state mapping = state := by
  obtain ⟨unowned, member⟩ := elsewhere
  have defined : (state.1.any fun entry => entryName entry = some mapping.name) = true := by
    simpa [entryNames] using member
  simp only [projectVariable, defined, Bool.and_true]
  simp [unowned]

theorem projectVariable_written (state : List Json × NameSet) (mapping : EnvMapping)
    (free : ¬ Elsewhere previous state.1 mapping) :
    projectVariable imprint previous state mapping =
      (putNamed (imprint.variableEntry mapping) state.1, NameSet.insert mapping.name state.2) := by
  have undefined : ¬ ((!previous.contains mapping.name &&
      state.1.any fun entry => entryName entry = some mapping.name) = true) := by
    intro both
    simp only [Bool.and_eq_true, Bool.not_eq_eq_eq_not, Bool.not_true, List.any_eq_true,
      decide_eq_true_eq] at both
    refine free ⟨by simpa using both.1, ?_⟩
    simpa [entryNames] using both.2
  simp only [projectVariable]
  rw [if_neg undefined]

theorem mem_entryNames_projectVariable (name : String) (state : List Json × NameSet)
    (mapping : EnvMapping) :
    some name ∈ entryNames (projectVariable imprint previous state mapping).1 ↔
      name = mapping.name ∨ some name ∈ entryNames state.1 := by
  by_cases elsewhere : Elsewhere previous state.1 mapping
  · rw [projectVariable_elsewhere imprint previous state mapping elsewhere]
    constructor
    · exact .inr
    · rintro (rfl | member)
      · exact elsewhere.2
      · exact member
  · rw [projectVariable_written imprint previous state mapping elsewhere,
      mem_entryNames_putNamed]
    simp

theorem mem_entryNames_projectVariables (name : String) (mappings : List EnvMapping)
    (state : List Json × NameSet) :
    some name ∈ entryNames (projectVariables imprint previous mappings state).1 ↔
      (∃ mapping ∈ mappings, mapping.name = name) ∨ some name ∈ entryNames state.1 := by
  induction mappings generalizing state with
  | nil => simp [projectVariables]
  | cons mapping rest ih =>
      rw [projectVariables, List.foldl_cons, ← projectVariables, ih,
        mem_entryNames_projectVariable]
      simp only [List.exists_mem_cons_iff, @eq_comm _ name]
      exact or_left_comm.trans or_assoc.symm

theorem mem_owned_projectVariable (name : String) (state : List Json × NameSet)
    (mapping : EnvMapping) :
    name ∈ (projectVariable imprint previous state mapping).2 ↔
      name ∈ state.2 ∨ (name = mapping.name ∧ ¬ Elsewhere previous state.1 mapping) := by
  by_cases elsewhere : Elsewhere previous state.1 mapping
  · simp [projectVariable_elsewhere imprint previous state mapping elsewhere, elsewhere]
  · rw [projectVariable_written imprint previous state mapping elsewhere]
    simp [NameSet.mem_insert, elsewhere, or_comm]

theorem ascending_projectVariables (mappings : List EnvMapping) (state : List Json × NameSet)
    (ascending : NameSet.Ascending state.2) :
    NameSet.Ascending (projectVariables imprint previous mappings state).2 := by
  induction mappings generalizing state with
  | nil => exact ascending
  | cons mapping rest ih =>
      apply ih
      by_cases elsewhere : Elsewhere previous state.1 mapping
      · rw [projectVariable_elsewhere imprint previous state mapping elsewhere]
        exact ascending
      · rw [projectVariable_written imprint previous state mapping elsewhere]
        exact NameSet.ascending_insert _ _ ascending

/-- Names that are owned in the end were owned before, or are mapped. -/
theorem mapped_of_owned (name : String) (mappings : List EnvMapping)
    (state : List Json × NameSet)
    (member : name ∈ (projectVariables imprint previous mappings state).2) :
    name ∈ state.2 ∨ ∃ mapping ∈ mappings, mapping.name = name := by
  induction mappings generalizing state with
  | nil => exact .inl member
  | cons mapping rest ih =>
      rcases ih _ member with owned | ⟨later, present, named⟩
      · rcases (mem_owned_projectVariable imprint previous name state mapping).mp owned with
          before | ⟨same, -⟩
        · exact .inl before
        · exact .inr ⟨mapping, List.mem_cons_self, same.symm⟩
      · exact .inr ⟨later, List.mem_cons_of_mem _ present, named⟩

/-- A name that someone else defines is not taken over. -/
theorem unowned_of_defined (name : String) (mappings : List EnvMapping)
    (state : List Json × NameSet) (unowned : name ∉ previous)
    (defined : some name ∈ entryNames state.1) (fresh : name ∉ state.2) :
    name ∉ (projectVariables imprint previous mappings state).2 := by
  induction mappings generalizing state with
  | nil => exact fresh
  | cons mapping rest ih =>
      apply ih
      · exact (mem_entryNames_projectVariable imprint previous name state mapping).mpr
          (.inr defined)
      · rw [mem_owned_projectVariable]
        rintro (before | ⟨rfl, free⟩)
        · exact fresh before
        · exact free ⟨unowned, defined⟩

theorem mem_owned_mono (name : String) (mappings : List EnvMapping) (state : List Json × NameSet)
    (member : name ∈ state.2) :
    name ∈ (projectVariables imprint previous mappings state).2 := by
  induction mappings generalizing state with
  | nil => exact member
  | cons mapping rest ih =>
      exact ih _ ((mem_owned_projectVariable imprint previous name state mapping).mpr (.inl member))

theorem owned_of_previous (mapping : EnvMapping) (mappings : List EnvMapping)
    (state : List Json × NameSet) (present : mapping ∈ mappings)
    (owned : mapping.name ∈ previous) :
    mapping.name ∈ (projectVariables imprint previous mappings state).2 := by
  induction mappings generalizing state with
  | nil => simp at present
  | cons first rest ih =>
      rcases List.mem_cons.mp present with rfl | later
      · apply mem_owned_mono imprint previous _ rest
        rw [mem_owned_projectVariable]
        exact .inr ⟨rfl, fun elsewhere => elsewhere.1 owned⟩
      · exact ih _ later

/-- The first entry of a name that someone else defines is not replaced. -/
theorem firstNamed_projectVariables (name : String) (mappings : List EnvMapping)
    (state : List Json × NameSet) (unowned : name ∉ previous)
    (defined : some name ∈ entryNames state.1) :
    firstNamed (some name) (projectVariables imprint previous mappings state).1 =
      firstNamed (some name) state.1 := by
  induction mappings generalizing state with
  | nil => rfl
  | cons mapping rest ih =>
      rw [projectVariables, List.foldl_cons, ← projectVariables, ih _
        ((mem_entryNames_projectVariable imprint previous name state mapping).mpr (.inr defined))]
      by_cases elsewhere : Elsewhere previous state.1 mapping
      · rw [projectVariable_elsewhere imprint previous state mapping elsewhere]
      · rw [projectVariable_written imprint previous state mapping elsewhere]
        apply firstNamed_putNamed_other
        rw [entryName_variableEntry]
        rintro same
        rw [← Option.some.inj same] at unowned defined
        exact elsewhere ⟨unowned, defined⟩

end Writing

section Again

variable (imprint : Imprint) (previous : NameSet)

/-- Mappings of other names leave the first entry of a name alone. -/
theorem firstNamed_unmapped (name : String) (mappings : List EnvMapping)
    (state : List Json × NameSet) (unmapped : ∀ mapping ∈ mappings, mapping.name ≠ name) :
    firstNamed (some name) (projectVariables imprint previous mappings state).1 =
      firstNamed (some name) state.1 := by
  induction mappings generalizing state with
  | nil => rfl
  | cons mapping rest ih =>
      rw [projectVariables, List.foldl_cons, ← projectVariables,
        ih _ fun later member => unmapped later (List.mem_cons_of_mem _ member)]
      by_cases elsewhere : Elsewhere previous state.1 mapping
      · rw [projectVariable_elsewhere imprint previous state mapping elsewhere]
      · rw [projectVariable_written imprint previous state mapping elsewhere]
        apply firstNamed_putNamed_other
        rw [entryName_variableEntry]
        exact fun same => unmapped mapping List.mem_cons_self (Option.some.inj same)

/-- With one mapping a name, an owned variable is the one its mapping writes. -/
theorem firstNamed_owned (mapping : EnvMapping) (mappings : List EnvMapping)
    (state : List Json × NameSet) (distinct : (mappings.map EnvMapping.name).Nodup)
    (present : mapping ∈ mappings) (fresh : mapping.name ∉ state.2)
    (owned : mapping.name ∈ (projectVariables imprint previous mappings state).2) :
    firstNamed (some mapping.name) (projectVariables imprint previous mappings state).1 =
      some (imprint.variableEntry mapping) := by
  induction mappings generalizing state with
  | nil => simp at present
  | cons first rest ih =>
      obtain ⟨once, others⟩ := List.nodup_cons.mp distinct
      rw [projectVariables, List.foldl_cons, ← projectVariables] at owned ⊢
      -- the state of the fold changes, so the induction is over any state without the name
      rcases List.mem_cons.mp present with rfl | later
      · by_cases elsewhere : Elsewhere previous state.1 mapping
        · rw [projectVariable_elsewhere imprint previous state mapping elsewhere] at owned
          exact absurd owned (unowned_of_defined imprint previous _ rest state elsewhere.1
            elsewhere.2 fresh)
        · rw [firstNamed_unmapped imprint previous mapping.name rest _
            fun other member same => once (List.mem_map.mpr ⟨other, member, same⟩),
            projectVariable_written imprint previous state mapping elsewhere,
            ← entryName_variableEntry imprint mapping]
          exact firstNamed_putNamed_same _ _
      · have apart : mapping.name ≠ first.name := fun same =>
          once (same ▸ List.mem_map_of_mem later)
        refine ih _ others later ?_ owned
        rw [mem_owned_projectVariable]
        rintro (before | ⟨same, -⟩)
        · exact fresh before
        · exact apart same

/-- Once every owned variable is as its mapping writes it and every other mapped name is
defined, mapping again only collects the owned names. -/
theorem projectVariables_settled (owned : NameSet) (mappings : List EnvMapping)
    (state : List Json × NameSet)
    (written : ∀ mapping ∈ mappings, mapping.name ∈ owned →
      firstNamed (some mapping.name) state.1 = some (imprint.variableEntry mapping))
    (defined : ∀ mapping ∈ mappings, some mapping.name ∈ entryNames state.1) :
    (projectVariables imprint owned mappings state).1 = state.1 ∧
      ∀ name, name ∈ (projectVariables imprint owned mappings state).2 ↔
        name ∈ state.2 ∨ (name ∈ owned ∧ ∃ mapping ∈ mappings, mapping.name = name) := by
  induction mappings generalizing state with
  | nil => simp [projectVariables]
  | cons mapping rest ih =>
      rw [projectVariables, List.foldl_cons, ← projectVariables]
      -- one mapping leaves the variables alone, so the hypotheses hold for the rest of the fold
      have same : (projectVariable imprint owned state mapping).1 = state.1 := by
        by_cases elsewhere : Elsewhere owned state.1 mapping
        · rw [projectVariable_elsewhere imprint owned state mapping elsewhere]
        · rw [projectVariable_written imprint owned state mapping elsewhere]
          have member : mapping.name ∈ owned := by
            by_contra unowned
            exact elsewhere ⟨unowned, defined mapping List.mem_cons_self⟩
          apply putNamed_present
          rw [entryName_variableEntry]
          exact written mapping List.mem_cons_self member
      obtain ⟨kept, collected⟩ := ih (projectVariable imprint owned state mapping)
        (fun later member => same ▸ written later (List.mem_cons_of_mem _ member))
        (fun later member => same ▸ defined later (List.mem_cons_of_mem _ member))
      refine ⟨kept.trans same, ?_⟩
      intro name
      rw [collected, mem_owned_projectVariable]
      have here := defined mapping List.mem_cons_self
      constructor
      · rintro ((before | ⟨rfl, free⟩) | ⟨member, later, present, named⟩)
        · exact .inl before
        · by_cases member : mapping.name ∈ owned
          · exact .inr ⟨member, mapping, List.mem_cons_self, rfl⟩
          · exact absurd ⟨member, here⟩ free
        · exact .inr ⟨member, later, List.mem_cons_of_mem _ present, named⟩
      · rintro (before | ⟨member, later, present, named⟩)
        · exact .inl (.inl before)
        · rcases List.mem_cons.mp present with rfl | rest
          · exact .inl (.inr ⟨named.symm, fun elsewhere => elsewhere.1 (named ▸ member)⟩)
          · exact .inr ⟨member, later, rest, named⟩

/-- Projecting the variables again, with the names that are now owned, changes nothing. -/
theorem projectEnv_again (env : List Json) (distinct : (imprint.env.map EnvMapping.name).Nodup) :
    projectEnv imprint (projectEnv imprint previous env).2 (projectEnv imprint previous env).1 =
      projectEnv imprint previous env := by
  generalize projected : projectEnv imprint previous env = result
  have ran : projectVariables imprint previous imprint.env (dropStale imprint previous env, []) =
      result := projected
  have mapped : ∀ name ∈ result.2, Mapped imprint name := by
    intro name member
    rw [← ran] at member
    rcases mapped_of_owned imprint previous name imprint.env _ member with before | now
    · simp at before
    · exact now
  -- every name that is owned now is mapped, so that nothing is stale the second time
  have kept : dropStale imprint result.2 result.1 = result.1 :=
    dropStale_untouched imprint result.2 result.1 fun _ _ member => mapped _ member
  obtain ⟨same, collected⟩ := projectVariables_settled imprint result.2 imprint.env (result.1, [])
    (fun mapping member owned => by
      rw [← ran] at owned ⊢
      exact firstNamed_owned imprint previous mapping imprint.env _ distinct member (by simp) owned)
    (fun mapping member => by
      rw [← ran, mem_entryNames_projectVariables]
      exact .inl ⟨mapping, member, rfl⟩)
  have sets : (projectVariables imprint result.2 imprint.env (result.1, [])).2 = result.2 := by
    refine NameSet.ext _ _ (ascending_projectVariables _ _ _ _ List.Pairwise.nil) ?_ ?_
    · rw [← ran]
      exact ascending_projectVariables _ _ _ _ List.Pairwise.nil
    · intro name
      rw [collected]
      constructor
      · rintro (before | ⟨member, -⟩)
        · simp at before
        · exact member
      · exact fun member => .inr ⟨member, mapped name member⟩
  unfold projectEnv
  rw [kept]
  exact Prod.ext same sets

end Again

section Growth

variable (imprint : Imprint) (previous : NameSet) {belongs : String → Prop}
  {items extras : List Json}

theorem entryNames_append (left right : List Json) :
    entryNames (left ++ right) = entryNames left ++ entryNames right := by
  simp [entryNames]

/-- The root joins the extras of a list that does not have it. -/
theorem rooted_extras (items : List Json) (extra : Extras belongs extras) :
    ∃ more, rooted (items ++ extras) = items ++ more ∧
      Extras (fun name => (name = rootVariable ∧ some rootVariable ∉ entryNames items) ∨
        belongs name) more := by
  -- the root may already be there, as an item of its own or as an extra
  by_cases present : some rootVariable ∈ entryNames (items ++ extras)
  · refine ⟨extras, rooted_present _ present, extra.congr ?_⟩
    intro name
    constructor
    · exact .inr
    · rintro (⟨rfl, absent⟩ | member)
      · rw [entryNames_append, List.mem_append] at present
        exact (extra.complete _).mp (present.resolve_left absent)
      · exact member
  · have missing := (rootOf_eq_none _).mpr present
    rw [entryNames_append, List.mem_append, not_or] at present
    refine ⟨putNamed rootEntry extras, ?_, (extra.put rootEntry rootVariable (by simp)).congr ?_⟩
    · rw [rooted, missing, putNamed_absent rootEntry extras (by simpa using present.2)]
      simp
    · intro name
      simp [present.1]

/-- Writing variables never touches the items of someone else: it puts extras behind them. -/
theorem projectVariables_extras (mappings : List EnvMapping) (owned : NameSet)
    (apart : ∀ name ∈ previous, some name ∉ entryNames items) (extra : Extras belongs extras)
    (counted : ∀ name ∈ owned, belongs name) :
    ∃ more, (projectVariables imprint previous mappings (items ++ extras, owned)).1 =
        items ++ more ∧
      Extras (fun name => belongs name ∨
        name ∈ (projectVariables imprint previous mappings (items ++ extras, owned)).2) more ∧
      ∀ name ∈ (projectVariables imprint previous mappings (items ++ extras, owned)).2,
        name ∈ owned ∨
          (some name ∉ entryNames items ∧ (name ∈ previous ∨ ¬ belongs name)) := by
  induction mappings generalizing belongs extras owned with
  | nil =>
      refine ⟨extras, rfl, extra.congr ?_, fun name member => .inl member⟩
      exact fun name => ⟨.inl, fun either => either.elim id (counted name)⟩
  | cons mapping rest ih =>
      rw [projectVariables, List.foldl_cons, ← projectVariables]
      by_cases elsewhere : Elsewhere previous (items ++ extras) mapping
      · rw [projectVariable_elsewhere imprint previous _ mapping elsewhere]
        exact ih owned extra counted
      · rw [projectVariable_written imprint previous _ mapping elsewhere]
        -- what is written was owned before or is defined nowhere, so it lands behind `items`
        have free : mapping.name ∈ previous ∨ some mapping.name ∉ entryNames (items ++ extras) := by
          by_cases member : mapping.name ∈ previous
          · exact .inl member
          · exact .inr fun present => elsewhere ⟨member, present⟩
        have outside : some mapping.name ∉ entryNames items := by
          rcases free with member | absent
          · exact apart _ member
          · rw [entryNames_append, List.mem_append, not_or] at absent
            exact absent.1
        simp only [putNamed_append (imprint.variableEntry mapping) items extras (by simpa using outside)]
        obtain ⟨more, same, grown, origin⟩ := ih (NameSet.insert mapping.name owned)
          (extra.put (imprint.variableEntry mapping) mapping.name (by simp)) (by
            intro name member
            exact ((NameSet.mem_insert _ _ _).mp member).imp id (counted name))
        refine ⟨more, same, grown.congr ?_, ?_⟩
        · intro name
          constructor
          · rintro ((rfl | member) | member)
            · exact .inr (mem_owned_mono imprint previous _ rest _
                ((NameSet.mem_insert _ _ _).mpr (.inl rfl)))
            · exact .inl member
            · exact .inr member
          · exact fun either => either.imp .inr id
        · intro name member
          rcases origin name member with collected | ⟨absent, before⟩
          · rcases (NameSet.mem_insert _ _ _).mp collected with rfl | old
            · refine .inr ⟨outside, free.imp id ?_⟩
              intro absent belonging
              rw [entryNames_append, List.mem_append, not_or] at absent
              exact absent.2 ((extra.complete _).mpr belonging)
            · exact .inl old
          · exact .inr ⟨absent, before.imp id fun not belonging => not (.inr belonging)⟩

/-- The variables after projection: the items of someone else, then what other bindings
have there and what this one owns now. -/
theorem projectEnv_extras (apart : ∀ name ∈ previous, some name ∉ entryNames items)
    (nonblank : "" ∉ previous) (extra : Extras belongs extras) :
    ∃ more, (projectEnv imprint previous (items ++ extras)).1 = items ++ more ∧
      Extras (fun name => (belongs name ∧ name ∉ previous) ∨
        name ∈ (projectEnv imprint previous (items ++ extras)).2) more ∧
      ∀ name ∈ (projectEnv imprint previous (items ++ extras)).2,
        some name ∉ entryNames items ∧ (name ∈ previous ∨ ¬ belongs name) := by
  -- an entry without a name counts as blank, and no blank name is owned
  have untouched : dropStale imprint previous items = items := by
    apply dropStale_untouched imprint previous items
    intro entry member stale
    cases named : entryName entry with
    | none => exact absurd (by simpa [named] using stale) nonblank
    | some name =>
        refine absurd ?_ (apart name (by simpa [named] using stale))
        exact List.mem_map.mpr ⟨entry, member, named⟩
  have dropped : dropStale imprint previous (items ++ extras) =
      items ++ extras.filter (keepsEntry imprint previous) := by
    rw [dropStale_eq, List.filter_append, ← dropStale_eq, untouched]
  have kept := extra.filter (keepsEntry imprint previous)
    (fun name => name ∈ previous → Mapped imprint name)
    (fun entry _ name named => by rw [keepsEntry_iff, named]; rfl)
  obtain ⟨more, same, grown, origin⟩ := projectVariables_extras imprint previous imprint.env []
    apart kept (by simp)
  rw [← dropped] at same grown origin
  refine ⟨more, same, grown.congr ?_, ?_⟩
  · intro name
    constructor
    · rintro (⟨belonging, stays⟩ | member)
      · by_cases before : name ∈ previous
        · obtain ⟨mapping, present, rfl⟩ := stays before
          exact .inr (owned_of_previous imprint previous mapping _ _ present before)
        · exact .inl ⟨belonging, before⟩
      · exact .inr member
    · rintro (⟨belonging, before⟩ | member)
      · exact .inl ⟨belonging, fun now => absurd now before⟩
      · exact .inr member
  · intro name member
    rcases origin name member with before | ⟨outside, free⟩
    · simp at before
    · refine ⟨outside, ?_⟩
      by_cases before : name ∈ previous
      · exact .inl before
      · exact .inr fun belonging => (free.resolve_left before) ⟨belonging, fun now => absurd now before⟩

end Growth

section Clearing

variable (owned : NameSet) (leavesRoot : Bool) {belongs : String → Prop}
  {items extras : List Json}

/-- Whether an entry stays when a binding leaves, perhaps as the last one. -/
def staysEntry (entry : Json) : Bool :=
  !(owned.contains ((entryName entry).getD "") ||
    (leavesRoot && (entryName entry).getD "" = rootVariable))

theorem staysEntry_iff (entry : Json) :
    staysEntry owned leavesRoot entry = true ↔
      (entryName entry).getD "" ∉ owned ∧
        ¬ (leavesRoot = true ∧ (entryName entry).getD "" = rootVariable) := by
  cases leavesRoot <;> simp [staysEntry]

/-- Leaving takes nothing from the items of someone else. -/
theorem filter_stays_extras (apart : ∀ name ∈ owned, some name ∉ entryNames items)
    (nonblank : "" ∉ owned) (rootApart : leavesRoot = true → some rootVariable ∉ entryNames items)
    (extra : Extras belongs extras) :
    ∃ rest, (items ++ extras).filter (staysEntry owned leavesRoot) = items ++ rest ∧
      Extras (fun name => belongs name ∧ name ∉ owned ∧
        ¬ (leavesRoot = true ∧ name = rootVariable)) rest := by
  refine ⟨extras.filter (staysEntry owned leavesRoot), ?_, ?_⟩
  · rw [List.filter_append, List.append_cancel_right_eq, List.filter_eq_self]
    intro entry member
    rw [staysEntry_iff]
    -- an entry without a name is judged like a blank one
    cases named : entryName entry with
    | none =>
        have blank : ("" : String) ≠ rootVariable := by decide
        exact ⟨nonblank, fun leaves => blank leaves.2⟩
    | some name =>
        have present : some name ∈ entryNames items := List.mem_map.mpr ⟨entry, member, named⟩
        refine ⟨fun taken => apart name taken present, ?_⟩
        rintro ⟨leaves, same⟩
        simp only [Option.getD_some] at same
        exact rootApart leaves (same ▸ present)
  · apply extra.filter
    intro entry _ name named
    rw [staysEntry_iff, named]
    rfl

end Clearing

end BindingOperator
