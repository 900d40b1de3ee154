import BindingOperator.Proofs.Completeness

/-!
Variables that a binding maps more than once. A first projection writes the first mapping of a
name and finds the name defined at the later ones. From the second projection on the name is
recorded as owned, so every mapping of it is written and the last one stays. Which variables
are owned is the same after every projection.
-/

namespace BindingOperator

section Winning

variable (imprint : Imprint) (previous : NameSet) (name : String)

/-- Of a name that was not owned, the first mapping is written. -/
theorem firstNamed_first_mapping (mappings : List EnvMapping) (state : List Json × NameSet)
    (unowned : name ∉ previous) (fresh : name ∉ state.2)
    (owned : name ∈ (projectVariables imprint previous mappings state).2) :
    ∃ mapping, mappings.find? (·.name = name) = some mapping ∧
      firstNamed (some name) (projectVariables imprint previous mappings state).1 =
        some (imprint.variableEntry mapping) := by
  induction mappings generalizing state with
  | nil => exact absurd owned fresh
  | cons mapping rest ih =>
      rw [projectVariables, List.foldl_cons, ← projectVariables] at owned ⊢
      by_cases same : mapping.name = name
      · subst same
        by_cases elsewhere : Elsewhere previous state.1 mapping
        · rw [projectVariable_elsewhere imprint previous state mapping elsewhere] at owned
          exact absurd owned
            (unowned_of_defined imprint previous _ rest state unowned elsewhere.2 fresh)
        -- the later mappings of the name find it defined by this one
        · have defined := (mem_entryNames_projectVariable imprint previous mapping.name state
            mapping).mpr (.inl rfl)
          refine ⟨mapping, by simp, ?_⟩
          rw [firstNamed_projectVariables imprint previous _ rest _ unowned defined,
            projectVariable_written imprint previous state mapping elsewhere,
            ← entryName_variableEntry imprint mapping]
          exact firstNamed_putNamed_same _ _
      · obtain ⟨first, found, written⟩ := ih (projectVariable imprint previous state mapping)
          (by simp [mem_owned_projectVariable, fresh, Ne.symm same]) owned
        exact ⟨first, by simpa [same] using found, written⟩

/-- Of a name that was owned, the last mapping is written. -/
theorem firstNamed_last_mapping (mappings : List EnvMapping) (state : List Json × NameSet)
    (owned : name ∈ previous) (mapping : EnvMapping)
    (last : mappings.reverse.find? (·.name = name) = some mapping) :
    firstNamed (some name) (projectVariables imprint previous mappings state).1 =
      some (imprint.variableEntry mapping) := by
  induction mappings using List.reverseRecOn generalizing mapping with
  | nil => simp at last
  | append_singleton earlier final ih =>
      have step : projectVariables imprint previous (earlier ++ [final]) state =
          projectVariable imprint previous (projectVariables imprint previous earlier state) final := by
        simp [projectVariables]
      rw [step]
      rw [List.reverse_append, List.reverse_singleton, List.singleton_append,
        List.find?_cons] at last
      by_cases same : final.name = name
      · have written : ¬ Elsewhere previous (projectVariables imprint previous earlier state).1
            final := fun elsewhere => elsewhere.1 (same ▸ owned)
        obtain rfl : final = mapping := by simpa [same] using last
        rw [projectVariable_written imprint previous _ final written, ← same,
          ← entryName_variableEntry imprint final]
        exact firstNamed_putNamed_same _ _
      · have before := ih mapping (by simpa [same] using last)
        by_cases elsewhere : Elsewhere previous (projectVariables imprint previous earlier state).1
            final
        · rw [projectVariable_elsewhere imprint previous _ final elsewhere, before]
        · rw [projectVariable_written imprint previous _ final elsewhere,
            firstNamed_putNamed_other, before]
          simpa using same

/-- Where every mapped name is defined, those that were owned are owned again. -/
theorem mem_owned_covered (mappings : List EnvMapping) (env : List Json)
    (defined : ∀ mapping ∈ mappings, some mapping.name ∈ entryNames env) :
    name ∈ (projectVariables imprint previous mappings (env, [])).2 ↔
      name ∈ previous ∧ ∃ mapping ∈ mappings, mapping.name = name := by
  constructor
  · intro owned
    have mapped := (mapped_of_owned imprint previous name mappings _ owned).resolve_left
      List.not_mem_nil
    refine ⟨?_, mapped⟩
    by_contra unowned
    obtain ⟨mapping, present, rfl⟩ := mapped
    exact unowned_of_defined imprint previous _ mappings _ unowned (defined mapping present)
      List.not_mem_nil owned
  · rintro ⟨owned, mapping, present, rfl⟩
    exact owned_of_previous imprint previous mapping mappings _ present owned

end Winning

section Templates

def containerNamed? (name : String) (template : Table Json) : Option (Table Json) :=
  (((containersOf (fieldsOf "spec" template)).filterMap namedContainer?).find?
    fun container => container.2 = name).map Prod.fst

/-- The key of the Secret that a variable of a container reads. -/
def keyRead? (container name : String) (template : Table Json) : Option String := do
  let fields ← containerNamed? container template
  let entry ← firstNamed (some name) (itemsOf "env" fields)
  (← entry.at? ["valueFrom", "secretKeyRef", "key"]).asString?

/-- The variables of a container that a binding owns. -/
def ownedIn (key container : String) (template : Table Json) : NameSet :=
  namesIn (ownedEnvOf key (annotationsIn template)) container

variable {imprint : Imprint} {template : Table Json} {item : Json} {container : Table Json}
  {name : String}

theorem containerNamed_member (distinct : (containerNames (containersOf
      (fieldsOf "spec" template))).Nodup) (member : item ∈ containersOf (fieldsOf "spec" template))
    (named : namedContainer? item = some (container, name)) :
    containerNamed? name template = some container := by
  have listed : (container, name) ∈ (containersOf (fieldsOf "spec" template)).filterMap
      namedContainer? := List.mem_filterMap.mpr ⟨item, member, named⟩
  have some : (((containersOf (fieldsOf "spec" template)).filterMap namedContainer?).find?
      fun container => container.2 = name).isSome = true :=
    List.find?_isSome.mpr ⟨(container, name), listed, by simp⟩
  obtain ⟨⟨fields, called⟩, first⟩ := Option.isSome_iff_exists.mp some
  obtain rfl : called = name := by simpa using List.find?_some first
  obtain ⟨other, present, found⟩ := List.mem_filterMap.mp (List.mem_of_find?_eq_some first)
  have same := named_unique _ item other container fields called distinct member present named found
  rw [← same, named, Option.some.injEq, Prod.mk.injEq] at found
  rw [containerNamed?, first, found.1]
  rfl

/-- What a projection leaves of the variables of a container is what it writes there. -/
theorem keyRead_projected (tidy : TidyTemplate template)
    (member : item ∈ containersOf (fieldsOf "spec" template))
    (named : namedContainer? item = some (container, name)) (listed : String)
    (mapping : EnvMapping)
    (written : firstNamed (some listed) (itemsOf "env" (projectedFields imprint
      (ownedIn imprint.key name template) container)) = some (imprint.variableEntry mapping)) :
    keyRead? name listed (projectedTemplate imprint template) = some mapping.key := by
  have projected := namedContainer_projectedItem imprint
    (ownedEnvOf imprint.key (annotationsIn template)) item container name named
  have present : projectedItem imprint (ownedEnvOf imprint.key (annotationsIn template)) item ∈
      containersOf (fieldsOf "spec" (projectedTemplate imprint template)) := by
    rw [spec_projected, containersOf_projectedSpec]
    exact List.mem_map_of_mem member
  have key := (refersTo_variableEntry imprint mapping).2
  simp only [keyRead?, containerNamed_member (tidy.project imprint).distinct present projected,
    Option.bind_eq_bind, Option.bind_some]
  rw [ownedIn] at written
  rw [written, Option.bind_some, key]
  rfl

theorem ownedIn_projected (tidy : TidyTemplate template)
    (member : item ∈ containersOf (fieldsOf "spec" template))
    (named : namedContainer? item = some (container, name)) :
    ownedIn imprint.key name (projectedTemplate imprint template) =
      projectedNames imprint (ownedIn imprint.key name template) container :=
  tidy.names_projected imprint member named

/-- A template that a binding was projected into last: what it maps is defined in every
container, and what it owns it maps. -/
structure Covered (imprint : Imprint) (template : Table Json) : Prop where
  defined : ∀ item ∈ containersOf (fieldsOf "spec" template), ∀ fields name,
    namedContainer? item = some (fields, name) → ∀ mapping ∈ imprint.env,
      some mapping.name ∈ entryNames (itemsOf "env" fields)
  owned : ∀ name, ∀ listed ∈ ownedIn imprint.key name template, Mapped imprint listed ∧
    ∃ item ∈ containersOf (fieldsOf "spec" template), ∃ fields,
      namedContainer? item = some (fields, name)

theorem covered_projected (tidy : TidyTemplate template) :
    Covered imprint (projectedTemplate imprint template) := by
  constructor
  · intro item member fields name found mapping mapped
    rw [spec_projected, containersOf_projectedSpec] at member
    obtain ⟨old, -, rfl⟩ := List.mem_map.mp member
    obtain ⟨before, -, rfl⟩ := named_of_projected imprint _ old fields name found
    rw [itemsOf_env_projected, mem_entryNames_projectEnv]
    exact .inl ⟨mapping, mapped, rfl⟩
  · intro name listed owned
    obtain ⟨mapped, known⟩ := tidy.mapped_of_recorded imprint owned
    rw [← containerNames_projectedTemplate imprint] at known
    exact ⟨mapped, (mem_containerNames _ name).mp known⟩

theorem mem_entryNames_dropStale_mapped (previous : NameSet) (env : List Json) (listed : String)
    (mapped : Mapped imprint listed) (defined : some listed ∈ entryNames env) :
    some listed ∈ entryNames (dropStale imprint previous env) := by
  obtain ⟨entry, member, called⟩ := List.mem_map.mp defined
  refine List.mem_map.mpr ⟨entry, List.mem_filter.mpr ⟨member, ?_⟩, called⟩
  rw [← keepsEntry, keepsEntry_iff, called]
  exact fun _ => mapped

namespace Covered

variable (covered : Covered imprint template) (tidy : TidyTemplate template)
include covered tidy

/-- Projecting once more gives the binding no variable and takes none from it. -/
theorem mem_ownedIn_again (name listed : String) :
    listed ∈ ownedIn imprint.key name (projectedTemplate imprint template) ↔
      listed ∈ ownedIn imprint.key name template := by
  by_cases known : name ∈ containerNames (containersOf (fieldsOf "spec" template))
  · obtain ⟨item, member, container, named⟩ := (mem_containerNames _ name).mp known
    have defined : ∀ mapping ∈ imprint.env, some mapping.name ∈ entryNames (dropStale imprint
        (ownedIn imprint.key name template) (rooted (itemsOf "env" container))) := by
      intro mapping mapped
      apply mem_entryNames_dropStale_mapped _ _ _ ⟨mapping, mapped, rfl⟩
      exact mem_entryNames_of_rooted _ _ (covered.defined item member container name named mapping
        mapped)
    rw [ownedIn_projected tidy member named]
    exact (mem_owned_covered imprint _ listed imprint.env _ defined).trans
      (and_iff_left_of_imp fun owned => (covered.owned name listed owned).1)
  -- neither record has anything of a container that is not there
  · refine iff_of_false (fun owned => known ?_) (fun owned => known ?_)
    · obtain ⟨-, there⟩ := (covered_projected tidy).owned name listed owned
      rw [← containerNames_projectedTemplate imprint]
      exact (mem_containerNames _ name).mpr there
    · exact (mem_containerNames _ name).mpr (covered.owned name listed owned).2

/-- Projecting once more leaves an owned variable with the key of its last mapping. -/
theorem keyRead_again (name listed : String) (owned : listed ∈ ownedIn imprint.key name template)
    (mapping : EnvMapping) (last : imprint.env.reverse.find? (·.name = listed) = some mapping) :
    keyRead? name listed (projectedTemplate imprint template) = some mapping.key := by
  obtain ⟨-, item, member, container, named⟩ := covered.owned name listed owned
  apply keyRead_projected tidy member named listed mapping
  rw [itemsOf_env_projected]
  exact firstNamed_last_mapping imprint _ listed imprint.env _ owned mapping last

end Covered

/-- Projecting a first time leaves an owned variable with the key of its first mapping. -/
theorem keyRead_first (tidy : TidyTemplate template) (fresh : Fresh template)
    (name listed : String)
    (owned : listed ∈ ownedIn imprint.key name (projectedTemplate imprint template)) :
    ∃ mapping, imprint.env.find? (·.name = listed) = some mapping ∧
      keyRead? name listed (projectedTemplate imprint template) = some mapping.key := by
  obtain ⟨-, after, present, fields, found⟩ := (covered_projected tidy).owned name listed owned
  rw [spec_projected, containersOf_projectedSpec] at present
  obtain ⟨item, member, rfl⟩ := List.mem_map.mp present
  obtain ⟨container, named, rfl⟩ := named_of_projected imprint _ item fields name found
  have nothing : ownedIn imprint.key name template = [] := by
    rw [ownedIn, fresh.owned]
    rfl
  rw [ownedIn_projected tidy member named] at owned
  obtain ⟨mapping, first, written⟩ := firstNamed_first_mapping imprint _ listed imprint.env _
    (by simp [nothing]) List.not_mem_nil owned
  refine ⟨mapping, first, keyRead_projected tidy member named listed mapping ?_⟩
  rw [itemsOf_env_projected]
  exact written

end Templates

section Workloads

/-- A number of projections of one binding in a row. -/
def projectTimes (binding : Binding) : Nat → Object → Except Failure Object
  | 0, workload => .ok workload
  | count + 1, workload => do
      projectTimes binding count (← PodTemplate.projector.project binding workload)

/-- The templates of a workload before and after a number of further projections. -/
structure KeysSettled (binding : Binding) (count : Nat) (before after : Table Json) : Prop where
  owned : ∀ container name, name ∈ ownedIn binding.key container after ↔
    name ∈ ownedIn binding.key container before
  kept : count = 0 → after = before
  last : count ≠ 0 → ∀ container, ∀ name ∈ ownedIn binding.key container before, ∀ mapping,
    binding.spec.env.reverse.find? (·.name = name) = some mapping →
      keyRead? container name after = some mapping.key

theorem projectTimes_settles {binding : Binding} {imprint : Imprint}
    (known : binding.imprint? = some imprint) (count : Nat) {workload : Object}
    {path : List String} {template : Table Json} (located : Located workload path template)
    (shaped : Shaped template) (tidy : TidyTemplate template) (covered : Covered imprint template) :
    ∃ again after, projectTimes binding count workload = .ok again ∧ again.template? = some after ∧
      KeysSettled binding count template after := by
  obtain ⟨key, env, -⟩ := imprint_fields binding imprint known
  induction count generalizing workload template with
  | zero =>
      exact ⟨workload, template, rfl, template_located located, fun _ _ => .rfl,
        fun _ => rfl, fun none => absurd rfl none⟩
  | succ count ih =>
      rcases project_located binding imprint located known with ⟨-, works⟩ | ⟨misshapen, -⟩
      · obtain ⟨again, after, ran, found, settled⟩ := ih
          (located_withTemplateAt located (projectedTemplate imprint template))
          (shaped_projectedTemplate imprint template shaped) (tidy.project imprint)
          (covered_projected tidy)
        have same := fun container name => key ▸ covered.mem_ownedIn_again tidy container name
        refine ⟨again, after, ?_, found, ?_, by simp, ?_⟩
        · rw [projectTimes, show PodTemplate.projector.project binding workload = _ from works]
          exact ran
        · exact fun container name => (settled.owned container name).trans (same container name)
        -- the first of the projections that are left writes the last mapping, or a later one does
        · intro _ container name owned mapping last
          by_cases done : count = 0
          · rw [settled.kept done]
            exact covered.keyRead_again tidy container name (key ▸ owned) mapping (env ▸ last)
          · exact settled.last done container name ((same container name).mpr owned) mapping last
      · exact absurd shaped misshapen

/-- Projecting a binding again and again owns the same variables. After the first projection a
variable has the key of its first mapping, after every later one that of its last mapping. -/
theorem repeated_projection_keys (workload first : Object) (binding : Binding) (secret : String)
    (canonical : workload.Canonical) (fresh : workload.Fresh)
    (resolved : binding.secretName = some secret)
    (projected : PodTemplate.projector.project binding workload = .ok first) (count : Nat) :
    ∃ again before after, projectTimes binding count first = .ok again ∧
      first.template? = some before ∧ again.template? = some after ∧
      ∀ container,
        (∀ name, name ∈ ownedIn binding.key container after ↔
          name ∈ ownedIn binding.key container before) ∧
        ∀ name ∈ ownedIn binding.key container before, ∃ early late,
          binding.spec.env.find? (·.name = name) = some early ∧
          binding.spec.env.reverse.find? (·.name = name) = some late ∧
          keyRead? container name before = some early.key ∧
          keyRead? container name after = some (if count = 0 then early.key else late.key) := by
  obtain ⟨imprint, known, -⟩ := imprint_of_secret resolved
  obtain ⟨key, env, -⟩ := imprint_fields binding imprint known
  obtain ⟨path, template, located, shaped, rfl⟩ :=
    template_of_project binding imprint workload first known projected
  have bare : Fresh template := fresh template (template_located located)
  have tidy : TidyTemplate template := .of_fresh (canonical_template located canonical) bare
  have covered : Covered imprint (projectedTemplate imprint template) := covered_projected tidy
  have placed := located_withTemplateAt located (projectedTemplate imprint template)
  obtain ⟨again, after, ran, found, settled⟩ := projectTimes_settles known count placed
    (shaped_projectedTemplate imprint template shaped) (tidy.project imprint) covered
  refine ⟨again, _, after, ran, template_located placed, found, fun container =>
    ⟨settled.owned container, fun name owned => ?_⟩⟩
  obtain ⟨early, foremost, written⟩ := keyRead_first tidy bare container name (key ▸ owned)
  obtain ⟨late, hindmost⟩ : ∃ late, imprint.env.reverse.find? (·.name = name) = some late := by
    obtain ⟨mapping, mapped, same⟩ := (covered.owned container name (key ▸ owned)).1
    rw [← Option.isSome_iff_exists, List.find?_isSome]
    exact ⟨mapping, List.mem_reverse.mpr mapped, by simpa using same⟩
  refine ⟨early, late, env ▸ foremost, env ▸ hindmost, written, ?_⟩
  by_cases done : count = 0
  · rw [settled.kept done, if_pos done, written]
  · rw [if_neg done, settled.last done container name owned late (env ▸ hindmost)]

end Workloads

section Sample

/-- A binding that maps one variable to two keys. -/
def wavering : Binding :=
  { mappingBinding "first" with
    spec := { (mappingBinding "first").spec with
      env := [{ name := "URL", key := "first" }, { name := "URL", key := "second" }] } }

/-- One more projection moves the variable from the first key to the second. -/
theorem wavering_key_moves :
    ∃ again before after, projectTimes wavering 1 (history rootedWorkload [.project wavering]) =
        .ok again ∧
      (history rootedWorkload [.project wavering]).template? = some before ∧
      again.template? = some after ∧ "URL" ∈ ownedIn wavering.key "app" after ∧
      keyRead? "app" "URL" before = some "first" ∧
      keyRead? "app" "URL" after = some "second" := by
  obtain ⟨again, before, after, ran, start, found, settled⟩ := repeated_projection_keys
    rootedWorkload (history rootedWorkload [.project wavering]) wavering "db"
    canonical_rootedWorkload fresh_rootedWorkload (by decide) (by decide +kernel) 1
  have owned : "URL" ∈ ownedIn wavering.key "app" before := by
    obtain rfl := Option.some.inj (start.symm.trans rfl)
    decide +kernel
  obtain ⟨early, late, foremost, hindmost, read, reread⟩ := (settled "app").2 "URL" owned
  obtain rfl := Option.some.inj (foremost.symm.trans rfl)
  obtain rfl := Option.some.inj (hindmost.symm.trans rfl)
  exact ⟨again, before, after, ran, start, found, ((settled "app").1 "URL").mpr owned, read, reread⟩

end Sample

end BindingOperator
