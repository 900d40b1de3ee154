import BindingOperator.Proofs.Departure

/-!
What becomes of a binding while others are projected or removed behind it. Its share stays as
it left it, and so do the roots that its mounts are under. What may go is a variable that the
binding maps and somebody else owns: projecting it again changes nothing exactly when every
variable that it maps is still defined in every container.
-/

namespace BindingOperator

section Presence

theorem mem_entryNames_of_firstNamed {name : String} {entries : List Json} {entry : Json}
    (found : firstNamed (some name) entries = some entry) : some name ∈ entryNames entries := by
  by_contra absent
  rw [(firstNamed_eq_none _ _).mpr absent] at found
  simp at found

/-- Among the entries of some names the first of such a name is the first of all. -/
theorem firstNamed_entriesNamed (keep : String → Bool) (name : String) (entries : List Json)
    (kept : keep name = true) :
    firstNamed (some name) (entriesNamed keep entries) = firstNamed (some name) entries := by
  apply firstNamed_filter
  intro entry _ named
  simp [named, kept]

end Presence

section Variables

/-- A variable is set in a container of that name. -/
def Defines (template : Table Json) (container name : String) : Prop :=
  ∃ item ∈ containersOf (fieldsOf "spec" template), ∃ fields,
    namedContainer? item = some (fields, container) ∧ some name ∈ entryNames (itemsOf "env" fields)

/-- After projection a variable is there that is mapped, or that was there and not owned. -/
theorem mem_entryNames_projectEnv (imprint : Imprint) (previous : NameSet) (name : String)
    (env : List Json) :
    some name ∈ entryNames (projectEnv imprint previous env).1 ↔
      Mapped imprint name ∨ (some name ∈ entryNames env ∧ name ∉ previous) := by
  rw [projectEnv, ← projectVariables, mem_entryNames_projectVariables]
  by_cases owned : name ∈ previous
  · have stale : some name ∈ entryNames (dropStale imprint previous env) → Mapped imprint name := by
      intro member
      obtain ⟨entry, kept, named⟩ := List.mem_map.mp member
      have judged := (keepsEntry_iff imprint previous entry).mp (List.mem_filter.mp kept).2
      rw [named] at judged
      exact judged owned
    exact ⟨fun either => .inl (either.elim id stale), fun either => either.imp id
      fun both => absurd owned both.2⟩
  · rw [mem_entryNames_dropStale imprint previous name env owned]
    simp [owned, Mapped]

theorem mem_entryNames_rooted_other (name : String) (env : List Json)
    (other : name ≠ rootVariable) :
    some name ∈ entryNames (rooted env) ↔ some name ∈ entryNames env := by
  unfold rooted
  split
  · rfl
  · simp [entryNames, other]

theorem named_of_projected (imprint : Imprint) (previous : OwnedEnv) (item : Json)
    (after : Table Json) (name : String)
    (found : namedContainer? (projectedItem imprint previous item) = some (after, name)) :
    ∃ fields, namedContainer? item = some (fields, name) ∧
      after = projectedFields imprint (namesIn previous name) fields := by
  cases named : namedContainer? item with
  | none =>
      rw [projectedItem] at found
      simp [named] at found
  | some pair =>
      rw [namedContainer_projectedItem imprint previous item pair.1 pair.2 named, Option.some.injEq,
        Prod.mk.injEq] at found
      obtain ⟨rfl, rfl⟩ := found
      exact ⟨pair.1, rfl, rfl⟩

variable {template : Table Json} {container name : String}

/-- A variable that is mapped is defined in every container. -/
theorem defines_mapped (imprint : Imprint) (mapped : Mapped imprint name)
    (listed : container ∈ containerNames (containersOf (fieldsOf "spec" template))) :
    Defines (projectedTemplate imprint template) container name := by
  obtain ⟨item, member, fields, named⟩ := (mem_containerNames _ container).mp listed
  refine ⟨_, ?_, _, namedContainer_projectedItem imprint
    (ownedEnvOf imprint.key (annotationsIn template)) item fields container named, ?_⟩
  · rw [spec_projected, containersOf_projectedSpec]
    exact List.mem_map_of_mem member
  · rw [itemsOf_env_projected, mem_entryNames_projectEnv]
    exact .inl mapped

theorem defines_projected (imprint : Imprint) (other : name ≠ rootVariable)
    (listed : container ∈ containerNames (containersOf (fieldsOf "spec" template))) :
    Defines (projectedTemplate imprint template) container name ↔
      Mapped imprint name ∨ (Defines template container name ∧
        name ∉ namesIn (ownedEnvOf imprint.key (annotationsIn template)) container) := by
  constructor
  · rintro ⟨after, member, fields, found, defined⟩
    rw [spec_projected, containersOf_projectedSpec] at member
    obtain ⟨item, present, rfl⟩ := List.mem_map.mp member
    obtain ⟨before, named, rfl⟩ := named_of_projected imprint _ item fields container found
    rw [itemsOf_env_projected, mem_entryNames_projectEnv, mem_entryNames_rooted_other _ _ other]
      at defined
    exact defined.imp id fun both => ⟨⟨item, present, before, named, both.1⟩, both.2⟩
  · rintro (mapped | ⟨⟨item, present, fields, named, defined⟩, unowned⟩)
    · exact defines_mapped imprint mapped listed
    · refine ⟨_, ?_, _, namedContainer_projectedItem imprint
        (ownedEnvOf imprint.key (annotationsIn template)) item fields container named, ?_⟩
      · rw [spec_projected, containersOf_projectedSpec]
        exact List.mem_map_of_mem present
      · rw [itemsOf_env_projected, mem_entryNames_projectEnv, mem_entryNames_rooted_other _ _ other]
        exact .inr ⟨defined, unowned⟩

/-- A removal takes the variables that are owned, and no others but the root. -/
theorem defines_unprojected (tidy : TidyTemplate template) (key : String)
    (other : name ≠ rootVariable) :
    Defines (unprojectTemplate key template) container name ↔
      Defines template container name ∧
        name ∉ namesIn (ownedEnvOf key (annotationsIn template)) container := by
  have spec := canonical_fieldsOf "spec" template tidy.canonical
  -- what a container of that name had is told by the old one, wherever it is in the list
  have cleared : ∀ item ∈ containersOf (fieldsOf "spec" (unprojectTemplate key template)),
      ∀ fields, namedContainer? item = some (fields, container) →
        ∃ old ∈ containersOf (fieldsOf "spec" template), ∃ before,
          namedContainer? old = some (before, container) ∧
            (some name ∈ entryNames (itemsOf "env" fields) ↔
              some name ∈ entryNames (itemsOf "env" before) ∧
                name ∉ namesIn (ownedEnvOf key (annotationsIn template)) container) := by
    intro item member fields found
    obtain ⟨old, present, middle, ascending, rfl⟩ :=
      cleared_of_unprojectTemplate key template tidy.canonical item member
    obtain ⟨before, named, ordered, rfl⟩ := named_of_cleared _ _ old middle
      (canonical_containersOf _ spec old present) ascending fields container found
    refine ⟨old, present, before, named, ?_⟩
    rw [itemsOf_env_unproject _ _ _ _ _ ordered ascending, and_comm]
    apply mem_entryNames_filter
    intro entry _ called
    simp [staysEntry_iff, called, other]
  constructor
  · rintro ⟨item, member, fields, found, defined⟩
    obtain ⟨old, present, before, named, told⟩ := cleared item member fields found
    exact ⟨⟨old, present, before, named, (told.mp defined).1⟩, (told.mp defined).2⟩
  · rintro ⟨⟨old, present, before, named, defined⟩, unowned⟩
    have listed : container ∈ containerNames
        (containersOf (fieldsOf "spec" (unprojectTemplate key template))) := by
      rw [containerNames_unprojectTemplate key template tidy.canonical]
      exact (mem_containerNames _ container).mpr ⟨old, present, before, named⟩
    obtain ⟨item, member, fields, found⟩ := (mem_containerNames _ container).mp listed
    obtain ⟨again, there, inside, sameName, told⟩ := cleared item member fields found
    have same : again = old :=
      named_unique _ again old inside before container tidy.distinct there present sameName named
    rw [same, named, Option.some.injEq, Prod.mk.injEq] at sameName
    exact ⟨item, member, fields, found, told.mpr ⟨sameName.1 ▸ defined, unowned⟩⟩

end Variables

/-- A container has the Secret of a binding mounted where the binding would mount it now. -/
def MountedItem (imprint : Imprint) (item : Json) : Prop :=
  ∀ fields name, namedContainer? item = some (fields, name) →
    firstNamed (some imprint.volume) (itemsOf "volumeMounts" fields) =
      some (imprint.mountEntry (rootPath (itemsOf "env" fields)))

/-- A template in which the share of a binding is what its projection left there. -/
structure InPlace (imprint : Imprint) (template : Table Json) : Prop where
  parted : PartedTemplate template
  share : ∃ origin, PartedTemplate origin ∧
    shareIn imprint.key template = shareIn imprint.key (projectedTemplate imprint origin)
  mounted : ∀ item ∈ containersOf (fieldsOf "spec" template), MountedItem imprint item

section Steps

variable {imprint : Imprint} {template : Table Json}

theorem inPlace_projected (parted : PartedTemplate template) :
    InPlace imprint (projectedTemplate imprint template) := by
  refine ⟨parted.project imprint, ⟨template, parted, rfl⟩, ?_⟩
  rw [spec_projected, containersOf_projectedSpec]
  intro item member fields name found
  obtain ⟨old, -, rfl⟩ := List.mem_map.mp member
  obtain ⟨before, -, rfl⟩ := named_of_projected imprint _ old fields name found
  rw [rootPath_projected _ _ before (parted.shared.tidy.unowned imprint.key name),
    itemsOf_mounts_projected, Imprint.volume, ← entryName_mountEntry imprint]
  exact firstNamed_putNamed_same _ _

theorem InPlace.project (placed : InPlace imprint template) (other : Imprint)
    (different : other.key ≠ imprint.key) : InPlace imprint (projectedTemplate other template) := by
  have parted := placed.parted
  obtain ⟨origin, started, same⟩ := placed.share
  refine ⟨parted.project other, ⟨origin, started, ?_⟩, ?_⟩
  · rw [share_projected parted other imprint.key different.symm, same]
  · rw [spec_projected, containersOf_projectedSpec]
    intro item member fields name found
    obtain ⟨old, present, rfl⟩ := List.mem_map.mp member
    obtain ⟨before, named, rfl⟩ := named_of_projected other _ old fields name found
    rw [rootPath_projected _ _ before (parted.shared.tidy.unowned other.key name),
      itemsOf_mounts_projected, firstNamed_putNamed_other]
    · exact placed.mounted old present before name named
    · rw [entryName_mountEntry, Imprint.volume, Ne, Option.some.injEq, volumeName_inj]
      exact different

/-- The mount that stays keeps the root, so that the path is the same. -/
theorem mountedItem_cleared {item : Json} (mounted : MountedItem imprint item) (key : String)
    (different : key ≠ imprint.key) (owned : OwnedEnv) (ledger : Ledger)
    (unowned : ∀ name, rootVariable ∉ namesIn owned name) (canonical : Json.Canonical item)
    (ascending : ledger.Ascending) :
    MountedItem imprint (clearedItem (volumeName key) owned ledger item) := by
  intro fields name found
  obtain ⟨before, named, ordered, rfl⟩ :=
    named_of_cleared _ owned item ledger canonical ascending fields name found
  have kept : firstNamed (some imprint.volume) ((itemsOf "volumeMounts" before).filter
      fun mount => entryName mount ≠ some (volumeName key)) =
        firstNamed (some imprint.volume) (itemsOf "volumeMounts" before) := by
    apply firstNamed_filter
    intro mount _ called
    rw [called, decide_eq_true_eq, Imprint.volume, Ne, Option.some.injEq, volumeName_inj]
    exact different.symm
  have there := mounted before name named
  have stays := leavesRoot_other different.symm name before ledger
    (mem_entryNames_of_firstNamed there)
  have root : firstNamed (some rootVariable) ((itemsOf "env" before).filter
      (staysEntry (namesIn owned name) false)) =
        firstNamed (some rootVariable) (itemsOf "env" before) := by
    apply firstNamed_filter
    intro entry _ called
    rw [staysEntry_iff, called]
    exact ⟨unowned name, by simp⟩
  rw [itemsOf_mounts_unproject _ _ _ _ _ ordered ascending, kept, there,
    itemsOf_env_unproject _ _ _ _ _ ordered ascending, stays, rootPath_congr _ _ root]

theorem InPlace.unproject (placed : InPlace imprint template) (key : String)
    (different : key ≠ imprint.key) : InPlace imprint (unprojectTemplate key template) := by
  have parted := placed.parted
  have canonical := parted.shared.tidy.canonical
  have spec := canonical_fieldsOf "spec" template canonical
  obtain ⟨origin, started, same⟩ := placed.share
  refine ⟨parted.unproject key, ⟨origin, started, ?_⟩, ?_⟩
  · rw [share_unprojected parted key imprint.key different.symm, same]
  · intro item member
    obtain ⟨old, present, middle, ascending, rfl⟩ :=
      cleared_of_unprojectTemplate key template canonical item member
    exact mountedItem_cleared (placed.mounted old present) key different _ middle
      (parted.shared.tidy.unowned key) (canonical_containersOf _ spec old present) ascending

end Steps

section Resting

variable {imprint : Imprint} {template : Table Json}

theorem lookup_marked_own (owned : OwnedEnv) (ledger other : Ledger)
    (annotations others : Table Json) (ordered : Table.Ordered annotations)
    (otherOrdered : Table.Ordered others) (field : String) (known : field ∈ markFields) :
    Table.lookup (annotationName field imprint.key)
        (markedAnnotations imprint owned ledger annotations) =
      Table.lookup (annotationName field imprint.key)
        (markedAnnotations imprint owned other others) := by
  rw [lookup_markedAnnotations imprint owned ledger annotations ordered,
    lookup_markedAnnotations imprint owned other others otherOrdered,
    if_neg (annotationName_ne_ledger field imprint.key known),
    if_neg (annotationName_ne_ledger field imprint.key known)]
  simp only [mem_markFields] at known
  rcases known with rfl | rfl | rfl | rfl <;> simp

/-- The containers of a list, and what a record says of them. -/
def recordNames (owned kept : OwnedEnv) (name : String) : OwnedEnv :=
  if (namesIn owned name).isEmpty then kept else Table.insert name (namesIn owned name) kept

/-- What is collected is told by the names of the containers and what is owned in each. -/
theorem collectedItems_names (previous owned : OwnedEnv) (items : List Json)
    (same : ∀ item ∈ items, ∀ fields name, namedContainer? item = some (fields, name) →
      projectedNames imprint (namesIn previous name) fields = namesIn owned name) :
    items.foldl (collectedItem imprint previous) [] =
      (containerNames items).foldl (recordNames owned) [] := by
  rw [containerNames, List.foldl_filterMap]
  apply List.foldl_ext
  intro kept item member
  cases named : namedContainer? item with
  | none => simp [collectedItem, named]
  | some pair =>
      simp [collectedItem, recordNames, named, same item member pair.1 pair.2 named]

theorem containerNames_shares (key : String) (owned : OwnedEnv) (items : List Json) :
    containerNames items = (items.map (containerShare? key owned)).filterMap
      (Option.map ContainerShare.name) := by
  rw [containerNames, List.filterMap_map]
  congr 1
  funext item
  simp only [containerShare?, Function.comp_apply, Option.map_map]
  rfl

/-- What the share of a binding tells about the template that it was projected into last. -/
structure Remembers (imprint : Imprint) (template origin : Table Json) : Prop where
  parted : PartedTemplate origin
  marks : ∀ field ∈ markFields,
    Table.lookup (annotationName field imprint.key) (annotationsIn template) =
      Table.lookup (annotationName field imprint.key)
        (annotationsIn (projectedTemplate imprint origin))
  owned : ownedEnvOf imprint.key (annotationsIn template) = collectedTemplate imprint origin
  volume : firstNamed (some imprint.volume) (itemsOf "volumes" (fieldsOf "spec" template)) =
    some imprint.volumeEntry
  names : containerNames (containersOf (fieldsOf "spec" template)) =
    containerNames (containersOf (fieldsOf "spec" origin))
  /-- Each container has the variables that the projection wrote in one of that name. -/
  containers : ∀ item ∈ containersOf (fieldsOf "spec" template), ∀ fields name,
    namedContainer? item = some (fields, name) → ∃ before,
      namesIn (collectedTemplate imprint origin) name = projectedNames imprint
        (namesIn (ownedEnvOf imprint.key (annotationsIn origin)) name) before ∧
      ∀ owned ∈ namesIn (collectedTemplate imprint origin) name,
        firstNamed (some owned) (itemsOf "env" fields) = firstNamed (some owned) (itemsOf "env"
          (projectedFields imprint (namesIn (ownedEnvOf imprint.key (annotationsIn origin)) name)
            before))

/-- A container with the share of a projected one has the variables that were written there. -/
theorem variables_of_share {owned previous : OwnedEnv} {origin item : Json}
    {fields : Table Json} {name : String} (named : namedContainer? item = some (fields, name))
    (share : containerShare? imprint.key owned (projectedItem imprint previous origin) =
      containerShare? imprint.key owned item) :
    ∃ before, namedContainer? origin = some (before, name) ∧
      ∀ written ∈ namesIn owned name,
        firstNamed (some written) (itemsOf "env" fields) = firstNamed (some written)
          (itemsOf "env" (projectedFields imprint (namesIn previous name) before)) := by
  rw [containerShare?, containerShare?, named, Option.map_some, Option.map_eq_some_iff] at share
  obtain ⟨⟨after, inside⟩, found, same⟩ := share
  simp only [ContainerShare.mk.injEq] at same
  obtain ⟨rfl, -, env⟩ := same
  obtain ⟨before, called, rfl⟩ := named_of_projected imprint _ origin after inside found
  refine ⟨before, called, fun written listed => ?_⟩
  have first := congrArg (firstNamed (some written)) env
  rwa [firstNamed_entriesNamed _ _ _ (by simpa using listed),
    firstNamed_entriesNamed _ _ _ (by simpa using listed), eq_comm] at first

theorem InPlace.remembers (placed : InPlace imprint template) :
    ∃ origin, Remembers imprint template origin := by
  obtain ⟨origin, parted, same⟩ := placed.share
  have canonical := parted.shared.tidy.canonical
  simp only [shareIn, Share.mk.injEq, List.map_inj_left] at same
  obtain ⟨marks, volumes, containers⟩ := same
  have written : ownedEnvOf imprint.key (annotationsIn (projectedTemplate imprint origin)) =
      collectedTemplate imprint origin := by
    rw [ownedEnvOf_projected imprint origin canonical, if_pos rfl]
  have owned : ownedEnvOf imprint.key (annotationsIn template) =
      collectedTemplate imprint origin := by
    rw [← written, ownedEnvOf, ownedEnvOf, marks "env" (by simp)]
  rw [written, owned] at containers
  have names : containerNames (containersOf (fieldsOf "spec" template)) =
      containerNames (containersOf (fieldsOf "spec" origin)) := by
    rw [← containerNames_projectedTemplate imprint origin,
      containerNames_shares imprint.key (collectedTemplate imprint origin), containers,
      ← containerNames_shares]
  refine ⟨origin, parted, marks, owned, ?_, names, ?_⟩
  · have found := congrArg (firstNamed (some imprint.volume)) volumes
    rw [firstNamed_entriesNamed _ _ _ (by simp [Imprint.volume]),
      firstNamed_entriesNamed _ _ _ (by simp [Imprint.volume]), spec_projected,
      itemsOf_array _ _ _ (lookup_volumes_projectedSpec imprint _ _)] at found
    rw [found, Imprint.volume, ← entryName_volumeEntry imprint]
    exact firstNamed_putNamed_same _ _
  · intro item member fields name named
    have share : containerShare? imprint.key (collectedTemplate imprint origin) item ∈
        (containersOf (fieldsOf "spec" (projectedTemplate imprint origin))).map
          (containerShare? imprint.key (collectedTemplate imprint origin)) := by
      rw [← containers]
      exact List.mem_map_of_mem member
    rw [spec_projected, containersOf_projectedSpec] at share
    obtain ⟨after, there, same⟩ := List.mem_map.mp share
    obtain ⟨old, present, rfl⟩ := List.mem_map.mp there
    obtain ⟨before, called, written⟩ := variables_of_share named same
    exact ⟨before, recorded_names imprint _ _ old before name parted.shared.tidy.distinct
      present called, written⟩

variable {origin : Table Json}

theorem Remembers.bound (remembers : Remembers imprint template origin) :
    Bound imprint.key template := by
  have ordered := ordered_annotationsIn origin remembers.parted.shared.tidy.canonical
  rw [Bound, remembers.marks "secret" (by simp), annotationsIn_projected,
    lookup_marked_secret imprint _ _ _ ordered]
  simp

/-- Variables that are defined and, where they are owned, as they were written stay so. -/
theorem Remembers.env_rests (remembers : Remembers imprint template origin)
    (once : (imprint.env.map EnvMapping.name).Nodup) (item : Json) (fields : Table Json)
    (name : String) (member : item ∈ containersOf (fieldsOf "spec" template))
    (named : namedContainer? item = some (fields, name))
    (defined : ∀ mapping ∈ imprint.env, some mapping.name ∈ entryNames (itemsOf "env" fields)) :
    projectEnv imprint (namesIn (collectedTemplate imprint origin) name) (itemsOf "env" fields) =
      (itemsOf "env" fields, namesIn (collectedTemplate imprint origin) name) := by
  obtain ⟨before, recorded, same⟩ := remembers.containers item member fields name named
  have mapped : ∀ owned ∈ namesIn (collectedTemplate imprint origin) name,
      Mapped imprint owned := by
    intro owned listed
    rw [recorded] at listed
    exact (mapped_of_owned imprint _ owned imprint.env _ listed).resolve_left List.not_mem_nil
  have kept : dropStale imprint (namesIn (collectedTemplate imprint origin) name)
      (itemsOf "env" fields) = itemsOf "env" fields :=
    dropStale_untouched imprint _ _ fun _ _ listed => mapped _ listed
  have written : ∀ mapping ∈ imprint.env,
      mapping.name ∈ namesIn (collectedTemplate imprint origin) name →
        firstNamed (some mapping.name) (itemsOf "env" fields) =
          some (imprint.variableEntry mapping) := by
    intro mapping present listed
    rw [same mapping.name listed, itemsOf_env_projected]
    rw [recorded] at listed
    exact firstNamed_owned imprint _ mapping imprint.env _ once present List.not_mem_nil listed
  obtain ⟨entries, collected⟩ := projectVariables_settled imprint _ imprint.env
    (itemsOf "env" fields, []) written defined
  unfold projectEnv
  rw [kept]
  refine Prod.ext entries (NameSet.ext _ _ (ascending_projectVariables imprint _ imprint.env
    (itemsOf "env" fields, []) List.Pairwise.nil) ?_ fun owned => (collected owned).trans ?_)
  · rw [recorded]
    exact ascending_projectedNames imprint _ before
  · constructor
    · exact fun either => (either.resolve_left List.not_mem_nil).1
    · exact fun listed => .inr ⟨listed, mapped owned listed⟩

/-- A container that defines every mapped variable is left as it is. -/
theorem InPlace.item_rests (placed : InPlace imprint template)
    (remembers : Remembers imprint template origin)
    (once : (imprint.env.map EnvMapping.name).Nodup) (item : Json) (fields : Table Json)
    (name : String) (member : item ∈ containersOf (fieldsOf "spec" template))
    (named : namedContainer? item = some (fields, name))
    (defined : ∀ mapping ∈ imprint.env, some mapping.name ∈ entryNames (itemsOf "env" fields)) :
    projectedFields imprint (namesIn (collectedTemplate imprint origin) name) fields = fields ∧
      projectedNames imprint (namesIn (collectedTemplate imprint origin) name) fields =
        namesIn (collectedTemplate imprint origin) name := by
  have root := (placed.parted.shared.containers item member).root fields name named imprint.key
    remembers.bound
  have env := remembers.env_rests once item fields name member named defined
  have mounted := placed.mounted item member fields name named
  have mounts : putNamed (imprint.mountEntry (rootPath (itemsOf "env" fields)))
      (itemsOf "volumeMounts" fields) = itemsOf "volumeMounts" fields := by
    apply putNamed_present
    rwa [entryName_mountEntry, ← Imprint.volume]
  have ordered := ordered_of_named item fields name (canonical_containersOf _
    (canonical_fieldsOf "spec" template placed.parted.shared.tidy.canonical) item member) named
  constructor
  · rw [projectedFields, rooted_present _ root, env, mounts,
      Table.insert_present "env" _ fields ordered (lookup_of_entryName root)]
    exact Table.insert_present _ _ fields ordered
      (lookup_of_entryName (mem_entryNames_of_firstNamed mounted))
  · rw [projectedNames, rooted_present _ root, env]

/-- Whoever is projected has every field that would be noted as missing. -/
theorem notedTemplate_bound (shared : SharedTemplate template) {key : String}
    (bound : Bound key template) : notedTemplate template = ledgerOf (annotationsIn template) := by
  have annotations := lookup_of_field _ bound
  have metadata : Table.lookup "metadata" template =
      some (.object (fieldsOf "metadata" template)) :=
    lookup_of_field "annotations" (by simp [annotations])
  have volumes := lookup_of_entryName ((shared.volumes key).mpr bound)
  rw [notedTemplate, trackField_present _ _ _ _ (has_of_lookup metadata),
    trackField_present _ _ _ _ (has_of_lookup annotations),
    trackField_present _ _ _ _ (has_of_lookup volumes)]
  apply notedItems_complete
  intro item member fields name named
  have root := (shared.containers item member).root fields name named key bound
  have mounted := ((shared.containers item member).mounts fields name named key).mpr bound
  refine ⟨fun field known => ?_, root⟩
  simp only [mem_containerFields] at known
  rcases known with rfl | rfl
  · exact has_of_lookup (lookup_of_entryName root)
  · exact has_of_lookup (lookup_of_entryName mounted)

theorem Remembers.annotations_rest (remembers : Remembers imprint template origin)
    (shared : SharedTemplate template) :
    markedAnnotations imprint (collectedTemplate imprint origin)
      (ledgerOf (annotationsIn template)) (annotationsIn template) = annotationsIn template := by
  have ordered := ordered_annotationsIn template shared.tidy.canonical
  have start := ordered_annotationsIn origin remembers.parted.shared.tidy.canonical
  have projected : hasProjection (annotationsIn template) = true :=
    (SharedTemplate.hasProjection_bound shared.tidy.canonical).mpr ⟨_, remembers.bound⟩
  apply Table.ext _ _ (ordered_markedAnnotations imprint _ _ _ ordered) ordered
  intro name
  by_cases ledger : name = ledgerAnnotation
  · rw [ledger, lookup_markedAnnotations imprint _ _ _ ordered, if_pos rfl, shared.written,
      projected]
    simp
  · by_cases own : ∃ field ∈ markFields, name = annotationName field imprint.key
    · obtain ⟨field, known, rfl⟩ := own
      rw [remembers.marks field known, annotationsIn_projected]
      exact lookup_marked_own _ _ _ _ _ ordered start field known
    · apply lookup_marked_other imprint _ _ _ ordered _ ledger
      exact fun field known same => own ⟨field, known, same⟩

/-- Containers that a binding, with a record of what it owns in each, would leave as they are. -/
def RestingItems (imprint : Imprint) (owned : OwnedEnv) (items : List Json) : Prop :=
  ∀ item ∈ items, ∀ fields name, namedContainer? item = some (fields, name) →
    projectedFields imprint (namesIn owned name) fields = fields ∧
      projectedNames imprint (namesIn owned name) fields = namesIn owned name

theorem RestingItems.projectedItem_self {owned : OwnedEnv} {items : List Json}
    (resting : RestingItems imprint owned items) (item : Json) (member : item ∈ items) :
    projectedItem imprint owned item = item := by
  cases named : namedContainer? item with
  | none => simp [projectedItem, named]
  | some pair =>
      have object := ((namedContainer_some item pair.1 pair.2).mp named).1
      rw [projectedItem, named]
      exact (congrArg Json.object (resting item member pair.1 pair.2 named).1).trans object.symm

theorem InPlace.items_rest (placed : InPlace imprint template)
    (remembers : Remembers imprint template origin)
    (once : (imprint.env.map EnvMapping.name).Nodup)
    (defined : ∀ container ∈ containerNames (containersOf (fieldsOf "spec" template)),
      ∀ name, Mapped imprint name → Defines template container name) :
    RestingItems imprint (collectedTemplate imprint origin)
      (containersOf (fieldsOf "spec" template)) := by
  intro item member fields name named
  apply placed.item_rests remembers once item fields name member named
  intro mapping present
  obtain ⟨other, there, inside, called, set⟩ := defined name
    ((mem_containerNames _ name).mpr ⟨item, member, fields, named⟩) mapping.name
    ⟨mapping, present, rfl⟩
  have same := named_unique _ other item inside fields name placed.parted.shared.tidy.distinct
    there member called named
  rw [same, named, Option.some.injEq, Prod.mk.injEq] at called
  rwa [called.1]

theorem Remembers.collected_rests (remembers : Remembers imprint template origin)
    (resting : RestingItems imprint (collectedTemplate imprint origin)
      (containersOf (fieldsOf "spec" template))) :
    collectedTemplate imprint template = collectedTemplate imprint origin := by
  have before : collectedTemplate imprint origin = (containerNames (containersOf
      (fieldsOf "spec" origin))).foldl (recordNames (collectedTemplate imprint origin)) [] :=
    collectedItems_names _ _ _ fun item member fields name named =>
      (recorded_names imprint _ _ item fields name remembers.parted.shared.tidy.distinct member
        named).symm
  rw [collectedTemplate, remembers.owned, collectedItems_names _ (collectedTemplate imprint origin)
    _ fun item member fields name named => (resting item member fields name named).2,
    remembers.names, ← before]

theorem Remembers.spec_rests (remembers : Remembers imprint template origin)
    (ordered : Table.Ordered (fieldsOf "spec" template))
    (resting : RestingItems imprint (collectedTemplate imprint origin)
      (containersOf (fieldsOf "spec" template))) :
    projectedSpec imprint (collectedTemplate imprint origin) (fieldsOf "spec" template) =
      fieldsOf "spec" template := by
  have lists : ∀ list ∈ containerLists, mapListField list (List.map (projectedItem imprint
      (collectedTemplate imprint origin))) (fieldsOf "spec" template) =
        fieldsOf "spec" template := by
    intro list known
    apply mapListField_self _ _ _ ordered
    exact (List.map_congr_left fun item member => resting.projectedItem_self item
      (mem_containersOf list _ known item member)).trans (List.map_id _)
  rw [projectedSpec, putNamed_present _ _ (by rw [entryName_volumeEntry]; exact remembers.volume),
    Table.insert_present _ _ _ ordered
      (lookup_of_entryName (mem_entryNames_of_firstNamed remembers.volume)),
    mapContainers, lists "initContainers" (by simp),
    lists "containers" (by simp)]

/-- Where a variable that a binding maps is missing, projecting the binding again brings it
back; otherwise there is nothing left to do. -/
theorem InPlace.rests_iff (placed : InPlace imprint template)
    (once : (imprint.env.map EnvMapping.name).Nodup) :
    projectedTemplate imprint template = template ↔
      ∀ container ∈ containerNames (containersOf (fieldsOf "spec" template)),
        ∀ name, Mapped imprint name → Defines template container name := by
  constructor
  · intro rests container listed name mapped
    rw [← rests]
    exact defines_mapped imprint mapped listed
  · intro defined
    obtain ⟨origin, remembers⟩ := placed.remembers
    have shared := placed.parted.shared
    have canonical := shared.tidy.canonical
    have whole := Json.canonical_ordered _ canonical
    have spec := Json.canonical_ordered _ (canonical_fieldsOf "spec" template canonical)
    have metadata := Json.canonical_ordered _ (canonical_fieldsOf "metadata" template canonical)
    have resting := placed.items_rest remembers once defined
    -- each table of the template that projection writes is there already
    have annotations : Table.lookup "annotations" (fieldsOf "metadata" template) =
        some (.object (annotationsIn template)) := lookup_of_field _ remembers.bound
    have outer : Table.lookup "metadata" template =
        some (.object (fieldsOf "metadata" template)) :=
      lookup_of_field "annotations" (by simp [annotations])
    have volumes := lookup_of_entryName (mem_entryNames_of_firstNamed remembers.volume)
    have inner : Table.lookup "spec" template = some (.object (fieldsOf "spec" template)) :=
      lookup_of_field "volumes" (by simp [volumes])
    rw [projectedTemplate, remembers.collected_rests resting,
      notedTemplate_bound shared remembers.bound, remembers.annotations_rest shared,
      remembers.owned, remembers.spec_rests spec resting,
      Table.insert_present "spec" _ _ whole inner,
      Table.insert_present "annotations" _ _ metadata annotations,
      Table.insert_present "metadata" _ _ whole outer]

end Resting

end BindingOperator
