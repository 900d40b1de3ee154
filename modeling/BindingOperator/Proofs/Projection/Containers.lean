import BindingOperator.Proofs.Projection.Fields

/-!
Containers under projection and removal. What a container becomes depends on its own fields
and on the names that the binding owned there, not on the ledger it is threaded through;
what the ledger gains are the fields that were missing. Removal reads the ledger only about
the container itself, so with distinct names every container is cleared on its own.
-/

namespace BindingOperator

section Projecting

variable (imprint : Imprint) (previous : NameSet)

def projectedFields (container : Table Json) : Table Json :=
  Table.insert "volumeMounts" (.array
    (putNamed (imprint.mountEntry (rootPath (itemsOf "env" container)))
      (itemsOf "volumeMounts" container)))
    (Table.insert "env" (.array
      (projectEnv imprint previous (rooted (itemsOf "env" container))).1) container)

def projectedNames (container : Table Json) : NameSet :=
  (projectEnv imprint previous (rooted (itemsOf "env" container))).2

def notedContainer (name : String) (container : Table Json) (ledger : Ledger) : Ledger :=
  let tracked := containerFields.foldl
    (fun ledger field => trackField container field (containerMarker field name) ledger) ledger
  if (rootOf? (itemsOf "env" container)).isSome then tracked else tracked.noteRoot name

theorem projectContainer_some (name : String) (container : Table Json) (ledger : Ledger)
    (result : ContainerResult) :
    projectContainer imprint name previous container ledger = some result ↔
      (∀ field ∈ containerFields, Listed field container) ∧
        result = ⟨projectedFields imprint previous container,
          projectedNames imprint previous container, notedContainer name container ledger⟩ := by
  have listed : (∀ field ∈ containerFields, Listed field container) ↔
      Listed "env" container ∧ Listed "volumeMounts" container := by
    simp [containerFields]
  have shaped : Listed "env" container → Listed "volumeMounts" container →
      projectContainer imprint name previous container ledger =
        some ⟨projectedFields imprint previous container,
          projectedNames imprint previous container, notedContainer name container ledger⟩ := by
    intro env mounts
    have envRead := (listField_some "env" container _).mpr ⟨env, rfl⟩
    have mountsRead := (listField_some "volumeMounts" container _).mpr ⟨mounts, rfl⟩
    cases set : rootOf? (itemsOf "env" container) <;>
      simp [projectContainer, envRead, mountsRead, projectedFields, projectedNames,
        notedContainer, rooted, rootPath, set]
  rw [listed]
  constructor
  · intro projected
    have read := projected
    simp only [projectContainer, Option.bind_eq_bind, Option.bind_eq_some_iff,
      listField_some] at read
    obtain ⟨_, ⟨env, -⟩, _, ⟨mounts, -⟩, -⟩ := read
    rw [shaped env mounts] at projected
    exact ⟨⟨env, mounts⟩, (Option.some.inj projected).symm⟩
  · rintro ⟨⟨env, mounts⟩, rfl⟩
    exact shaped env mounts

theorem lookup_projectedFields (field : String) (container : Table Json) :
    Table.lookup field (projectedFields imprint previous container) =
      if field = "volumeMounts" then some (.array
        (putNamed (imprint.mountEntry (rootPath (itemsOf "env" container)))
          (itemsOf "volumeMounts" container)))
      else if field = "env" then some (.array
        (projectEnv imprint previous (rooted (itemsOf "env" container))).1)
      else Table.lookup field container := by
  rw [projectedFields, Table.lookup_insert, Table.lookup_insert]

theorem itemsOf_env_projected (container : Table Json) :
    itemsOf "env" (projectedFields imprint previous container) =
      (projectEnv imprint previous (rooted (itemsOf "env" container))).1 :=
  itemsOf_array _ _ _ (by rw [lookup_projectedFields]; simp)

theorem itemsOf_mounts_projected (container : Table Json) :
    itemsOf "volumeMounts" (projectedFields imprint previous container) =
      putNamed (imprint.mountEntry (rootPath (itemsOf "env" container)))
        (itemsOf "volumeMounts" container) :=
  itemsOf_array _ _ _ (by rw [lookup_projectedFields]; simp)

/-- Beside the mount of the binding a container has the mounts that it had. -/
theorem mem_mounts_projected (key : String) (container : Table Json) :
    some (volumeName key) ∈
        entryNames (itemsOf "volumeMounts" (projectedFields imprint previous container)) ↔
      key = imprint.key ∨ some (volumeName key) ∈ entryNames (itemsOf "volumeMounts" container) := by
  rw [itemsOf_mounts_projected, mem_entryNames_putNamed, entryName_mountEntry, Option.some.injEq,
    volumeName_inj]

theorem ordered_projectedFields (container : Table Json) (ordered : Table.Ordered container) :
    Table.Ordered (projectedFields imprint previous container) :=
  Table.ordered_insert _ _ _ (Table.ordered_insert _ _ _ ordered)

theorem containerName_projected (container : Table Json) :
    containerName? (projectedFields imprint previous container) = containerName? container := by
  simp [containerName?, lookup_projectedFields]

theorem canonical_putNamed (entry : Json) (entries : List Json) (canonical : Json.Canonical entry)
    (each : ∀ item ∈ entries, Json.Canonical item) :
    ∀ item ∈ putNamed entry entries, Json.Canonical item := by
  intro item member
  rcases mem_putNamed entry item entries member with rfl | old
  · exact canonical
  · exact each item old

theorem canonical_projectVariables (mappings : List EnvMapping) (state : List Json × NameSet)
    (each : ∀ item ∈ state.1, Json.Canonical item) :
    ∀ item ∈ (projectVariables imprint previous mappings state).1, Json.Canonical item := by
  induction mappings generalizing state with
  | nil => exact each
  | cons mapping rest ih =>
      rw [projectVariables, List.foldl_cons, ← projectVariables]
      apply ih
      by_cases elsewhere : Elsewhere previous state.1 mapping
      · rw [projectVariable_elsewhere imprint previous state mapping elsewhere]
        exact each
      · rw [projectVariable_written imprint previous state mapping elsewhere]
        exact canonical_putNamed _ _ (canonical_variableEntry imprint mapping) each

theorem canonical_rooted (env : List Json) (each : ∀ item ∈ env, Json.Canonical item) :
    ∀ item ∈ rooted env, Json.Canonical item := by
  unfold rooted
  split
  · exact each
  · intro item member
    rcases List.mem_append.mp member with old | new
    · exact each item old
    · rw [List.mem_singleton.mp new]
      exact canonical_rootEntry

theorem canonical_projectedFields (container : Table Json)
    (canonical : Json.Canonical (.object container)) :
    Json.Canonical (.object (projectedFields imprint previous container)) := by
  have env : Json.Canonical (.array
      (projectEnv imprint previous (rooted (itemsOf "env" container))).1) := by
    refine (Json.canonical_array _).mpr (canonical_projectVariables imprint previous _ _ ?_)
    intro item member
    exact canonical_rooted _ (canonical_itemsOf "env" container canonical) item
      (List.mem_filter.mp member).1
  have mounts := (Json.canonical_array _).mpr (canonical_putNamed
    (imprint.mountEntry (rootPath (itemsOf "env" container))) (itemsOf "volumeMounts" container)
    (canonical_mountEntry _ _) (canonical_itemsOf "volumeMounts" container canonical))
  exact Json.canonical_insert _ _ _ (Json.canonical_insert _ _ _ canonical env) mounts

/-- What someone else defines is defined after projection, and so is the root. -/
theorem defined_projected (name : String) (container : Table Json) (unowned : name ∉ previous)
    (defined : some name ∈ entryNames (rooted (itemsOf "env" container))) :
    some name ∈ entryNames (itemsOf "env" (projectedFields imprint previous container)) ∧
      firstNamed (some name) (itemsOf "env" (projectedFields imprint previous container)) =
        firstNamed (some name) (rooted (itemsOf "env" container)) := by
  have kept := (mem_entryNames_dropStale imprint previous name _ unowned).mpr defined
  rw [itemsOf_env_projected]
  refine ⟨(mem_entryNames_projectVariables imprint previous _ _ _).mpr (.inr kept), ?_⟩
  exact (firstNamed_projectVariables imprint previous name imprint.env
    (dropStale imprint previous (rooted (itemsOf "env" container)), []) unowned kept).trans
    (firstNamed_dropStale imprint previous name _ unowned)

/-- What someone else defines never becomes a variable that a binding owns. -/
theorem unowned_projected (name : String) (container : Table Json) (unowned : name ∉ previous)
    (defined : some name ∈ entryNames (rooted (itemsOf "env" container))) :
    name ∉ projectedNames imprint previous container :=
  unowned_of_defined imprint previous name imprint.env _ unowned
    ((mem_entryNames_dropStale imprint previous name _ unowned).mpr defined) (by simp)

theorem root_projected (container : Table Json) (unowned : rootVariable ∉ previous) :
    some rootVariable ∈ entryNames (itemsOf "env" (projectedFields imprint previous container)) ∧
      firstNamed (some rootVariable)
          (itemsOf "env" (projectedFields imprint previous container)) =
        firstNamed (some rootVariable) (rooted (itemsOf "env" container)) :=
  defined_projected imprint previous rootVariable container unowned (mem_entryNames_rooted _)

theorem root_unowned (container : Table Json) (unowned : rootVariable ∉ previous) :
    rootVariable ∉ projectedNames imprint previous container :=
  unowned_projected imprint previous rootVariable container unowned (mem_entryNames_rooted _)

theorem rootPath_projected (container : Table Json) (unowned : rootVariable ∉ previous) :
    rootPath (itemsOf "env" (projectedFields imprint previous container)) =
      rootPath (itemsOf "env" container) :=
  (rootPath_congr _ _ (root_projected imprint previous container unowned).2).trans
    (rootPath_rooted _)

theorem ascending_projectedNames (container : Table Json) :
    NameSet.Ascending (projectedNames imprint previous container) :=
  ascending_projectVariables _ _ _ _ List.Pairwise.nil

/-- Projecting into a container again changes neither its fields nor the owned names. -/
theorem projectedFields_again (container : Table Json) (ordered : Table.Ordered container)
    (distinct : (imprint.env.map EnvMapping.name).Nodup) (unowned : rootVariable ∉ previous) :
    projectedFields imprint (projectedNames imprint previous container)
        (projectedFields imprint previous container) = projectedFields imprint previous container ∧
      projectedNames imprint (projectedNames imprint previous container)
        (projectedFields imprint previous container) =
          projectedNames imprint previous container := by
  have defined := (root_projected imprint previous container unowned).1
  have path := rootPath_projected imprint previous container unowned
  have env := itemsOf_env_projected imprint previous container
  have again : projectEnv imprint (projectedNames imprint previous container)
      (rooted (itemsOf "env" (projectedFields imprint previous container))) =
      projectEnv imprint previous (rooted (itemsOf "env" container)) := by
    rw [rooted_present _ defined, env]
    exact projectEnv_again imprint previous _ distinct
  have mounted : putNamed (imprint.mountEntry (rootPath (itemsOf "env" container)))
      (itemsOf "volumeMounts" (projectedFields imprint previous container)) =
      itemsOf "volumeMounts" (projectedFields imprint previous container) := by
    apply putNamed_present
    rw [itemsOf_mounts_projected]
    exact firstNamed_putNamed_same _ _
  refine ⟨?_, congrArg Prod.snd again⟩
  apply Table.ext
  · exact ordered_projectedFields _ _ _ (ordered_projectedFields _ _ _ ordered)
  · exact ordered_projectedFields _ _ _ ordered
  · intro field
    rw [lookup_projectedFields, again, path, mounted, itemsOf_mounts_projected,
      lookup_projectedFields]
    split
    · rfl
    · split <;> rfl

end Projecting

section Noting

theorem mem_created_notedContainer (name marker : String) (container : Table Json)
    (ledger : Ledger) :
    marker ∈ (notedContainer name container ledger).created ↔
      marker ∈ ledger.created ∨ ∃ field ∈ containerFields,
        marker = containerMarker field name ∧ Table.lookup field container = none := by
  have tracked : ∀ ledger : Ledger, marker ∈ (containerFields.foldl (fun ledger field =>
      trackField container field (containerMarker field name) ledger) ledger).created ↔
      marker ∈ ledger.created ∨ ∃ field ∈ containerFields,
        marker = containerMarker field name ∧ Table.lookup field container = none := by
    intro ledger
    simp [containerFields, mem_created_trackField, or_assoc]
  unfold notedContainer
  simp only
  split
  · exact tracked ledger
  · exact tracked ledger

theorem mem_roots_notedContainer (name other : String) (container : Table Json)
    (ledger : Ledger) :
    other ∈ (notedContainer name container ledger).roots ↔
      other ∈ ledger.roots ∨ (other = name ∧ rootOf? (itemsOf "env" container) = none) := by
  unfold notedContainer
  cases set : rootOf? (itemsOf "env" container) with
  | none =>
      simp [containerFields, Ledger.noteRoot, NameSet.mem_insert, roots_trackField, or_comm]
  | some root => simp [containerFields, roots_trackField]

theorem ascending_notedContainer (name : String) (container : Table Json) (ledger : Ledger)
    (ascending : ledger.Ascending) : (notedContainer name container ledger).Ascending := by
  have tracked : (containerFields.foldl (fun ledger field =>
      trackField container field (containerMarker field name) ledger) ledger).Ascending :=
    ascending_trackField _ _ _ _ (ascending_trackField _ _ _ _ ascending)
  unfold notedContainer
  simp only
  split
  · exact tracked
  · exact Ledger.ascending_noteRoot name _ tracked

/-- A container in which nothing is missing leaves the ledger as it is. -/
theorem notedContainer_complete (name : String) (container : Table Json) (ledger : Ledger)
    (complete : ∀ field ∈ containerFields, Table.has field container = true)
    (set : some rootVariable ∈ entryNames (itemsOf "env" container)) :
    notedContainer name container ledger = ledger := by
  have root : (rootOf? (itemsOf "env" container)).isSome = true := by
    rw [Option.isSome_iff_ne_none]
    exact fun absent => (rootOf_eq_none _).mp absent set
  have env := complete "env" (by simp)
  have mounts := complete "volumeMounts" (by simp)
  simp [notedContainer, root, containerFields, trackField_present _ _ _ _ env,
    trackField_present _ _ _ _ mounts]

end Noting

section Leaving

variable (volume : String) (owned : NameSet)

def unmounted (container : Table Json) : Table Json :=
  mapListField "volumeMounts"
    (fun mounts => mounts.filter fun mount => entryName mount ≠ some volume) container

/-- Whether the root goes with the last mount. -/
def leavesRoot (name : String) (container : Table Json) (ledger : Ledger) : Bool :=
  !isBound (unmounted volume container) && ledger.roots.contains name

def clearedFields (leaves : Bool) (container : Table Json) : Table Json :=
  mapListField "env" (fun env => env.filter (staysEntry owned leaves)) (unmounted volume container)

/-- The ledger without a root that goes. -/
def unrooted (name : String) (leaves : Bool) (ledger : Ledger) : Ledger :=
  if leaves then { ledger with roots := NameSet.erase name ledger.roots } else ledger

theorem unprojectContainer_eq (name : String) (container : Table Json) (ledger : Ledger) :
    unprojectContainer volume name owned container ledger =
      containerFields.foldl
        (fun state field => releaseField state.1 field (containerMarker field name) state.2)
        (clearedFields volume owned (leavesRoot volume name container ledger) container,
          unrooted name (leavesRoot volume name container ledger) ledger) := rfl

theorem isBound_iff (container : Table Json) :
    isBound container = true ↔
      ∃ name, isVolumeName name = true ∧ some name ∈ entryNames (itemsOf "volumeMounts" container) := by
  unfold isBound
  simp only [List.any_eq_true, Option.any_eq_true, entryNames, List.mem_map]
  constructor
  · rintro ⟨mount, member, name, named, passes⟩
    exact ⟨name, passes, mount, member, named⟩
  · rintro ⟨name, passes, mount, member, named⟩
    exact ⟨mount, member, name, named, passes⟩

theorem isBound_congr (container other : Table Json)
    (same : itemsOf "volumeMounts" container = itemsOf "volumeMounts" other) :
    isBound container = isBound other := by
  rw [Bool.eq_iff_iff, isBound_iff, isBound_iff, same]

/-- The mount of another binding keeps the root. -/
theorem leavesRoot_other {key other : String} (different : other ≠ key) (name : String)
    (container : Table Json) (ledger : Ledger)
    (mounted : some (volumeName other) ∈ entryNames (itemsOf "volumeMounts" container)) :
    leavesRoot (volumeName key) name container ledger = false := by
  have bound : isBound (unmounted (volumeName key) container) = true := by
    rw [isBound_iff, unmounted, itemsOf_mapListField_same _ _ _ rfl]
    exact ⟨_, isVolumeName_volumeName other,
      (mem_volumeNames_without key other _).mpr ⟨different, mounted⟩⟩
  simp [leavesRoot, bound]

theorem mem_created_unrooted (name marker : String) (leaves : Bool) (ledger : Ledger) :
    marker ∈ (unrooted name leaves ledger).created ↔ marker ∈ ledger.created := by
  unfold unrooted
  split <;> rfl

theorem mem_roots_unrooted (name other : String) (leaves : Bool) (ledger : Ledger)
    (ascending : ledger.Ascending) :
    other ∈ (unrooted name leaves ledger).roots ↔
      other ∈ ledger.roots ∧ ¬ (leaves = true ∧ other = name) := by
  unfold unrooted
  split
  · next goes => simp [goes, NameSet.mem_erase name other _ ascending.roots]
  · next stays => simp [stays]

theorem ascending_unrooted (name : String) (leaves : Bool) (ledger : Ledger)
    (ascending : ledger.Ascending) : (unrooted name leaves ledger).Ascending := by
  unfold unrooted
  split
  · exact ⟨ascending.created, NameSet.ascending_erase name _ ascending.roots⟩
  · exact ascending

theorem ordered_clearedFields (leaves : Bool) (container : Table Json)
    (ordered : Table.Ordered container) :
    Table.Ordered (clearedFields volume owned leaves container) :=
  ordered_mapListField _ _ _ (ordered_mapListField _ _ _ ordered)

theorem lookup_clearedFields (leaves : Bool) (field : String) (container : Table Json) :
    Table.lookup field (clearedFields volume owned leaves container) =
      if field = "env" then (Table.lookup "env" container).map
        (changeItems fun env => env.filter (staysEntry owned leaves))
      else if field = "volumeMounts" then (Table.lookup "volumeMounts" container).map
        (changeItems fun mounts => mounts.filter fun mount => entryName mount ≠ some volume)
      else Table.lookup field container := by
  rw [clearedFields, lookup_mapListField, unmounted, lookup_mapListField, lookup_mapListField]
  simp

variable (name : String) (container : Table Json) (ledger : Ledger)

/-- What is found in a container that a binding has left. -/
theorem lookup_unprojectContainer (field : String) (ordered : Table.Ordered container)
    (ascending : ledger.Ascending) :
    Table.lookup field (unprojectContainer volume name owned container ledger).1 =
      if field ∈ containerFields then
        releasedValue (Table.lookup field
          (clearedFields volume owned (leavesRoot volume name container ledger) container))
          (containerMarker field name ∈ ledger.created)
      else Table.lookup field container := by
  rw [unprojectContainer_eq]
  generalize leavesRoot volume name container ledger = leaves
  have first := ordered_clearedFields volume owned leaves container ordered
  have markers : containerMarker "volumeMounts" name ≠ containerMarker "env" name := by
    rw [Ne, containerMarker_inj _ _ _ _ (by simp) (by simp)]
    simp
  have kept : containerMarker "volumeMounts" name ∈
      (releaseField (clearedFields volume owned leaves container) "env"
        (containerMarker "env" name) (unrooted name leaves ledger)).2.created ↔
      containerMarker "volumeMounts" name ∈ ledger.created := by
    rw [mem_created_releaseField _ _ _ _ _ (ascending_unrooted name leaves ledger ascending),
      mem_created_unrooted]
    simp [markers]
  simp only [containerFields, List.foldl_cons, List.foldl_nil]
  rw [lookup_releaseField _ _ _ _ _ (ordered_releaseField _ _ _ _ first),
    lookup_releaseField _ _ _ _ _ first, lookup_releaseField _ _ _ _ _ first]
  simp only [List.mem_cons, List.not_mem_nil, or_false]
  by_cases mounts : field = "volumeMounts"
  · subst mounts
    simp [kept]
  · by_cases env : field = "env"
    · subst env
      simp [mem_created_unrooted]
    · simp [mounts, env, lookup_clearedFields]

theorem itemsOf_mounts_unproject (ordered : Table.Ordered container)
    (ascending : ledger.Ascending) :
    itemsOf "volumeMounts" (unprojectContainer volume name owned container ledger).1 =
      (itemsOf "volumeMounts" container).filter fun mount => entryName mount ≠ some volume := by
  refine itemsOf_released _ container _ _
    (containerMarker "volumeMounts" name ∈ ledger.created) rfl ?_
  rw [lookup_unprojectContainer _ _ _ _ _ _ ordered ascending, if_pos (by simp),
    lookup_clearedFields, if_neg (by decide), if_pos rfl]

theorem itemsOf_env_unproject (ordered : Table.Ordered container)
    (ascending : ledger.Ascending) :
    itemsOf "env" (unprojectContainer volume name owned container ledger).1 =
      (itemsOf "env" container).filter
        (staysEntry owned (leavesRoot volume name container ledger)) := by
  apply itemsOf_released _ container _ _ (containerMarker "env" name ∈ ledger.created) rfl
  rw [lookup_unprojectContainer _ _ _ _ _ _ ordered ascending, if_pos (by simp),
    lookup_clearedFields, if_pos rfl]

theorem ascending_unprojectContainer (ascending : ledger.Ascending) :
    (unprojectContainer volume name owned container ledger).2.Ascending := by
  rw [unprojectContainer_eq]
  exact ascending_releaseField _ _ _ _ (ascending_releaseField _ _ _ _
    (ascending_unrooted name _ ledger ascending))

theorem mem_roots_unprojectContainer (other : String) (ascending : ledger.Ascending) :
    other ∈ (unprojectContainer volume name owned container ledger).2.roots ↔
      other ∈ ledger.roots ∧
        ¬ (other = name ∧ leavesRoot volume name container ledger = true) := by
  rw [unprojectContainer_eq]
  simp only [containerFields, List.foldl_cons, List.foldl_nil, roots_releaseField]
  rw [mem_roots_unrooted name other _ ledger ascending, and_comm (a := other = name)]

/-- A marker goes with the field of this container that it is about, once that is empty. -/
theorem mem_created_unprojectContainer (marker : String) (ordered : Table.Ordered container)
    (ascending : ledger.Ascending) :
    marker ∈ (unprojectContainer volume name owned container ledger).2.created ↔
      marker ∈ ledger.created ∧ ∀ field ∈ containerFields, marker = containerMarker field name →
        (Table.lookup field (clearedFields volume owned
          (leavesRoot volume name container ledger) container)).any isEmptyCollection = false := by
  rw [unprojectContainer_eq]
  generalize leavesRoot volume name container ledger = leaves
  have first := ordered_clearedFields volume owned leaves container ordered
  have rooted := ascending_unrooted name leaves ledger ascending
  simp only [containerFields, List.foldl_cons, List.foldl_nil]
  rw [mem_created_releaseField _ _ _ _ _ (ascending_releaseField _ _ _ _ rooted),
    mem_created_releaseField _ _ _ _ _ rooted, mem_created_unrooted,
    lookup_releaseField _ _ _ _ _ first]
  simp only [List.forall_mem_cons, List.not_mem_nil, false_implies, implies_true, and_true,
    not_and, Bool.not_eq_true]
  simp [and_assoc]

theorem ordered_unprojectContainer (ordered : Table.Ordered container) :
    Table.Ordered (unprojectContainer volume name owned container ledger).1 := by
  rw [unprojectContainer_eq]
  exact ordered_releaseField _ _ _ _ (ordered_releaseField _ _ _ _
    (ordered_clearedFields _ _ _ _ ordered))

theorem canonical_unprojectContainer (canonical : Json.Canonical (.object container)) :
    Json.Canonical (.object (unprojectContainer volume name owned container ledger).1) := by
  rw [unprojectContainer_eq]
  refine canonical_releaseField _ _ _ _ (canonical_releaseField _ _ _ _ ?_)
  have filtered : ∀ (field : String) (keep : Json → Bool) (parent : Table Json),
      Json.Canonical (.object parent) →
      Json.Canonical (.object (mapListField field (fun items => items.filter keep) parent)) := by
    intro field keep parent inner
    apply canonical_mapListField _ _ _ inner
    exact fun item member => canonical_itemsOf field parent inner item (List.mem_filter.mp member).1
  exact filtered "env" _ _ (filtered "volumeMounts" _ _ canonical)

theorem containerName_unproject (ordered : Table.Ordered container)
    (ascending : ledger.Ascending) :
    containerName? (unprojectContainer volume name owned container ledger).1 =
      containerName? container := by
  simp [containerName?, lookup_unprojectContainer volume owned name container ledger "name"
    ordered ascending, containerFields]

end Leaving

end BindingOperator
