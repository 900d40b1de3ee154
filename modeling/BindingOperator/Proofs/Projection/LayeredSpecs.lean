import BindingOperator.Proofs.Projection.Layers

/-!
Layers on the spec of a pod. The lists of containers keep their items in place, so a layered
spec matches the original item by item. Removal threads the ledger through the containers:
as long as others are projected it stays as it is, and for the last binding it is enough
that a container never changes what is noted about another one.
-/

namespace BindingOperator

/-- A container of a list with the entries of a holding behind its own. -/
def LayeredItem (holding : Holding) (original current : Json) : Prop :=
  ∃ before after name, namedContainer? original = some (before, name) ∧
    current = .object after ∧ LayeredContainer holding name before after

def FreshItem (item : Json) : Prop :=
  ∀ container name, namedContainer? item = some (container, name) → FreshContainer container

/-- Nothing of a binding is mounted in an item without a name either, which is no container. -/
def FreshNameless (items : List Json) : Prop :=
  ∀ fields, .object fields ∈ items → containerName? fields = none → FreshContainer fields

def NotedItem (ledger : Ledger) (item : Json) : Prop :=
  ∀ container name, namedContainer? item = some (container, name) →
    LayeredContainer.Noted ledger name container

theorem LayeredItem.named {holding : Holding} {original current : Json}
    (layered : LayeredItem holding original current) :
    ∃ before after name, namedContainer? original = some (before, name) ∧
      namedContainer? current = some (after, name) ∧
        LayeredContainer holding name before after := by
  obtain ⟨before, after, name, known, rfl, container⟩ := layered
  refine ⟨before, after, name, known, ?_, container⟩
  rw [namedContainer_some, container.named]
  exact ⟨rfl, ((namedContainer_some original before name).mp known).2⟩

theorem layeredItem_start (item : Json) (projectable : Projectable item) :
    LayeredItem .nothing item item := by
  obtain ⟨container, name, known, -⟩ := projectable
  exact ⟨container, container, name, known, ((namedContainer_some item container name).mp known).1,
    .start name container⟩

section Lists

variable {holding : Holding} {originals items : List Json}

theorem containerNames_layered (layered : originals.Forall₂ (LayeredItem holding) items) :
    containerNames items = containerNames originals := by
  induction layered with
  | nil => rfl
  | cons head _ ih =>
      obtain ⟨before, after, name, known, now, -⟩ := head.named
      unfold containerNames at ih ⊢
      simp [known, now, ih]

theorem exists_layered (layered : originals.Forall₂ (LayeredItem holding) items) (item : Json)
    (member : item ∈ items) : ∃ original ∈ originals, LayeredItem holding original item := by
  induction layered with
  | nil => simp at member
  | cons head _ ih =>
      rcases List.mem_cons.mp member with rfl | later
      · exact ⟨_, List.mem_cons_self, head⟩
      · obtain ⟨original, present, layer⟩ := ih later
        exact ⟨original, List.mem_cons_of_mem _ present, layer⟩

theorem LayeredItem.join {original item : Json} (layered : LayeredItem holding original item)
    (imprint : Imprint) (previous : OwnedEnv) (owned : String → NameSet) (sound : holding.Sound)
    (fresh : FreshItem original)
    (records : ∀ name, namesIn previous name = holding.owned imprint.key name)
    (counted : ∀ container name, namedContainer? item = some (container, name) →
      owned name = projectedNames imprint (namesIn previous name) container) :
    LayeredItem (holding.join imprint.key owned) original
      (projectedItem imprint previous item) := by
  obtain ⟨before, after, name, known, now, container⟩ := layered.named
  refine ⟨before, _, name, known, by rw [projectedItem, now], ?_⟩
  have mine := counted after name now
  rw [records] at mine ⊢
  exact container.join imprint sound (fresh before name known) owned mine

theorem layeredItems_join (layered : originals.Forall₂ (LayeredItem holding) items)
    (imprint : Imprint) (previous : OwnedEnv) (owned : String → NameSet) (sound : holding.Sound)
    (fresh : ∀ item ∈ originals, FreshItem item)
    (records : ∀ name, namesIn previous name = holding.owned imprint.key name)
    (counted : ∀ item ∈ items, ∀ container name,
      namedContainer? item = some (container, name) →
        owned name = projectedNames imprint (namesIn previous name) container) :
    originals.Forall₂ (LayeredItem (holding.join imprint.key owned))
      (items.map (projectedItem imprint previous)) := by
  induction layered with
  | nil => exact .nil
  | cons head _ ih =>
      refine .cons ?_ ?_
      · exact head.join imprint previous owned sound (fresh _ List.mem_cons_self) records
          (counted _ List.mem_cons_self)
      · exact ih (fun item member => fresh item (List.mem_cons_of_mem _ member))
          fun item member => counted item (List.mem_cons_of_mem _ member)

variable (key : String) (owned : OwnedEnv) {ledger : Ledger}

theorem layeredItems_leave (layered : originals.Forall₂ (LayeredItem holding) items)
    (sound : holding.Sound) (fresh : ∀ item ∈ originals, FreshItem item)
    (noted : ∀ item ∈ originals, NotedItem ledger item)
    (canonical : ∀ item ∈ items, Json.Canonical item) (ascending : ledger.Ascending)
    (records : ∀ name, namesIn owned name = holding.owned key name)
    (live : (holding.leave key).Live) :
    originals.Forall₂ (LayeredItem (holding.leave key))
        (unprojectContainers (volumeName key) owned items ledger).1 ∧
      (unprojectContainers (volumeName key) owned items ledger).2 = ledger := by
  induction layered with
  | nil => exact ⟨.nil, rfl⟩
  | cons head _ ih =>
      obtain ⟨before, after, name, known, now, container⟩ := head.named
      -- the ledger stays as it is, so what it notes about the rest still holds
      obtain ⟨kept, same⟩ := container.leave key sound (fresh _ List.mem_cons_self before name known)
        (noted _ List.mem_cons_self before name known)
        (ordered_of_named _ after name (canonical _ List.mem_cons_self) now) ascending live
      rw [← records] at kept same
      obtain ⟨rest, unchanged⟩ := ih (fun item member => fresh item (List.mem_cons_of_mem _ member))
        (fun item member => noted item (List.mem_cons_of_mem _ member))
        fun item member => canonical item (List.mem_cons_of_mem _ member)
      rw [unprojectContainers_cons, leftLedger, clearedItem, now]
      simp only [same]
      exact ⟨.cons ⟨before, _, name, known, rfl, kept⟩ rest, unchanged⟩

/-- What is noted about a container does not change when another one is left. -/
theorem noted_other (volume name other : String) (names : NameSet)
    (container original : Table Json) (ordered : Table.Ordered container)
    (ascending : ledger.Ascending) (different : other ≠ name)
    (noted : LayeredContainer.Noted ledger other original) :
    LayeredContainer.Noted (unprojectContainer volume name names container ledger).2 other
      original := by
  constructor
  · rw [mem_roots_unprojectContainer _ _ _ _ _ _ ascending, ← noted.root]
    exact and_iff_left fun both => different both.1
  · intro field known
    rw [mem_created_unprojectContainer _ _ _ _ _ _ ordered ascending, ← noted.fields field known]
    apply and_iff_left
    intro changed present same
    exact absurd ((containerMarker_inj field changed other name known present).mp same).2 different

theorem layeredItems_last (layered : originals.Forall₂ (LayeredItem holding) items)
    (sound : holding.Sound) (fresh : ∀ item ∈ originals, FreshItem item)
    (projectable : ∀ item ∈ originals, Projectable item)
    (distinct : (containerNames originals).Nodup)
    (noted : ∀ item ∈ originals, NotedItem ledger item)
    (canonical : ∀ item ∈ items, Json.Canonical item)
    (originalCanonical : ∀ item ∈ originals, Json.Canonical item) (ascending : ledger.Ascending)
    (records : ∀ name, namesIn owned name = holding.owned key name) (live : holding.Live)
    (last : ¬ (holding.leave key).Live) :
    (unprojectContainers (volumeName key) owned items ledger).1 = originals := by
  induction layered generalizing ledger with
  | nil => rfl
  | @cons original item originals items head tail ih =>
      obtain ⟨before, after, name, known, now, container⟩ := head.named
      have ordered := ordered_of_named item after name (canonical item List.mem_cons_self) now
      obtain ⟨_, _, found, listed⟩ := projectable original List.mem_cons_self
      rw [known, Option.some.injEq, Prod.mk.injEq] at found
      obtain ⟨rfl, rfl⟩ := found
      rw [containerNames_cons original originals before name known, List.nodup_cons] at distinct
      have back := container.leave_last key sound (fresh original List.mem_cons_self before name known)
        (noted original List.mem_cons_self before name known) ordered
        (ordered_of_named original before name (originalCanonical original List.mem_cons_self) known)
        ascending listed live last
      rw [← records] at back
      have cleared : clearedItem (volumeName key) owned ledger item = original := by
        rw [clearedItem, now]
        simp only [back]
        exact ((namedContainer_some original before name).mp known).1.symm
      rw [unprojectContainers_cons, cleared]
      refine congrArg (original :: ·) (ih
        (fun other member => fresh other (List.mem_cons_of_mem _ member))
        (fun other member => projectable other (List.mem_cons_of_mem _ member)) distinct.2 ?_
        (fun other member => canonical other (List.mem_cons_of_mem _ member))
        (fun other member => originalCanonical other (List.mem_cons_of_mem _ member))
        (ascending_leftLedger _ _ _ _ ascending))
      -- the ledger may lose notes about this container, but none about another name
      intro other member rest otherName otherKnown
      rw [leftLedger, now]
      refine noted_other _ _ _ _ _ _ ordered ascending ?_
        (noted other (List.mem_cons_of_mem _ member) rest otherName otherKnown)
      rintro rfl
      exact distinct.1 ((mem_containerNames _ _).mpr ⟨other, member, rest, otherKnown⟩)

end Lists

/-- The spec of a pod with the entries of a holding behind its own. -/
structure LayeredSpec (holding : Holding) (original current : Table Json) : Prop where
  others : ∀ field, field ≠ "volumes" → field ∉ containerLists →
    Table.lookup field current = Table.lookup field original
  volumes : Continued "volumes" holding.volumes original current
  full : holding.Live → Table.lookup "volumes" current = some (.array (itemsOf "volumes" current))
  lists : ∀ list ∈ containerLists, Table.lookup list current =
    (Table.lookup list original).map (changeItems fun _ => itemsOf list current)
  items : ∀ list ∈ containerLists,
    (itemsOf list original).Forall₂ (LayeredItem holding) (itemsOf list current)

/-- No volume and no mount of a pod is one of a binding, and its containers have distinct
names. -/
structure FreshSpec (spec : Table Json) : Prop where
  volumes : ∀ name, isVolumeName name = true → some name ∉ entryNames (itemsOf "volumes" spec)
  mounts : ∀ item ∈ containersOf spec, FreshItem item
  nameless : FreshNameless (containersOf spec)
  names : (containerNames (containersOf spec)).Nodup

structure ShapedSpec (spec : Table Json) : Prop where
  volumes : Listed "volumes" spec
  containers : ∀ item ∈ containersOf spec, Projectable item

namespace LayeredSpec

variable {holding : Holding} {original current : Table Json}

theorem start (spec : Table Json) (shaped : ShapedSpec spec) :
    LayeredSpec .nothing spec spec where
  others _ _ _ := rfl
  volumes := ⟨[], by simp, .nil (by simp [Holding.volumes, Holding.nothing])⟩
  full live := absurd live Holding.not_live_nothing
  lists list _ := (lookup_sameItems list spec _ rfl).symm
  items list known := by
    rw [List.forall₂_same]
    exact fun item member =>
      layeredItem_start item (shaped.containers item (mem_containersOf list spec known item member))

theorem containers (layered : LayeredSpec holding original current) :
    (containersOf original).Forall₂ (LayeredItem holding) (containersOf current) :=
  List.rel_append (layered.items "initContainers" (by simp))
    (layered.items "containers" (by simp))

theorem containerNames (layered : LayeredSpec holding original current) :
    containerNames (containersOf current) = containerNames (containersOf original) :=
  containerNames_layered layered.containers

theorem join (layered : LayeredSpec holding original current) (imprint : Imprint)
    (previous : OwnedEnv) (owned : String → NameSet) (sound : holding.Sound)
    (fresh : FreshSpec original)
    (records : ∀ name, namesIn previous name = holding.owned imprint.key name)
    (counted : ∀ item ∈ containersOf current, ∀ container name,
      namedContainer? item = some (container, name) →
        owned name = projectedNames imprint (namesIn previous name) container) :
    LayeredSpec (holding.join imprint.key owned) original
      (projectedSpec imprint previous current) := by
  have volume := lookup_volumes_projectedSpec imprint previous current
  have items := itemsOf_projectedSpec imprint previous current
  constructor
  · intro field different unknown
    rw [lookup_projectedSpec _ _ _ field different, if_neg unknown]
    exact layered.others field different unknown
  · obtain ⟨extras, same, extra⟩ := layered.volumes
    obtain ⟨rest, put, grown⟩ := extra.join imprint.key _
      (fresh.volumes _ (isVolumeName_volumeName imprint.key)) owned _ (entryName_volumeEntry imprint)
    exact ⟨rest, by rw [itemsOf_array _ _ _ volume, same, put], grown⟩
  · intro _
    rw [itemsOf_array _ _ _ volume]
    exact volume
  · intro list known
    rw [items list known, lookup_list_projectedSpec _ _ _ list known, layered.lists list known,
      map_changeItems]
  · intro list known
    rw [items list known]
    exact layeredItems_join (layered.items list known) imprint previous owned sound
      (fun item member => fresh.mounts item (mem_containersOf list original known item member))
      records fun item member => counted item (mem_containersOf list current known item member)

section Leaving

variable (key : String) (owned : OwnedEnv) {ledger : Ledger}

/-- What the ledger notes about a spec is what the original lacks. -/
structure Noted (ledger : Ledger) (original : Table Json) : Prop where
  volumes : "volumes" ∈ ledger.created ↔ Table.lookup "volumes" original = none
  containers : ∀ item ∈ containersOf original, NotedItem ledger item

theorem volumes_extras (layered : LayeredSpec holding original current)
    (fresh : FreshSpec original) :
    ∃ extras, (itemsOf "volumes" current).filter
        (fun entry => entryName entry ≠ some (volumeName key)) = itemsOf "volumes" original ++ extras ∧
      Extras (holding.leave key).volumes extras := by
  obtain ⟨extras, volumes, extra⟩ := layered.volumes
  rw [volumes]
  exact extra.leave key _ (fresh.volumes _ (isVolumeName_volumeName key))

section Staying

variable (layered : LayeredSpec holding original current) (live : (holding.leave key).Live)
include layered live

/-- While somebody stays, there are volumes besides the original ones. -/
theorem volumes_left (fresh : FreshSpec original) :
    ∃ extras, Extras (holding.leave key).volumes extras ∧ extras ≠ [] ∧
      (Table.lookup "volumes" current).map (changeItems fun entries =>
        entries.filter fun entry => entryName entry ≠ some (volumeName key)) =
        some (.array (itemsOf "volumes" original ++ extras)) := by
  obtain ⟨extras, volumes, extra⟩ := layered.volumes_extras key fresh
  refine ⟨extras, extra, ?_, ?_⟩
  · obtain ⟨other, bound⟩ := live
    exact extra.ne_nil (volumeName other) ⟨other, bound, rfl⟩
  · rw [layered.full (Holding.live_of_leave key live), ← volumes]
    rfl

theorem unvolumed_left (fresh : FreshSpec original) (ascending : ledger.Ascending) :
    (unvolumed (volumeName key) current ledger).2 = ledger := by
  obtain ⟨extras, -, full, present⟩ := layered.volumes_left key live fresh
  apply Ledger.ext_mem _ _ (ascending_unvolumed _ _ _ ascending) ascending
  · intro marker
    rw [mem_created_unvolumed _ _ _ _ ascending, present]
    simp [isEmptyCollection, full]
  · intro name
    rw [roots_unvolumed]

theorem items_left (sound : holding.Sound) (fresh : FreshSpec original)
    (noted : Noted ledger original) (canonical : Json.Canonical (.object current))
    (ascending : ledger.Ascending)
    (records : ∀ name, namesIn owned name = holding.owned key name) (list : String)
    (known : list ∈ containerLists) :
    (itemsOf list original).Forall₂ (LayeredItem (holding.leave key))
        (unprojectContainers (volumeName key) owned (itemsOf list current) ledger).1 ∧
      (unprojectContainers (volumeName key) owned (itemsOf list current) ledger).2 = ledger := by
  apply layeredItems_leave key owned (layered.items list known) sound
  · exact fun item member => fresh.mounts item (mem_containersOf list original known item member)
  · exact fun item member => noted.containers item
      (mem_containersOf list original known item member)
  · exact fun item member => canonical_containersOf current canonical item
      (mem_containersOf list current known item member)
  · exact ascending
  · exact records
  · exact live

end Staying

theorem leave (layered : LayeredSpec holding original current) (sound : holding.Sound)
    (fresh : FreshSpec original) (noted : Noted ledger original)
    (canonical : Json.Canonical (.object current)) (ascending : ledger.Ascending)
    (records : ∀ name, namesIn owned name = holding.owned key name)
    (live : (holding.leave key).Live) :
    LayeredSpec (holding.leave key) original
        (unprojectSpec (volumeName key) owned current ledger).1 ∧
      (unprojectSpec (volumeName key) owned current ledger).2 = ledger := by
  have ordered := Json.canonical_ordered current canonical
  have kept := layered.unvolumed_left key live fresh ascending
  have lists := layered.items_left key owned live sound fresh noted canonical ascending records
  have init := (lists "initContainers" (by simp)).2
  have main := (lists "containers" (by simp)).2
  have found : ∀ list ∈ containerLists, Table.lookup list
      (unprojectSpec (volumeName key) owned current ledger).1 = (Table.lookup list current).map
        (changeItems fun items => (unprojectContainers (volumeName key) owned items ledger).1) := by
    intro list known
    simp only [mem_containerLists] at known
    rw [lookup_unprojectSpec _ _ _ _ _ ordered, kept, init]
    rcases known with rfl | rfl
    · rw [if_neg (by decide), if_pos rfl]
    · rw [if_pos rfl]
  have items : ∀ list ∈ containerLists, itemsOf list
      (unprojectSpec (volumeName key) owned current ledger).1 =
        (unprojectContainers (volumeName key) owned (itemsOf list current) ledger).1 :=
    fun list known => itemsOf_changed list current _ (fun items =>
      (unprojectContainers (volumeName key) owned items ledger).1) rfl (found list known)
  obtain ⟨extras, extra, full, present⟩ := layered.volumes_left key live fresh
  have volume := lookup_volumes_unprojectSpec (volumeName key) owned current ledger ordered
  rw [present, releasedValue_kept _ _ fun empty => by simp [isEmptyCollection, full] at empty]
    at volume
  refine ⟨⟨?_, ?_, ?_, ?_, ?_⟩, ?_⟩
  · intro field different unknown
    simp only [mem_containerLists, not_or] at unknown
    rw [lookup_unprojectSpec _ _ _ _ _ ordered, if_neg unknown.2, if_neg unknown.1,
      lookup_unvolumed _ _ _ _ ordered, if_neg different]
    exact layered.others field different (by simp [unknown])
  · exact ⟨extras, itemsOf_array _ _ _ volume, extra⟩
  · intro _
    rw [itemsOf_array _ _ _ volume]
    exact volume
  · intro list known
    rw [found list known, items list known, layered.lists list known, map_changeItems]
  · intro list known
    rw [items list known]
    exact (lists list known).1
  · rw [unprojectSpec_eq _ _ _ _ ordered, kept, containersOf, unprojectContainers_append]
    simp only [init, main]

/-- The marker of the volumes is not one of a container. -/
theorem noted_unvolumed (noted : Noted ledger original) (ascending : ledger.Ascending) (item : Json)
    (member : item ∈ containersOf original) :
    NotedItem (unvolumed (volumeName key) current ledger).2 item := by
  intro container name known
  have before := noted.containers item member container name known
  constructor
  · rw [roots_unvolumed]
    exact before.root
  · intro field present
    rw [mem_created_unvolumed _ _ _ _ ascending, ← before.fields field present]
    refine and_iff_left fun both => ?_
    exact containerMarker_ne_template field name "volumes" present (by simp)
      both.1

/-- A list of containers is restored with its items. -/
theorem list_restored (layered : LayeredSpec holding original current) (list : String)
    (known : list ∈ containerLists) (change : List Json → List Json)
    (same : change (itemsOf list current) = itemsOf list original) :
    (Table.lookup list current).map (changeItems change) = Table.lookup list original := by
  rw [layered.lists list known, map_changeItems]
  exact lookup_sameItems list original _ same

/-- The last binding that leaves a pod spec restores it. -/
theorem leave_last (layered : LayeredSpec holding original current) (sound : holding.Sound)
    (fresh : FreshSpec original) (shaped : ShapedSpec original) (noted : Noted ledger original)
    (canonical : Json.Canonical (.object current))
    (originalCanonical : Json.Canonical (.object original)) (ascending : ledger.Ascending)
    (records : ∀ name, namesIn owned name = holding.owned key name) (live : holding.Live)
    (last : ¬ (holding.leave key).Live) :
    (unprojectSpec (volumeName key) owned current ledger).1 = original := by
  have ordered := Json.canonical_ordered current canonical
  obtain ⟨extras, volumes, extra⟩ := layered.volumes_extras key fresh
  have none : extras = [] := extra.eq_nil fun _ ⟨other, bound, _⟩ => last ⟨other, bound⟩
  rw [none, List.append_nil] at volumes
  have back := layeredItems_last key owned layered.containers sound fresh.mounts
    shaped.containers fresh.names (noted_unvolumed key noted ascending)
    (canonical_containersOf current canonical) (canonical_containersOf original originalCanonical)
    (ascending_unvolumed (volumeName key) current ledger ascending) records live last
  -- the two lists of containers are released as one, and have the lengths that they had
  rw [containersOf, unprojectContainers_append, containersOf] at back
  have lengths : (unprojectContainers (volumeName key) owned (itemsOf "initContainers" current)
      (unvolumed (volumeName key) current ledger).2).1.length =
      (itemsOf "initContainers" original).length := by
    rw [length_unprojectContainers]
    exact (layered.items "initContainers" (by simp)).length_eq.symm
  obtain ⟨init, main⟩ := List.append_inj back lengths
  apply Table.ext _ _ (ordered_unprojectSpec _ _ _ _ ordered)
    (Json.canonical_ordered original originalCanonical)
  intro field
  by_cases isMain : field = "containers"
  · rw [isMain, lookup_unprojectSpec _ _ _ _ _ ordered, if_pos rfl]
    exact layered.list_restored "containers" (by simp) _ main
  · by_cases isInit : field = "initContainers"
    · rw [isInit, lookup_unprojectSpec _ _ _ _ _ ordered, if_neg (by decide), if_pos rfl]
      exact layered.list_restored "initContainers" (by simp) _ init
    · rw [lookup_unprojectSpec _ _ _ _ _ ordered, if_neg isMain, if_neg isInit,
        lookup_unvolumed _ _ _ _ ordered]
      by_cases isVolumes : field = "volumes"
      · rw [if_pos isVolumes, layered.full live, isVolumes]
        simp only [Option.map_some, changeItems, volumes]
        exact released_items "volumes" original _ shaped.volumes noted.volumes
      · rw [if_neg isVolumes]
        exact layered.others field isVolumes (by simp [isMain, isInit])

end Leaving

end LayeredSpec

end BindingOperator
