import BindingOperator.Proofs.Projection.Containers

/-!
Lists of containers. Projecting into a list maps every item on its own and collects the
owned names under the name of the container; removal maps every item on its own as well
when no name occurs twice, because the ledger of one container says nothing about another.
-/

namespace BindingOperator

/-- The container that an item of a list is, and its name. -/
def namedContainer? (item : Json) : Option (Table Json × String) :=
  item.asObject?.bind fun container =>
    (containerName? container).map fun name => (container, name)

theorem namedContainer_some (item : Json) (container : Table Json) (name : String) :
    namedContainer? item = some (container, name) ↔
      item = .object container ∧ containerName? container = some name := by
  cases item <;> simp [namedContainer?, Json.asObject?]
  grind

theorem namedContainer_none (fields : Table Json) :
    namedContainer? (.object fields) = none ↔ containerName? fields = none := by
  simp [namedContainer?, Json.asObject?]

/-- The names of the containers in a list; other items have none. -/
def containerNames (items : List Json) : List String :=
  items.filterMap fun item => (namedContainer? item).map Prod.snd

theorem mem_containerNames (items : List Json) (name : String) :
    name ∈ containerNames items ↔
      ∃ item ∈ items, ∃ container, namedContainer? item = some (container, name) := by
  simp [containerNames]

theorem containerNames_cons (item : Json) (rest : List Json) (container : Table Json)
    (name : String) (named : namedContainer? item = some (container, name)) :
    containerNames (item :: rest) = name :: containerNames rest := by
  simp [containerNames, named]

theorem containerNames_nodup_rest (item : Json) (rest : List Json)
    (distinct : (containerNames (item :: rest)).Nodup) : (containerNames rest).Nodup :=
  distinct.sublist ((List.sublist_cons_self item rest).filterMap _)

/-- Where names are distinct, a name tells the container. -/
theorem named_unique (items : List Json) (left right : Json) (container other : Table Json)
    (name : String) (distinct : (containerNames items).Nodup) (leftMember : left ∈ items)
    (rightMember : right ∈ items) (leftNamed : namedContainer? left = some (container, name))
    (rightNamed : namedContainer? right = some (other, name)) : left = right := by
  induction items with
  | nil => simp at leftMember
  | cons first rest ih =>
      have elsewhere : ∀ item inner, namedContainer? first = some (inner, name) → item ∈ rest →
          ∀ found, namedContainer? item ≠ some (found, name) := by
        intro item inner here later found named
        rw [containerNames_cons first rest inner name here, List.nodup_cons] at distinct
        exact distinct.1 ((mem_containerNames rest name).mpr ⟨item, later, found, named⟩)
      rcases List.mem_cons.mp leftMember with rfl | leftLater
      · rcases List.mem_cons.mp rightMember with rfl | rightLater
        · rfl
        · exact absurd rightNamed (elsewhere right container leftNamed rightLater other)
      · rcases List.mem_cons.mp rightMember with rfl | rightLater
        · exact absurd leftNamed (elsewhere left other rightNamed leftLater container)
        · exact ih (containerNames_nodup_rest first rest distinct) leftLater rightLater

def namesIn (owned : OwnedEnv) (name : String) : NameSet := (Table.lookup name owned).getD []

section Projecting

variable (imprint : Imprint) (previous : OwnedEnv)

def projectedItem (item : Json) : Json :=
  match namedContainer? item with
  | some (container, name) =>
      .object (projectedFields imprint (namesIn previous name) container)
  | none => item

def Projectable (item : Json) : Prop :=
  ∃ container name, namedContainer? item = some (container, name) ∧
    ∀ field ∈ containerFields, Listed field container

def notedItem (ledger : Ledger) (item : Json) : Ledger :=
  match namedContainer? item with
  | some (container, name) => notedContainer name container ledger
  | none => ledger

def collectedItem (owned : OwnedEnv) (item : Json) : OwnedEnv :=
  match namedContainer? item with
  | some (container, name) =>
      let names := projectedNames imprint (namesIn previous name) container
      if names.isEmpty then owned else Table.insert name names owned
  | none => owned

theorem projectContainers_some (items : List Json) (state : Ledger × OwnedEnv)
    (result : List Json × Ledger × OwnedEnv) :
    projectContainers imprint previous items state = some result ↔
      (∀ item ∈ items, Projectable item) ∧
        result = (items.map (projectedItem imprint previous), items.foldl notedItem state.1,
          items.foldl (collectedItem imprint previous) state.2) := by
  induction items generalizing state result with
  | nil => simp [projectContainers, eq_comm]
  | cons item rest ih =>
      rw [List.forall_mem_cons]
      simp only [projectContainers, Option.bind_eq_bind, Option.bind_eq_some_iff,
        Option.pure_def, Option.some.injEq, projectContainer_some, ih]
      constructor
      · rintro ⟨container, isObject, name, named, _, ⟨listed, rfl⟩, more, ⟨others, rfl⟩, rfl⟩
        have known : namedContainer? item = some (container, name) := by
          simp [namedContainer?, isObject, named]
        refine ⟨⟨⟨container, name, known, listed⟩, others⟩, ?_⟩
        simp [projectedItem, notedItem, collectedItem, known, namesIn]
      · rintro ⟨⟨⟨container, name, known, listed⟩, others⟩, rfl⟩
        obtain ⟨rfl, named⟩ := (namedContainer_some item container name).mp known
        refine ⟨container, rfl, name, named, _, ⟨listed, rfl⟩, _, ⟨others, rfl⟩, ?_⟩
        simp [projectedItem, notedItem, collectedItem, known, namesIn]

theorem namedContainer_projectedItem (item : Json) (container : Table Json) (name : String)
    (named : namedContainer? item = some (container, name)) :
    namedContainer? (projectedItem imprint previous item) =
      some (projectedFields imprint (namesIn previous name) container, name) := by
  rw [namedContainer_some]
  simp only [projectedItem, named, containerName_projected, true_and]
  exact ((namedContainer_some item container name).mp named).2

/-- An item without a name is passed over. -/
theorem nameless_projectedItem (item : Json)
    (nameless : namedContainer? (projectedItem imprint previous item) = none) :
    projectedItem imprint previous item = item := by
  cases named : namedContainer? item with
  | none => simp [projectedItem, named]
  | some pair =>
      rw [namedContainer_projectedItem imprint previous item pair.1 pair.2 named] at nameless
      cases nameless

theorem containerNames_projected (items : List Json) :
    containerNames (items.map (projectedItem imprint previous)) = containerNames items := by
  unfold containerNames
  rw [List.filterMap_map]
  congr 1
  funext item
  cases named : namedContainer? item with
  | none => simp [projectedItem, named]
  | some pair =>
      simp [namedContainer_projectedItem imprint previous item pair.1 pair.2 named]

theorem canonical_projectedItem (item : Json) (canonical : Json.Canonical item) :
    Json.Canonical (projectedItem imprint previous item) := by
  cases named : namedContainer? item with
  | none => simpa [projectedItem, named] using canonical
  | some pair =>
      obtain ⟨rfl, -⟩ := (namedContainer_some item pair.1 pair.2).mp named
      simpa [projectedItem, named] using canonical_projectedFields imprint _ pair.1 canonical

/-- The ledger after a list notes what was missing in its containers. -/
theorem mem_created_notedItems (items : List Json) (marker : String) (ledger : Ledger) :
    marker ∈ (items.foldl notedItem ledger).created ↔
      marker ∈ ledger.created ∨ ∃ item ∈ items, ∃ container name,
        namedContainer? item = some (container, name) ∧ ∃ field ∈ containerFields,
          marker = containerMarker field name ∧ Table.lookup field container = none := by
  induction items generalizing ledger with
  | nil => simp
  | cons item rest ih =>
      rw [List.foldl_cons, ih]
      cases named : namedContainer? item with
      | none => simp [notedItem, named]
      | some pair =>
          obtain ⟨container, name⟩ := pair
          simp [notedItem, named, mem_created_notedContainer, or_assoc]

theorem mem_roots_notedItems (items : List Json) (other : String) (ledger : Ledger) :
    other ∈ (items.foldl notedItem ledger).roots ↔
      other ∈ ledger.roots ∨ ∃ item ∈ items, ∃ container,
        namedContainer? item = some (container, other) ∧
          rootOf? (itemsOf "env" container) = none := by
  induction items generalizing ledger with
  | nil => simp
  | cons item rest ih =>
      rw [List.foldl_cons, ih]
      cases named : namedContainer? item with
      | none => simp [notedItem, named]
      | some pair =>
          obtain ⟨container, name⟩ := pair
          simp only [notedItem, named, mem_roots_notedContainer, List.exists_mem_cons_iff,
            Option.some.injEq, Prod.mk.injEq]
          rw [or_assoc]
          refine or_congr Iff.rfl (or_congr ?_ Iff.rfl)
          constructor
          · rintro ⟨rfl, missing⟩
            exact ⟨container, ⟨rfl, rfl⟩, missing⟩
          · rintro ⟨_, ⟨rfl, rfl⟩, missing⟩
            exact ⟨rfl, missing⟩

theorem ascending_notedItems (items : List Json) (ledger : Ledger)
    (ascending : ledger.Ascending) : (items.foldl notedItem ledger).Ascending := by
  induction items generalizing ledger with
  | nil => exact ascending
  | cons item rest ih =>
      apply ih
      unfold notedItem
      split
      · exact ascending_notedContainer _ _ _ ascending
      · exact ascending

/-- A list in which nothing is missing leaves the ledger as it is. -/
theorem notedItems_complete (items : List Json) (ledger : Ledger)
    (complete : ∀ item ∈ items, ∀ container name, namedContainer? item = some (container, name) →
      (∀ field ∈ containerFields, Table.has field container = true) ∧
        some rootVariable ∈ entryNames (itemsOf "env" container)) :
    items.foldl notedItem ledger = ledger := by
  induction items with
  | nil => rfl
  | cons item rest ih =>
      have same : notedItem ledger item = ledger := by
        unfold notedItem
        split
        · next container name named =>
          obtain ⟨fields, set⟩ := complete item List.mem_cons_self container name named
          exact notedContainer_complete name container ledger fields set
        · rfl
      rw [List.foldl_cons, same]
      exact ih fun other member => complete other (List.mem_cons_of_mem _ member)

theorem ascending_collectedItems (items : List Json) (owned : OwnedEnv)
    (ascending : OwnedEnv.Ascending owned) :
    OwnedEnv.Ascending (items.foldl (collectedItem imprint previous) owned) := by
  induction items generalizing owned with
  | nil => exact ascending
  | cons item rest ih =>
      apply ih
      unfold collectedItem
      split
      · simp only
        split
        · exact ascending
        · exact OwnedEnv.ascending_insert _ _ _ ascending (ascending_projectedNames _ _ _)
      · exact ascending

/-- Names are collected only under the names of containers. -/
theorem namesIn_collected_other (items : List Json) (name : String) (owned : OwnedEnv)
    (absent : name ∉ containerNames items) :
    namesIn (items.foldl (collectedItem imprint previous) owned) name = namesIn owned name := by
  induction items generalizing owned with
  | nil => rfl
  | cons item rest ih =>
      have later : name ∉ containerNames rest := by
        intro member
        obtain ⟨other, present, found⟩ := (mem_containerNames rest name).mp member
        exact absent ((mem_containerNames _ _).mpr ⟨other, List.mem_cons_of_mem _ present, found⟩)
      rw [List.foldl_cons, ih _ later]
      unfold collectedItem
      split
      · next container other named =>
        have different : name ≠ other := by
          rintro rfl
          exact absent ((mem_containerNames _ _).mpr ⟨item, List.mem_cons_self, container, named⟩)
        simp only
        split
        · rfl
        · rw [namesIn, Table.lookup_insert_other _ _ _ _ different, ← namesIn]
      · rfl

/-- With distinct names a container's owned names are collected under its name. -/
theorem namesIn_collected (items : List Json) (item : Json) (container : Table Json)
    (name : String) (owned : OwnedEnv) (distinct : (containerNames items).Nodup)
    (member : item ∈ items) (named : namedContainer? item = some (container, name))
    (empty : namesIn owned name = []) :
    namesIn (items.foldl (collectedItem imprint previous) owned) name =
      projectedNames imprint (namesIn previous name) container := by
  induction items generalizing owned with
  | nil => simp at member
  | cons first rest ih =>
      have others := containerNames_nodup_rest first rest distinct
      rw [List.foldl_cons]
      rcases List.mem_cons.mp member with rfl | later
      · rw [containerNames_cons item rest container name named, List.nodup_cons] at distinct
        rw [namesIn_collected_other imprint previous rest name _ distinct.1]
        simp only [collectedItem, named]
        split
        · next none =>
          rw [List.isEmpty_iff] at none
          rw [empty, none]
        · simp [namesIn, Table.lookup_insert_same]
      · apply ih _ others later
        unfold collectedItem
        split
        · next other found here =>
          have different : name ≠ found := by
            rintro rfl
            rw [containerNames_cons first rest other name here, List.nodup_cons] at distinct
            exact distinct.1 ((mem_containerNames rest name).mpr ⟨item, later, container, named⟩)
          simp only
          split
          · exact empty
          · rw [namesIn, Table.lookup_insert_other _ _ _ _ different, ← namesIn, empty]
        · exact empty

end Projecting

section Leaving

variable (volume : String) (owned : OwnedEnv)

def clearedItem (ledger : Ledger) (item : Json) : Json :=
  match namedContainer? item with
  | some (container, name) =>
      .object (unprojectContainer volume name (namesIn owned name) container ledger).1
  | none => item

def leftLedger (ledger : Ledger) (item : Json) : Ledger :=
  match namedContainer? item with
  | some (container, name) =>
      (unprojectContainer volume name (namesIn owned name) container ledger).2
  | none => ledger

theorem unprojectContainers_cons (item : Json) (rest : List Json) (ledger : Ledger) :
    unprojectContainers volume owned (item :: rest) ledger =
      (clearedItem volume owned ledger item ::
        (unprojectContainers volume owned rest (leftLedger volume owned ledger item)).1,
        (unprojectContainers volume owned rest (leftLedger volume owned ledger item)).2) := by
  rw [unprojectContainers]
  cases named : namedContainer? item with
  | none =>
      have read := named
      unfold namedContainer? at read
      rw [read]
      simp [clearedItem, leftLedger, named]
  | some pair =>
      obtain ⟨container, name⟩ := pair
      have read := named
      unfold namedContainer? at read
      rw [read]
      simp [clearedItem, leftLedger, named, namesIn]

theorem length_unprojectContainers (items : List Json) (ledger : Ledger) :
    (unprojectContainers volume owned items ledger).1.length = items.length := by
  induction items generalizing ledger with
  | nil => rfl
  | cons item rest ih => simp [unprojectContainers_cons, ih]

theorem namedContainer_clearedItem (item : Json) (container : Table Json) (name : String)
    (ledger : Ledger) (ordered : Table.Ordered container) (ascending : ledger.Ascending)
    (named : namedContainer? item = some (container, name)) :
    namedContainer? (clearedItem volume owned ledger item) =
      some ((unprojectContainer volume name (namesIn owned name) container ledger).1, name) := by
  rw [namedContainer_some]
  simp only [clearedItem, named, true_and]
  rw [containerName_unproject volume _ name container ledger ordered ascending]
  exact ((namedContainer_some item container name).mp named).2

theorem canonical_clearedItem (item : Json) (ledger : Ledger) (canonical : Json.Canonical item) :
    Json.Canonical (clearedItem volume owned ledger item) := by
  cases named : namedContainer? item with
  | none => simpa [clearedItem, named] using canonical
  | some pair =>
      obtain ⟨rfl, -⟩ := (namedContainer_some item pair.1 pair.2).mp named
      simpa [clearedItem, named] using
        canonical_unprojectContainer volume _ pair.2 pair.1 ledger canonical

theorem ordered_of_named (item : Json) (container : Table Json) (name : String)
    (canonical : Json.Canonical item) (named : namedContainer? item = some (container, name)) :
    Table.Ordered container := by
  obtain ⟨rfl, -⟩ := (namedContainer_some item container name).mp named
  exact Json.canonical_ordered container canonical

theorem ascending_leftLedger (item : Json) (ledger : Ledger) (ascending : ledger.Ascending) :
    (leftLedger volume owned ledger item).Ascending := by
  unfold leftLedger
  split
  · exact ascending_unprojectContainer _ _ _ _ _ ascending
  · exact ascending

/-- What no clearing changes in an item can be read of the cleared list as well. -/
theorem map_unprojectContainers {α : Type} (read : Json → α) (items : List Json) (ledger : Ledger)
    (ascending : ledger.Ascending)
    (same : ∀ item ∈ items, ∀ middle : Ledger, middle.Ascending →
      read (clearedItem volume owned middle item) = read item) :
    (unprojectContainers volume owned items ledger).1.map read = items.map read := by
  induction items generalizing ledger with
  | nil => rfl
  | cons item rest ih =>
      rw [unprojectContainers_cons, List.map_cons, List.map_cons,
        same item List.mem_cons_self ledger ascending,
        ih _ (ascending_leftLedger volume owned item ledger ascending)
          fun other member => same other (List.mem_cons_of_mem _ member)]

theorem name_clearedItem (item : Json) (ledger : Ledger) (canonical : Json.Canonical item)
    (ascending : ledger.Ascending) :
    (namedContainer? (clearedItem volume owned ledger item)).map Prod.snd =
      (namedContainer? item).map Prod.snd := by
  cases named : namedContainer? item with
  | none => simp [clearedItem, named]
  | some pair =>
      have ordered := ordered_of_named item pair.1 pair.2 canonical named
      rw [namedContainer_clearedItem volume owned item pair.1 pair.2 ledger ordered ascending named]
      rfl

theorem containerNames_unprojected (items : List Json) (ledger : Ledger)
    (canonical : ∀ item ∈ items, Json.Canonical item) (ascending : ledger.Ascending) :
    containerNames (unprojectContainers volume owned items ledger).1 = containerNames items := by
  have names := map_unprojectContainers volume owned
    (fun item => (namedContainer? item).map Prod.snd) items ledger ascending
    fun item member middle => name_clearedItem volume owned item middle (canonical item member)
  have filtered := congrArg (List.filterMap id) names
  rwa [List.filterMap_map, List.filterMap_map] at filtered

/-- Every item that is left was cleared under a ledger of its own. -/
theorem cleared_of_mem (items : List Json) (ledger : Ledger) (ascending : ledger.Ascending) :
    ∀ item ∈ (unprojectContainers volume owned items ledger).1, ∃ old ∈ items,
      ∃ middle : Ledger, middle.Ascending ∧ item = clearedItem volume owned middle old := by
  induction items generalizing ledger with
  | nil => simp [unprojectContainers]
  | cons first rest ih =>
      rw [unprojectContainers_cons]
      intro item member
      rcases List.mem_cons.mp member with rfl | later
      · exact ⟨first, List.mem_cons_self, ledger, ascending, rfl⟩
      · obtain ⟨old, present, found⟩ :=
          ih _ (ascending_leftLedger volume owned first ledger ascending) item later
        exact ⟨old, List.mem_cons_of_mem _ present, found⟩

theorem ascending_unprojectContainers (items : List Json) (ledger : Ledger)
    (ascending : ledger.Ascending) :
    (unprojectContainers volume owned items ledger).2.Ascending := by
  induction items generalizing ledger with
  | nil => exact ascending
  | cons item rest ih =>
      rw [unprojectContainers_cons]
      exact ih _ (ascending_leftLedger volume owned item ledger ascending)

/-- Whatever one ledger notes, the other one notes too. -/
structure Ledger.Within (fewer ledger : Ledger) : Prop where
  created : ∀ marker ∈ fewer.created, marker ∈ ledger.created
  roots : ∀ name ∈ fewer.roots, name ∈ ledger.roots

theorem Ledger.Within.refl (ledger : Ledger) : ledger.Within ledger :=
  ⟨fun _ => id, fun _ => id⟩

theorem Ledger.Within.trans {first second third : Ledger} (left : first.Within second)
    (right : second.Within third) : first.Within third :=
  ⟨fun marker member => right.created marker (left.created marker member),
    fun name member => right.roots name (left.roots name member)⟩

theorem Ledger.within_of_empty (ledger : Ledger) : Ledger.Within {} ledger :=
  ⟨by simp, by simp⟩

theorem leftLedger_within (item : Json) (ledger : Ledger) (canonical : Json.Canonical item)
    (ascending : ledger.Ascending) : (leftLedger volume owned ledger item).Within ledger := by
  unfold leftLedger
  split
  · next container name named =>
    have ordered := ordered_of_named item container name canonical named
    constructor
    · intro marker member
      exact ((mem_created_unprojectContainer _ _ _ _ _ marker ordered ascending).mp member).1
    · intro other member
      exact ((mem_roots_unprojectContainer _ _ _ _ _ other ascending).mp member).1
  · exact .refl ledger

theorem unprojectContainers_within (items : List Json) (ledger : Ledger)
    (canonical : ∀ item ∈ items, Json.Canonical item) (ascending : ledger.Ascending) :
    (unprojectContainers volume owned items ledger).2.Within ledger := by
  induction items generalizing ledger with
  | nil => exact .refl ledger
  | cons item rest ih =>
      rw [unprojectContainers_cons]
      exact (ih _ (fun other member => canonical other (List.mem_cons_of_mem _ member))
        (ascending_leftLedger volume owned item ledger ascending)).trans
        (leftLedger_within volume owned item ledger (canonical item List.mem_cons_self) ascending)

/-- Markers of fields outside containers stay where they are. -/
theorem unprojectContainers_template (items : List Json) (ledger : Ledger) (marker : String)
    (canonical : ∀ item ∈ items, Json.Canonical item) (ascending : ledger.Ascending)
    (outside : marker ∈ templateMarkers) :
    marker ∈ (unprojectContainers volume owned items ledger).2.created ↔
      marker ∈ ledger.created := by
  induction items generalizing ledger with
  | nil => rfl
  | cons item rest ih =>
      rw [unprojectContainers_cons]
      refine (ih _ (fun other member => canonical other (List.mem_cons_of_mem _ member))
        (ascending_leftLedger volume owned item ledger ascending)).trans ?_
      unfold leftLedger
      split
      · next container name named =>
        rw [mem_created_unprojectContainer _ _ _ _ _ marker
          (ordered_of_named item container name (canonical item List.mem_cons_self) named) ascending]
        apply and_iff_left
        intro field known same
        exact absurd same.symm (containerMarker_ne_template field name marker known outside)
      · rfl

end Leaving

section Settling

variable (volume : String) (owned : OwnedEnv)

/-- Nothing is left to release in a container: what the ledger notes about it is in use. -/
def SettledItem (ledger : Ledger) (item : Json) : Prop :=
  ∀ container name, namedContainer? item = some (container, name) →
    (isBound container = false → name ∉ ledger.roots) ∧
      ∀ field ∈ containerFields, (Table.lookup field container).any isEmptyCollection = true →
        containerMarker field name ∉ ledger.created

def UnmountedItem (item : Json) : Prop :=
  ∀ container name, namedContainer? item = some (container, name) →
    some volume ∉ entryNames (itemsOf "volumeMounts" container)

theorem SettledItem.mono {fewer ledger : Ledger} {item : Json} (settled : SettledItem ledger item)
    (less : fewer.Within ledger) : SettledItem fewer item := by
  intro container name named
  obtain ⟨root, fields⟩ := settled container name named
  exact ⟨fun unbound member => root unbound (less.roots name member),
    fun field known empty member => fields field known empty (less.created _ member)⟩

theorem settledItem_empty (item : Json) : SettledItem {} item :=
  fun _ _ _ => ⟨fun _ => by simp, fun _ _ _ => by simp⟩

theorem filter_unmounted (entries : List Json) (absent : some volume ∉ entryNames entries) :
    (entries.filter fun entry => entryName entry ≠ some volume) = entries := by
  rw [List.filter_eq_self]
  intro entry member
  rw [decide_eq_true_iff]
  exact fun same => absent (List.mem_map.mpr ⟨entry, member, same⟩)

theorem unmounted_absent (container : Table Json) (ordered : Table.Ordered container)
    (absent : some volume ∉ entryNames (itemsOf "volumeMounts" container)) :
    unmounted volume container = container :=
  mapListField_self _ _ _ ordered (filter_unmounted volume _ absent)

/-- Leaving a container in which nothing is left to release changes nothing. -/
theorem unprojectContainer_settled (name : String) (container : Table Json) (ledger : Ledger)
    (ordered : Table.Ordered container) (ascending : ledger.Ascending)
    (absent : some volume ∉ entryNames (itemsOf "volumeMounts" container))
    (root : isBound container = false → name ∉ ledger.roots)
    (fields : ∀ field ∈ containerFields,
      (Table.lookup field container).any isEmptyCollection = true →
        containerMarker field name ∉ ledger.created) :
    unprojectContainer volume name [] container ledger = (container, ledger) := by
  have same := unmounted_absent volume container ordered absent
  have stays : leavesRoot volume name container ledger = false := by
    rw [leavesRoot, same]
    cases bound : isBound container with
    | true => rfl
    | false => simpa using root bound
  have cleared : clearedFields volume [] false container = container := by
    rw [clearedFields, same]
    apply mapListField_self _ _ _ ordered
    rw [List.filter_eq_self]
    simp [staysEntry]
  -- first the fields of the container, then the ledger
  apply Prod.ext
  · apply Table.ext _ _ (ordered_unprojectContainer _ _ _ _ _ ordered) ordered
    intro field
    rw [lookup_unprojectContainer _ _ _ _ _ _ ordered ascending, stays, cleared]
    split
    · next known => exact releasedValue_kept _ _ (fields field known)
    · rfl
  · apply Ledger.ext_mem _ _ (ascending_unprojectContainer _ _ _ _ _ ascending) ascending
    · intro marker
      rw [mem_created_unprojectContainer _ _ _ _ _ _ ordered ascending, stays, cleared]
      apply and_iff_left_of_imp
      rintro member field known rfl
      by_contra empty
      exact fields field known (by simpa using empty) member
    · intro other
      rw [mem_roots_unprojectContainer _ _ _ _ _ _ ascending, stays]
      simp

theorem unprojectContainers_settled (items : List Json) (ledger : Ledger)
    (canonical : ∀ item ∈ items, Json.Canonical item) (ascending : ledger.Ascending)
    (settled : ∀ item ∈ items, SettledItem ledger item)
    (absent : ∀ item ∈ items, UnmountedItem volume item) :
    unprojectContainers volume [] items ledger = (items, ledger) := by
  induction items with
  | nil => rfl
  | cons item rest ih =>
      have here : clearedItem volume [] ledger item = item ∧
          leftLedger volume [] ledger item = ledger := by
        cases named : namedContainer? item with
        | none => simp [clearedItem, leftLedger, named]
        | some pair =>
            obtain ⟨container, name⟩ := pair
            obtain ⟨root, fields⟩ := settled item List.mem_cons_self container name named
            have same := unprojectContainer_settled volume name container ledger
              (ordered_of_named item container name (canonical item List.mem_cons_self) named)
              ascending (absent item List.mem_cons_self container name named) root fields
            obtain ⟨rfl, -⟩ := (namedContainer_some item container name).mp named
            simp [clearedItem, leftLedger, named, namesIn, same]
      rw [unprojectContainers_cons, here.1, here.2, ih
        (fun other member => canonical other (List.mem_cons_of_mem _ member))
        (fun other member => settled other (List.mem_cons_of_mem _ member))
        (fun other member => absent other (List.mem_cons_of_mem _ member))]

theorem isBound_unprojectContainer (name : String) (names : NameSet) (container : Table Json)
    (ledger : Ledger) (ordered : Table.Ordered container) (ascending : ledger.Ascending) :
    isBound (unprojectContainer volume name names container ledger).1 =
      isBound (unmounted volume container) := by
  apply isBound_congr
  rw [itemsOf_mounts_unproject _ _ _ _ _ ordered ascending, unmounted,
    itemsOf_mapListField_same _ _ _ rfl]

/-- A container that was left is still known by the name that it had. -/
theorem named_of_cleared (item : Json) (ledger : Ledger) (canonical : Json.Canonical item)
    (ascending : ledger.Ascending) (after : Table Json) (name : String)
    (found : namedContainer? (clearedItem volume owned ledger item) = some (after, name)) :
    ∃ container, namedContainer? item = some (container, name) ∧ Table.Ordered container ∧
      after = (unprojectContainer volume name (namesIn owned name) container ledger).1 := by
  cases named : namedContainer? item with
  | none =>
      rw [clearedItem] at found
      simp [named] at found
  | some pair =>
      obtain ⟨container, known⟩ := pair
      have ordered := ordered_of_named item container known canonical named
      rw [namedContainer_clearedItem volume owned item container known ledger ordered ascending
        named, Option.some.injEq, Prod.mk.injEq] at found
      obtain ⟨rfl, rfl⟩ := found
      exact ⟨container, rfl, ordered, rfl⟩

/-- A container that was left is settled under the ledger that is left. -/
theorem settled_clearedItem (item : Json) (ledger : Ledger) (canonical : Json.Canonical item)
    (ascending : ledger.Ascending) :
    SettledItem (leftLedger volume owned ledger item) (clearedItem volume owned ledger item) := by
  intro after name found
  obtain ⟨container, named, ordered, rfl⟩ :=
    named_of_cleared volume owned item ledger canonical ascending after name found
  simp only [leftLedger, named]
  constructor
  · intro unbound member
    rw [isBound_unprojectContainer volume name _ container ledger ordered ascending] at unbound
    rw [mem_roots_unprojectContainer _ _ _ _ _ _ ascending] at member
    refine member.2 ⟨rfl, ?_⟩
    simp [leavesRoot, unbound, member.1]
  · intro field present empty member
    rw [mem_created_unprojectContainer _ _ _ _ _ _ ordered ascending] at member
    rw [lookup_unprojectContainer _ _ _ _ _ _ ordered ascending, if_pos present] at empty
    have full := member.2 field present rfl
    rw [releasedValue_kept _ _ (by simp [full])] at empty
    rw [full] at empty
    simp at empty

theorem unmounted_clearedItem (item : Json) (ledger : Ledger) (canonical : Json.Canonical item)
    (ascending : ledger.Ascending) : UnmountedItem volume (clearedItem volume owned ledger item) := by
  intro after name found
  obtain ⟨container, named, ordered, rfl⟩ :=
    named_of_cleared volume owned item ledger canonical ascending after name found
  intro member
  obtain ⟨mount, present, isVolume⟩ := List.mem_map.mp member
  rw [itemsOf_mounts_unproject _ _ _ _ _ ordered ascending] at present
  simpa [isVolume] using (List.mem_filter.mp present).2

theorem mem_unprojectContainers (items : List Json) (ledger : Ledger)
    (canonical : ∀ item ∈ items, Json.Canonical item) (ascending : ledger.Ascending) :
    ∀ item ∈ (unprojectContainers volume owned items ledger).1,
      Json.Canonical item ∧ UnmountedItem volume item ∧
        SettledItem (unprojectContainers volume owned items ledger).2 item := by
  induction items generalizing ledger with
  | nil => simp [unprojectContainers]
  | cons first rest ih =>
      have tail := fun other member => canonical other (List.mem_cons_of_mem first member)
      have left := ascending_leftLedger volume owned first ledger ascending
      rw [unprojectContainers_cons]
      intro item member
      -- the ledger only shrinks behind the first item, so that item stays settled
      rcases List.mem_cons.mp member with rfl | later
      · have head := canonical first List.mem_cons_self
        exact ⟨canonical_clearedItem volume owned first ledger head,
          unmounted_clearedItem volume owned first ledger head ascending,
          (settled_clearedItem volume owned first ledger head ascending).mono
            (unprojectContainers_within volume owned rest _ tail left)⟩
      · exact ih _ tail left item later

/-- A container defines none of the variables that a record lists for it. -/
def DisownedItem (item : Json) : Prop :=
  ∀ container name, namedContainer? item = some (container, name) →
    ∀ listed ∈ namesIn owned name, some listed ∉ entryNames (itemsOf "env" container)

theorem disowned_clearedItem (item : Json) (ledger : Ledger) (canonical : Json.Canonical item)
    (ascending : ledger.Ascending) : DisownedItem owned (clearedItem volume owned ledger item) := by
  intro after name found listed recorded member
  obtain ⟨container, named, ordered, rfl⟩ :=
    named_of_cleared volume owned item ledger canonical ascending after name found
  obtain ⟨entry, present, isListed⟩ := List.mem_map.mp member
  rw [itemsOf_env_unproject _ _ _ _ _ ordered ascending] at present
  have stays := (List.mem_filter.mp present).2
  simp [staysEntry, isListed, recorded] at stays

theorem disowned_unprojectContainers (items : List Json) (ledger : Ledger)
    (canonical : ∀ item ∈ items, Json.Canonical item) (ascending : ledger.Ascending) :
    ∀ item ∈ (unprojectContainers volume owned items ledger).1, DisownedItem owned item := by
  intro item member
  obtain ⟨old, present, middle, up, rfl⟩ :=
    cleared_of_mem volume owned items ledger ascending item member
  exact disowned_clearedItem volume owned old middle (canonical old present) up

/-- An item without a name is passed over. -/
theorem nameless_unprojectContainers (items : List Json) (ledger : Ledger)
    (canonical : ∀ item ∈ items, Json.Canonical item) (ascending : ledger.Ascending) :
    ∀ item ∈ (unprojectContainers volume owned items ledger).1, namedContainer? item = none →
      item ∈ items := by
  intro item member nameless
  obtain ⟨old, present, middle, up, rfl⟩ :=
    cleared_of_mem volume owned items ledger ascending item member
  have named := name_clearedItem volume owned old middle (canonical old present) up
  rw [nameless, Option.map_none, eq_comm, Option.map_eq_none_iff] at named
  simpa [clearedItem, named] using present

end Settling

end BindingOperator
