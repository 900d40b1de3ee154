import Mathlib.Data.List.Forall2
import BindingOperator.Proofs.Projection.Again
import BindingOperator.Proofs.Projection.Removal

/-!
Layers on a container. A holding says which bindings are projected and what they own. A
container is layered on its original when every list of it is the original list followed by
exactly the entries that the holding calls for. Joining and leaving change the holding and
keep the container layered; when nobody is left, the container is the original again.
-/

namespace BindingOperator

/-- Who is projected into a template, and which variables each binding owns where. -/
structure Holding where
  bound : String → Prop
  owned : String → String → NameSet

namespace Holding

variable (holding : Holding)

def Live : Prop := ∃ key, holding.bound key

def volumes (name : String) : Prop := ∃ key, holding.bound key ∧ name = volumeName key

/-- The variables that projection adds to a container: the root where it is missing, and
whatever a binding owns there. -/
def added (container : String) (original : Table Json) (name : String) : Prop :=
  (holding.Live ∧ name = rootVariable ∧
    some rootVariable ∉ entryNames (itemsOf "env" original)) ∨
  ∃ key, name ∈ holding.owned key container

/-- Only projected bindings own variables, each variable has one owner, and neither the
root nor a blank name is owned. -/
structure Sound : Prop where
  bound : ∀ key container name, name ∈ holding.owned key container → holding.bound key
  single : ∀ key other container name, name ∈ holding.owned key container →
    name ∈ holding.owned other container → key = other
  root : ∀ key container, rootVariable ∉ holding.owned key container
  nonblank : ∀ key container, "" ∉ holding.owned key container

def nothing : Holding := ⟨fun _ => False, fun _ _ => []⟩

def join (key : String) (owned : String → NameSet) : Holding where
  bound other := other = key ∨ holding.bound other
  owned other := if other = key then owned else holding.owned other

def leave (key : String) : Holding where
  bound other := other ≠ key ∧ holding.bound other
  owned other container := if other = key then [] else holding.owned other container

theorem sound_nothing : nothing.Sound :=
  ⟨by simp [nothing], by simp [nothing], by simp [nothing], by simp [nothing]⟩

theorem not_live_nothing : ¬ nothing.Live := fun ⟨_, bound⟩ => bound

theorem live_join (key : String) (owned : String → NameSet) : (holding.join key owned).Live :=
  ⟨key, .inl rfl⟩

variable {holding}

theorem mem_owned_join (key other : String) (owned : String → NameSet) (container name : String) :
    name ∈ (holding.join key owned).owned other container ↔
      (other = key ∧ name ∈ owned container) ∨
        (other ≠ key ∧ name ∈ holding.owned other container) := by
  by_cases same : other = key <;> simp [join, same]

theorem mem_owned_leave (key other : String) (container name : String) :
    name ∈ (holding.leave key).owned other container ↔
      other ≠ key ∧ name ∈ holding.owned other container := by
  by_cases same : other = key <;> simp [leave, same]

theorem Sound.leave (sound : holding.Sound) (key : String) : (holding.leave key).Sound where
  bound other container name member := by
    rw [mem_owned_leave] at member
    exact ⟨member.1, sound.bound other container name member.2⟩
  single first second container name left right := by
    rw [mem_owned_leave] at left right
    exact sound.single first second container name left.2 right.2
  root other container member := by
    rw [mem_owned_leave] at member
    exact sound.root other container member.2
  nonblank other container member := by
    rw [mem_owned_leave] at member
    exact sound.nonblank other container member.2

theorem Sound.join (sound : holding.Sound) (key : String) (owned : String → NameSet)
    (root : ∀ container, rootVariable ∉ owned container)
    (nonblank : ∀ container, "" ∉ owned container)
    (apart : ∀ other container name, other ≠ key → name ∈ owned container →
      name ∉ holding.owned other container) : (holding.join key owned).Sound where
  bound other container name member := by
    rcases (mem_owned_join key other owned container name).mp member with ⟨same, -⟩ | ⟨-, old⟩
    · exact .inl same
    · exact .inr (sound.bound other container name old)
  single first second container name left right := by
    rcases (mem_owned_join key first owned container name).mp left with ⟨rfl, new⟩ | ⟨one, old⟩
    · rcases (mem_owned_join first second owned container name).mp right with
        ⟨rfl, -⟩ | ⟨two, held⟩
      · rfl
      · exact absurd held (apart second container name two new)
    · rcases (mem_owned_join key second owned container name).mp right with ⟨rfl, new⟩ | ⟨-, held⟩
      · exact absurd old (apart first container name one new)
      · exact sound.single first second container name old held
  root other container member := by
    rcases (mem_owned_join key other owned container _).mp member with ⟨-, new⟩ | ⟨-, old⟩
    · exact root container new
    · exact sound.root other container old
  nonblank other container member := by
    rcases (mem_owned_join key other owned container _).mp member with ⟨-, new⟩ | ⟨-, old⟩
    · exact nonblank container new
    · exact sound.nonblank other container old

theorem live_of_leave (key : String) (live : (holding.leave key).Live) : holding.Live := by
  obtain ⟨other, -, bound⟩ := live
  exact ⟨other, bound⟩

/-- When the last binding leaves, whatever is still owned is its own. -/
theorem owner_of_last (sound : holding.Sound) (key other container name : String)
    (last : ¬ (holding.leave key).Live) (owned : name ∈ holding.owned other container) :
    other = key := by
  by_contra different
  exact last ⟨other, different, sound.bound other container name owned⟩

/-- What is added once a binding joins: the root where it is missing, what was added before
without what the binding owned, and what the binding owns now. -/
theorem added_join (sound : holding.Sound) (key : String) (owned : String → NameSet)
    (container : String) (original : Table Json) (name : String) :
    (holding.join key owned).added container original name ↔
      (((name = rootVariable ∧ some rootVariable ∉ entryNames (itemsOf "env" original)) ∨
        holding.added container original name) ∧ name ∉ holding.owned key container) ∨
      name ∈ owned container := by
  constructor
  · rintro (⟨-, rfl, missing⟩ | ⟨other, member⟩)
    · exact .inl ⟨.inl ⟨rfl, missing⟩, sound.root key container⟩
    · rcases (mem_owned_join _ _ _ _ _).mp member with ⟨-, new⟩ | ⟨different, held⟩
      · exact .inr new
      · refine .inl ⟨.inr (.inr ⟨other, held⟩), fun own => different ?_⟩
        exact sound.single other key container name held own
  · rintro (⟨⟨rfl, missing⟩ | ⟨-, rfl, missing⟩ | ⟨other, held⟩, before⟩ | new)
    · exact .inl ⟨holding.live_join _ _, rfl, missing⟩
    · exact .inl ⟨holding.live_join _ _, rfl, missing⟩
    · refine .inr ⟨other, (mem_owned_join _ _ _ _ _).mpr (.inr ⟨?_, held⟩)⟩
      rintro rfl
      exact before held
    · exact .inr ⟨key, (mem_owned_join _ _ _ _ _).mpr (.inl ⟨rfl, new⟩)⟩

end Holding

section Volumes

variable {holding : Holding} {extras : List Json} (extra : Extras holding.volumes extras)
  (key : String) (items : List Json) (absent : some (volumeName key) ∉ entryNames items)
include extra absent

/-- The volume or mount of a binding that joins is put behind the original entries. -/
theorem Extras.join (owned : String → NameSet) (entry : Json)
    (named : entryName entry = some (volumeName key)) :
    ∃ rest, putNamed entry (items ++ extras) = items ++ rest ∧
      Extras (holding.join key owned).volumes rest := by
  refine ⟨putNamed entry extras, putNamed_append entry items extras (by rwa [named]),
    (extra.put entry (volumeName key) named).congr ?_⟩
  intro name
  constructor
  · rintro (rfl | ⟨other, bound, rfl⟩)
    · exact ⟨key, .inl rfl, rfl⟩
    · exact ⟨other, .inr bound, rfl⟩
  · rintro ⟨other, rfl | bound, rfl⟩
    · exact .inl rfl
    · exact .inr ⟨other, bound, rfl⟩

/-- Only the volume or mount of a binding that leaves is taken away. -/
theorem Extras.leave :
    ∃ rest, (items ++ extras).filter (fun entry => entryName entry ≠ some (volumeName key)) =
        items ++ rest ∧ Extras (holding.leave key).volumes rest := by
  have judged := extra.filter (fun entry => decide (entryName entry ≠ some (volumeName key)))
    (fun other => other ≠ volumeName key) (fun entry _ other known => by simp [known])
  refine ⟨_, by rw [List.filter_append, filter_unmounted _ _ absent], judged.congr ?_⟩
  intro name
  constructor
  · rintro ⟨⟨other, bound, rfl⟩, different⟩
    exact ⟨other, ⟨fun same => different (congrArg volumeName same), bound⟩, rfl⟩
  · rintro ⟨other, ⟨different, bound⟩, rfl⟩
    exact ⟨⟨other, bound, rfl⟩, fun same => different ((volumeName_inj other key).mp same)⟩

end Volumes

/-- A list field that goes on where the original one ends. -/
def Continued (field : String) (belongs : String → Prop) (original current : Table Json) : Prop :=
  ∃ extras, itemsOf field current = itemsOf field original ++ extras ∧ Extras belongs extras

/-- A container with the entries of a holding behind its own. -/
structure LayeredContainer (holding : Holding) (name : String)
    (original current : Table Json) : Prop where
  others : ∀ field, field ∉ containerFields →
    Table.lookup field current = Table.lookup field original
  env : Continued "env" (holding.added name original) original current
  mounts : Continued "volumeMounts" holding.volumes original current
  full : holding.Live → ∀ field ∈ containerFields,
    Table.lookup field current = some (.array (itemsOf field current))
  foreign : ∀ key, ∀ owned ∈ holding.owned key name,
    some owned ∉ entryNames (itemsOf "env" original)

/-- No mount of a container is one of a binding. -/
def FreshContainer (container : Table Json) : Prop :=
  ∀ name, isVolumeName name = true → some name ∉ entryNames (itemsOf "volumeMounts" container)

namespace LayeredContainer

variable {holding : Holding} {name : String} {original current : Table Json}

theorem named (layered : LayeredContainer holding name original current) :
    containerName? current = containerName? original := by
  rw [containerName?, containerName?, layered.others "name" (by simp)]

theorem start (name : String) (container : Table Json) :
    LayeredContainer .nothing name container container where
  others _ _ := rfl
  env := ⟨[], by simp, .nil (by simp [Holding.added, Holding.nothing, Holding.Live])⟩
  mounts := ⟨[], by simp, .nil (by simp [Holding.volumes, Holding.nothing])⟩
  full live := absurd live Holding.not_live_nothing
  foreign := by simp [Holding.nothing]

section Joining

variable (imprint : Imprint)

/-- A variable that a binding comes to own was its own before, or nobody's. -/
theorem origin (layered : LayeredContainer holding name original current) (sound : holding.Sound)
    (owned : String) (member : owned ∈
      projectedNames imprint (holding.owned imprint.key name) current) :
    some owned ∉ entryNames (itemsOf "env" original) ∧
      ∀ other, other ≠ imprint.key → owned ∉ holding.owned other name := by
  obtain ⟨extras, env, extra⟩ := layered.env
  obtain ⟨more, same, grown⟩ := rooted_extras (itemsOf "env" original) extra
  rw [projectedNames, env, same] at member
  obtain ⟨-, -, -, free⟩ := projectEnv_extras imprint (holding.owned imprint.key name)
    (layered.foreign imprint.key) (sound.nonblank imprint.key name) grown
  obtain ⟨outside, before⟩ := free owned member
  refine ⟨outside, ?_⟩
  intro other different held
  rcases before with own | unheld
  · exact different (sound.single other imprint.key name owned held own)
  · exact unheld (.inr (.inr ⟨other, held⟩))

theorem join (layered : LayeredContainer holding name original current) (sound : holding.Sound)
    (fresh : FreshContainer original) (owned : String → NameSet)
    (counted : owned name = projectedNames imprint (holding.owned imprint.key name) current) :
    LayeredContainer (holding.join imprint.key owned) name original
      (projectedFields imprint (holding.owned imprint.key name) current) := by
  constructor
  · intro field known
    simp only [mem_containerFields, not_or] at known
    rw [lookup_projectedFields, if_neg known.2, if_neg known.1]
    exact layered.others field (by simp [known])
  · obtain ⟨extras, env, extra⟩ := layered.env
    obtain ⟨more, same, grown⟩ := rooted_extras (itemsOf "env" original) extra
    obtain ⟨final, result, written, -⟩ := projectEnv_extras imprint
      (holding.owned imprint.key name) (layered.foreign imprint.key)
      (sound.nonblank imprint.key name) grown
    refine ⟨final, ?_, written.congr fun other => ?_⟩
    · rw [itemsOf_env_projected, env, same]
      exact result
    · rw [Holding.added_join sound, counted, projectedNames, env, same]
  · obtain ⟨extras, mounts, extra⟩ := layered.mounts
    obtain ⟨rest, same, grown⟩ := extra.join imprint.key _
      (fresh _ (isVolumeName_volumeName imprint.key)) owned _ (entryName_mountEntry imprint _)
    exact ⟨rest, by rw [itemsOf_mounts_projected, mounts, same], grown⟩
  · intro _ field known
    obtain ⟨items, found⟩ := lists_projectedFields imprint _ current field known
    rw [itemsOf_array field _ items found]
    exact found
  · intro key other member
    rcases (Holding.mem_owned_join _ _ _ _ _).mp member with ⟨-, new⟩ | ⟨-, held⟩
    · rw [counted] at new
      exact (origin imprint layered sound other new).1
    · exact layered.foreign key other held

end Joining

section Leaving

variable (key : String)

/-- What the ledger notes about a container is what the original lacks. -/
structure Noted (ledger : Ledger) (name : String) (original : Table Json) : Prop where
  root : name ∈ ledger.roots ↔ some rootVariable ∉ entryNames (itemsOf "env" original)
  fields : ∀ field ∈ containerFields,
    containerMarker field name ∈ ledger.created ↔ Table.lookup field original = none

variable {ledger : Ledger}

theorem unmounted_extras (layered : LayeredContainer holding name original current)
    (fresh : FreshContainer original) :
    Continued "volumeMounts" (holding.leave key).volumes original
      (unmounted (volumeName key) current) := by
  obtain ⟨extras, mounts, extra⟩ := layered.mounts
  obtain ⟨rest, same, left⟩ := extra.leave key _ (fresh _ (isVolumeName_volumeName key))
  exact ⟨rest, by rw [unmounted, itemsOf_mapListField_same _ _ _ rfl, mounts, same], left⟩

/-- A container stays bound exactly while some other binding is projected. -/
theorem isBound_unmounted (layered : LayeredContainer holding name original current)
    (fresh : FreshContainer original) :
    isBound (unmounted (volumeName key) current) = true ↔ (holding.leave key).Live := by
  obtain ⟨extras, mounts, extra⟩ := layered.unmounted_extras key fresh
  rw [isBound_iff, mounts]
  constructor
  · rintro ⟨volume, isVolume, member⟩
    rw [entryNames_append, List.mem_append] at member
    rcases member with own | held
    · exact absurd own (fresh volume isVolume)
    · obtain ⟨holder, bound, -⟩ := (extra.complete volume).mp held
      exact ⟨holder, bound⟩
  · rintro ⟨holder, bound⟩
    refine ⟨volumeName holder, isVolumeName_volumeName holder, ?_⟩
    rw [entryNames_append, List.mem_append]
    exact .inr ((extra.complete _).mpr ⟨holder, bound, rfl⟩)

theorem leavesRoot_iff (layered : LayeredContainer holding name original current)
    (fresh : FreshContainer original) (noted : Noted ledger name original) :
    leavesRoot (volumeName key) name current ledger = true ↔
      ¬ (holding.leave key).Live ∧ some rootVariable ∉ entryNames (itemsOf "env" original) := by
  rw [leavesRoot, Bool.and_eq_true, List.contains_iff_mem, noted.root,
    ← layered.isBound_unmounted key fresh]
  simp

theorem env_extras (layered : LayeredContainer holding name original current)
    (sound : holding.Sound) (fresh : FreshContainer original)
    (noted : Noted ledger name original) :
    ∃ extras, (itemsOf "env" current).filter (staysEntry (holding.owned key name)
        (leavesRoot (volumeName key) name current ledger)) = itemsOf "env" original ++ extras ∧
      Extras ((holding.leave key).added name original) extras := by
  obtain ⟨extras, env, extra⟩ := layered.env
  have leaves := layered.leavesRoot_iff key fresh noted
  obtain ⟨rest, same, kept⟩ := filter_stays_extras (holding.owned key name)
    (leavesRoot (volumeName key) name current ledger) (layered.foreign key)
    (sound.nonblank key name) (fun goes => (leaves.mp goes).2) extra
  refine ⟨rest, by rw [env, same], kept.congr ?_⟩
  intro other
  rw [leaves]
  -- an extra stays if somebody else owns it, or if it is the root and somebody stays
  constructor
  · rintro ⟨(⟨-, rfl, missing⟩ | ⟨holder, held⟩), before, stays⟩
    · refine .inl ⟨?_, rfl, missing⟩
      by_contra last
      exact stays ⟨⟨last, missing⟩, rfl⟩
    · refine .inr ⟨holder, (Holding.mem_owned_leave _ _ _ _).mpr ⟨?_, held⟩⟩
      rintro rfl
      exact before held
  · rintro (⟨live, rfl, missing⟩ | ⟨holder, member⟩)
    · exact ⟨.inl ⟨Holding.live_of_leave key live, rfl, missing⟩, sound.root key name,
        fun both => both.1.1 live⟩
    · obtain ⟨different, held⟩ := (Holding.mem_owned_leave _ _ _ _).mp member
      refine ⟨.inr ⟨holder, held⟩, fun own => different ?_, ?_⟩
      · exact sound.single holder key name other held own
      · rintro ⟨⟨last, -⟩, rfl⟩
        exact sound.root holder name held

/-- The lists of a container that a binding leaves, when they are all there. -/
theorem lookup_left (layered : LayeredContainer holding name original current)
    (live : holding.Live) (field : String) (known : field ∈ containerFields) (owned : NameSet)
    (leaves : Bool) :
    Table.lookup field (clearedFields (volumeName key) owned leaves current) =
      some (.array (if field = "env" then (itemsOf "env" current).filter (staysEntry owned leaves)
        else itemsOf "volumeMounts" (unmounted (volumeName key) current))) := by
  have full := layered.full live field known
  simp only [mem_containerFields] at known
  rw [lookup_clearedFields, unmounted, itemsOf_mapListField_same _ _ _ rfl]
  rcases known with rfl | rfl
  · rw [if_pos rfl, if_pos rfl, full]
    rfl
  · have apart : ¬ "volumeMounts" = "env" := by decide
    simp only [apart, if_false, if_true, full]
    rfl

section Staying

variable (layered : LayeredContainer holding name original current) (sound : holding.Sound)
  (fresh : FreshContainer original) (noted : Noted ledger name original)
  (live : (holding.leave key).Live)
include layered fresh noted live

theorem root_stays : leavesRoot (volumeName key) name current ledger = false := by
  rw [Bool.eq_false_iff]
  exact fun leaves => ((layered.leavesRoot_iff key fresh noted).mp leaves).1 live

include sound

/-- Whoever stays has a variable and a mount in the container, so that no list is emptied. -/
theorem full_left (field : String) (known : field ∈ containerFields) :
    (Table.lookup field (clearedFields (volumeName key) (holding.owned key name) false
      current)).any isEmptyCollection = false := by
  rw [layered.lookup_left key (Holding.live_of_leave key live) field known]
  split
  · obtain ⟨rest, env, extra⟩ := layered.env_extras key sound fresh noted
    rw [layered.root_stays key fresh noted live] at env
    have full : itemsOf "env" original ++ rest ≠ [] := by
      intro empty
      obtain ⟨none, nothing⟩ := List.append_eq_nil_iff.mp empty
      refine extra.ne_nil rootVariable (.inl ⟨live, rfl, ?_⟩) nothing
      simp [none, entryNames]
    simpa [isEmptyCollection, env] using full
  · obtain ⟨rest, mounts, extra⟩ := layered.unmounted_extras key fresh
    have full : itemsOf "volumeMounts" original ++ rest ≠ [] := by
      obtain ⟨other, bound⟩ := live
      intro empty
      exact extra.ne_nil (volumeName other) ⟨other, bound, rfl⟩
        (List.append_eq_nil_iff.mp empty).2
    simpa [isEmptyCollection, mounts] using full

theorem lookup_staying (ordered : Table.Ordered current) (ascending : ledger.Ascending)
    (field : String) (known : field ∈ containerFields) :
    Table.lookup field
        (unprojectContainer (volumeName key) name (holding.owned key name) current ledger).1 =
      Table.lookup field (clearedFields (volumeName key) (holding.owned key name) false
        current) := by
  rw [lookup_unprojectContainer _ _ _ _ _ _ ordered ascending, if_pos known,
    layered.root_stays key fresh noted live]
  apply releasedValue_kept
  intro empty
  simp [layered.full_left key sound fresh noted live field known] at empty

end Staying

/-- While others are projected, leaving a container takes the binding's own entries out of
it and nothing else; the ledger is still in use. -/
theorem leave (layered : LayeredContainer holding name original current)
    (sound : holding.Sound) (fresh : FreshContainer original)
    (noted : Noted ledger name original) (ordered : Table.Ordered current)
    (ascending : ledger.Ascending) (live : (holding.leave key).Live) :
    LayeredContainer (holding.leave key) name original
        (unprojectContainer (volumeName key) name (holding.owned key name) current ledger).1 ∧
      (unprojectContainer (volumeName key) name (holding.owned key name) current ledger).2 =
        ledger := by
  have stays := layered.root_stays key fresh noted live
  have full := layered.full_left key sound fresh noted live
  constructor
  · constructor
    · intro field known
      rw [lookup_unprojectContainer _ _ _ _ _ _ ordered ascending, if_neg known]
      exact layered.others field known
    · obtain ⟨rest, env, extra⟩ := layered.env_extras key sound fresh noted
      refine ⟨rest, ?_, extra⟩
      rw [itemsOf_env_unproject _ _ _ _ _ ordered ascending]
      exact env
    · obtain ⟨rest, mounts, extra⟩ := layered.unmounted_extras key fresh
      refine ⟨rest, ?_, extra⟩
      rw [itemsOf_mounts_unproject _ _ _ _ _ ordered ascending]
      rw [unmounted, itemsOf_mapListField_same _ _ _ rfl] at mounts
      exact mounts
    · intro _ field known
      have present := (layered.lookup_staying key sound fresh noted live ordered ascending field
        known).trans (layered.lookup_left key (Holding.live_of_leave key live) field known
          (holding.owned key name) false)
      rw [itemsOf_array field _ _ present]
      exact present
    · intro other owned member
      exact layered.foreign other owned ((Holding.mem_owned_leave _ _ _ _).mp member).2
  · apply Ledger.ext_mem _ _ (ascending_unprojectContainer _ _ _ _ _ ascending) ascending
    · intro marker
      rw [mem_created_unprojectContainer _ _ _ _ _ _ ordered ascending, stays]
      exact and_iff_left fun field known _ => full field known
    · intro other
      rw [mem_roots_unprojectContainer _ _ _ _ _ _ ascending, stays]
      simp

theorem leave_last (layered : LayeredContainer holding name original current)
    (sound : holding.Sound) (fresh : FreshContainer original)
    (noted : Noted ledger name original) (ordered : Table.Ordered current)
    (originalOrdered : Table.Ordered original) (ascending : ledger.Ascending)
    (listed : ∀ field ∈ containerFields, Listed field original)
    (live : holding.Live) (last : ¬ (holding.leave key).Live) :
    (unprojectContainer (volumeName key) name (holding.owned key name) current ledger).1 =
      original := by
  obtain ⟨restEnv, env, envExtra⟩ := layered.env_extras key sound fresh noted
  obtain ⟨restMounts, mounts, mountsExtra⟩ := layered.unmounted_extras key fresh
  -- whatever is still owned belongs to the last one, and the root goes with it
  have noEnv : restEnv = [] := by
    apply envExtra.eq_nil
    rintro other (⟨now, -⟩ | ⟨holder, member⟩)
    · exact last now
    · obtain ⟨different, held⟩ := (Holding.mem_owned_leave _ _ _ _).mp member
      exact different (Holding.owner_of_last sound key holder name other last held)
  have noMounts : restMounts = [] := by
    apply mountsExtra.eq_nil
    rintro other ⟨holder, bound, -⟩
    exact last ⟨holder, bound⟩
  rw [noEnv, List.append_nil] at env
  rw [noMounts, List.append_nil] at mounts
  apply Table.ext _ _ (ordered_unprojectContainer _ _ _ _ _ ordered) originalOrdered
  intro field
  rw [lookup_unprojectContainer _ _ _ _ _ _ ordered ascending]
  split
  · next known =>
    rw [layered.lookup_left key live field known]
    have back : (if field = "env" then (itemsOf "env" current).filter (staysEntry
        (holding.owned key name) (leavesRoot (volumeName key) name current ledger))
        else itemsOf "volumeMounts" (unmounted (volumeName key) current)) =
        itemsOf field original := by
      split
      · next same => rw [env, same]
      · next different =>
        simp only [mem_containerFields] at known
        rw [mounts, known.resolve_left different]
    rw [back]
    exact released_items field original _ (listed field known) (noted.fields field known)
  · next unknown => exact layered.others field unknown

end Leaving

end LayeredContainer

end BindingOperator
