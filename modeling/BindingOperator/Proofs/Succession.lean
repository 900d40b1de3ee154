import BindingOperator.Proofs.Admission
import BindingOperator.Proofs.InPlace

/-!
Bindings that are projected one after the other into a workload in which earlier projections
left something. A variable is there in the end if some of them writes it, or it was there, and
no owner gives it up without one after it that writes it. A binding that had its turn finds a
variable missing exactly when an owner behind it gave up that variable.
-/

namespace BindingOperator

section Shapes

variable {field : String} {parent changed : Table Json} {created : Prop} [Decidable created]

theorem listed_released (change : List Json → List Json) (listed : Listed field parent)
    (found : Table.lookup field changed =
      releasedValue ((Table.lookup field parent).map (changeItems change)) created) :
    Listed field changed := by
  rcases listed with absent | present
  · left
    simp [found, absent, releasedValue]
  · rw [present, Option.map_some, changeItems, releasedValue] at found
    split at found
    · exact .inl found
    · exact listed_of_array field changed _ found

theorem tabled_released (change : Table Json → Table Json) (tabled : Tabled field parent)
    (found : Table.lookup field changed =
      releasedValue ((Table.lookup field parent).map (changeFields change)) created) :
    Tabled field changed := by
  rcases tabled with absent | present
  · left
    simp [found, absent, releasedValue]
  · rw [present, Option.map_some, changeFields, releasedValue] at found
    split at found
    · exact .inl found
    · right
      rw [fieldsOf_object field changed _ found]
      exact found

theorem projectable_clearedItem (volume : String) (owned : OwnedEnv) (item : Json)
    (ledger : Ledger) (canonical : Json.Canonical item) (ascending : ledger.Ascending)
    (projectable : Projectable item) : Projectable (clearedItem volume owned ledger item) := by
  obtain ⟨fields, name, named, listed⟩ := projectable
  have ordered := ordered_of_named item fields name canonical named
  refine ⟨_, name, namedContainer_clearedItem volume owned item fields name ledger ordered
    ascending named, fun field known => ?_⟩
  have found := lookup_unprojectContainer volume (namesIn owned name) name fields ledger field
    ordered ascending
  rw [if_pos known, lookup_clearedFields] at found
  simp only [mem_containerFields] at known
  rcases known with rfl | rfl
  · exact listed_released _ (listed "env" (by simp)) (by simpa using found)
  · exact listed_released _ (listed "volumeMounts" (by simp))
      (by simpa using found)

/-- Removal keeps a template in the shape that projection needs. -/
theorem shaped_unprojectTemplate (key : String) {template : Table Json}
    (canonical : Json.Canonical (.object template)) (shaped : Shaped template) :
    Shaped (unprojectTemplate key template) := by
  have spec := canonical_fieldsOf "spec" template canonical
  have ordered := Json.canonical_ordered _ spec
  have metadata := Json.canonical_ordered _ (canonical_fieldsOf "metadata" template canonical)
  constructor
  · rw [spec_unprojectTemplate key template canonical,
      lookup_unprojectTemplate key template "spec" canonical, if_neg (by decide), if_pos rfl,
      shaped.spec]
    rfl
  · rw [spec_unprojectTemplate key template canonical]
    exact listed_released _ shaped.volumes (lookup_volumes_unprojectSpec _ _ _ _ ordered)
  · intro item member
    obtain ⟨old, present, middle, ascending, rfl⟩ :=
      cleared_of_unprojectTemplate key template canonical item member
    exact projectable_clearedItem _ _ old middle (canonical_containersOf _ spec old present)
      ascending (shaped.containers old present)
  · have found := lookup_unprojectTemplate key template "metadata" canonical
    rw [if_pos rfl] at found
    exact tabled_released _ shaped.metadata found
  · have found := lookup_leftMetadata key template _ "annotations" metadata
    rw [if_pos rfl, ← metadata_unprojectTemplate key template canonical] at found
    exact tabled_released _ shaped.annotations found

end Shapes

namespace Binding

/-- The binding has a Secret and maps the variable. -/
def Writes (binding : Binding) (name : String) : Prop :=
  binding.secretName.isSome = true ∧ ∃ mapping ∈ binding.spec.env, mapping.name = name

/-- What a template becomes when the binding is projected into it. -/
def settle (binding : Binding) (template : Table Json) : Table Json :=
  match binding.imprint? with
  | some imprint => projectedTemplate imprint template
  | none => unprojectTemplate binding.key template

variable (binding : Binding) (template : Table Json)

/-- A binding either writes what its imprint maps, or it is taken out. -/
theorem settle_cases :
    (∃ imprint, binding.imprint? = some imprint ∧ imprint.key = binding.key ∧
      imprint.env = binding.spec.env ∧ (∀ name, binding.Writes name ↔ Mapped imprint name) ∧
      ∀ template, binding.settle template = projectedTemplate imprint template) ∨
    (binding.imprint? = none ∧ (∀ name, ¬ binding.Writes name) ∧
      ∀ template, binding.settle template = unprojectTemplate binding.key template) := by
  cases known : binding.imprint? with
  | none =>
      have secret : binding.secretName = none := by simpa [imprint?] using known
      exact .inr ⟨rfl, fun name => by simp [Writes, secret], fun template => by
        rw [settle, known]⟩
  | some imprint =>
      obtain ⟨sameKey, sameEnv, secret⟩ := imprint_fields binding imprint known
      refine .inl ⟨imprint, rfl, sameKey, sameEnv, fun name => ?_, fun template => by
        rw [settle, known]⟩
      simp [Writes, secret, Mapped, sameEnv]

end Binding

section Steps

variable {template : Table Json} (binding : Binding)

theorem parted_settle (parted : PartedTemplate template) :
    PartedTemplate (binding.settle template) := by
  obtain ⟨imprint, -, -, -, -, same⟩ | ⟨-, -, same⟩ := binding.settle_cases
  · rw [same]
    exact parted.project imprint
  · rw [same]
    exact parted.unproject binding.key

theorem canonical_settle (canonical : Json.Canonical (.object template)) :
    Json.Canonical (.object (binding.settle template)) := by
  obtain ⟨imprint, -, -, -, -, same⟩ | ⟨-, -, same⟩ := binding.settle_cases
  · rw [same]
    exact canonical_projectedTemplate imprint template canonical
  · rw [same]
    exact canonical_unprojectTemplate binding.key template canonical

theorem shaped_settle (canonical : Json.Canonical (.object template)) (shaped : Shaped template) :
    Shaped (binding.settle template) := by
  obtain ⟨imprint, -, -, -, -, same⟩ | ⟨-, -, same⟩ := binding.settle_cases
  · rw [same]
    exact shaped_projectedTemplate imprint template shaped
  · rw [same]
    exact shaped_unprojectTemplate binding.key canonical shaped

theorem ownedEnvOf_settle (canonical : Json.Canonical (.object template)) (key : String)
    (different : key ≠ binding.key) :
    ownedEnvOf key (annotationsIn (binding.settle template)) =
      ownedEnvOf key (annotationsIn template) := by
  obtain ⟨imprint, -, sameKey, -, -, same⟩ | ⟨-, -, same⟩ := binding.settle_cases
  · rw [same, ownedEnvOf_projected imprint template canonical, sameKey, if_neg different]
  · rw [same, ownedEnvOf_unprojectTemplate binding.key template key canonical, if_neg different]

theorem containerNames_settle (canonical : Json.Canonical (.object template)) :
    containerNames (containersOf (fieldsOf "spec" (binding.settle template))) =
      containerNames (containersOf (fieldsOf "spec" template)) := by
  obtain ⟨imprint, -, -, -, -, same⟩ | ⟨-, -, same⟩ := binding.settle_cases
  · rw [same, containerNames_projectedTemplate]
  · rw [same, containerNames_unprojectTemplate binding.key template canonical]

/-- One step: a variable is written, or it was there and was not the binding's to give up. -/
theorem defines_settle (parted : PartedTemplate template) {container name : String}
    (other : name ≠ rootVariable)
    (listed : container ∈ containerNames (containersOf (fieldsOf "spec" template))) :
    Defines (binding.settle template) container name ↔
      binding.Writes name ∨ (Defines template container name ∧
        name ∉ namesIn (ownedEnvOf binding.key (annotationsIn template)) container) := by
  obtain ⟨imprint, -, sameKey, -, writes, same⟩ | ⟨-, writes, same⟩ := binding.settle_cases
  · rw [same, defines_projected imprint other listed, sameKey, writes]
  · rw [same, defines_unprojected parted.shared.tidy binding.key other]
    simp [writes]

/-- What a binding owns after its turn it writes itself. -/
def OwnsWritten (template : Table Json) : Prop :=
  ∀ container, ∀ name ∈ namesIn (ownedEnvOf binding.key (annotationsIn template)) container,
    binding.Writes name

theorem ownsWritten_settle (parted : PartedTemplate template) :
    OwnsWritten binding (binding.settle template) := by
  have canonical := parted.shared.tidy.canonical
  intro container name member
  obtain ⟨imprint, -, sameKey, -, writes, same⟩ | ⟨-, -, same⟩ := binding.settle_cases
  · rw [same, ← sameKey] at member
    exact (writes name).mpr (parted.shared.tidy.mapped_of_recorded imprint member).1
  · rw [same, ownedEnvOf_unprojectTemplate binding.key template binding.key canonical,
      if_pos rfl] at member
    exact absurd member List.not_mem_nil

theorem InPlace.settle {imprint : Imprint} (placed : InPlace imprint template)
    (different : binding.key ≠ imprint.key) : InPlace imprint (binding.settle template) := by
  obtain ⟨other, -, sameKey, -, -, same⟩ | ⟨-, -, same⟩ := binding.settle_cases
  · rw [same]
    exact placed.project other (sameKey ▸ different)
  · rw [same]
    exact placed.unproject binding.key different

theorem bound_settle (canonical : Json.Canonical (.object template)) (key : String)
    (different : binding.key ≠ key) :
    Bound key (binding.settle template) ↔ Bound key template := by
  obtain ⟨imprint, -, sameKey, -, -, same⟩ | ⟨-, -, same⟩ := binding.settle_cases
  · rw [same, SharedTemplate.bound_projected imprint canonical, sameKey]
    simp [different.symm]
  · rw [same, SharedTemplate.bound_unprojected binding.key canonical]
    simp [different.symm]

end Steps

/-- A template after the bindings had their turns, in this order. -/
def settleEach (order : List Binding) (template : Table Json) : Table Json :=
  order.foldl (fun current binding => binding.settle current) template

section Runs

/-- What a step keeps of a template that histories bring about is kept by a whole run. -/
theorem settleEach_keeps (holds : Table Json → Prop) (order : List Binding)
    (step : ∀ binding ∈ order, ∀ template, PartedTemplate template → holds template →
      holds (binding.settle template))
    (template : Table Json) (parted : PartedTemplate template) (start : holds template) :
    holds (settleEach order template) := by
  induction order generalizing template with
  | nil => exact start
  | cons binding rest ih =>
      exact ih (fun next member => step next (List.mem_cons_of_mem binding member)) _
        (parted_settle binding parted) (step binding List.mem_cons_self template parted start)

/-- What a binding brings about, and the others keep, holds once everybody had a turn. -/
theorem settleEach_own (holds : Table Json → Prop) (binding : Binding)
    (own : ∀ template, PartedTemplate template → holds (binding.settle template))
    (others : ∀ other : Binding, other.key ≠ binding.key → ∀ template, PartedTemplate template →
      holds template → holds (other.settle template))
    (order : List Binding) (keys : (order.map Binding.key).Nodup) (member : binding ∈ order)
    (template : Table Json) (parted : PartedTemplate template) :
    holds (settleEach order template) := by
  induction order generalizing template with
  | nil => exact absurd member List.not_mem_nil
  | cons first rest ih =>
      obtain ⟨apart, distinct⟩ := List.nodup_cons.mp keys
      rcases List.mem_cons.mp member with rfl | later
      · refine settleEach_keeps holds rest ?_ _ (parted_settle binding parted) (own template parted)
        intro other present current inner before
        refine others other ?_ current inner before
        exact fun same => apart (same ▸ List.mem_map_of_mem present)
      · exact ih distinct later _ (parted_settle first parted)

variable {template : Table Json}

theorem parted_settleEach (order : List Binding) (parted : PartedTemplate template) :
    PartedTemplate (settleEach order template) :=
  settleEach_keeps PartedTemplate order (fun binding _ _ parted _ => parted_settle binding parted)
    template parted parted

theorem shaped_settleEach (order : List Binding) (canonical : Json.Canonical (.object template))
    (shaped : Shaped template) : Shaped (settleEach order template) := by
  induction order generalizing template with
  | nil => exact shaped
  | cons first rest ih =>
      exact ih (canonical_settle first canonical) (shaped_settle first canonical shaped)

theorem containerNames_settleEach (order : List Binding) (parted : PartedTemplate template) :
    containerNames (containersOf (fieldsOf "spec" (settleEach order template))) =
      containerNames (containersOf (fieldsOf "spec" template)) :=
  settleEach_keeps (fun current => containerNames (containersOf (fieldsOf "spec" current)) =
    containerNames (containersOf (fieldsOf "spec" template))) order
    (fun binding _ _ parted same =>
      (containerNames_settle binding parted.shared.tidy.canonical).trans same) template parted rfl

theorem ownsWritten_settleEach {binding : Binding} {order : List Binding}
    (keys : (order.map Binding.key).Nodup) (member : binding ∈ order)
    (parted : PartedTemplate template) : OwnsWritten binding (settleEach order template) := by
  refine settleEach_own (OwnsWritten binding) binding (fun _ => ownsWritten_settle binding) ?_
    order keys member template parted
  intro other different current inner before container name owned
  rw [ownedEnvOf_settle other inner.shared.tidy.canonical _ different.symm] at owned
  exact before container name owned

/-- An owner that does not write a variable any more gives it up, and no one after it has it. -/
def GivenUp (order : List Binding) (template : Table Json) (container name : String) : Prop :=
  ∃ before owner after, order = before ++ owner :: after ∧
    name ∈ namesIn (ownedEnvOf owner.key (annotationsIn template)) container ∧
    ¬ owner.Writes name ∧ ∀ later ∈ after, ¬ later.Writes name

theorem givenUp_cons (first : Binding) (rest : List Binding) (template : Table Json)
    (container name : String) :
    GivenUp (first :: rest) template container name ↔
      (name ∈ namesIn (ownedEnvOf first.key (annotationsIn template)) container ∧
        ¬ first.Writes name ∧ ∀ later ∈ rest, ¬ later.Writes name) ∨
      GivenUp rest template container name := by
  constructor
  · rintro ⟨before, owner, after, same, owned⟩
    cases before with
    | nil =>
        obtain ⟨rfl, rfl⟩ := List.cons.inj same
        exact .inl owned
    | cons head before =>
        obtain ⟨rfl, rfl⟩ := List.cons.inj same
        exact .inr ⟨before, owner, after, rfl, owned⟩
  · rintro (owned | ⟨before, owner, after, rfl, owned⟩)
    · exact ⟨[], first, rest, rfl, owned⟩
    · exact ⟨first :: before, owner, after, rfl, owned⟩

/-- Only the records of the owners count. -/
theorem givenUp_congr (order : List Binding) (template changed : Table Json)
    (container name : String)
    (same : ∀ owner ∈ order, ownedEnvOf owner.key (annotationsIn changed) =
      ownedEnvOf owner.key (annotationsIn template)) :
    GivenUp order changed container name ↔ GivenUp order template container name := by
  constructor
  · rintro ⟨before, owner, after, rfl, owned⟩
    rw [same owner (by simp)] at owned
    exact ⟨before, owner, after, rfl, owned⟩
  · rintro ⟨before, owner, after, rfl, owned⟩
    rw [← same owner (by simp)] at owned
    exact ⟨before, owner, after, rfl, owned⟩

/-- A whole run: a variable that somebody writes, or that was there, is there in the end
unless it was given up. -/
theorem defines_settleEach (order : List Binding) (keys : (order.map Binding.key).Nodup)
    (parted : PartedTemplate template) {container name : String} (other : name ≠ rootVariable)
    (listed : container ∈ containerNames (containersOf (fieldsOf "spec" template))) :
    Defines (settleEach order template) container name ↔
      ((∃ binding ∈ order, binding.Writes name) ∨ Defines template container name) ∧
        ¬ GivenUp order template container name := by
  induction order generalizing template with
  | nil => simp [settleEach, GivenUp]
  | cons first rest ih =>
      obtain ⟨apart, distinct⟩ := List.nodup_cons.mp keys
      have canonical := parted.shared.tidy.canonical
      have records : ∀ owner ∈ rest, ownedEnvOf owner.key (annotationsIn (first.settle template)) =
          ownedEnvOf owner.key (annotationsIn template) := fun owner member =>
        ownedEnvOf_settle first canonical owner.key fun same =>
          apart (same ▸ List.mem_map_of_mem member)
      have tail := ih distinct (parted_settle first parted)
        (by rwa [containerNames_settle first canonical])
      rw [givenUp_congr rest template _ container name records,
        defines_settle first parted other listed] at tail
      rw [settleEach, List.foldl_cons, ← settleEach, tail, givenUp_cons, List.exists_mem_cons_iff]
      -- what is left is about who writes the name: this binding, one of the rest, or nobody
      by_cases later : ∃ binding ∈ rest, binding.Writes name
      · have someone : ¬ ∀ binding ∈ rest, ¬ binding.Writes name := by simpa using later
        simp [later, someone]
      · by_cases writes : first.Writes name
        · simp [writes]
        · simp [later, writes, and_assoc]

theorem defines_root (shared : SharedTemplate template) {key container : String}
    (bound : Bound key template)
    (listed : container ∈ containerNames (containersOf (fieldsOf "spec" template))) :
    Defines template container rootVariable := by
  obtain ⟨item, member, fields, named⟩ := (mem_containerNames _ container).mp listed
  exact ⟨item, member, fields, named,
    (shared.containers item member).root fields container named key bound⟩

/-- In the end the bindings with a Secret are there, and those without are not. -/
theorem bound_settleEach {binding : Binding} {order : List Binding}
    (keys : (order.map Binding.key).Nodup) (member : binding ∈ order)
    (parted : PartedTemplate template) :
    Bound binding.key (settleEach order template) ↔ binding.imprint?.isSome = true := by
  refine settleEach_own (fun current => Bound binding.key current ↔ _) binding
    (fun current inner => ?_) ?_ order keys member template parted
  · have canonical := inner.shared.tidy.canonical
    obtain ⟨imprint, known, sameKey, -, -, same⟩ | ⟨unknown, -, same⟩ := binding.settle_cases
    · rw [same, SharedTemplate.bound_projected imprint canonical, sameKey, known]
      simp
    · rw [same, SharedTemplate.bound_unprojected binding.key canonical, unknown]
      simp
  · intro other different current inner before
    rwa [bound_settle other inner.shared.tidy.canonical binding.key different]

/-- After its turn, and those of the others, a binding finds nothing to do exactly when every
variable that it writes is there. -/
theorem settle_rests_iff {binding : Binding} {order : List Binding}
    (keys : (order.map Binding.key).Nodup) (member : binding ∈ order)
    (once : (binding.spec.env.map EnvMapping.name).Nodup) (parted : PartedTemplate template) :
    binding.settle (settleEach order template) = settleEach order template ↔
      ∀ container ∈ containerNames (containersOf (fieldsOf "spec" template)),
        ∀ name, binding.Writes name → Defines (settleEach order template) container name := by
  obtain ⟨imprint, -, sameKey, sameEnv, writes, same⟩ | ⟨unknown, writes, same⟩ :=
    binding.settle_cases
  · have placed : InPlace imprint (settleEach order template) := by
      refine settleEach_own (InPlace imprint) binding (fun current inner => ?_) ?_ order keys member
        template parted
      · rw [same]
        exact inPlace_projected inner
      · exact fun other different _ _ placed => placed.settle other (sameKey ▸ different)
    rw [same, placed.rests_iff (sameEnv ▸ once), containerNames_settleEach order parted]
    simp only [writes]
  · have absent : ¬ Bound binding.key (settleEach order template) := by
      rw [bound_settleEach keys member parted, unknown]
      simp
    have settled := (parted_settleEach order parted).shared.unproject_absent binding.key absent
    rw [same, settled]
    exact iff_of_true rfl fun _ _ name writing => absurd writing (writes name)

/-- A variable that one of the bindings writes is given up after that binding had its turn. -/
def Unsettled (order : List Binding) (template : Table Json) : Prop :=
  ∃ container ∈ containerNames (containersOf (fieldsOf "spec" template)), ∃ name,
    GivenUp order template container name ∧ ∃ binding ∈ order, binding.Writes name

theorem ne_root_of_givenUp (tidy : TidyTemplate template) {order : List Binding}
    {container name : String} (given : GivenUp order template container name) :
    name ≠ rootVariable := by
  obtain ⟨-, owner, -, -, owned, -⟩ := given
  rintro rfl
  exact tidy.unowned owner.key container owned

/-- The bindings find nothing to do after a run exactly when nothing was given up in it that
one of them wants. -/
theorem settled_iff (order : List Binding) (keys : (order.map Binding.key).Nodup)
    (once : ∀ binding ∈ order, (binding.spec.env.map EnvMapping.name).Nodup)
    (parted : PartedTemplate template) :
    (∀ binding ∈ order, binding.settle (settleEach order template) = settleEach order template) ↔
      ¬ Unsettled order template := by
  constructor
  · rintro rests ⟨container, listed, name, given, binding, member, writes⟩
    have defined := (settle_rests_iff keys member (once binding member) parted).mp
      (rests binding member) container listed name writes
    exact ((defines_settleEach order keys parted (ne_root_of_givenUp parted.shared.tidy given)
      listed).mp defined).2 given
  · intro kept binding member
    rw [settle_rests_iff keys member (once binding member) parted]
    intro container listed name writes
    by_cases root : name = rootVariable
    · have bound := (bound_settleEach keys member parted).mpr
        (by simpa [Binding.imprint?] using writes.1)
      rw [root]
      exact defines_root (parted_settleEach order parted).shared bound
        (by rwa [containerNames_settleEach order parted])
    · rw [defines_settleEach order keys parted root listed]
      exact ⟨.inl ⟨binding, member, writes⟩,
        fun given => kept ⟨container, listed, name, given, binding, member, writes⟩⟩

theorem settleEach_self (order : List Binding)
    (rests : ∀ binding ∈ order, binding.settle template = template) :
    settleEach order template = template := by
  induction order with
  | nil => rfl
  | cons first rest ih =>
      rw [settleEach, List.foldl_cons, rests first List.mem_cons_self]
      exact ih fun binding member => rests binding (List.mem_cons_of_mem first member)

/-- The second time every owner writes what it owns. -/
theorem not_givenUp_settleEach {order : List Binding} (keys : (order.map Binding.key).Nodup)
    (parted : PartedTemplate template) (container name : String) :
    ¬ GivenUp order (settleEach order template) container name := by
  rintro ⟨before, owner, after, rfl, owned, silent, -⟩
  exact silent (ownsWritten_settleEach keys (by simp) parted container name owned)

/-- A second run changes something exactly when the first one gave up too much. -/
theorem settleEach_again_iff (order : List Binding) (keys : (order.map Binding.key).Nodup)
    (once : ∀ binding ∈ order, (binding.spec.env.map EnvMapping.name).Nodup)
    (parted : PartedTemplate template) :
    settleEach order (settleEach order template) = settleEach order template ↔
      ¬ Unsettled order template := by
  constructor
  · rintro same ⟨container, listed, name, given, wanted⟩
    have other := ne_root_of_givenUp parted.shared.tidy given
    have after := parted_settleEach order parted
    have defined : Defines (settleEach order (settleEach order template)) container name := by
      rw [defines_settleEach order keys after other
        (by rwa [containerNames_settleEach order parted])]
      exact ⟨.inl wanted, not_givenUp_settleEach keys parted container name⟩
    rw [same, defines_settleEach order keys parted other listed] at defined
    exact defined.2 given
  · intro kept
    exact settleEach_self order ((settled_iff order keys once parted).mpr kept)

/-- However much the first run gave up, the second one is the last that changes anything. -/
theorem settled_twice (order : List Binding) (keys : (order.map Binding.key).Nodup)
    (parted : PartedTemplate template) : ¬ Unsettled order (settleEach order template) := by
  rintro ⟨container, -, name, given, -⟩
  exact not_givenUp_settleEach keys parted container name given

end Runs

end BindingOperator
