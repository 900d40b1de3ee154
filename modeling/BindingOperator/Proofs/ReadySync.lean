import BindingOperator.Proofs.Conditions

/-!
`Ready` through any history of edits. A list of conditions may come in any order, with types
nobody here knows and with one type several times. Each edit writes the first condition of a
type or adds one at the end, and brings the first `Ready` up to date as its last act. So
`Ready` is in sync after every edit whatever the list was before, nothing is ever added
beside a condition of its type, and what an edit does not name is passed over.
-/

namespace BindingOperator.Conditions

open ConditionType

/-- One change of the conditions. `Ready` is never marked by itself. -/
inductive Edit where
  | reset (types : List String)
  | markTrue (type reason : String) (dependent : type ≠ ready)
  | markFalse (type reason message : String) (dependent : type ≠ ready)
  | markUnknown (type reason message : String) (dependent : type ≠ ready)

namespace Edit

def run (clock : Clock) : Edit → List Condition → List Condition
  | reset types => Conditions.reset clock types
  | markTrue type reason _ => Conditions.markTrue clock type reason
  | markFalse type reason message _ => Conditions.markFalse clock type reason message
  | markUnknown type reason message _ => Conditions.markUnknown clock type reason message

/-- The types the edit names. -/
def names : Edit → List String
  | reset types => types
  | markTrue type _ _ | markFalse type _ _ _ | markUnknown type _ _ _ => [type]

/-- Edits one after the other, each with the clock it reads. -/
def runAll (edits : List (Clock × Edit)) (conditions : List Condition) : List Condition :=
  edits.foldl (fun conditions edit => edit.2.run edit.1 conditions) conditions

end Edit

/-- What the first condition of the type says; a missing one is initializing. -/
def reported (type : String) (conditions : List Condition) : Condition.Verdict :=
  ((find? type conditions).map Condition.verdict).getD (.unknown, "Initializing", "")

/-- What `Ready` has to say of the service and the workloads. -/
def readyVerdict (service workloads : Condition.Verdict) : Condition.Verdict :=
  if service.1 = .false then service
  else if workloads.1 = .false then workloads
  else if service.1 = .unknown then service
  else if workloads.1 = .unknown then workloads
  else (.true, "Ready", "")

/-- There is a `Ready`, and the first one says what its dependents make of it. -/
def InSync (conditions : List Condition) : Prop :=
  (find? "Ready" conditions).map Condition.verdict =
    some (readyVerdict (reported "ServiceAvailable" conditions)
      (reported "WorkloadProjected" conditions))

def occurrences (type : String) (conditions : List Condition) : Nat :=
  conditions.countP fun condition => condition.type = type

/-- Types an edit of these names leaves alone: neither named, nor `Ready`, nor a dependent
that is missing and would be added. -/
def Spared (named : List String) (before : List Condition) (type : String) : Prop :=
  type ∉ named ∧ type ≠ ready ∧ (type ∈ dependents → occurrences type before ≠ 0)

instance (named : List String) (before : List Condition) (type : String) :
    Decidable (Spared named before type) :=
  inferInstanceAs (Decidable (_ ∧ _))

/-- What edits of these names may do to a list apart from what they are about. -/
structure Confined (named : List String) (before after : List Condition) : Prop where
  single : ∀ type, occurrences type after ≤ max 1 (occurrences type before)
  spared : after.filter (fun condition => Spared named before condition.type) =
    before.filter fun condition => Spared named before condition.type

variable {type : String} {named more : List String}
  {conditions before after last : List Condition}

section Writing

theorem find_write_same (condition : Condition) (conditions : List Condition) :
    (find? condition.type (write condition conditions)).map Condition.verdict =
      some condition.verdict := by
  induction conditions with
  | nil => simp [write, find?]
  | cons first rest ih =>
      by_cases same : first.type = condition.type
      · have kept := type_succeed first condition same
        have said := verdict_succeed first condition
        simp [write, same, find?, kept, said]
      · simpa [write, same, find?] using ih

theorem find_write_other (condition : Condition) (conditions : List Condition)
    (other : type ≠ condition.type) :
    find? type (write condition conditions) = find? type conditions := by
  induction conditions with
  | nil => simp [write, find?, other.symm]
  | cons first rest ih =>
      by_cases same : first.type = condition.type
      · have kept := type_succeed first condition same
        simp [write, same, find?, kept, other.symm]
      · simp only [write, if_neg same]
        simp only [find?, List.find?_cons] at ih ⊢
        rw [ih]

theorem occurrences_write (condition : Condition) (conditions : List Condition) :
    occurrences type (write condition conditions) =
      if type = condition.type then max 1 (occurrences type conditions)
      else occurrences type conditions := by
  induction conditions with
  | nil => simp [write, occurrences, eq_comm]
  | cons first rest ih =>
      by_cases same : first.type = condition.type
      · have kept := type_succeed first condition same
        rw [write, if_pos same]
        simp only [occurrences, List.countP_cons, kept, same]
        grind
      · simp only [write, if_neg same]
        simp only [occurrences, List.countP_cons] at ih ⊢
        rw [ih]
        grind

/-- A write is not seen by those who do not look at its type. -/
theorem filter_write (condition : Condition) (conditions : List Condition)
    (chosen : String → Bool) (other : chosen condition.type = false) :
    (write condition conditions).filter (fun condition => chosen condition.type) =
      conditions.filter fun condition => chosen condition.type := by
  induction conditions with
  | nil => simp [write, other]
  | cons first rest ih =>
      by_cases same : first.type = condition.type
      · have kept := type_succeed first condition same
        simp [write, same, kept, other]
      · simp [write, same, List.filter_cons, ih]

end Writing

section Readiness

theorem isSome_find (type : String) (conditions : List Condition) :
    (find? type conditions).isSome = true ↔ occurrences type conditions ≠ 0 := by
  simp [find?, occurrences, List.countP_eq_zero, List.find?_isSome]

theorem aggregate_dependents (conditions : List Condition) :
    aggregate (dependentsOf conditions) =
      readyVerdict (reported serviceAvailable conditions)
        (reported workloadProjected conditions) := by
  simp only [dependentsOf, dependents, List.map_cons, List.map_nil]
  -- either dependent may be missing, and the status of one that is there decides
  cases service : find? serviceAvailable conditions with
  | none =>
      cases workloads : find? workloadProjected conditions with
      | none => simp [aggregate, firstWith, readyVerdict, reported, service, workloads,
          Condition.initial, Reason.initializing]
      | some projected =>
          cases status : projected.status <;>
            simp [aggregate, firstWith, readyVerdict, reported, service, workloads, status,
              Condition.initial, Condition.verdict, Reason.initializing]
  | some available =>
      cases workloads : find? workloadProjected conditions with
      | none =>
          cases status : available.status <;>
            simp [aggregate, firstWith, readyVerdict, reported, service, workloads, status,
              Condition.initial, Condition.verdict, Reason.initializing]
      | some projected =>
          cases first : available.status <;> cases second : projected.status <;>
            simp [aggregate, firstWith, readyVerdict, reported, service, workloads, first, second,
              Condition.verdict, Reason.ready]

/-- Recomputing leaves the dependents alone, so what it writes stays true of them. -/
theorem inSync_recomputeReady (reading : Instant) (conditions : List Condition) :
    InSync (recomputeReady reading conditions) := by
  have same : ∀ type, type ≠ ready →
      reported type (recomputeReady reading conditions) = reported type conditions := by
    intro type other
    rw [reported, reported, recomputeReady, find_write_other _ _ other]
  have written := find_write_same
    (.ofVerdict reading ready (aggregate (dependentsOf conditions))) conditions
  have verdict := aggregate_dependents conditions
  rw [← same _ service_ne_ready, ← same _ workload_ne_ready] at verdict
  exact written.trans (congrArg some verdict)

theorem Edit.inSync (clock : Clock) (edit : Edit) (conditions : List Condition) :
    InSync (edit.run clock conditions) := by
  have marked : ∀ verdict : Condition.Verdict, ∀ type, type ≠ ready →
      InSync (set clock type verdict conditions) := by
    intro verdict type dependent
    rw [set, if_neg dependent]
    exact inSync_recomputeReady _ _
  cases edit with
  | reset types => exact inSync_recomputeReady _ _
  | markTrue type reason dependent => exact marked _ type dependent
  | markFalse type reason message dependent => exact marked _ type dependent
  | markUnknown type reason message dependent => exact marked _ type dependent

end Readiness

section Confinement

namespace Confined

theorem refl (conditions : List Condition) : Confined [] conditions conditions :=
  ⟨fun _ => Nat.le_max_right .., rfl⟩

/-- What is spared is seen alike by everyone who looks at nothing else. -/
theorem filter_eq (confined : Confined named before after) (chosen : String → Bool)
    (spared : ∀ type, chosen type = true → Spared named before type) :
    after.filter (fun condition => chosen condition.type) =
      before.filter fun condition => chosen condition.type := by
  have narrowed : ∀ conditions : List Condition,
      conditions.filter (fun condition => chosen condition.type) =
        (conditions.filter fun condition => Spared named before condition.type).filter
          fun condition => chosen condition.type := by
    intro conditions
    rw [List.filter_filter]
    refine List.filter_congr fun condition _ => ?_
    cases seen : chosen condition.type with
    | false => simp
    | true => simp [spared _ seen]
  rw [narrowed after, narrowed before, confined.spared]

theorem occurrences_eq (confined : Confined named before after)
    (spared : Spared named before type) : occurrences type after = occurrences type before := by
  have same := confined.filter_eq (fun other => other = type) (by simpa using spared)
  simpa only [occurrences, List.countP_eq_length_filter] using congrArg List.length same

/-- A dependent that was there and is not named is still there for the next edits. -/
theorem trans (first : Confined named before after) (second : Confined more after last) :
    Confined (named ++ more) before last := by
  have earlier : ∀ type, Spared (named ++ more) before type → Spared named before type :=
    fun type spared => ⟨fun member => spared.1 (List.mem_append_left _ member), spared.2⟩
  have later : ∀ type, Spared (named ++ more) before type → Spared more after type := by
    intro type spared
    refine ⟨fun member => spared.1 (List.mem_append_right _ member), spared.2.1, ?_⟩
    rw [first.occurrences_eq (earlier type spared)]
    exact spared.2.2
  constructor
  · intro type
    have bound := first.single type
    have next := second.single type
    omega
  · rw [second.filter_eq (fun type => Spared (named ++ more) before type) (by simpa using later),
      first.filter_eq (fun type => Spared (named ++ more) before type) (by simpa using earlier)]

end Confined

/-- A condition is written in place of one of its type, or where there was none. -/
theorem confined_write (condition : Condition) (conditions : List Condition) :
    Confined [condition.type] conditions (write condition conditions) := by
  constructor
  · intro type
    rw [occurrences_write]
    split
    · exact Nat.le_refl _
    · exact Nat.le_max_right ..
  · refine filter_write condition conditions
      (fun type => Spared [condition.type] conditions type) ?_
    simp [Spared]

/-- Only a missing type is added, and it is spared only if it was not missing. -/
theorem confined_addMissing (reading : Instant) (conditions : List Condition)
    (managed : type ∈ ready :: dependents) :
    Confined [] conditions (addMissing reading conditions type) := by
  by_cases present : (find? type conditions).isSome = true
  · rw [addMissing, if_pos present]
    exact .refl conditions
  · rw [addMissing, if_neg present]
    have missing : occurrences type conditions = 0 := by
      simpa [isSome_find] using present
    constructor
    · intro other
      by_cases same : type = other
      · subst same
        simp only [occurrences] at missing ⊢
        simp [Condition.ofVerdict, missing]
      · have kept : occurrences other (conditions ++ [.ofVerdict reading type Condition.initial]) =
            occurrences other conditions := by
          simp [occurrences, Condition.ofVerdict, same]
        rw [kept]
        exact Nat.le_max_right ..
    · have unspared : ¬ Spared [] conditions type := by
        rintro ⟨-, notReady, there⟩
        exact there ((List.mem_cons.mp managed).resolve_left notReady) missing
      simp [Condition.ofVerdict, unspared]

theorem confined_addMissings (clock : Clock) (entries : List (String × Nat))
    (conditions : List Condition) (managed : ∀ entry ∈ entries, entry.1 ∈ ready :: dependents) :
    Confined [] conditions (entries.foldl
      (fun added entry => addMissing (clock.reading entry.2) added entry.1) conditions) := by
  induction entries generalizing conditions with
  | nil => exact .refl conditions
  | cons entry rest ih =>
      rw [List.forall_mem_cons] at managed
      exact (confined_addMissing _ conditions managed.1).trans (ih _ managed.2)

theorem confined_filter (keep : Condition → Bool) (conditions : List Condition)
    (only : ∀ condition, keep condition = false → condition.type ∈ named) :
    Confined named conditions (conditions.filter keep) := by
  constructor
  · intro type
    exact Nat.le_trans (List.filter_sublist.countP_le) (Nat.le_max_right ..)
  · rw [List.filter_filter]
    refine List.filter_congr fun condition _ => ?_
    cases kept : keep condition with
    | true => simp
    | false => simp [Spared, only condition kept]

/-- `Ready` is never spared, so writing it is no further change. -/
theorem Confined.recomputeReady (reading : Instant) (confined : Confined named before after) :
    Confined named before (recomputeReady reading after) := by
  have written := confined.trans (confined_write
    (.ofVerdict reading ready (aggregate (dependentsOf after))) after)
  refine ⟨written.single, written.filter_eq (fun type => Spared named before type) ?_⟩
  intro type spared
  have spared : Spared named before type := by simpa using spared
  refine ⟨?_, spared.2⟩
  simp only [List.mem_append, List.mem_singleton, not_or]
  exact ⟨spared.1, spared.2.1⟩

theorem Edit.confined (clock : Clock) (edit : Edit) (conditions : List Condition) :
    Confined edit.names conditions (edit.run clock conditions) := by
  have marked : ∀ verdict : Condition.Verdict, ∀ type, type ≠ ready →
      Confined [type] conditions (set clock type verdict conditions) := by
    intro verdict type dependent
    have written := confined_write (.ofVerdict (clock.reading 0) type verdict) conditions
    rw [set, if_neg dependent]
    exact written.recomputeReady _
  cases edit with
  | reset types =>
      have dropped := confined_filter
        (fun condition => !types.contains condition.type || condition.type = ready) conditions
        (fun condition gone => by simp at gone; exact gone.1)
      have filled := dropped.trans (confined_addMissings clock (ready :: dependents).zipIdx _
        (by decide))
      rw [List.append_nil] at filled
      exact filled.recomputeReady _
  | markTrue type reason dependent => exact marked _ type dependent
  | markFalse type reason message dependent => exact marked _ type dependent
  | markUnknown type reason message dependent => exact marked _ type dependent

/-- A whole history adds nothing beside a condition of its type either, and passes over what
none of its edits names. -/
theorem Edit.confined_all (edits : List (Clock × Edit)) (conditions : List Condition) :
    Confined (edits.flatMap fun edit => edit.2.names) conditions
      (runAll edits conditions) := by
  induction edits generalizing conditions with
  | nil => exact .refl conditions
  | cons edit rest ih => exact (edit.2.confined edit.1 conditions).trans (ih _)

end Confinement

/-- After every edit of every history the first `Ready` is in sync with the first condition
of either dependent, and the edit was confined to what it names. -/
theorem ready_in_sync_after_every_edit (conditions : List Condition)
    (earlier : List (Clock × Edit)) (clock : Clock) (edit : Edit) :
    InSync (Edit.runAll (earlier ++ [(clock, edit)]) conditions) ∧
      Confined edit.names (Edit.runAll earlier conditions)
        (Edit.runAll (earlier ++ [(clock, edit)]) conditions) := by
  have last : Edit.runAll (earlier ++ [(clock, edit)]) conditions =
      edit.run clock (Edit.runAll earlier conditions) := by
    rw [Edit.runAll, List.foldl_append]
    rfl
  rw [last]
  exact ⟨edit.inSync clock _, edit.confined clock _⟩

/-- A list with a repeated and a foreign type, where one dependent is missing. -/
example :
    (Edit.runAll [(.ticking 0, .markFalse "ServiceAvailable" "ServiceNotFound" "gone" (by decide)),
        (.ticking 2, .reset ["WorkloadProjected"])]
      [⟨"Audited", .true, "Done", "", none⟩, ⟨"Ready", .true, "Ready", "", none⟩,
        ⟨"Ready", .unknown, "Old", "", none⟩]).map (fun condition =>
          (condition.type, condition.verdict)) =
      [("Audited", .true, "Done", ""), ("Ready", .false, "ServiceNotFound", "gone"),
        ("Ready", .unknown, "Old", ""), ("ServiceAvailable", .false, "ServiceNotFound", "gone"),
        ("WorkloadProjected", .unknown, "Initializing", "")] := by
  decide

end BindingOperator.Conditions
