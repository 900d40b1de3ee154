import Mathlib.Data.List.Nodup
import BindingOperator.Controller.Reconcile

/-!
Conditions through a live pass. Whatever was stored, the list keeps one layout: what stood
before the first `Ready`, that `Ready`, what stood after it, and at the end the two
dependents that the pass derives. Every write goes to its place in the layout, `Ready` is
always the aggregate of the two dependents, and a pass over what it has stored itself finds
the layout again.
-/

namespace BindingOperator.Conditions

open ConditionType

variable {clock : Clock} {conditions before after : List Condition}

section Writing

theorem verdict_succeed (older newer : Condition) :
    (succeed older newer).verdict = newer.verdict := by
  unfold succeed
  split
  · assumption
  · split <;> rfl

theorem type_succeed (older newer : Condition) (same : older.type = newer.type) :
    (succeed older newer).type = newer.type := by
  unfold succeed
  split
  · exact same
  · split <;> rfl

/-- A condition is written at the first place of its type. -/
theorem write_at (condition first : Condition)
    (earlier : ∀ other ∈ before, other.type ≠ condition.type)
    (same : first.type = condition.type) :
    write condition (before ++ first :: after) = before ++ succeed first condition :: after := by
  induction before with
  | nil => simp [write, same]
  | cons other rest ih =>
      rw [List.forall_mem_cons] at earlier
      rw [List.cons_append, write, if_neg earlier.1, ih earlier.2, List.cons_append]

theorem find_at (type : String) (first : Condition)
    (earlier : ∀ other ∈ before, other.type ≠ type) (same : first.type = type) :
    find? type (before ++ first :: after) = some first := by
  have none : before.find? (fun condition => condition.type = type) = none := by
    rw [List.find?_eq_none]
    simpa using earlier
  simp [find?, List.find?_append, none, same]

theorem find_none (type : String) (absent : ∀ other ∈ conditions, other.type ≠ type) :
    find? type conditions = none := by
  rw [find?, List.find?_eq_none]
  simpa using absent

theorem addMissing_absent (reading : Instant) (conditions : List Condition) (type : String)
    (absent : ∀ other ∈ conditions, other.type ≠ type) :
    addMissing reading conditions type =
      conditions ++ [.ofVerdict reading type Condition.initial] := by
  simp [addMissing, find_none type absent]

theorem addMissing_present (reading : Instant) (type : String) (found : Condition)
    (present : find? type conditions = some found) :
    addMissing reading conditions type = conditions := by
  simp [addMissing, present]

end Writing

section Aggregating

theorem service_ne_ready : serviceAvailable ≠ ready := by decide

theorem workload_ne_ready : workloadProjected ≠ ready := by decide

theorem workload_ne_service : workloadProjected ≠ serviceAvailable := by decide

/-- Only the verdicts of the dependents count. -/
theorem aggregate_congr (first second other another : Condition)
    (left : first.verdict = other.verdict) (right : second.verdict = another.verdict) :
    aggregate [some first, some second] = aggregate [some other, some another] := by
  have leftStatus : first.status = other.status := congrArg Prod.fst left
  have rightStatus : second.status = another.status := congrArg Prod.fst right
  simp [aggregate, firstWith, left, right, leftStatus, rightStatus]

theorem aggregate_true (first second : Condition)
    (holds : (aggregate [some first, some second]).1 = .true) :
    first.status = .true ∧ second.status = .true := by
  cases left : first.status <;> cases right : second.status <;>
    simp [aggregate, firstWith, Condition.verdict, left, right] at holds ⊢

end Aggregating

/-- The layout of the conditions in a live pass, with what the two dependents report. -/
structure Laid (before after : List Condition) (service workloads : Condition.Verdict)
    (conditions : List Condition) : Prop where
  early : ∀ condition ∈ before, condition.type ∉ ready :: dependents
  late : ∀ condition ∈ after, condition.type ∉ dependents
  listed : ∃ main available projected : Condition,
    conditions = before ++ main :: (after ++ [available, projected]) ∧
    main.type = ready ∧ main.verdict = aggregate [some available, some projected] ∧
    available.type = serviceAvailable ∧ available.verdict = service ∧
    projected.type = workloadProjected ∧ projected.verdict = workloads

section Layouts

variable {service workloads : Condition.Verdict} {main available projected : Condition}

theorem find_service
    (early : ∀ condition ∈ before, condition.type ∉ ready :: dependents)
    (late : ∀ condition ∈ after, condition.type ∉ dependents) (isReady : main.type = ready)
    (isService : available.type = serviceAvailable) :
    find? serviceAvailable (before ++ main :: (after ++ [available, projected])) =
      some available := by
  have parts : before ++ main :: (after ++ [available, projected]) =
      (before ++ main :: after) ++ available :: [projected] := by simp
  rw [parts]
  refine find_at _ _ ?_ isService
  intro other member named
  rcases List.mem_append.mp member with first | second
  · exact early other first (by simp [dependents, named])
  · rcases List.mem_cons.mp second with rfl | rest
    · exact service_ne_ready (named.symm.trans isReady)
    · exact late other rest (by simp [dependents, named])

theorem find_workloads
    (early : ∀ condition ∈ before, condition.type ∉ ready :: dependents)
    (late : ∀ condition ∈ after, condition.type ∉ dependents) (isReady : main.type = ready)
    (isService : available.type = serviceAvailable)
    (isWorkloads : projected.type = workloadProjected) :
    find? workloadProjected (before ++ main :: (after ++ [available, projected])) =
      some projected := by
  have parts : before ++ main :: (after ++ [available, projected]) =
      (before ++ main :: (after ++ [available])) ++ projected :: [] := by simp
  rw [parts]
  refine find_at _ _ ?_ isWorkloads
  intro other member named
  simp only [List.mem_append, List.mem_cons, List.not_mem_nil, or_false] at member
  rcases member with first | rfl | rest | rfl
  · exact early other first (by simp [dependents, named])
  · exact workload_ne_ready (named.symm.trans isReady)
  · exact late other rest (by simp [dependents, named])
  · exact workload_ne_service (named.symm.trans isService)

/-- Recomputing `Ready` is what makes a list with its dependents at the end a layout. -/
theorem laid_recomputeReady (reading : Instant) (main available projected : Condition)
    (early : ∀ condition ∈ before, condition.type ∉ ready :: dependents)
    (late : ∀ condition ∈ after, condition.type ∉ dependents) (isReady : main.type = ready)
    (isService : available.type = serviceAvailable)
    (isWorkloads : projected.type = workloadProjected) :
    Laid before after available.verdict projected.verdict
      (recomputeReady reading (before ++ main :: (after ++ [available, projected]))) := by
  have known : dependentsOf (before ++ main :: (after ++ [available, projected])) =
      [some available, some projected] := by
    simp only [dependentsOf, dependents, List.map_cons, List.map_nil,
      find_service early late isReady isService,
      find_workloads early late isReady isService isWorkloads]
  refine ⟨early, late, ?_⟩
  rw [recomputeReady, known, write_at _ _ (fun other member named => early other member ?_) isReady]
  · refine ⟨_, available, projected, rfl, type_succeed _ _ isReady, ?_, isService, rfl,
      isWorkloads, rfl⟩
    rw [verdict_succeed]
    rfl
  · rw [named]
    exact List.mem_cons_self

namespace Laid

theorem set_service (laid : Laid before after service workloads conditions)
    (verdict : Condition.Verdict) :
    Laid before after verdict workloads
      (set clock serviceAvailable verdict conditions) := by
  obtain ⟨early, late, main, available, projected, rfl, isReady, -, isService, -, isWorkloads,
    rfl⟩ := laid
  have parts : before ++ main :: (after ++ [available, projected]) =
      (before ++ main :: after) ++ available :: [projected] := by simp
  have written : write (.ofVerdict (clock.reading 0) serviceAvailable verdict)
      (before ++ main :: (after ++ [available, projected])) = before ++ main ::
        (after ++ [succeed available (.ofVerdict (clock.reading 0) serviceAvailable verdict),
          projected]) := by
    rw [parts, write_at _ _ ?_ isService]
    · simp
    · intro other member named
      rcases List.mem_append.mp member with first | second
      · exact early other first (by simp [dependents, named, Condition.ofVerdict])
      · rcases List.mem_cons.mp second with rfl | rest
        · exact service_ne_ready (named.symm.trans isReady)
        · exact late other rest (by simp [dependents, named, Condition.ofVerdict])
  have result := laid_recomputeReady (clock.reading 1) main
    (succeed available (.ofVerdict (clock.reading 0) serviceAvailable verdict)) projected early
    late isReady (type_succeed _ _ isService) isWorkloads
  rw [verdict_succeed] at result
  rw [set]
  simp only [if_neg service_ne_ready, written]
  exact result

theorem set_workloads (laid : Laid before after service workloads conditions)
    (verdict : Condition.Verdict) :
    Laid before after service verdict
      (set clock workloadProjected verdict conditions) := by
  obtain ⟨early, late, main, available, projected, rfl, isReady, -, isService, rfl, isWorkloads,
    -⟩ := laid
  have parts : before ++ main :: (after ++ [available, projected]) =
      (before ++ main :: (after ++ [available])) ++ projected :: [] := by simp
  have written : write (.ofVerdict (clock.reading 0) workloadProjected verdict)
      (before ++ main :: (after ++ [available, projected])) = before ++ main ::
        (after ++ [available,
          succeed projected (.ofVerdict (clock.reading 0) workloadProjected verdict)]) := by
    rw [parts, write_at _ _ ?_ isWorkloads]
    · simp
    · intro other member named
      simp only [List.mem_append, List.mem_cons, List.not_mem_nil, or_false] at member
      rcases member with first | rfl | rest | rfl
      · exact early other first (by simp [dependents, named, Condition.ofVerdict])
      · exact workload_ne_ready (named.symm.trans isReady)
      · exact late other rest (by simp [dependents, named, Condition.ofVerdict])
      · exact workload_ne_service (named.symm.trans isService)
  have result := laid_recomputeReady (clock.reading 1) main available
    (succeed projected (.ofVerdict (clock.reading 0) workloadProjected verdict)) early late
    isReady isService (type_succeed _ _ isWorkloads)
  rw [verdict_succeed] at result
  rw [set]
  simp only [if_neg workload_ne_ready, written]
  exact result

theorem isInitializing_iff (laid : Laid before after service workloads conditions) :
    isInitializing workloadProjected conditions = true ↔
      workloads.1 = .unknown ∧ workloads.2.1 = Reason.initializing := by
  obtain ⟨early, late, main, available, projected, rfl, isReady, -, isService, -, isWorkloads,
    rfl⟩ := laid
  simp [isInitializing, find_workloads early late isReady isService isWorkloads,
    Condition.verdict]

/-- A true `Ready` is true of the service and of the workloads, where it is the only one. -/
theorem of_ready (laid : Laid before after service workloads conditions)
    (alone : ∀ other ∈ after, other.type ≠ ready) (condition : Condition)
    (member : condition ∈ conditions) (isReady : condition.type = ready)
    (holds : condition.status = .true) : service.1 = .true ∧ workloads.1 = .true := by
  obtain ⟨early, -, main, available, projected, rfl, -, verdict, isService, rfl, isWorkloads,
    rfl⟩ := laid
  simp only [List.mem_append, List.mem_cons, List.not_mem_nil, or_false] at member
  -- the main condition is the only `Ready`, wherever the given one was found
  have same : condition = main := by
    rcases member with first | same | second | rfl | rfl
    · exact absurd (isReady ▸ List.mem_cons_self) (early condition first)
    · exact same
    · exact absurd isReady (alone condition second)
    · exact absurd (isService.symm.trans isReady) service_ne_ready
    · exact absurd (isWorkloads.symm.trans isReady) workload_ne_ready
  apply aggregate_true available projected
  rw [← verdict, ← same]
  exact holds

end Laid

end Layouts

section Restarting

theorem conditionsOfPhase_live : Stage.conditionsOfPhase .live = dependents := by decide

def kept (conditions : List Condition) : List Condition :=
  conditions.filter fun condition => !dependents.contains condition.type || condition.type = ready

theorem mem_kept (condition : Condition) :
    condition ∈ kept conditions ↔ condition ∈ conditions ∧ condition.type ∉ dependents := by
  have apart : condition.type = ready → condition.type ∉ dependents := by
    intro isReady
    simp [isReady, dependents, service_ne_ready.symm, workload_ne_ready.symm]
  simp only [kept, List.mem_filter, Bool.or_eq_true, Bool.not_eq_true', List.contains_eq_mem,
    decide_eq_false_iff_not, decide_eq_true_eq]
  grind

theorem kept_same (foreign : ∀ condition ∈ conditions, condition.type ∉ dependents) :
    kept conditions = conditions := by
  rw [kept, List.filter_eq_self]
  intro condition member
  simp [foreign condition member]

theorem kept_append (more : List Condition) :
    kept (conditions ++ more) = kept conditions ++ kept more :=
  List.filter_append _ _

/-- In front of the dependents there is none of them. -/
theorem foreign_laid {main : Condition}
    (early : ∀ condition ∈ before, condition.type ∉ ready :: dependents)
    (late : ∀ condition ∈ after, condition.type ∉ dependents) (isReady : main.type = ready) :
    ∀ condition ∈ before ++ main :: after, condition.type ∉ dependents := by
  intro condition member
  rcases List.mem_append.mp member with first | second
  · exact fun dependent => early condition first (List.mem_cons_of_mem _ dependent)
  · rcases List.mem_cons.mp second with rfl | rest
    · simp [isReady, dependents, service_ne_ready.symm, workload_ne_ready.symm]
    · exact late condition rest

/-- The restart adds what is missing and reads the clock for each of it. -/
theorem reset_live (clock : Clock) (conditions : List Condition) :
    reset clock (Stage.conditionsOfPhase .live) conditions =
      recomputeReady (clock.reading 3) (addMissing (clock.reading 2)
        (addMissing (clock.reading 1) (addMissing (clock.reading 0) (kept conditions) ready)
          serviceAvailable) workloadProjected) := by
  rw [conditionsOfPhase_live]
  rfl

/-- Once the first `Ready` is in place, the restart adds the dependents behind it. -/
theorem laid_reset (main : Condition)
    (early : ∀ condition ∈ before, condition.type ∉ ready :: dependents)
    (late : ∀ condition ∈ after, condition.type ∉ dependents) (isReady : main.type = ready)
    (found : addMissing (clock.reading 0) (kept conditions) ready = before ++ main :: after) :
    Laid before after Condition.initial Condition.initial
      (reset clock (Stage.conditionsOfPhase .live) conditions) := by
  have foreign := foreign_laid early late isReady
  -- neither dependent was kept, so both are added anew behind the rest
  have service := addMissing_absent (clock.reading 1) (before ++ main :: after) serviceAvailable
    fun other member named => foreign other member (by simp [named, dependents])
  have workloads := addMissing_absent (clock.reading 2)
    (before ++ main :: after ++ [.ofVerdict (clock.reading 1) serviceAvailable Condition.initial])
    workloadProjected (by
      intro other member named
      rcases List.mem_append.mp member with old | new
      · exact foreign other old (by simp [named, dependents])
      · rw [List.mem_singleton.mp new] at named
        exact workload_ne_service named.symm)
  have restarted : reset clock (Stage.conditionsOfPhase .live) conditions =
      recomputeReady (clock.reading 3) (before ++ main :: (after ++
        [.ofVerdict (clock.reading 1) serviceAvailable Condition.initial,
          .ofVerdict (clock.reading 2) workloadProjected Condition.initial])) := by
    rw [reset_live, found, service, workloads]
    simp
  rw [restarted]
  exact laid_recomputeReady (clock.reading 3) main
    (.ofVerdict (clock.reading 1) serviceAvailable Condition.initial)
    (.ofVerdict (clock.reading 2) workloadProjected Condition.initial) early late isReady rfl rfl

/-- A restart lays the stored conditions out around their first `Ready`. -/
theorem laid_restarted (clock : Clock) (stored : List Condition) :
    ∃ before after, Laid before after Condition.initial Condition.initial
        (reset clock (Stage.conditionsOfPhase .live) stored) ∧
      (∀ condition ∈ before ++ after, condition ∈ stored) ∧
      ((stored.map Condition.type).Nodup → ∀ other ∈ after, other.type ≠ ready) := by
  cases found : find? ready (kept stored) with
  | none =>
      have absent : ∀ other ∈ kept stored, other.type ≠ ready := by
        simpa [find?, List.find?_eq_none] using found
      refine ⟨kept stored, [], laid_reset (.ofVerdict (clock.reading 0) ready Condition.initial) ?_
        (by simp) rfl (addMissing_absent _ _ ready absent), ?_, by simp⟩
      · intro condition member
        rw [List.mem_cons, not_or]
        exact ⟨absent condition member, ((mem_kept condition).mp member).2⟩
      · intro condition member
        rw [List.append_nil] at member
        exact ((mem_kept condition).mp member).1
  -- the first `Ready` that was stored stays the main condition, at its place
  | some main =>
      obtain ⟨named, before, after, parts, earlier⟩ := List.find?_eq_some_iff_append.mp found
      have isReady : main.type = ready := by simpa using named
      have inside : ∀ condition ∈ before ++ after, condition ∈ kept stored := by
        intro condition member
        rw [parts]
        rcases List.mem_append.mp member with first | second
        · exact List.mem_append_left _ first
        · exact List.mem_append_right _ (List.mem_cons_of_mem _ second)
      refine ⟨before, after, laid_reset main ?_ ?_ isReady ?_, ?_, ?_⟩
      · intro condition member
        rw [List.mem_cons, not_or]
        exact ⟨by simpa using earlier condition member,
          ((mem_kept condition).mp (inside condition (List.mem_append_left _ member))).2⟩
      · intro condition member
        exact ((mem_kept condition).mp (inside condition (List.mem_append_right _ member))).2
      · rw [addMissing_present _ ready main found, parts]
      · exact fun condition member => ((mem_kept condition).mp (inside condition member)).1
      · intro distinct other member same
        have types : ((kept stored).map Condition.type).Nodup :=
          distinct.sublist (List.filter_sublist.map _)
        rw [parts, List.map_append, List.map_cons] at types
        have unique := (List.nodup_cons.mp (List.nodup_append.mp types).2.1).1
        exact unique (List.mem_map.mpr ⟨other, member, same.trans isReady.symm⟩)

/-- A pass that starts from its own result finds the layout again. -/
theorem Laid.restarted {service workloads : Condition.Verdict}
    (laid : Laid before after service workloads conditions) :
    Laid before after Condition.initial Condition.initial
      (reset clock (Stage.conditionsOfPhase .live) conditions) := by
  obtain ⟨early, late, main, available, projected, rfl, isReady, -, isService, -, isWorkloads,
    -⟩ := laid
  have foreign := foreign_laid early late isReady
  have dropped : kept [available, projected] = [] := by
    simp [kept, isService, isWorkloads, dependents, service_ne_ready, workload_ne_ready]
  have left : kept (before ++ main :: (after ++ [available, projected])) =
      before ++ main :: after := by
    have parts : before ++ main :: (after ++ [available, projected]) =
        (before ++ main :: after) ++ [available, projected] := by simp
    rw [parts, kept_append, dropped, kept_same foreign, List.append_nil]
  apply laid_reset main early late isReady
  rw [left]
  refine addMissing_present _ ready main (find_at ready main ?_ isReady)
  exact fun condition member named => early condition member (named ▸ List.mem_cons_self)

end Restarting

section Carrying

theorem carryTime_type (previous : List Condition) (condition : Condition) :
    (carryTime previous condition).type = condition.type := by
  unfold carryTime
  split <;> rfl

theorem carryTime_verdict (previous : List Condition) (condition : Condition) :
    (carryTime previous condition).verdict = condition.verdict := by
  unfold carryTime
  split <;> rfl

theorem mem_carryTimes (previous : List Condition) (carried : Condition)
    (member : carried ∈ carryTimes previous conditions) :
    ∃ condition ∈ conditions, condition.type = carried.type ∧
      condition.verdict = carried.verdict := by
  obtain ⟨condition, present, rfl⟩ := List.mem_map.mp member
  exact ⟨condition, present, (carryTime_type previous condition).symm,
    (carryTime_verdict previous condition).symm⟩

/-- The stored times leave the layout as it is. -/
theorem Laid.carried {service workloads : Condition.Verdict} (stored : List Condition)
    (laid : Laid before after service workloads conditions) :
    Laid (before.map (carryTime stored)) (after.map (carryTime stored)) service workloads
      (carryTimes stored conditions) := by
  obtain ⟨early, late, main, available, projected, rfl, isReady, verdict, isService, rfl,
    isWorkloads, rfl⟩ := laid
  refine ⟨?_, ?_, carryTime stored main, carryTime stored available, carryTime stored projected,
    by simp [carryTimes], ?_, ?_, ?_, carryTime_verdict _ _, ?_, carryTime_verdict _ _⟩
  · intro condition member
    obtain ⟨old, present, rfl⟩ := List.mem_map.mp member
    rw [carryTime_type]
    exact early old present
  · intro condition member
    obtain ⟨old, present, rfl⟩ := List.mem_map.mp member
    rw [carryTime_type]
    exact late old present
  · rw [carryTime_type, isReady]
  · rw [carryTime_verdict, verdict]
    exact aggregate_congr _ _ _ _ (carryTime_verdict _ _).symm (carryTime_verdict _ _).symm
  · rw [carryTime_type, isService]
  · rw [carryTime_type, isWorkloads]

/-- Conditions of one type and status have one time. -/
def Timed (conditions : List Condition) : Prop :=
  ∀ first ∈ conditions, ∀ second ∈ conditions, first.type = second.type →
    first.status = second.status → first.lastTransitionTime = second.lastTransitionTime

/-- The time that is carried over is a stored one, or there is none for the type and
status. -/
theorem carryTime_cases (stored : List Condition) (condition : Condition) :
    (∃ older ∈ stored, (older.type = condition.type ∧ older.status = condition.status) ∧
        ∀ other, other.type = condition.type → other.status = condition.status →
          (carryTime stored other).lastTransitionTime = older.lastTransitionTime) ∨
      ((∀ older ∈ stored, ¬ (older.type = condition.type ∧ older.status = condition.status)) ∧
        carryTime stored condition = condition) := by
  cases found : stored.find? fun older =>
      older.type = condition.type && older.status = condition.status with
  | some older =>
      refine .inl ⟨older, List.mem_of_find?_eq_some found, by simpa using List.find?_some found, ?_⟩
      intro other type status
      simp [carryTime, type, status, found]
  | none =>
      refine .inr ⟨?_, by simp [carryTime, found]⟩
      simpa [List.find?_eq_none] using found

/-- Only the conditions of the pass itself can have another time than the stored ones, and
there is one of each type. -/
theorem timed_carryTimes {service workloads : Condition.Verdict} (stored : List Condition)
    (laid : Laid before after service workloads conditions)
    (within : ∀ condition ∈ before ++ after, condition ∈ stored) :
    Timed (carryTimes stored conditions) := by
  rintro _ firstMember _ secondMember type status
  obtain ⟨first, firstOld, rfl⟩ := List.mem_map.mp firstMember
  obtain ⟨second, secondOld, rfl⟩ := List.mem_map.mp secondMember
  have firstVerdict := carryTime_verdict stored first
  have secondVerdict := carryTime_verdict stored second
  have sameType : first.type = second.type := by
    rwa [carryTime_type, carryTime_type] at type
  have sameStatus : first.status = second.status :=
    (congrArg Prod.fst firstVerdict).symm.trans (status.trans (congrArg Prod.fst secondVerdict))
  rcases carryTime_cases stored first with ⟨older, -, -, carried⟩ | ⟨absent, -⟩
  · rw [carried first rfl rfl, carried second sameType.symm sameStatus.symm]
  -- without a stored time both are conditions of the pass, which has one of each type
  · have own : ∀ condition ∈ conditions, condition.type = first.type →
        condition.status = first.status → condition ∉ before ++ after :=
      fun condition _ type status member =>
        absent condition (within condition member) ⟨type, status⟩
    obtain ⟨early, late, main, available, projected, rfl, isReady, -, isService, -, isWorkloads,
      -⟩ := laid
    have serviceReady := service_ne_ready
    have workloadReady := workload_ne_ready
    have workloadService := workload_ne_service
    have firstOwn := own first firstOld rfl rfl
    have secondOwn := own second secondOld sameType.symm sameStatus.symm
    simp only [List.mem_append, List.mem_cons, List.not_mem_nil, or_false] at firstOld secondOld
    simp only [List.mem_append] at firstOwn secondOwn
    have same : first = second := by grind
    rw [same]

theorem condition_ext (left right : Condition) (type : left.type = right.type)
    (verdict : left.verdict = right.verdict)
    (time : left.lastTransitionTime = right.lastTransitionTime) : left = right := by
  cases left
  cases right
  simp_all [Condition.verdict]

theorem carryTime_timed (stored : List Condition) (timed : Timed stored)
    (condition older : Condition) (member : older ∈ stored) (type : condition.type = older.type)
    (verdict : condition.verdict = older.verdict) : carryTime stored condition = older := by
  have status : condition.status = older.status := congrArg Prod.fst verdict
  rcases carryTime_cases stored condition with ⟨found, present, ⟨foundType, foundStatus⟩, carried⟩ |
    ⟨absent, -⟩
  · have time : (carryTime stored condition).lastTransitionTime = older.lastTransitionTime :=
      (carried condition rfl rfl).trans (timed found present older member (foundType.trans type)
        (foundStatus.trans status))
    have sameType := (carryTime_type stored condition).trans type
    have sameVerdict := (carryTime_verdict stored condition).trans verdict
    exact condition_ext _ _ sameType sameVerdict time
  · exact absurd ⟨type.symm, status.symm⟩ (absent older member)

/-- A pass that reports again what is stored as the result of a pass carries every time over,
so the conditions come out as they are. -/
theorem carryTimes_again {service workloads : Condition.Verdict} {again : List Condition}
    (stored : List Condition) (laid : Laid before after service workloads conditions)
    (within : ∀ condition ∈ before ++ after, condition ∈ stored)
    (repeated : Laid (before.map (carryTime stored)) (after.map (carryTime stored)) service
      workloads again) :
    carryTimes (carryTimes stored conditions) again = carryTimes stored conditions := by
  have timed := timed_carryTimes stored laid within
  obtain ⟨-, -, main, available, projected, result, isReady, verdict, isService, service,
    isWorkloads, workloads⟩ := laid.carried stored
  obtain ⟨-, -, newMain, newAvailable, newProjected, rfl, newReady, newVerdict, newService, rfl,
    newWorkloads, rfl⟩ := repeated
  rw [aggregate_congr newAvailable newProjected available projected service.symm workloads.symm,
    ← verdict] at newVerdict
  have fixed : ∀ condition older, older ∈ carryTimes stored conditions →
      condition.type = older.type → condition.verdict = older.verdict →
      carryTime (carryTimes stored conditions) condition = older :=
    fun condition older => carryTime_timed _ timed condition older
  -- conditions of others come back as they are, because they were stored with their times
  have members : ∀ part : List Condition, (∀ condition ∈ part,
      condition ∈ carryTimes stored conditions) →
      part.map (carryTime (carryTimes stored conditions)) = part := by
    intro part inside
    refine (List.map_congr_left fun condition member => ?_).trans (List.map_id part)
    exact fixed condition condition (inside condition member) rfl rfl
  have early : ∀ condition ∈ before.map (carryTime stored),
      condition ∈ carryTimes stored conditions := by
    intro condition member
    rw [result]
    exact List.mem_append_left _ member
  have late : ∀ condition ∈ after.map (carryTime stored),
      condition ∈ carryTimes stored conditions := by
    intro condition member
    rw [result]
    simp [member]
  have mainFixed := fixed newMain main (by rw [result]; simp) (newReady.trans isReady.symm)
    newVerdict
  have serviceFixed := fixed newAvailable available (by rw [result]; simp)
    (newService.trans isService.symm) service.symm
  have workloadsFixed := fixed newProjected projected (by rw [result]; simp)
    (newWorkloads.trans isWorkloads.symm) workloads.symm
  conv_rhs => rw [result]
  rw [carryTimes, List.map_append, List.map_cons, List.map_append, members _ early,
    members _ late, mainFixed, List.map_cons, List.map_cons, List.map_nil, serviceFixed,
    workloadsFixed]

end Carrying

end BindingOperator.Conditions
