import BindingOperator.Proofs.Clusters

/-!
The workloads that a reference selects, as a cluster has them. Looking them up gives exactly
those that are there at the moment they are read, or that none is, or that reading was
refused.
-/

namespace BindingOperator

open Dialogue

/-- A reference names an object, or selects its labels where it has no name. -/
def WorkloadReference.Selects (workload : WorkloadReference) (object : Object) : Prop :=
  match workload.name.filter (· ≠ "") with
  | some name => object.nameAny = name
  | none => ∃ selector query, workload.selector = some selector ∧ selector.query = .ok query ∧
      query.selects object.labels = true

theorem selects_named {workload : WorkloadReference} {name : String}
    (named : workload.name.filter (· ≠ "") = some name) (object : Object) :
    workload.Selects object ↔ object.nameAny = name := by
  unfold WorkloadReference.Selects
  rw [named]

theorem selects_unnamed {workload : WorkloadReference}
    (unnamed : workload.name.filter (· ≠ "") = none) (object : Object) :
    workload.Selects object ↔ ∃ selector query, workload.selector = some selector ∧
      selector.query = .ok query ∧ query.selects object.labels = true := by
  unfold WorkloadReference.Selects
  rw [unnamed]

/-- The workloads that a cluster has for a reference. -/
structure Found (workload : WorkloadReference) (namespaceName : String) (cluster : Cluster)
    (resource : Resource) (found : List Object) : Prop where
  served : cluster.serves workload.kindOf = some resource
  kept : ∀ object ∈ found, cluster.objects (object.placeIn resource) = some object ∧
    object.metadata.namespaceName.getD "" = namespaceName ∧ workload.Selects object
  complete : ∀ name object, cluster.objects ⟨resource, namespaceName, name⟩ = some object →
    workload.Selects object → object ∈ found

/-- What is resolved when objects are found: a named one or its absence, or all that are
selected. -/
inductive WorkloadReference.Gives (workload : WorkloadReference) (resource : Resource) :
    WorkloadResolution → List Object → Prop where
  | named {name} (object) (isNamed : workload.name.filter (· ≠ "") = some name) :
      Gives workload resource (.resolved resource [object]) [object]
  | absent {name} (isNamed : workload.name.filter (· ≠ "") = some name) :
      Gives workload resource .notFound []
  | selected (found) (unnamed : workload.name.filter (· ≠ "") = none) :
      Gives workload resource (.resolved resource found) found

/-- What is recorded for the writes are the objects that were found, with their resource. -/
theorem WorkloadReference.Gives.recorded {workload : WorkloadReference} {resource : Resource}
    {resolution : WorkloadResolution} {found : List Object}
    (gives : workload.Gives resource resolution found) (clock : Clock) (binding : Binding) :
    (recordWorkloads clock resolution { binding }).workloads = found ∧
      ((recordWorkloads clock resolution { binding }).resource = some resource ∨ found = []) := by
  cases gives with
  | named object isNamed => exact ⟨rfl, .inl rfl⟩
  | absent isNamed => exact ⟨rfl, .inr rfl⟩
  | selected found unnamed => exact ⟨rfl, .inl rfl⟩

def isRefused : Exchange BindingCall.Answer → Bool
  | ⟨.getObject _ _ _, .error failure⟩ => failure.isForbidden
  | ⟨.listObjects _ _ _, .error failure⟩ => failure.isForbidden
  | ⟨.updateObject _ _, .error failure⟩ => failure.isForbidden
  | _ => false

def Refused (exchange : Exchange BindingCall.Answer) : Prop := isRefused exchange = true

instance : DecidablePred Refused := fun exchange =>
  inferInstanceAs (Decidable (isRefused exchange = true))

/-- A cluster that calls an object absent only where it has none. -/
structure Truthful (refuses : Refusing) : Prop where
  get : ∀ resource namespaceName name failure,
    refuses (.getObject resource namespaceName name) failure → failure.isNotFound = false
  update : ∀ resource object failure,
    refuses (.updateObject resource object) failure → failure.isNotFound = false

theorem notFound_of_forbidden (failure : Failure) (refused : failure.isForbidden = true) :
    failure.isNotFound = false := by
  cases failure with
  | forbidden kind name verb => rfl
  | request cause =>
      cases cause with
      | refused refusal =>
          have code : refusal.code = 403 := by
            simpa [Failure.isForbidden, RequestFailure.refusedWith] using refused
          simp [Failure.isNotFound, RequestFailure.refusedWith, code]
      | _ => rfl
  | _ => simp [Failure.isForbidden] at refused

section Finding

variable {workload : WorkloadReference} {namespaceName : String} {cluster : Cluster}
  {resource : Resource}

theorem found_named {name : String} (named : workload.name.filter (· ≠ "") = some name)
    (served : cluster.serves workload.kindOf = some resource) (object : Object)
    (present : cluster.objects ⟨resource, namespaceName, name⟩ = some object) :
    Found workload namespaceName cluster resource [object] := by
  have place := cluster.placed _ _ present
  refine ⟨served, ?_, ?_⟩
  · intro found member
    rw [List.mem_singleton.mp member]
    exact ⟨place ▸ present, congrArg Place.namespaceName place,
      (selects_named named object).mpr (congrArg Place.name place)⟩
  · intro other found there chosen
    have same : other = name :=
      (congrArg Place.name (cluster.placed _ _ there)).symm.trans ((selects_named named _).mp chosen)
    rw [same, present, Option.some.injEq] at there
    rw [there]
    exact List.mem_singleton_self _

theorem found_absent {name : String} (named : workload.name.filter (· ≠ "") = some name)
    (served : cluster.serves workload.kindOf = some resource)
    (absent : cluster.objects ⟨resource, namespaceName, name⟩ = none) :
    Found workload namespaceName cluster resource [] := by
  refine ⟨served, by simp, ?_⟩
  -- whatever is selected has the name, and nothing is kept under it
  intro other found there chosen
  have same : other = name :=
    (congrArg Place.name (cluster.placed _ _ there)).symm.trans ((selects_named named _).mp chosen)
  rw [same, absent] at there
  simp at there

theorem found_nothing (unnamed : workload.name.filter (· ≠ "") = none)
    (unselective : workload.selector = none)
    (served : cluster.serves workload.kindOf = some resource) :
    Found workload namespaceName cluster resource [] := by
  refine ⟨served, by simp, ?_⟩
  intro name found there chosen
  obtain ⟨selector, query, some, -⟩ := (selects_unnamed unnamed _).mp chosen
  simp [unselective] at some

theorem found_listed {selector : LabelSelector} {query : Query} {listed : List Object}
    (unnamed : workload.name.filter (· ≠ "") = none)
    (selecting : workload.selector = some selector) (formed : selector.query = .ok query)
    (served : cluster.serves workload.kindOf = some resource)
    (lists : cluster.Lists resource namespaceName query.text listed) :
    Found workload namespaceName cluster resource
      (listed.filter fun object => query.selects object.labels) := by
  refine ⟨served, ?_, ?_⟩
  · intro object member
    obtain ⟨present, passes⟩ := List.mem_filter.mp member
    obtain ⟨kept, inside⟩ := lists.kept object present
    exact ⟨kept, inside, (selects_unnamed unnamed _).mpr ⟨selector, query, selecting, formed, passes⟩⟩
  · intro name object there chosen
    obtain ⟨other, asked, same, given, passes⟩ := (selects_unnamed unnamed _).mp chosen
    rw [selecting, Option.some.injEq] at same
    rw [← same, formed, Except.ok.injEq] at given
    rw [← given] at passes
    exact List.mem_filter.mpr ⟨lists.complete name object there query rfl passes, passes⟩

variable {refuses : Refusing} {drift : Cluster → Cluster → Prop} {first last next : Cluster}
  {exchanges : Talk} {resolution : WorkloadResolution}

/-- Reading a named object finds it, or that it is absent, or is refused. -/
theorem got_named {name : String} {answer : Except Failure Object} (truthful : Truthful refuses)
    (named : workload.name.filter (· ≠ "") = some name)
    (served : cluster.serves workload.kindOf = some resource)
    (given : Answers refuses cluster (.getObject resource namespaceName name) answer next)
    (outcome : .ok resolution = namedOutcome resource answer) :
    next = cluster ∧ ((∃ found, Found workload namespaceName cluster resource found ∧
        workload.Gives resource resolution found) ∨
      ∃ scope, resolution = .forbidden scope ∧
        Refused ⟨.getObject resource namespaceName name, answer⟩) := by
  cases answer with
  | ok object =>
      obtain rfl := Except.ok.inj outcome
      exact ⟨given.2, .inl ⟨[object], found_named named served object given.1,
        .named object named⟩⟩
  | error failure =>
      refine ⟨given.2, ?_⟩
      simp only [namedOutcome] at outcome
      split at outcome
      · next gone =>
        obtain rfl := Except.ok.inj outcome
        rcases given.1 with ⟨-, absent⟩ | denied
        · exact .inl ⟨[], found_absent named served absent, .absent named⟩
        · simp [truthful.get _ _ _ _ denied] at gone
      · split at outcome
        · next denied => exact .inr ⟨.single, Except.ok.inj outcome, denied⟩
        · simp at outcome

/-- Listing finds whatever is selected, or is refused. -/
theorem got_listed {selector : LabelSelector} {query : Query} {answer : Except Failure (List Object)}
    (unnamed : workload.name.filter (· ≠ "") = none)
    (selecting : workload.selector = some selector) (formed : selector.query = .ok query)
    (served : cluster.serves workload.kindOf = some resource)
    (given : Answers refuses cluster (.listObjects resource namespaceName query.text) answer next)
    (outcome : .ok resolution = listedOutcome resource query answer) :
    next = cluster ∧ ((∃ found, Found workload namespaceName cluster resource found ∧
        workload.Gives resource resolution found) ∨
      ∃ scope, resolution = .forbidden scope ∧
        Refused ⟨.listObjects resource namespaceName query.text, answer⟩) := by
  cases answer with
  | ok listed =>
      obtain rfl := Except.ok.inj outcome
      exact ⟨given.2, .inl ⟨_, found_listed unnamed selecting formed served given.1,
        .selected _ unnamed⟩⟩
  | error failure =>
      refine ⟨given.2, .inr ?_⟩
      simp only [listedOutcome] at outcome
      split at outcome
      · next denied => exact ⟨.list, Except.ok.inj outcome, denied⟩
      · simp at outcome

/-- Looking workloads up finds what the cluster has when it is read, unless reading them is
refused. -/
theorem looked_up (resolution : WorkloadResolution)
    (run : Runs (resolveWorkloads namespaceName workload) exchanges (.ok resolution))
    (history : History refuses drift first exchanges last) (truthful : Truthful refuses)
    (serving : ∀ before after, drift before after → after.serves = before.serves) :
    ∃ middle, (middle = first ∨ drift first middle) ∧ drift middle last ∧
      ((∃ resource found, Found workload namespaceName middle resource found ∧
          workload.Gives resource resolution found) ∨
        ∃ scope, resolution = .forbidden scope ∧ ∃ exchange ∈ exchanges, Refused exchange) := by
  rcases runs_resolveWorkloads namespaceName workload exchanges _ run with
    ⟨failure, -, impossible⟩ | ⟨resource, rest, rfl, outcome⟩
  · simp at impossible
  obtain ⟨_, middle, ⟨served, rfl⟩, drifted, later⟩ := history
  have stillServed := (congrFun (serving _ _ drifted) _).trans served
  rcases outcome with ⟨name, answer, named, rfl, outcome⟩ | ⟨unnamed, unselective, rfl, outcome⟩ |
    ⟨selector, unnamed, selecting, ⟨failure, -, -, impossible⟩ |
      ⟨query, answer, formed, rfl, outcome⟩⟩
  · obtain ⟨_, third, given, moved, rfl⟩ := later
    obtain ⟨rfl, found | ⟨scope, same, denied⟩⟩ :=
      got_named truthful named stillServed given outcome
    · exact ⟨_, .inr drifted, moved, .inl ⟨resource, found⟩⟩
    · exact ⟨_, .inr drifted, moved, .inr ⟨scope, same, _,
        List.mem_cons_of_mem _ (List.mem_singleton_self _), denied⟩⟩
  · -- no call is made without a name and without a selector, so the first state is the one read
    rw [History] at later
    rw [← later] at drifted
    obtain rfl := Except.ok.inj outcome
    exact ⟨_, .inl rfl, drifted, .inl ⟨resource, [], found_nothing unnamed unselective served,
      .selected [] unnamed⟩⟩
  · simp at impossible
  · obtain ⟨_, third, given, moved, rfl⟩ := later
    obtain ⟨rfl, found | ⟨scope, same, denied⟩⟩ :=
      got_listed unnamed selecting formed stillServed given outcome
    · exact ⟨_, .inr drifted, moved, .inl ⟨resource, found⟩⟩
    · exact ⟨_, .inr drifted, moved, .inr ⟨scope, same, _,
        List.mem_cons_of_mem _ (List.mem_singleton_self _), denied⟩⟩

end Finding

end BindingOperator
