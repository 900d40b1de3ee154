import BindingOperator.Proofs.Dialogues
import BindingOperator.Proofs.Tables
import BindingOperator.Webhook.Admission
import BindingOperator.Webhook.Sync

/-!
The rules of a webhook against the bindings that they are made from. The kinds are observed
in the order of the bindings, looked up one after the other, and folded into groups; what
comes out tells nothing of that order: it is the one ascending list that covers the kinds
that the bindings ask for.
-/

namespace BindingOperator

section Observing

namespace ObservedKinds

theorem mem_observe (more kinds : List GroupVersionKind) (kind : GroupVersionKind) :
    kind ∈ observe kinds more ↔ kind ∈ kinds ∨ kind ∈ more := by
  induction more generalizing kinds with
  | nil => simp [observe]
  | cons first rest ih =>
      refine (ih (insert kinds first)).trans ?_
      rw [mem_insert, List.mem_cons, or_assoc]

end ObservedKinds

/-- The kinds that a binding asks an entry to intercept: its workload, and to be woken
also its service, unless that is the Secret itself. -/
def Binding.Asks (binding : Binding) (type : AdmissionType) (kind : GroupVersionKind) : Prop :=
  kind = binding.spec.workload.kindOf ∨
    (type = .validating ∧ binding.spec.service.isDirectSecret = false ∧
      kind = binding.spec.service.kindOf)

theorem mem_observed (type : AdmissionType) (bindings : List Binding) (kind : GroupVersionKind) :
    kind ∈ type.task.observe bindings ↔ ∃ binding ∈ bindings, binding.Asks type kind := by
  cases type with
  | mutating =>
      simp only [AdmissionType.task, ObservedKinds.forProjector, ObservedKinds.observeWorkloads,
        ObservedKinds.mem_observe, Binding.Asks, List.mem_map, List.not_mem_nil, false_or]
      constructor
      · rintro ⟨binding, member, rfl⟩
        exact ⟨binding, member, .inl rfl⟩
      · rintro ⟨binding, member, rfl | ⟨impossible, -⟩⟩
        · exact ⟨binding, member, rfl⟩
        · cases impossible
  | validating =>
      simp only [AdmissionType.task, ObservedKinds.forTrigger, ObservedKinds.observeServices,
        ObservedKinds.observeWorkloads, ObservedKinds.mem_observe, Binding.Asks, List.mem_map,
        List.mem_filter, List.not_mem_nil, false_or]
      constructor
      · rintro (⟨binding, member, rfl⟩ | ⟨binding, ⟨member, indirect⟩, rfl⟩)
        · exact ⟨binding, member, .inl rfl⟩
        · exact ⟨binding, member, .inr ⟨trivial, by simpa using indirect, rfl⟩⟩
      · rintro ⟨binding, member, rfl | ⟨-, indirect, rfl⟩⟩
        · exact .inl ⟨binding, member, rfl⟩
        · exact .inr ⟨binding, ⟨member, by simpa using indirect⟩, rfl⟩

end Observing

section Grouping

namespace WebhookRule

/-- Groups in ascending order, each with its own resources, in ascending order as well. -/
structure Grouped (resources : List (String × String)) (groups : Table NameSet) : Prop where
  ordered : Table.Ordered groups
  ascending : ∀ group set, Table.lookup group groups = some set → NameSet.Ascending set ∧ set ≠ []
  covered : ∀ group plural, plural ∈ (Table.lookup group groups).getD [] ↔
    (group, plural) ∈ resources

section Folding

variable {resources : List (String × String)} {groups : Table NameSet}

theorem grouped_nil : Grouped [] [] where
  ordered := trivial
  ascending := by simp
  covered := by simp

theorem Grouped.ascending_resources (grouped : Grouped resources groups) (group : String) :
    NameSet.Ascending ((Table.lookup group groups).getD []) := by
  cases found : Table.lookup group groups with
  | none => exact List.Pairwise.nil
  | some set => exact (grouped.ascending group set found).1

/-- One more resource joins its group, which may be a new one. -/
theorem Grouped.join (grouped : Grouped resources groups) (resource : String × String) :
    Grouped (resources ++ [resource]) (Table.insert resource.1
      (NameSet.insert resource.2 ((Table.lookup resource.1 groups).getD [])) groups) := by
  obtain ⟨group, plural⟩ := resource
  constructor
  case ordered => exact Table.ordered_insert _ _ groups grouped.ordered
  case ascending =>
    intro other set found
    rw [Table.lookup_insert] at found
    split at found
    · obtain rfl := Option.some.inj found
      exact ⟨NameSet.ascending_insert plural _ (grouped.ascending_resources group),
        List.ne_nil_of_mem ((NameSet.mem_insert plural plural _).mpr (.inl rfl))⟩
    · exact grouped.ascending other set found
  case covered =>
    intro other name
    rw [Table.lookup_insert, List.mem_append, List.mem_singleton, Prod.mk.injEq, ← grouped.covered]
    by_cases same : other = group
    · subst same
      simp [NameSet.mem_insert, or_comm]
    · simp [same]

theorem grouped_foldl (grouped : Grouped resources groups) (more : List (String × String)) :
    Grouped (resources ++ more) (more.foldl (fun groups resource => Table.insert resource.1
      (NameSet.insert resource.2 ((Table.lookup resource.1 groups).getD [])) groups) groups) := by
  induction more generalizing resources groups with
  | nil => simpa using grouped
  | cons resource rest ih => simpa using ih (grouped.join resource)

theorem grouped_groupResources (resources : List (String × String)) :
    Grouped resources (groupResources resources) :=
  grouped_foldl grouped_nil resources

theorem Grouped.lookup_eq_none (grouped : Grouped resources groups) (group : String) :
    Table.lookup group groups = none ↔ ∀ plural, (group, plural) ∉ resources := by
  simp only [← grouped.covered]
  cases found : Table.lookup group groups with
  | none => simp
  | some set => simpa [List.eq_nil_iff_forall_not_mem] using (grouped.ascending group set found).2

/-- Which group holds which resource decides the groups. -/
theorem Grouped.unique {others : List (String × String)} {otherGroups : Table NameSet}
    (first : Grouped resources groups) (second : Grouped others otherGroups)
    (same : ∀ resource, resource ∈ resources ↔ resource ∈ others) : groups = otherGroups := by
  refine Table.ext _ _ first.ordered second.ordered fun group => ?_
  have sets : (Table.lookup group groups).getD [] = (Table.lookup group otherGroups).getD [] :=
    NameSet.ext _ _ (first.ascending_resources group) (second.ascending_resources group)
      fun plural => by rw [first.covered, second.covered, same]
  have missing := (first.lookup_eq_none group).trans
    ((forall_congr' fun plural => not_congr (same (group, plural))).trans
      (second.lookup_eq_none group).symm)
  cases found : Table.lookup group groups with
  | none => rw [missing.mp found]
  | some set =>
      cases other : Table.lookup group otherGroups with
      | none => rw [missing.mpr other] at found; cases found
      | some twin => simpa [found, other] using sets

end Folding

end WebhookRule

end Grouping

section Resolving

variable (answer : (call : WebhookCall) → call.Answer)

/-- What the kinds are found as when every call is answered in that way. -/
def resolved (kinds : List GroupVersionKind) : Except Failure (List (String × String)) :=
  Dialogue.run (m := Id) answer (resolveResources kinds)

/-- The rules that come out when every call is answered in that way. -/
def synthesized (type : AdmissionType) (operations : List String) (bindings : List Binding) :
    Except Failure (List WebhookRule) :=
  Dialogue.run (m := Id) answer (webhookRules (type.task.observe bindings) operations)

/-- What comes next is told by what was answered before. -/
theorem run_after {α β : Type} (first : WebhookTalk α) (next : α → WebhookTalk β) {value : α}
    (read : Dialogue.run (m := Id) answer first = value) :
    Dialogue.run (m := Id) answer (first >>= next) = Dialogue.run (m := Id) answer (next value) := by
  rw [← read]
  exact Dialogue.run_bind answer first next

theorem resolved_cons (kind : GroupVersionKind) (rest : List GroupVersionKind) :
    resolved answer (kind :: rest) = (answer (.resolve kind) >>= fun resource =>
      resolved answer rest >>= fun more => .ok ((resource.group, resource.plural) :: more)) := by
  cases here : answer (.resolve kind) with
  | error failure => exact run_after answer (WebhookTalk.resolve kind) _ here
  | ok resource =>
      refine (run_after answer (WebhookTalk.resolve kind) _ here).trans ?_
      cases later : resolved answer rest with
      | error failure => exact run_after answer (resolveResources rest) _ later
      | ok more => exact run_after answer (resolveResources rest) _ later

theorem synthesized_eq (type : AdmissionType) (operations : List String)
    (bindings : List Binding) :
    synthesized answer type operations bindings =
      (resolved answer (type.task.observe bindings)).map (WebhookRule.merge operations) := by
  cases read : resolved answer (type.task.observe bindings) with
  | error failure => exact run_after answer (resolveResources _) _ read
  | ok resources => exact run_after answer (resolveResources _) _ read

theorem resolved_of_found (kinds : List GroupVersionKind)
    (found : ∀ kind ∈ kinds, ∃ resource, answer (.resolve kind) = .ok resource) :
    ∃ resources, resolved answer kinds = .ok resources := by
  induction kinds with
  | nil => exact ⟨[], rfl⟩
  | cons kind rest ih =>
      obtain ⟨resource, here⟩ := found kind List.mem_cons_self
      obtain ⟨more, later⟩ := ih fun other member => found other (List.mem_cons_of_mem kind member)
      exact ⟨(resource.group, resource.plural) :: more, by rw [resolved_cons, here, later]; rfl⟩

/-- All kinds were found, each under the name that the answer gives. -/
theorem found_of_resolved (kinds : List GroupVersionKind) (resources : List (String × String))
    (done : resolved answer kinds = .ok resources) :
    (∀ kind ∈ kinds, ∃ resource, answer (.resolve kind) = .ok resource) ∧
      ∀ named, named ∈ resources ↔ ∃ kind ∈ kinds, ∃ resource,
        answer (.resolve kind) = .ok resource ∧ named = (resource.group, resource.plural) := by
  induction kinds generalizing resources with
  | nil =>
      obtain rfl : [] = resources := Except.ok.inj done
      exact ⟨by simp, by simp⟩
  | cons kind rest ih =>
      rw [resolved_cons] at done
      cases here : answer (.resolve kind) with
      | error failure =>
          rw [here] at done
          cases done
      | ok resource =>
          cases later : resolved answer rest with
          | error failure =>
              rw [here, later] at done
              cases done
          | ok more =>
              rw [here, later] at done
              obtain rfl : (resource.group, resource.plural) :: more = resources :=
                Except.ok.inj done
              obtain ⟨found, names⟩ := ih more later
              refine ⟨List.forall_mem_cons.mpr ⟨⟨resource, here⟩, found⟩, fun named => ?_⟩
              simp [names, here]

end Resolving

section Rules

/-- Whether a rule lists a group and a resource. -/
def WebhookRule.Covers (rule : WebhookRule) (group resource : String) : Prop :=
  (∃ groups, rule.apiGroups = some groups ∧ group ∈ groups) ∧
    ∃ resources, rule.resources = some resources ∧ resource ∈ resources

/-- The rules say what the bindings ask for and nothing else, in the one ascending form. -/
structure Exact (type : AdmissionType) (plural : String → String → String)
    (operations : List String) (bindings : List Binding) (rules : List WebhookRule) : Prop where
  shape : ∀ rule ∈ rules, ∃ group resources, resources.Pairwise (· < ·) ∧ rule =
    { apiGroups := some [group], apiVersions := some ["*"], operations := some operations
      resources := some resources, scope := none }
  groups : ∃ groups : List String, rules.map WebhookRule.apiGroups = groups.map (some [·]) ∧
    groups.Pairwise (· < ·) ∧
    ∀ group, group ∈ groups ↔
      ∃ binding ∈ bindings, ∃ kind, binding.Asks type kind ∧ kind.group = group
  covers : ∀ group resource, (∃ rule ∈ rules, rule.Covers group resource) ↔
    ∃ binding ∈ bindings, ∃ kind, binding.Asks type kind ∧ kind.group = group ∧
      plural group kind.kind = resource
  /-- A workload that a binding targets is intercepted, whatever its version. -/
  workloads : ∀ binding ∈ bindings, ∀ (kind : GroupVersionKind) (object : Object),
    binding.spec.workload.targets kind object = true →
    ∃ rule ∈ rules, rule.Covers kind.group (plural kind.group kind.kind)
  services : type = .validating → ∀ binding ∈ bindings,
    binding.spec.service.isDirectSecret = false → ∀ (kind : GroupVersionKind) (object : Object),
    binding.spec.service.targets kind object = true →
    ∃ rule ∈ rules, rule.Covers kind.group (plural kind.group kind.kind)

theorem covers_merge (operations : List String) (resources : List (String × String))
    (group resource : String) :
    (∃ rule ∈ WebhookRule.merge operations resources, rule.Covers group resource) ↔
      (group, resource) ∈ resources := by
  have grouped := WebhookRule.grouped_groupResources resources
  rw [← grouped.covered]
  simp only [WebhookRule.merge, List.mem_map, exists_exists_and_eq_and, WebhookRule.Covers,
    Option.some.injEq, exists_eq_left', List.mem_singleton]
  constructor
  · rintro ⟨⟨name, set⟩, member, rfl, inside⟩
    rwa [Table.lookup_of_mem _ grouped.ordered group set member]
  · intro inside
    cases found : Table.lookup group (WebhookRule.groupResources resources) with
    | none => simp [found] at inside
    | some set =>
        exact ⟨(group, set), Table.mem_of_lookup _ _ _ found, rfl, by simpa [found] using inside⟩

theorem groups_merge (operations : List String) (resources : List (String × String)) :
    ∃ groups : List String, (WebhookRule.merge operations resources).map WebhookRule.apiGroups =
        groups.map (fun group => some [group]) ∧ groups.Pairwise (· < ·) ∧
      ∀ group, group ∈ groups ↔ ∃ plural, (group, plural) ∈ resources := by
  have grouped := WebhookRule.grouped_groupResources resources
  refine ⟨(WebhookRule.groupResources resources).map Prod.fst, ?_,
    (Table.ordered_iff_keys _).mp grouped.ordered, fun group => ?_⟩
  · simp [WebhookRule.merge, Function.comp_def]
  · have missing := grouped.lookup_eq_none group
    constructor
    · intro member
      obtain ⟨⟨name, set⟩, entry, rfl⟩ := List.mem_map.mp member
      have found := Table.lookup_of_mem _ grouped.ordered name set entry
      by_contra absent
      rw [not_exists, ← missing, found] at absent
      cases absent
    · rintro ⟨plural, mentioned⟩
      cases found : Table.lookup group (WebhookRule.groupResources resources) with
      | none => exact absurd mentioned (missing.mp found plural)
      | some set => exact List.mem_map_of_mem (Table.mem_of_lookup _ _ _ found)

theorem shape_merge (operations : List String) (resources : List (String × String)) :
    ∀ rule ∈ WebhookRule.merge operations resources, ∃ group set, set.Pairwise (· < ·) ∧ rule =
      { apiGroups := some [group], apiVersions := some ["*"], operations := some operations
        resources := some set, scope := none } := by
  have grouped := WebhookRule.grouped_groupResources resources
  intro rule member
  obtain ⟨⟨group, set⟩, entry, rfl⟩ := List.mem_map.mp member
  exact ⟨group, set, (grouped.ascending group set
    (Table.lookup_of_mem _ grouped.ordered group set entry)).1, rfl⟩

theorem WorkloadReference.kind_of_targets (reference : WorkloadReference) (kind : GroupVersionKind)
    (object : Object) (targets : reference.targets kind object = true) :
    reference.kindOf.group = kind.group ∧ reference.kindOf.kind = kind.kind := by
  simp only [WorkloadReference.targets, Bool.and_eq_true, decide_eq_true_eq] at targets
  exact targets.1

theorem ServiceReference.kind_of_targets (reference : ServiceReference) (kind : GroupVersionKind)
    (object : Object) (targets : reference.targets kind object = true) :
    reference.kindOf.group = kind.group ∧ reference.kindOf.kind = kind.kind := by
  simp only [ServiceReference.targets, Bool.and_eq_true, decide_eq_true_eq] at targets
  exact targets.1

variable {answer : (call : WebhookCall) → call.Answer} {plural : String → String → String}

/-- What is resolved are the groups and plurals of the kinds that bindings ask for. -/
theorem mem_resolved
    (group : ∀ kind resource, answer (.resolve kind) = .ok resource → resource.group = kind.group)
    (named : ∀ kind resource, answer (.resolve kind) = .ok resource →
      resource.plural = plural kind.group kind.kind)
    (type : AdmissionType) (bindings : List Binding) (resources : List (String × String))
    (done : resolved answer (type.task.observe bindings) = .ok resources)
    (first second : String) :
    (first, second) ∈ resources ↔
      ∃ binding ∈ bindings, ∃ kind, binding.Asks type kind ∧ kind.group = first ∧
        plural first kind.kind = second := by
  obtain ⟨found, names⟩ := found_of_resolved answer _ resources done
  rw [names]
  constructor
  · rintro ⟨kind, observed, resource, answered, same⟩
    obtain ⟨rfl, rfl⟩ := Prod.mk.inj same
    obtain ⟨binding, member, asks⟩ := (mem_observed type bindings kind).mp observed
    refine ⟨binding, member, kind, asks, (group kind resource answered).symm, ?_⟩
    rw [named kind resource answered, group kind resource answered]
  · rintro ⟨binding, member, kind, asks, rfl, rfl⟩
    have observed := (mem_observed type bindings kind).mpr ⟨binding, member, asks⟩
    obtain ⟨resource, answered⟩ := found kind observed
    exact ⟨kind, observed, resource, answered,
      by rw [group kind resource answered, named kind resource answered]⟩

/-- Kinds that are found by their group and kind only make rules that say so. -/
theorem exact_merge
    (group : ∀ kind resource, answer (.resolve kind) = .ok resource → resource.group = kind.group)
    (named : ∀ kind resource, answer (.resolve kind) = .ok resource →
      resource.plural = plural kind.group kind.kind)
    (type : AdmissionType) (operations : List String) (bindings : List Binding)
    (resources : List (String × String))
    (done : resolved answer (type.task.observe bindings) = .ok resources) :
    Exact type plural operations bindings (WebhookRule.merge operations resources) := by
  have mentioned := mem_resolved group named type bindings resources done
  have covers : ∀ first second,
      (∃ rule ∈ WebhookRule.merge operations resources, rule.Covers first second) ↔
        ∃ binding ∈ bindings, ∃ kind, binding.Asks type kind ∧ kind.group = first ∧
          plural first kind.kind = second := fun first second =>
    (covers_merge operations resources first second).trans (mentioned first second)
  constructor
  case shape => exact shape_merge operations resources
  case groups =>
    obtain ⟨groups, rules, ascending, members⟩ := groups_merge operations resources
    refine ⟨groups, rules, ascending, fun first => (members first).trans ?_⟩
    simp only [mentioned]
    constructor
    · rintro ⟨_, binding, member, kind, asks, same, -⟩
      exact ⟨binding, member, kind, asks, same⟩
    · rintro ⟨binding, member, kind, asks, same⟩
      exact ⟨_, binding, member, kind, asks, same, rfl⟩
  case covers => exact covers
  case workloads =>
    intro binding member kind object targets
    obtain ⟨sameGroup, sameKind⟩ := WorkloadReference.kind_of_targets _ kind object targets
    exact (covers _ _).mpr ⟨binding, member, _, .inl rfl, sameGroup, by rw [sameKind]⟩
  case services =>
    intro waking binding member indirect kind object targets
    obtain ⟨sameGroup, sameKind⟩ := ServiceReference.kind_of_targets _ kind object targets
    exact (covers _ _).mpr
      ⟨binding, member, _, .inr ⟨waking, indirect, rfl⟩, sameGroup, by rw [sameKind]⟩

end Rules

/-- Rules are made exactly when every kind that is asked for is found. They are exact, and
other bindings that are the same up to order and repetition have the same rules. -/
theorem synthesized_exact (answer : (call : WebhookCall) → call.Answer)
    (plural : String → String → String)
    (group : ∀ kind resource, answer (.resolve kind) = .ok resource → resource.group = kind.group)
    (named : ∀ kind resource, answer (.resolve kind) = .ok resource →
      resource.plural = plural kind.group kind.kind)
    (type : AdmissionType) (operations : List String) (bindings : List Binding) :
    ((∃ rules, synthesized answer type operations bindings = .ok rules) ↔
      ∀ binding ∈ bindings, ∀ kind, binding.Asks type kind →
        ∃ resource, answer (.resolve kind) = .ok resource) ∧
    ∀ rules, synthesized answer type operations bindings = .ok rules →
      Exact type plural operations bindings rules ∧
      ∀ others : List Binding, (∀ binding, binding ∈ others ↔ binding ∈ bindings) →
        synthesized answer type operations others = .ok rules := by
  have taken : ∀ bindings rules, synthesized answer type operations bindings = .ok rules →
      ∃ resources, resolved answer (type.task.observe bindings) = .ok resources ∧
        rules = WebhookRule.merge operations resources := by
    intro bindings rules made
    rw [synthesized_eq] at made
    cases done : resolved answer (type.task.observe bindings) with
    | error failure =>
        rw [done] at made
        cases made
    | ok resources =>
        rw [done] at made
        exact ⟨resources, rfl, (Except.ok.inj made).symm⟩
  constructor
  · constructor
    · rintro ⟨rules, made⟩ binding member kind asks
      obtain ⟨resources, done, -⟩ := taken bindings rules made
      exact (found_of_resolved answer _ resources done).1 kind
        ((mem_observed type bindings kind).mpr ⟨binding, member, asks⟩)
    · intro found
      obtain ⟨resources, done⟩ := resolved_of_found answer (type.task.observe bindings)
        fun kind observed => by
          obtain ⟨binding, member, asks⟩ := (mem_observed type bindings kind).mp observed
          exact found binding member kind asks
      exact ⟨WebhookRule.merge operations resources, by rw [synthesized_eq, done]; rfl⟩
  · intro rules made
    obtain ⟨resources, done, rfl⟩ := taken bindings rules made
    refine ⟨exact_merge group named type operations bindings resources done, fun others same => ?_⟩
    have kinds : ∀ kind, kind ∈ type.task.observe others ↔ kind ∈ type.task.observe bindings := by
      simp [mem_observed, same]
    obtain ⟨found, names⟩ := found_of_resolved answer _ resources done
    obtain ⟨again, redone⟩ := resolved_of_found answer (type.task.observe others)
      fun kind observed => found kind ((kinds kind).mp observed)
    have sameNames : ∀ resource, resource ∈ again ↔ resource ∈ resources := fun resource => by
      rw [(found_of_resolved answer _ again redone).2, names]
      simp only [kinds]
    have sameGroups := (WebhookRule.grouped_groupResources again).unique
      (WebhookRule.grouped_groupResources resources) sameNames
    rw [synthesized_eq, redone]
    exact congrArg Except.ok (by rw [WebhookRule.merge, WebhookRule.merge, sameGroups])

section Sample

/-- A cluster that serves every kind under its regular plural. -/
def servesAll : (call : WebhookCall) → call.Answer
  | .resolve kind => .ok (kind.resource (kind.kind ++ "s"))
  | .listBindings => .ok []
  | .replaceConfiguration config => .ok config
  | .publish .. => ()

/-- A binding whose workload and service are of kinds that share a group. -/
def claimingBinding (name kind : String) : Binding where
  metadata := { name := some name }
  spec := {
    workload := { apiVersion := "apps/v1", kind, name := some "web" }
    service := { apiVersion := "apps/v1beta1", kind := "Database", name := "db" } }

theorem synthesized_exact_repeated :
    (∀ kind resource, servesAll (.resolve kind) = .ok resource → resource.group = kind.group) ∧
    (∀ kind resource, servesAll (.resolve kind) = .ok resource →
      resource.plural = kind.kind ++ "s") ∧
    ∃ rules, synthesized servesAll .validating triggerOperations
        [claimingBinding "a" "Deployment", claimingBinding "b" "DaemonSet"] = .ok rules ∧
      Exact .validating (fun _ kind => kind ++ "s") triggerOperations
        [claimingBinding "a" "Deployment", claimingBinding "b" "DaemonSet"] rules ∧
      synthesized servesAll .validating triggerOperations
        [claimingBinding "b" "DaemonSet", claimingBinding "a" "Deployment",
          claimingBinding "b" "DaemonSet"] = .ok rules := by
  have group : ∀ kind resource, servesAll (.resolve kind) = .ok resource →
      resource.group = kind.group := by
    rintro kind resource ⟨⟩
    rfl
  have named : ∀ kind resource, servesAll (.resolve kind) = .ok resource →
      resource.plural = kind.kind ++ "s" := by
    rintro kind resource ⟨⟩
    rfl
  obtain ⟨possible, told⟩ := synthesized_exact servesAll (fun _ kind => kind ++ "s") group named
    .validating triggerOperations
    [claimingBinding "a" "Deployment", claimingBinding "b" "DaemonSet"]
  obtain ⟨rules, made⟩ := possible.mpr fun _ _ kind _ => ⟨kind.resource (kind.kind ++ "s"), rfl⟩
  refine ⟨group, named, rules, made, (told rules made).1, (told rules made).2 _ fun binding => ?_⟩
  simp only [List.mem_cons, List.not_mem_nil, or_false]
  exact ⟨fun either => either.elim .inr id, fun either => either.elim (.inr ∘ .inl) .inl⟩

end Sample

end BindingOperator
