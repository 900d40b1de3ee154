import BindingOperator.Proofs.Matching
import BindingOperator.Proofs.Tables

/-!
What a reference selects, told by the reference alone. A selector is turned into a query, the
server may answer the query with more than was asked for, and the query is evaluated again
over what it lists. Through all of this every label and every expression of the selector is
kept: an expression that asks for nothing refuses the whole selector before any list is asked
for.
-/

namespace BindingOperator

open Dialogue

section Expressions

namespace LabelExpression

/-- Expressions that compare the value of a key. -/
def Compares (expression : LabelExpression) : Prop :=
  expression.operator = "In" ∨ expression.operator = "NotIn"

instance (expression : LabelExpression) : Decidable expression.Compares :=
  inferInstanceAs (Decidable (_ ∨ _))

def WellFormed (expression : LabelExpression) : Prop :=
  (expression.Compares ∧ expression.values ≠ []) ∨
    expression.operator = "Exists" ∨ expression.operator = "DoesNotExist"

/-- What is wrong with an expression that is not well formed. -/
def fault (expression : LabelExpression) : SelectorFault :=
  if expression.Compares then .noValues else .unknownOperator

/-- Whether labels satisfy an expression, by its operator. -/
def admits (labels : Table String) (expression : LabelExpression) : Bool :=
  match expression.operator with
  | "In" => expression.values.any fun value => Table.lookup expression.key labels = some value
  | "NotIn" => expression.values.all fun value => Table.lookup expression.key labels ≠ some value
  | "Exists" => Table.has expression.key labels
  | "DoesNotExist" => !Table.has expression.key labels
  | _ => false

/-- An expression that asks that a key be missing, or be none of some values, is satisfied by
labels without the key. -/
theorem admits_missing (labels : Table String) (expression : LabelExpression)
    (missing : Table.lookup expression.key labels = none)
    (negative : expression.operator = "NotIn" ∨ expression.operator = "DoesNotExist") :
    expression.admits labels = true := by
  rcases negative with notIn | absent
  · simp [admits, notIn, missing]
  · simp [admits, absent, Table.has, missing]

theorem holds_isIn (labels : Table String) (key : String) (values : List String) :
    (Requirement.isIn key (NameSet.ofNames values)).holds labels =
      admits labels ⟨key, "In", values⟩ := by
  rw [Bool.eq_iff_iff]
  cases found : Table.lookup key labels with
  | none => simp [Requirement.holds, admits, found]
  | some value => simp [Requirement.holds, admits, found, NameSet.mem_ofNames]

theorem holds_notIn (labels : Table String) (key : String) (values : List String) :
    (Requirement.notIn key (NameSet.ofNames values)).holds labels =
      admits labels ⟨key, "NotIn", values⟩ := by
  rw [Bool.eq_iff_iff]
  cases found : Table.lookup key labels with
  | none => simp [Requirement.holds, admits, found]
  | some value => simp [Requirement.holds, admits, found, NameSet.mem_ofNames, List.forall_mem_ne]

/-- A requirement asks for exactly what an expression says. -/
def AskedBy (expression : LabelExpression) (requirement : Requirement) : Prop :=
  ∀ labels, requirement.holds labels = expression.admits labels

/-- An expression is a requirement exactly when it is well formed. -/
theorem requirement_cases (expression : LabelExpression) :
    (expression.WellFormed ∧ ∃ requirement, expression.requirement = .ok requirement ∧
        expression.AskedBy requirement) ∨
      (¬ expression.WellFormed ∧ expression.requirement = .error expression.fault) := by
  obtain ⟨key, operator, values⟩ := expression
  by_cases isIn : operator = "In"
  · subst isIn
    by_cases empty : values = []
    · exact .inr ⟨by simp [WellFormed, empty], by simp [requirement, fault, Compares, empty]⟩
    · exact .inl ⟨by simp [WellFormed, Compares, empty], _, by simp [requirement, empty],
        fun labels => holds_isIn labels key values⟩
  by_cases notIn : operator = "NotIn"
  · subst notIn
    by_cases empty : values = []
    · exact .inr ⟨by simp [WellFormed, empty], by simp [requirement, fault, Compares, empty]⟩
    · exact .inl ⟨by simp [WellFormed, Compares, empty], _, by simp [requirement, empty],
        fun labels => holds_notIn labels key values⟩
  by_cases present : operator = "Exists"
  · subst present
    exact .inl ⟨by simp [WellFormed], .present key, by simp [requirement], fun labels => rfl⟩
  by_cases absent : operator = "DoesNotExist"
  · subst absent
    exact .inl ⟨by simp [WellFormed], .absent key, by simp [requirement], fun labels => rfl⟩
  · exact .inr ⟨by simp [WellFormed, Compares, isIn, notIn, present, absent],
      by simp [requirement, fault, Compares, isIn, notIn, present, absent]⟩

end LabelExpression

end Expressions

section Selectors

/-- A list of expressions is a list of requirements, one for each and in order, unless some
expression is ill formed; then the first that is gives the fault. -/
theorem requirements_cases (expressions : List LabelExpression) :
    ((∀ expression ∈ expressions, expression.WellFormed) ∧
        ∃ query, LabelSelector.requirements expressions = .ok query ∧
          List.Forall₂ LabelExpression.AskedBy expressions query) ∨
      ∃ earlier expression later, expressions = earlier ++ expression :: later ∧
        (∀ other ∈ earlier, other.WellFormed) ∧ ¬ expression.WellFormed ∧
        LabelSelector.requirements expressions = .error expression.fault := by
  induction expressions with
  | nil => exact .inl ⟨by simp, [], rfl, .nil⟩
  | cons expression rest ih =>
      rcases expression.requirement_cases with ⟨formed, requirement, asked, means⟩ | ⟨ill, refused⟩
      · rcases ih with ⟨every, query, ok, each⟩ | ⟨earlier, first, later, rfl, before, ill, failed⟩
        · exact .inl ⟨List.forall_mem_cons.mpr ⟨formed, every⟩, requirement :: query,
            by simp only [LabelSelector.requirements, asked, ok], .cons means each⟩
        · exact .inr ⟨expression :: earlier, first, later, rfl,
            List.forall_mem_cons.mpr ⟨formed, before⟩, ill,
            by simp only [LabelSelector.requirements, asked, failed]⟩
      · exact .inr ⟨[], expression, rest, rfl, by simp, ill,
          by simp only [LabelSelector.requirements, refused]⟩

theorem all_asked (labels : Table String) {expressions : List LabelExpression} {query : Query}
    (each : List.Forall₂ LabelExpression.AskedBy expressions query) :
    query.all (Requirement.holds labels) = expressions.all (LabelExpression.admits labels) := by
  induction each with
  | nil => rfl
  | cons means _ ih => rw [List.all_cons, List.all_cons, means labels, ih]

namespace LabelSelector

def admits (labels : Table String) (selector : LabelSelector) : Bool :=
  (selector.matchLabels.all fun label => Table.lookup label.1 labels = some label.2) &&
    selector.matchExpressions.all (LabelExpression.admits labels)

/-- A query asks for every label and for every expression of a selector, and for no more. -/
def AskedBy (selector : LabelSelector) (query : Query) : Prop :=
  ∃ requirements, List.Forall₂ LabelExpression.AskedBy selector.matchExpressions requirements ∧
    query = selector.matchLabels.map (fun label => .equals label.1 label.2) ++ requirements

theorem AskedBy.selects {selector : LabelSelector} {query : Query} (asked : selector.AskedBy query)
    (labels : Table String) : query.selects labels = selector.admits labels := by
  obtain ⟨requirements, each, rfl⟩ := asked
  rw [Query.selects, List.all_append, List.all_map, all_asked labels each]
  rfl

/-- The first expression of a selector that is not well formed. -/
def Faulty (selector : LabelSelector) (expression : LabelExpression) : Prop :=
  ∃ earlier later, selector.matchExpressions = earlier ++ expression :: later ∧
    (∀ other ∈ earlier, other.WellFormed) ∧ ¬ expression.WellFormed

theorem query_cases (selector : LabelSelector) :
    ((∀ expression ∈ selector.matchExpressions, expression.WellFormed) ∧
        ∃ query, selector.query = .ok query ∧ selector.AskedBy query) ∨
      ∃ expression, selector.Faulty expression ∧
        selector.query = .error expression.fault.failure := by
  rcases requirements_cases selector.matchExpressions with
    ⟨every, requirements, ok, each⟩ | ⟨earlier, expression, later, cut, before, ill, failed⟩
  · exact .inl ⟨every, _, by simp only [query, ok], requirements, each, rfl⟩
  · exact .inr ⟨expression, ⟨earlier, later, cut, before, ill⟩, by simp only [query, failed]⟩

end LabelSelector

end Selectors

section Lookups

/-- What a cluster that refuses nothing answers to what a lookup reads. What a list has besides
what was asked for is left open. -/
def Cluster.Informs (cluster : Cluster) : Exchange BindingCall.Answer → Prop
  | ⟨.resolve kind, answer⟩ =>
      ∃ resource, cluster.serves kind = some resource ∧ answer = .ok resource
  | ⟨.getObject resource namespaceName name, .ok object⟩ =>
      cluster.objects ⟨resource, namespaceName, name⟩ = some object
  | ⟨.getObject resource namespaceName name, .error failure⟩ =>
      cluster.objects ⟨resource, namespaceName, name⟩ = none ∧ failure.isNotFound = true
  | ⟨.listObjects _ _ _, answer⟩ => ∃ listed, answer = .ok listed
  | _ => True

/-- What looking up a reference says to a cluster, and what it finds there. -/
inductive Lookup (reference : WorkloadReference) (namespaceName : String) (cluster : Cluster)
    (resource : Resource) : Talk → Except Failure WorkloadResolution → Prop where
  | present {name object} (named : reference.name.filter (· ≠ "") = some name)
      (stored : cluster.objects ⟨resource, namespaceName, name⟩ = some object) :
      Lookup reference namespaceName cluster resource
        [⟨.resolve reference.kindOf, .ok resource⟩,
          ⟨.getObject resource namespaceName name, .ok object⟩]
        (.ok (.resolved resource [object]))
  | absent {name failure} (named : reference.name.filter (· ≠ "") = some name)
      (missing : cluster.objects ⟨resource, namespaceName, name⟩ = none) :
      Lookup reference namespaceName cluster resource
        [⟨.resolve reference.kindOf, .ok resource⟩,
          ⟨.getObject resource namespaceName name, .error failure⟩]
        (.ok .notFound)
  /-- Where the server lists at least what the query selects, in its order, nothing that the
  selector admits is lost. -/
  | selected {selector query listed} (unnamed : reference.name.filter (· ≠ "") = none)
      (selecting : reference.selector = some selector)
      (formed : ∀ expression ∈ selector.matchExpressions, expression.WellFormed)
      (asked : selector.AskedBy query)
      (whole : ∀ stored : List Object,
        (stored.filter fun object => query.selects object.labels).Sublist listed →
          (stored.filter fun object => selector.admits object.labels).Sublist
            (listed.filter fun object => selector.admits object.labels)) :
      Lookup reference namespaceName cluster resource
        [⟨.resolve reference.kindOf, .ok resource⟩,
          ⟨.listObjects resource namespaceName query.text, .ok listed⟩]
        (.ok (.resolved resource (listed.filter fun object => selector.admits object.labels)))
  | malformed {selector expression} (unnamed : reference.name.filter (· ≠ "") = none)
      (selecting : reference.selector = some selector) (faulty : selector.Faulty expression) :
      Lookup reference namespaceName cluster resource
        [⟨.resolve reference.kindOf, .ok resource⟩]
        (.error (.internal ("invalid label selector: failed to parse value as expression: " ++
          expression.fault.message)))
  | unselective (unnamed : reference.name.filter (· ≠ "") = none)
      (unasked : reference.selector = none) :
      Lookup reference namespaceName cluster resource
        [⟨.resolve reference.kindOf, .ok resource⟩] (.ok (.resolved resource []))

/-- A lookup finds exactly what the reference says: the object of its name, else the listed
objects that its selector admits, else nothing. A selector with an ill-formed expression is
refused before any list is asked for. -/
theorem lookup_exact (reference : WorkloadReference) (namespaceName : String) (cluster : Cluster)
    (resource : Resource) (exchanges : Talk) (outcome : Except Failure WorkloadResolution)
    (served : cluster.serves reference.kindOf = some resource)
    (informed : ∀ exchange ∈ exchanges, cluster.Informs exchange)
    (run : Runs (resolveWorkloads namespaceName reference) exchanges outcome) :
    Lookup reference namespaceName cluster resource exchanges outcome := by
  rcases runs_resolveWorkloads namespaceName reference exchanges outcome run with
    ⟨failure, rfl, rfl⟩ | ⟨other, rest, rfl, after⟩
  · obtain ⟨other, -, impossible⟩ := informed _ List.mem_cons_self
    cases impossible
  obtain ⟨found, known, same⟩ := informed _ List.mem_cons_self
  obtain rfl : other = resource := by
    rw [served, Option.some.injEq] at known
    rw [known]
    exact Except.ok.inj same
  rcases after with ⟨name, answer, named, rfl, rfl⟩ | ⟨unnamed, unasked, rfl, rfl⟩ |
    ⟨selector, unnamed, selecting, after⟩
  · have told := informed _ (List.mem_cons_of_mem _ (List.mem_singleton.mpr rfl))
    cases answer with
    | ok object => exact .present named told
    | error failure =>
        rw [namedOutcome, if_pos told.2]
        exact .absent named told.1
  · exact .unselective unnamed unasked
  rcases selector.query_cases with ⟨formed, query, ok, asked⟩ | ⟨expression, faulty, failed⟩
  · rcases after with ⟨failure, impossible, -⟩ | ⟨asking, answer, formed', rfl, rfl⟩
    · rw [ok] at impossible
      cases impossible
    obtain rfl : query = asking := Except.ok.inj (ok.symm.trans formed')
    obtain ⟨listed, rfl⟩ := informed _ (List.mem_cons_of_mem _ (List.mem_singleton.mpr rfl))
    simp only [listedOutcome, asked.selects]
    refine .selected unnamed selecting formed asked fun stored within => ?_
    have again := within.filter fun object => selector.admits object.labels
    simpa only [asked.selects, List.filter_filter, Bool.and_self] using again
  · rcases after with ⟨failure, refused, rfl, rfl⟩ | ⟨asking, answer, impossible, -⟩
    · obtain rfl : expression.fault.failure = failure :=
        Except.error.inj (failed.symm.trans refused)
      exact .malformed unnamed selecting faulty
    · rw [failed] at impossible
      cases impossible

end Lookups

section Sample

/-- A reference to the deployments of the shop that are no database and no canary. -/
def servingReference : WorkloadReference where
  apiVersion := "apps/v1"
  kind := "Deployment"
  selector := some {
    matchLabels := [("app", "shop")]
    matchExpressions := [{ key := "tier", operator := "NotIn", values := ["db"] },
      { key := "canary", operator := "DoesNotExist", values := [] }] }

/-- A database of the shop, which a server that reads labels only lists as well. -/
def databaseWorkload : Object where
  metadata := {
    name := some "db"
    namespaceName := some "default"
    labels := some [("app", "shop"), ("tier", "db")] }

def servingTalk : Talk :=
  [⟨.resolve servingReference.kindOf, .ok shopResource⟩,
    ⟨.listObjects shopResource "default" "app=shop,tier notin (db),!canary",
      .ok [databaseWorkload, shopWorkload]⟩]

/-- Of the two deployments that are listed the one without a tier is found. -/
theorem serving_lookup_exact :
    Lookup servingReference "default" shopCluster shopResource servingTalk
      (.ok (.resolved shopResource [shopWorkload])) := by
  apply lookup_exact
  · rfl
  · intro exchange member
    rcases List.mem_cons.mp member with rfl | last
    · exact ⟨shopResource, rfl, rfl⟩
    · rw [List.mem_singleton.mp last]
      exact ⟨_, rfl⟩
  · exact .ask _ _ _ _ _ (.ask _ _ _ _ _ (.done _))

end Sample

end BindingOperator
