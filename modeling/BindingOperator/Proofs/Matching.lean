import BindingOperator.Proofs.Undisturbed
import BindingOperator.Webhook.Admission

/-!
Two answers to one question: whether a binding is about a workload. Admission looks at the
object that is written, the controller looks up what the cluster has. They agree unless the
reference carries an empty name: the controller reads past it to the selector, and admission
compares it with the name of the object.
-/

namespace BindingOperator

open Dialogue

/-- Looking workloads up gave a set with an object in it. -/
def Resolves (outcome : Except Failure WorkloadResolution) (object : Object) : Prop :=
  ∃ resource found, outcome = .ok (.resolved resource found) ∧ object ∈ found

/-- A selector is a query, and the query selects the labels of an object. -/
def Chosen (selector : Option LabelSelector) (object : Object) : Prop :=
  ∃ written query, selector = some written ∧ written.query = .ok query ∧
    query.selects object.labels = true

section Resolving

variable {reference : WorkloadReference} {namespaceName : String} {cluster last : Cluster}
  {resource : Resource} {exchanges : Talk} {outcome : Except Failure WorkloadResolution}

theorem resolves_of_gives {resolution : WorkloadResolution} {found : List Object}
    (gives : reference.Gives resource resolution found) (object : Object) :
    Resolves (.ok resolution) object ↔ object ∈ found := by
  constructor
  · rintro ⟨served, listed, same, member⟩
    rw [Except.ok.injEq] at same
    cases gives with
    | named only isNamed =>
        obtain ⟨-, rfl⟩ := WorkloadResolution.resolved.inj same
        exact member
    | absent isNamed => simp at same
    | selected found unnamed =>
        obtain ⟨-, rfl⟩ := WorkloadResolution.resolved.inj same
        exact member
  · intro member
    cases gives with
    | named only isNamed => exact ⟨resource, _, rfl, member⟩
    | absent isNamed => simp at member
    | selected found unnamed => exact ⟨resource, found, rfl, member⟩

/-- An object that the cluster has is resolved exactly when the reference selects it. -/
theorem resolves_iff_selects (served : cluster.serves reference.kindOf = some resource)
    {name : String} {object : Object}
    (present : cluster.objects ⟨resource, namespaceName, name⟩ = some object)
    (run : Runs (resolveWorkloads namespaceName reference) exchanges outcome)
    (history : Undisturbed cluster exchanges last) :
    Resolves outcome object ↔ reference.Selects object := by
  cases outcome with
  | ok resolution =>
      obtain ⟨-, other, found, there, gives⟩ := read_workloads reference resolution run history
      have same : other = resource := Option.some.inj (there.served.symm.trans served)
      subst same
      rw [resolves_of_gives gives]
      exact ⟨fun member => (there.kept object member).2.2, there.complete name object present⟩
  | error failure =>
      -- the kind is served, so what cannot be looked up is a selector that is no query
      have fails : ¬ cluster.LooksUp reference := by
        rw [← looksUp_iff reference _ run history]
        simp
      refine iff_of_false (by simp [Resolves]) ?_
      intro chosen
      refine fails ⟨by simp [served], fun unnamed selector selecting => ?_⟩
      obtain ⟨written, query, same, formed, -⟩ := (selects_unnamed unnamed object).mp chosen
      rw [selecting, Option.some.injEq] at same
      exact ⟨query, same ▸ formed⟩

end Resolving

section Admission

variable {reference : WorkloadReference} {kind : GroupVersionKind} {object : Object}

theorem targets_named {name : String} (sameGroup : kind.group = reference.kindOf.group)
    (sameKind : kind.kind = reference.kindOf.kind) (named : reference.name = some name) :
    reference.targets kind object = true ↔ object.metadata.name = some name := by
  simp [WorkloadReference.targets, sameGroup, sameKind, named]

theorem targets_unnamed (sameGroup : kind.group = reference.kindOf.group)
    (sameKind : kind.kind = reference.kindOf.kind) (unnamed : reference.name = none) :
    reference.targets kind object = true ↔ Chosen reference.selector object := by
  unfold Chosen
  cases selecting : reference.selector with
  | none => simp [WorkloadReference.targets, unnamed, selecting]
  | some selector =>
      cases formed : selector.query with
      | error failure => simp [WorkloadReference.targets, unnamed, selecting, formed]
      | ok query =>
          simp [WorkloadReference.targets, sameGroup, sameKind, unnamed, selecting, formed]

/-- Admission judges like the controller as long as the name of a reference is not empty. -/
theorem targets_iff_selects {name : String} (sameGroup : kind.group = reference.kindOf.group)
    (sameKind : kind.kind = reference.kindOf.kind) (named : object.metadata.name = some name)
    (proper : reference.name ≠ some "") :
    reference.targets kind object = true ↔ reference.Selects object := by
  have called : object.nameAny = name := by simp [Object.nameAny, Metadata.nameAny, named]
  cases asked : reference.name with
  | none =>
      have unnamed : reference.name.filter (· ≠ "") = none := by simp [asked]
      rw [targets_unnamed sameGroup sameKind asked, selects_unnamed unnamed]
      rfl
  | some wanted =>
      rw [asked, Ne, Option.some.injEq] at proper
      have kept : reference.name.filter (· ≠ "") = some wanted := by simp [asked, proper]
      rw [targets_named sameGroup sameKind asked, selects_named kept, named, called,
        Option.some.injEq]

end Admission

/-- For an object of the referenced kind in the namespace of the binding, admission and the
controller agree when the reference has no empty name. When it has one, admission asks for
an object without a name, and the controller asks the selector. -/
theorem admission_agrees_unless_blank (reference : WorkloadReference) (kind : GroupVersionKind)
    (object : Object) (namespaceName name : String) (resource : Resource) (cluster last : Cluster)
    (exchanges : Talk) (outcome : Except Failure WorkloadResolution)
    (sameGroup : kind.group = reference.kindOf.group)
    (sameKind : kind.kind = reference.kindOf.kind) (named : object.metadata.name = some name)
    (served : cluster.serves reference.kindOf = some resource)
    (present : cluster.objects ⟨resource, namespaceName, name⟩ = some object)
    (run : Runs (resolveWorkloads namespaceName reference) exchanges outcome)
    (history : Undisturbed cluster exchanges last) :
    (reference.name ≠ some "" →
      (reference.targets kind object = true ↔ Resolves outcome object)) ∧
    (reference.name = some "" →
      (reference.targets kind object = true ↔ name = "") ∧
        (Resolves outcome object ↔ Chosen reference.selector object)) := by
  have resolves := resolves_iff_selects served present run history
  constructor
  · intro proper
    rw [resolves]
    exact targets_iff_selects sameGroup sameKind named proper
  · intro blank
    have unnamed : reference.name.filter (· ≠ "") = none := by simp [blank]
    constructor
    · rw [targets_named sameGroup sameKind blank, named, Option.some.injEq]
    · rw [resolves, selects_unnamed unnamed]
      rfl

section Sample

/-- A deployment of a shop. -/
def shopWorkload : Object where
  metadata := {
    name := some "web"
    namespaceName := some "default"
    labels := some [("app", "shop")] }

/-- A reference to every deployment of the shop; the name is written and empty. -/
def shopReference : WorkloadReference where
  apiVersion := "apps/v1"
  kind := "Deployment"
  name := some ""
  selector := some { matchLabels := [("app", "shop")] }

def shopResource : Resource := shopReference.kindOf.resource "deployments"

def shopCluster : Cluster :=
  (Cluster.bare default fun kind => some (kind.resource "deployments")).store shopResource
    shopWorkload

def shopTalk : Talk :=
  [⟨.resolve shopReference.kindOf, .ok shopResource⟩,
    ⟨.listObjects shopResource "default" "app=shop", .ok [shopWorkload]⟩]

theorem shop_lists : shopCluster.Lists shopResource "default" "app=shop" [shopWorkload] := by
  constructor
  · intro object member
    rw [List.mem_singleton.mp member]
    exact ⟨rfl, rfl⟩
  · intro name object present query _ _
    rw [shopCluster, Cluster.objects_store] at present
    split at present
    · exact List.mem_singleton.mpr (Option.some.inj present).symm
    · simp [Cluster.bare] at present

/-- The controller finds the deployment of the shop, and admission passes it over. -/
theorem blank_name_splits_matching :
    Resolves (.ok (.resolved shopResource [shopWorkload])) shopWorkload ∧
      shopReference.targets shopReference.kindOf shopWorkload = false := by
  have run : Runs (resolveWorkloads "default" shopReference) shopTalk
      (.ok (.resolved shopResource [shopWorkload])) :=
    .ask _ _ _ _ _ (.ask _ _ _ _ _ (.done _))
  have history : Undisturbed shopCluster shopTalk shopCluster :=
    ⟨_, _, ⟨rfl, rfl⟩, rfl, _, _, ⟨shop_lists, rfl⟩, rfl, rfl⟩
  obtain ⟨admitted, resolved⟩ := (admission_agrees_unless_blank shopReference shopReference.kindOf
    shopWorkload "default" "web" shopResource shopCluster shopCluster shopTalk _ rfl rfl rfl rfl rfl
    run history).2 rfl
  constructor
  · exact resolved.mpr ⟨_, [.equals "app" "shop"], rfl, rfl, by decide⟩
  · rw [Bool.eq_false_iff, Ne, admitted]
    decide

end Sample

end BindingOperator
