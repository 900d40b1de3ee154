import BindingOperator.Cluster.InMemory
import BindingOperator.Proofs.Stages

/-!
Clusters that answer truthfully. A cluster keeps objects at their places and the binding of
the pass, and says which resource serves a kind. What it answers to a call is what it has; a
write stores what was sent under a new version. Which failures it may answer besides, and
what may happen to it between two calls, is left open.
-/

namespace BindingOperator

open Dialogue

structure Place where
  resource : Resource
  namespaceName : String
  name : String
  deriving DecidableEq

namespace Object

def placeIn (resource : Resource) (object : Object) : Place :=
  ⟨resource, object.metadata.namespaceName.getD "", object.nameAny⟩

def withVersion (version : Option String) (object : Object) : Object :=
  { object with metadata := { object.metadata with resourceVersion := version } }

variable (resource : Resource) (object : Object) (version : Option String)

@[simp] theorem placeIn_withVersion :
    (object.withVersion version).placeIn resource = object.placeIn resource := rfl

theorem withVersion_self : object.withVersion object.metadata.resourceVersion = object := rfl

theorem placeIn_of_metadata (other : Object) (same : other.metadata = object.metadata) :
    other.placeIn resource = object.placeIn resource := by
  simp [placeIn, nameAny, same]

end Object

def Binding.withVersion (version : Option String) (binding : Binding) : Binding :=
  { binding with metadata := { binding.metadata with resourceVersion := version } }

/-- What a cluster has, and the resources that serve its kinds. -/
structure Cluster where
  objects : Place → Option Object
  placed : ∀ place object, objects place = some object → object.placeIn place.resource = place
  binding : Binding
  serves : GroupVersionKind → Option Resource

namespace Cluster

def store (resource : Resource) (object : Object) (cluster : Cluster) : Cluster where
  objects place := if place = object.placeIn resource then some object else cluster.objects place
  placed := by
    intro place found present
    split at present
    · next here =>
      rw [← Option.some.inj present, here]
      rfl
    · exact cluster.placed place found present
  binding := cluster.binding
  serves := cluster.serves

theorem objects_store (resource : Resource) (object : Object) (place : Place) (cluster : Cluster) :
    (cluster.store resource object).objects place =
      if place = object.placeIn resource then some object else cluster.objects place := rfl

def keep (binding : Binding) (cluster : Cluster) : Cluster := { cluster with binding }

/-- Objects that a server lists: nothing that it does not have, and all that any query of
the text selects. -/
structure Lists (cluster : Cluster) (resource : Resource) (namespaceName text : String)
    (listed : List Object) : Prop where
  kept : ∀ object ∈ listed, cluster.objects (object.placeIn resource) = some object ∧
    object.metadata.namespaceName.getD "" = namespaceName
  complete : ∀ name object, cluster.objects ⟨resource, namespaceName, name⟩ = some object →
    ∀ query : Query, query.text = text → query.selects object.labels = true → object ∈ listed

/-- Objects may be lost, and what is done about the binding is left open. -/
structure Loses (before after : Cluster) : Prop where
  objects : ∀ place object, after.objects place = some object → before.objects place = some object
  serves : after.serves = before.serves

theorem Loses.refl (cluster : Cluster) : cluster.Loses cluster := ⟨fun _ _ => id, rfl⟩

theorem Loses.trans {first second third : Cluster} (one : first.Loses second)
    (two : second.Loses third) : first.Loses third :=
  ⟨fun place object present => one.objects place object (two.objects place object present),
    two.serves.trans one.serves⟩

end Cluster

section Answering

/-- The failures that a cluster may answer a call without a reason of its own. -/
abbrev Refusing := BindingCall → Failure → Prop

/-- How a cluster answers a call, and what it is afterwards. -/
def Answers (refuses : Refusing) (cluster : Cluster) :
    (call : BindingCall) → call.Answer → Cluster → Prop
  | .resolve kind, .ok resource, next => cluster.serves kind = some resource ∧ next = cluster
  | .resolve kind, .error failure, next =>
      (cluster.serves kind = none ∨ refuses (.resolve kind) failure) ∧ next = cluster
  | .getObject resource namespaceName name, .ok object, next =>
      cluster.objects ⟨resource, namespaceName, name⟩ = some object ∧ next = cluster
  | .getObject resource namespaceName name, .error failure, next =>
      ((failure.isNotFound = true ∧ cluster.objects ⟨resource, namespaceName, name⟩ = none) ∨
        refuses (.getObject resource namespaceName name) failure) ∧ next = cluster
  | .listObjects resource namespaceName text, .ok listed, next =>
      cluster.Lists resource namespaceName text listed ∧ next = cluster
  | .listObjects resource namespaceName text, .error failure, next =>
      refuses (.listObjects resource namespaceName text) failure ∧ next = cluster
  | .updateObject resource object, .ok stored, next =>
      (cluster.objects (object.placeIn resource)).isSome = true ∧
        (∃ version, stored = object.withVersion version) ∧ next = cluster.store resource stored
  | .updateObject resource object, .error failure, next =>
      ((failure.isNotFound = true ∧ cluster.objects (object.placeIn resource) = none) ∨
        refuses (.updateObject resource object) failure) ∧ next = cluster
  | .patchFinalizers binding finalizers, .ok written, next =>
      (∃ version, written = (binding.withFinalizers finalizers).withVersion version) ∧
        next = cluster.keep written
  | .patchFinalizers binding finalizers, .error failure, next =>
      refuses (.patchFinalizers binding finalizers) failure ∧ next = cluster
  | .updateStatus binding, .ok written, next =>
      (∃ version, written = binding.withVersion version) ∧ next = cluster.keep written
  | .updateStatus binding, .error failure, next =>
      refuses (.updateStatus binding) failure ∧ next = cluster
  | .publish _ _, _, next => next = cluster

/-- The calls of a pass and their answers, with what happens to the cluster after each. -/
def History (refuses : Refusing) (drift : Cluster → Cluster → Prop) :
    Cluster → Talk → Cluster → Prop
  | first, [], last => last = first
  | first, exchange :: rest, last => ∃ answered next,
      Answers refuses first exchange.1 exchange.2 answered ∧ drift answered next ∧
        History refuses drift next rest last

variable {refuses : Refusing} {drift : Cluster → Cluster → Prop} {first last : Cluster}

theorem history_append (left right : Talk) :
    History refuses drift first (left ++ right) last ↔
      ∃ middle, History refuses drift first left middle ∧
        History refuses drift middle right last := by
  induction left generalizing first with
  | nil => simp [History]
  | cons exchange rest ih =>
      simp only [List.cons_append, History, ih]
      constructor
      · rintro ⟨answered, next, given, drifted, middle, before, after⟩
        exact ⟨middle, ⟨answered, next, given, drifted, before⟩, after⟩
      · rintro ⟨middle, ⟨answered, next, given, drifted, before⟩, after⟩
        exact ⟨answered, next, given, drifted, middle, before, after⟩

/-- What every answer and whatever happens in between leaves true is true at the end. -/
theorem history_keeps (holds : Cluster → Prop) {exchanges : Talk}
    (history : History refuses drift first exchanges last)
    (answers : ∀ exchange ∈ exchanges, ∀ before after, holds before →
      Answers refuses before exchange.1 exchange.2 after → holds after)
    (drifts : ∀ before after, holds before → drift before after → holds after)
    (start : holds first) : holds last := by
  induction exchanges generalizing first with
  | nil =>
      rw [History] at history
      rw [history]
      exact start
  | cons exchange rest ih =>
      obtain ⟨answered, next, given, drifted, later⟩ := history
      -- first the answer and then the drift keep it, and the rest starts where they lead
      apply ih later (fun other member => answers other (List.mem_cons_of_mem _ member))
      exact drifts _ _ (answers exchange List.mem_cons_self _ _ start given) drifted

/-- Each exchange of a history was answered by some state of the cluster. -/
theorem history_answers {exchanges : Talk} (history : History refuses drift first exchanges last)
    (exchange : Exchange BindingCall.Answer) (member : exchange ∈ exchanges) :
    ∃ before after, Answers refuses before exchange.1 exchange.2 after := by
  induction exchanges generalizing first with
  | nil => simp at member
  | cons head rest ih =>
      obtain ⟨answered, next, given, -, later⟩ := history
      rcases List.mem_cons.mp member with rfl | elsewhere
      · exact ⟨_, _, given⟩
      · exact ih later elsewhere

def updatesObject : BindingCall → Bool
  | .updateObject _ _ => true
  | _ => false

/-- Only writing an object changes what is kept at the places. -/
theorem answers_objects {before after : Cluster} (call : BindingCall) (answer : call.Answer)
    (apart : updatesObject call = false) (given : Answers refuses before call answer after) :
    after.objects = before.objects ∧ after.serves = before.serves := by
  cases call with
  | updateObject resource object => simp [updatesObject] at apart
  | publish about event =>
      rw [show after = before from given]
      exact ⟨rfl, rfl⟩
  | patchFinalizers binding finalizers =>
      cases answer with
      | ok written =>
          rw [given.2]
          exact ⟨rfl, rfl⟩
      | error failure =>
          rw [given.2]
          exact ⟨rfl, rfl⟩
  | updateStatus binding =>
      cases answer with
      | ok written =>
          rw [given.2]
          exact ⟨rfl, rfl⟩
      | error failure =>
          rw [given.2]
          exact ⟨rfl, rfl⟩
  | _ =>
      cases answer with
      | ok value =>
          rw [given.2]
          exact ⟨rfl, rfl⟩
      | error failure =>
          rw [given.2]
          exact ⟨rfl, rfl⟩

/-- Without a write, objects are only lost. -/
theorem history_loses {exchanges : Talk} (history : History refuses drift first exchanges last)
    (losing : ∀ before after, drift before after → before.Loses after)
    (apart : ∀ exchange ∈ exchanges, updatesObject exchange.1 = false) : first.Loses last := by
  refine history_keeps first.Loses history ?_ ?_ (.refl first)
  · intro exchange member before after loses given
    obtain ⟨objects, serves⟩ := answers_objects exchange.1 exchange.2 (apart exchange member) given
    exact loses.trans ⟨fun _ _ present => objects ▸ present, serves⟩
  · exact fun before after loses drifted => loses.trans (losing before after drifted)

end Answering

section Replying

variable {refuses : Refusing} {drift : Cluster → Cluster → Prop}

def Cluster.bare (binding : Binding) (serves : GroupVersionKind → Option Resource) : Cluster where
  objects _ := none
  placed := by simp
  binding := binding
  serves := serves

/-- A cluster that answers by what it has; it keeps no lists. -/
def Cluster.reply (cluster : Cluster) : (call : BindingCall) → call.Answer × Cluster
  | .resolve kind =>
      (match cluster.serves kind with
        | some resource => .ok resource
        | none => .error (.internal "not served"), cluster)
  | .getObject resource namespaceName name =>
      (match cluster.objects ⟨resource, namespaceName, name⟩ with
        | some object => .ok object
        | none => .error (.notFound resource.kind name), cluster)
  | .listObjects _ _ _ => (.error (.internal "no lists"), cluster)
  | .updateObject resource object =>
      let stored := object.withVersion (object.metadata.resourceVersion.map nextVersion)
      if (cluster.objects (object.placeIn resource)).isSome then
        (.ok stored, cluster.store resource stored)
      else (.error (.notFound resource.kind object.nameAny), cluster)
  | .patchFinalizers binding finalizers =>
      let written := (binding.withFinalizers finalizers).withVersion
        (binding.metadata.resourceVersion.map nextVersion)
      (.ok written, cluster.keep written)
  | .updateStatus binding =>
      let written := binding.withVersion (binding.metadata.resourceVersion.map nextVersion)
      (.ok written, cluster.keep written)
  | .publish _ _ => ((), cluster)

def isList : BindingCall → Bool
  | .listObjects _ _ _ => true
  | _ => false

theorem answers_reply (cluster : Cluster) (call : BindingCall) (named : isList call = false) :
    Answers refuses cluster call (cluster.reply call).1 (cluster.reply call).2 := by
  cases call with
  | resolve kind =>
      cases served : cluster.serves kind with
      | some resource => simp [Cluster.reply, Answers, served]
      | none => simp [Cluster.reply, Answers, served]
  | getObject resource namespaceName name =>
      cases present : cluster.objects ⟨resource, namespaceName, name⟩ with
      | some object => simp [Cluster.reply, Answers, present]
      | none => simp [Cluster.reply, Answers, present, Failure.isNotFound]
  | listObjects resource namespaceName query => simp [isList] at named
  | updateObject resource object =>
      cases present : cluster.objects (object.placeIn resource) with
      | some stored =>
          simp only [Cluster.reply, present, Option.isSome_some, if_true]
          exact ⟨by simp [present], ⟨_, rfl⟩, rfl⟩
      | none => simp [Cluster.reply, Answers, present, Failure.isNotFound]
  | patchFinalizers binding finalizers => exact ⟨⟨_, rfl⟩, rfl⟩
  | updateStatus binding => exact ⟨⟨_, rfl⟩, rfl⟩
  | publish about event => rfl

/-- What is said to a cluster that answers truthfully is a history of it. -/
theorem history_transcript {α : Type} (answer : Cluster → (call : BindingCall) → call.Answer × Cluster)
    (allowed : BindingCall → Bool)
    (truth : ∀ cluster call, allowed call = true →
      Answers refuses cluster call (answer cluster call).1 (answer cluster call).2)
    (still : ∀ cluster, drift cluster cluster) (dialogue : BindingTalk α) (first : Cluster)
    (calls : ∀ exchange ∈ (transcript answer dialogue first).1, allowed exchange.1 = true) :
    History refuses drift first (transcript answer dialogue first).1
      (transcript answer dialogue first).2.2 := by
  induction dialogue generalizing first with
  | done value => rfl
  | ask call next ih =>
      simp only [transcript, List.forall_mem_cons] at calls
      exact ⟨_, _, truth first call calls.1, still _, ih _ _ calls.2⟩

end Replying

end BindingOperator
