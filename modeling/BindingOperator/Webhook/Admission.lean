import BindingOperator.Dialogue
import BindingOperator.Projection.Projector
import BindingOperator.Webhook.Review

/-!
Answering admission reviews. The projector puts every binding that targets the submitted
workload into it before it is stored, in the order of their names, all of them or none. The
trigger never denies anything: it wakes the binding controller for every binding whose
service or workload was written.
-/

namespace BindingOperator

inductive AdmissionCall where
  | listBindings (namespaceName : String)
  /-- Asks for a pass over a binding; the queue may be full. -/
  | enqueue (key : ObjectKey)

namespace AdmissionCall

abbrev Answer : AdmissionCall → Type
  | .listBindings _ => Except Failure (List Binding)
  | .enqueue _ => Bool

end AdmissionCall

abbrev AdmissionTalk := Dialogue AdmissionCall.Answer

namespace AdmissionTalk

def listBindings (namespaceName : String) : AdmissionTalk (Except Failure (List Binding)) :=
  Dialogue.call (AdmissionCall.listBindings namespaceName)

def enqueue (key : ObjectKey) : AdmissionTalk Bool :=
  Dialogue.call (AdmissionCall.enqueue key)

end AdmissionTalk

namespace WorkloadReference

/-- Whether the reference names or selects an object of a kind. The version plays no part,
and a selector that is not valid selects nothing. -/
def targets (reference : WorkloadReference) (kind : GroupVersionKind) (object : Object) : Bool :=
  reference.kindOf.group = kind.group && reference.kindOf.kind = kind.kind &&
    match reference.name, reference.selector with
    | some name, _ => object.metadata.name = some name
    | none, some selector =>
        match selector.query with
        | .ok query => query.selects object.labels
        | .error _ => false
    | none, none => false

end WorkloadReference

namespace ServiceReference

def targets (reference : ServiceReference) (kind : GroupVersionKind) (object : Object) : Bool :=
  reference.kindOf.group = kind.group && reference.kindOf.kind = kind.kind &&
    object.metadata.name = some reference.name

end ServiceReference

namespace AdmissionRequest

def namespaceOf (request : AdmissionRequest) (object : Object) : String :=
  (request.namespaceName.or object.metadata.namespaceName).getD ""

/-- The object as it was written; a deletion only has the one before it. -/
def written (request : AdmissionRequest) : Option Object :=
  match request.operation with
  | .delete => request.oldObject
  | _ => request.object

end AdmissionRequest

/-- The bindings to put into an object, by name; of equal names the first stays first. -/
def targetingBindings (kind : GroupVersionKind) (object : Object) (bindings : List Binding) :
    List Binding :=
  (bindings.filter fun binding =>
    !binding.isDeleting && binding.spec.workload.targets kind object).mergeSort
      fun left right => left.nameAny ≤ right.nameAny

/-- Projects the bindings one after the other; the first failure ends it. -/
def projectEach (projector : Projector) : List Binding → Object → Except Failure Object
  | [], object => .ok object
  | binding :: rest, object =>
      match projector.project binding object with
      | .error failure => .error failure
      | .ok projected => projectEach projector rest projected

/-- The answer once the bindings of the namespace are known. -/
def projectInto (projector : Projector) (request : AdmissionRequest) (object : Object)
    (bindings : List Binding) : AdmissionResponse :=
  match projectEach projector (targetingBindings request.kind object bindings) object with
  | .error failure => .deny request failure.message
  | .ok projected =>
      let patch := Json.diff object.toJson projected.toJson
      if patch.isEmpty then .allow request
      else { AdmissionResponse.allow request with patch := some patch }

def projectRequest (projector : Projector) (request : AdmissionRequest) :
    AdmissionTalk AdmissionResponse :=
  match request.object with
  | none => pure (.allow request)
  | some object => do
      match ← AdmissionTalk.listBindings (request.namespaceOf object) with
      | .error failure => pure (.deny request failure.message)
      | .ok bindings => pure (projectInto projector request object bindings)

/-- Queues the bindings in order. One that finds no room is not queued. -/
def wake : List Binding → AdmissionTalk (Except NamelessObject Unit)
  | [] => pure (.ok ())
  | binding :: rest =>
      match binding.metadata.key with
      | .error nameless => pure (.error nameless)
      | .ok key => do
          let _ ← AdmissionTalk.enqueue key
          wake rest

def concernedBindings (kind : GroupVersionKind) (object : Object) (bindings : List Binding) :
    List Binding :=
  bindings.filter fun binding =>
    binding.spec.service.targets kind object || binding.spec.workload.targets kind object

/-- Answers a review of a service or workload: every write is let through. -/
def triggerRequest (request : AdmissionRequest) :
    AdmissionTalk (Except NamelessObject AdmissionResponse) :=
  match request.written with
  | none => pure (.ok (.allow request))
  | some object => do
      match ← AdmissionTalk.listBindings (request.namespaceOf object) with
      | .error _ => pure (.ok (.allow request))
      | .ok bindings =>
          match ← wake (concernedBindings request.kind object bindings) with
          | .error nameless => pure (.error nameless)
          | .ok () => pure (.ok (.allow request))

end BindingOperator
