import BindingOperator.Condition
import BindingOperator.Selector
import BindingOperator.Kind

/-!
Service bindings. A binding names a service, which exposes a Secret, and the workloads
that receive it. Its status holds the Secret that was found and the conditions of the last
pass. Every record is read from an object or from an array of its columns.
-/

namespace BindingOperator

/-- The finalizer that keeps a binding until its workloads are clean. -/
def bindingFinalizer : String := "servicebinding.io/finalizer"

structure ServiceReference where
  apiVersion : String
  kind : String
  name : String
  deriving DecidableEq, Repr, Inhabited

structure WorkloadReference where
  apiVersion : String
  kind : String
  name : Option String := none
  selector : Option LabelSelector := none
  deriving DecidableEq, Repr, Inhabited

structure EnvMapping where
  name : String
  key : String
  deriving DecidableEq, Repr, Inhabited

structure BindingSpec where
  name : Option String := none
  type : Option String := none
  provider : Option String := none
  workload : WorkloadReference
  service : ServiceReference
  env : List EnvMapping := []
  deriving DecidableEq, Repr, Inhabited

structure BindingStatus where
  observedGeneration : Option Int := none
  conditions : List Condition := []
  secret : Option String := none
  deriving DecidableEq, Repr, Inhabited

structure Binding where
  metadata : Metadata
  spec : BindingSpec
  status : Option BindingStatus := none
  deriving DecidableEq, Repr, Inhabited

namespace ServiceReference

def kindOf (service : ServiceReference) : GroupVersionKind :=
  .ofApiVersion service.apiVersion service.kind

/-- A core Secret stands for itself. -/
def isDirectSecret (service : ServiceReference) : Bool :=
  service.kindOf.group = "" && service.kind = "Secret"

def ofJson? (value : Json) : Option ServiceReference := do
  match ← value.columns? ["apiVersion", "kind", "name"] with
  | [apiVersion, kind, name] =>
      return {
        apiVersion := ← Json.required Json.asString? apiVersion
        kind := ← Json.required Json.asString? kind
        name := ← Json.required Json.asString? name }
  | _ => none

def toJson (service : ServiceReference) : Json :=
  Json.record [("apiVersion", some (.string service.apiVersion)),
    ("kind", some (.string service.kind)), ("name", some (.string service.name))]

end ServiceReference

namespace WorkloadReference

def kindOf (workload : WorkloadReference) : GroupVersionKind :=
  .ofApiVersion workload.apiVersion workload.kind

def ofJson? (value : Json) : Option WorkloadReference := do
  match ← value.columns? ["apiVersion", "kind", "name", "selector"] with
  | [apiVersion, kind, name, selector] =>
      return {
        apiVersion := ← Json.required Json.asString? apiVersion
        kind := ← Json.required Json.asString? kind
        name := ← Json.optional Json.asString? name
        selector := ← Json.optional LabelSelector.ofJson? selector }
  | _ => none

def toJson (workload : WorkloadReference) : Json :=
  Json.record [("apiVersion", some (.string workload.apiVersion)),
    ("kind", some (.string workload.kind)), ("name", workload.name.map .string),
    ("selector", workload.selector.map LabelSelector.toJson)]

end WorkloadReference

namespace EnvMapping

def ofJson? (value : Json) : Option EnvMapping := do
  match ← value.columns? ["name", "key"] with
  | [name, key] =>
      return {
        name := ← Json.required Json.asString? name
        key := ← Json.required Json.asString? key }
  | _ => none

def toJson (mapping : EnvMapping) : Json :=
  Json.record [("name", some (.string mapping.name)), ("key", some (.string mapping.key))]

end EnvMapping

namespace BindingSpec

def ofJson? (value : Json) : Option BindingSpec := do
  match ← value.columns? ["name", "type", "provider", "workload", "service", "env"] with
  | [name, type, provider, workload, service, env] =>
      return {
        name := ← Json.optional Json.asString? name
        type := ← Json.optional Json.asString? type
        provider := ← Json.optional Json.asString? provider
        workload := ← Json.required WorkloadReference.ofJson? workload
        service := ← Json.required ServiceReference.ofJson? service
        env := ← Json.defaulted [] (Json.listOf? EnvMapping.ofJson?) env }
  | _ => none

def toJson (spec : BindingSpec) : Json :=
  Json.record [("name", spec.name.map .string), ("type", spec.type.map .string),
    ("provider", spec.provider.map .string), ("workload", some spec.workload.toJson),
    ("service", some spec.service.toJson),
    ("env", Json.nonEmpty (spec.env.map EnvMapping.toJson))]

end BindingSpec

namespace BindingStatus

def secretOfJson? (value : Json) : Option String := do
  match ← value.columns? ["name"] with
  | [name] => Json.required Json.asString? name
  | _ => none

def secretToJson (name : String) : Json :=
  Json.record [("name", some (.string name))]

def ofJson? (value : Json) : Option BindingStatus := do
  match ← value.columns? ["observedGeneration", "conditions", "binding"] with
  | [generation, conditions, secret] =>
      return {
        observedGeneration := ← Json.optional Json.toInt64? generation
        conditions := ← Json.defaulted [] (Json.listOf? Condition.ofJson?) conditions
        secret := ← Json.optional secretOfJson? secret }
  | _ => none

def toJson (status : BindingStatus) : Json :=
  Json.record [("observedGeneration", status.observedGeneration.map Json.int),
    ("conditions", Json.nonEmpty (status.conditions.map Condition.toJson)),
    ("binding", status.secret.map secretToJson)]

end BindingStatus

namespace Binding

def apiVersion : String := "servicebinding.io/v1beta1"
def kind : String := "ServiceBinding"

/-- An object, or an array of all three columns. -/
def ofJson? (value : Json) : Option Binding := do
  match ← value.columns? ["metadata", "spec", "status"] with
  | [metadata, spec, status] =>
      if value.asArray?.isSome && status.isNone then none
      return {
        metadata := ← Json.required Metadata.ofJson? metadata
        spec := ← Json.required BindingSpec.ofJson? spec
        status := ← Json.optional BindingStatus.ofJson? status }
  | _ => none

def toJson (binding : Binding) : Json :=
  Json.record [("apiVersion", some (.string apiVersion)), ("kind", some (.string kind)),
    ("metadata", some binding.metadata.toJson), ("spec", some binding.spec.toJson),
    ("status", binding.status.map BindingStatus.toJson)]

def nameAny (binding : Binding) : String := binding.metadata.nameAny

def namespaceName (binding : Binding) : String := binding.metadata.namespaceName.getD ""

/-- The name under which workloads see the binding: the one it asks for, unless that is
empty, and its own otherwise. -/
def bindingName (binding : Binding) : String :=
  ((binding.spec.name.filter (· ≠ "")).or binding.metadata.name).getD ""

/-- The Secret that was resolved; an empty name is none. -/
def secretName (binding : Binding) : Option String :=
  (binding.status.bind BindingStatus.secret).filter (· ≠ "")

def isDeleting (binding : Binding) : Bool :=
  binding.metadata.deletionTimestamp.isSome

def hasFinalizer (binding : Binding) (finalizer : String) : Bool :=
  binding.metadata.finalizerList.contains finalizer

/-- What tells a binding from all others: its unique identifier, or its name. -/
def key (binding : Binding) : String :=
  (binding.metadata.uid.filter (· ≠ "")).getD binding.nameAny

def reference (binding : Binding) : ObjectReference :=
  .ofMetadata apiVersion kind binding.metadata

def statusOrDefault (binding : Binding) : BindingStatus := binding.status.getD {}

def conditions (binding : Binding) : List Condition := binding.statusOrDefault.conditions

/-- Changes the conditions; a binding without a status gets one. -/
def withConditions (change : List Condition → List Condition) (binding : Binding) : Binding :=
  let status := binding.statusOrDefault
  { binding with status := some { status with conditions := change status.conditions } }

def withSecret (secret : Option String) (binding : Binding) : Binding :=
  { binding with status := some { binding.statusOrDefault with secret := secret } }

def withFinalizers (finalizers : List String) (binding : Binding) : Binding :=
  { binding with metadata := { binding.metadata with finalizers := some finalizers } }

end Binding

/-- Where the bindings are served. -/
def bindingResource : Resource where
  group := "servicebinding.io"
  version := "v1beta1"
  apiVersion := Binding.apiVersion
  kind := Binding.kind
  plural := "servicebindings"

end BindingOperator
