import BindingOperator.Binding
import BindingOperator.Definition.Schema

/-!
The definition that makes an API server serve bindings: their names, the columns in which
they are listed, and the schema of what they hold.
-/

namespace BindingOperator

namespace ServiceReference

def schema (description : String) : Json :=
  Schema.record description
    [("apiVersion", Schema.text "API version of the referent"),
      ("kind", Schema.text "Kind of the referent"),
      ("name", Schema.text "Name of the referent, in the binding's namespace")]
    ["apiVersion", "kind", "name"]

end ServiceReference

namespace LabelSelector

def requirementSchema : Json :=
  Schema.record "A single set-based label requirement"
    [("key", Schema.text "Label key"),
      ("operator", Schema.text "One of In, NotIn, Exists, DoesNotExist"),
      ("values", Schema.list "Values for In and NotIn" Schema.anyText)]
    ["key", "operator"]

def schema (description : String) : Json :=
  Schema.record description
    [("matchLabels",
        Schema.table "Labels that must be present with exactly these values" Schema.anyText),
      ("matchExpressions",
        Schema.list "Set-based requirements, all of which must hold" requirementSchema)]
    []

end LabelSelector

namespace WorkloadReference

def schema (description : String) : Json :=
  Schema.record description
    [("apiVersion", Schema.text "API version of the referent"),
      ("kind", Schema.text "Kind of the referent"),
      ("name", Schema.nullable (Schema.text "Name of a single workload")),
      ("selector", Schema.nullable
        (LabelSelector.schema "Label selector matching zero or more workloads"))]
    ["apiVersion", "kind"]

end WorkloadReference

namespace EnvMapping

def schema : Json :=
  Schema.record "Maps a key of the binding Secret to an environment variable"
    [("name", Schema.text "Environment variable name"),
      ("key", Schema.text "Key in the binding Secret")]
    ["key", "name"]

end EnvMapping

namespace BindingSpec

def schema : Json :=
  Schema.record "Desired state of a ServiceBinding"
    [("name", Schema.nullable (Schema.text
        ("Name of the binding as seen by the workload (mount directory).\n" ++
          "Defaults to the resource name."))),
      ("type", Schema.nullable (Schema.text "Overrides the `type` entry of the projected binding")),
      ("provider",
        Schema.nullable (Schema.text "Overrides the `provider` entry of the projected binding")),
      ("workload", WorkloadReference.schema "The workload(s) receiving the binding"),
      ("service", ServiceReference.schema "The service exposing the binding Secret"),
      ("env", Schema.list "Environment variables sourced from keys of the binding Secret"
        EnvMapping.schema)]
    ["service", "workload"]

end BindingSpec

namespace Condition

def schema : Json :=
  Schema.record "Kubernetes-style condition for status reporting"
    [("type", Schema.text "Type of condition (Ready, ServiceAvailable, WorkloadProjected)"),
      ("status", Schema.choice "Status of the condition (True, False, Unknown)"
        (List.map ConditionStatus.text [.true, .false, .unknown])),
      ("reason", Schema.defaultText "Machine-readable reason for the condition"),
      ("message", Schema.defaultText "Human-readable message"),
      ("lastTransitionTime",
        Schema.nullable (Schema.dateTime "Last time the status changed"))]
    ["status", "type"]

end Condition

namespace BindingStatus

def secretSchema : Json :=
  Schema.record "The resolved binding Secret"
    [("name", Schema.text "Secret name, in the binding's namespace")] ["name"]

def schema : Json :=
  Schema.record "Observed state of a ServiceBinding"
    [("observedGeneration",
        Schema.nullable (Schema.integer "Generation last processed by the controller")),
      ("conditions", Schema.list "Ready, ServiceAvailable and WorkloadProjected conditions"
        Condition.schema),
      ("binding", Schema.nullable secretSchema)]
    []

end BindingStatus

namespace Binding

def schema : Json :=
  Schema.having "title" (.string kind)
    (Schema.record "Auto-generated derived type for ServiceBindingSpec via `CustomResource`"
      [("spec", BindingSpec.schema), ("status", Schema.nullable BindingStatus.schema)] ["spec"])

/-- A column in which bindings are listed: its heading, its type and where its value is. -/
def column (name type path : String) : Json :=
  Json.record [("jsonPath", some (.string path)), ("name", some (.string name)),
    ("type", some (.string type))]

/-- Where the condition that sums the others up has a field. -/
def readyPath (field : String) : String :=
  ".status.conditions[?(@.type==\"" ++ ConditionType.ready ++ "\")]." ++ field

def columns : List Json :=
  [column "Ready" "string" (readyPath "status"), column "Reason" "string" (readyPath "reason"),
    column "Secret" "string" ".status.binding.name",
    column "Age" "date" ".metadata.creationTimestamp"]

def servedVersion : Json :=
  Json.record [("additionalPrinterColumns", some (.array columns)),
    ("name", some (.string bindingResource.version)),
    ("schema", some (Json.record [("openAPIV3Schema", some schema)])),
    ("served", some (.bool true)), ("storage", some (.bool true)),
    ("subresources", some (Json.record [("status", some (.object []))]))]

def names : Json :=
  Json.record [("categories", some (.array [])), ("kind", some (.string kind)),
    ("plural", some (.string bindingResource.plural)),
    ("shortNames", some (Json.strings ["sb"])), ("singular", some (.string "servicebinding"))]

def definition : Json :=
  Json.record [("apiVersion", some (.string "apiextensions.k8s.io/v1")),
    ("kind", some (.string "CustomResourceDefinition")),
    ("metadata", some (Json.record
      [("name", some (.string (bindingResource.plural ++ "." ++ bindingResource.group)))])),
    ("spec", some (Json.record [("group", some (.string bindingResource.group)),
      ("names", some names), ("scope", some (.string "Namespaced")),
      ("versions", some (.array [servedVersion]))]))]

end Binding

end BindingOperator
