import BindingOperator.Binding

/-!
What a binding leaves in a pod template, and the names under which it does so: a volume
with the Secret, a mount of it in every container below the binding root, variables, and
annotations. Names carry the key of the binding, so those of different bindings differ.
-/

namespace BindingOperator

/-- The variable that points at the directory of all bindings. -/
def rootVariable : String := "SERVICE_BINDING_ROOT"

/-- The root of a container that does not set one. -/
def defaultRoot : String := "/bindings"

def volumePrefix : String := "servicebinding-"

def annotationPrefix : String := "projector.servicebinding.io"

def volumeName (key : String) : String := volumePrefix ++ key

def annotationName (field key : String) : String :=
  annotationPrefix ++ "/" ++ field ++ "-" ++ key

def ledgerAnnotation : String := annotationPrefix ++ "/state"

/-- The marker of a field that was created in a container. -/
def containerMarker (field container : String) : String :=
  field ++ ":" ++ container

/-- The part of a binding that its projection depends on. -/
structure Imprint where
  key : String
  name : String
  secret : String
  type : Option String
  provider : Option String
  env : List EnvMapping
  deriving DecidableEq, Repr, Inhabited

namespace Binding

def imprint? (binding : Binding) : Option Imprint :=
  binding.secretName.map fun secret =>
    { key := binding.key
      name := binding.bindingName
      secret
      type := binding.spec.type
      provider := binding.spec.provider
      env := binding.spec.env }

end Binding

namespace Imprint

def volume (imprint : Imprint) : String := volumeName imprint.key

def annotationFile (field key : String) : Json :=
  Json.record [("path", some (.string field)),
    ("fieldRef", some (Json.record [("fieldPath",
      some (.string ("metadata.annotations['" ++ annotationName field key ++ "']")))]))]

/-- The Secret, and a file for the type and for the provider where the binding sets them. -/
def volumeEntry (imprint : Imprint) : Json :=
  let secret := Json.record [("secret",
    some (Json.record [("name", some (.string imprint.secret))]))]
  let files :=
    (imprint.type.map fun _ => annotationFile "type" imprint.key).toList ++
    (imprint.provider.map fun _ => annotationFile "provider" imprint.key).toList
  let sources :=
    if files.isEmpty then [secret]
    else [secret, Json.record [("downwardAPI",
      some (Json.record [("items", some (.array files))]))]]
  Json.record [("name", some (.string imprint.volume)),
    ("projected", some (Json.record [("sources", some (.array sources))]))]

def variableEntry (imprint : Imprint) (mapping : EnvMapping) : Json :=
  Json.record [("name", some (.string mapping.name)),
    ("valueFrom", some (Json.record [("secretKeyRef",
      some (Json.record [("name", some (.string imprint.secret)),
        ("key", some (.string mapping.key))]))]))]

/-- The root without the slashes at its end. -/
def trimRoot (root : String) : String :=
  String.ofList ((root.toList.reverse.dropWhile (· = '/')).reverse)

def mountPath (imprint : Imprint) (root : String) : String :=
  trimRoot root ++ "/" ++ imprint.name

def mountEntry (imprint : Imprint) (root : String) : Json :=
  Json.record [("name", some (.string imprint.volume)),
    ("mountPath", some (.string (imprint.mountPath root))), ("readOnly", some (.bool true))]

end Imprint

end BindingOperator
