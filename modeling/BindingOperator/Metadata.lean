import BindingOperator.Json.Record
import BindingOperator.Instant

/-!
Metadata that every object carries. A field that is null is absent; unknown fields are
dropped; labels and annotations are tables of text.
-/

namespace BindingOperator

structure OwnerReference where
  apiVersion : String
  blockOwnerDeletion : Option Bool
  controller : Option Bool
  kind : String
  name : String
  uid : String
  deriving DecidableEq, Repr, Inhabited

structure ManagedFields where
  apiVersion : Option String
  fieldsType : Option String
  fields : Option Json
  manager : Option String
  operation : Option String
  subresource : Option String
  time : Option Instant
  deriving DecidableEq, Repr, Inhabited

structure Metadata where
  annotations : Option (Table String) := none
  creationTimestamp : Option Instant := none
  deletionGracePeriodSeconds : Option Int := none
  deletionTimestamp : Option Instant := none
  finalizers : Option (List String) := none
  generateName : Option String := none
  generation : Option Int := none
  labels : Option (Table String) := none
  managedFields : Option (List ManagedFields) := none
  name : Option String := none
  namespaceName : Option String := none
  ownerReferences : Option (List OwnerReference) := none
  resourceVersion : Option String := none
  selfLink : Option String := none
  uid : Option String := none
  deriving DecidableEq, Repr, Inhabited

namespace Json

def toInstant? (value : Json) : Option Instant :=
  value.asString?.bind Instant.parse?

end Json

namespace OwnerReference

def ofJson? (value : Json) : Option OwnerReference := do
  let fields ← value.asObject?
  return {
    apiVersion := ← Json.textField fields "apiVersion"
    blockOwnerDeletion := ← Json.field fields "blockOwnerDeletion" Json.toBool?
    controller := ← Json.field fields "controller" Json.toBool?
    kind := ← Json.textField fields "kind"
    name := ← Json.textField fields "name"
    uid := ← Json.textField fields "uid" }

def toJson (owner : OwnerReference) : Json :=
  Json.record [("apiVersion", some (.string owner.apiVersion)),
    ("blockOwnerDeletion", owner.blockOwnerDeletion.map .bool),
    ("controller", owner.controller.map .bool), ("kind", some (.string owner.kind)),
    ("name", some (.string owner.name)), ("uid", some (.string owner.uid))]

end OwnerReference

namespace ManagedFields

def ofJson? (value : Json) : Option ManagedFields := do
  let fields ← value.asObject?
  return {
    apiVersion := ← Json.field fields "apiVersion" Json.asString?
    fieldsType := ← Json.field fields "fieldsType" Json.asString?
    fields := ← Json.field fields "fieldsV1" some
    manager := ← Json.field fields "manager" Json.asString?
    operation := ← Json.field fields "operation" Json.asString?
    subresource := ← Json.field fields "subresource" Json.asString?
    time := ← Json.field fields "time" Json.toInstant? }

def toJson (managed : ManagedFields) : Json :=
  Json.record [("apiVersion", managed.apiVersion.map .string),
    ("fieldsType", managed.fieldsType.map .string), ("fieldsV1", managed.fields),
    ("manager", managed.manager.map .string), ("operation", managed.operation.map .string),
    ("subresource", managed.subresource.map .string),
    ("time", managed.time.map fun time => .string time.wholeText)]

end ManagedFields

namespace Metadata

def ofJson? (value : Json) : Option Metadata := do
  let fields ← value.asObject?
  let text (key : String) := Json.field fields key Json.asString?
  return {
    annotations := ← Json.field fields "annotations" Json.stringTable?
    creationTimestamp := ← Json.field fields "creationTimestamp" Json.toInstant?
    deletionGracePeriodSeconds := ← Json.field fields "deletionGracePeriodSeconds" Json.toInt64?
    deletionTimestamp := ← Json.field fields "deletionTimestamp" Json.toInstant?
    finalizers := ← Json.field fields "finalizers" Json.stringList?
    generateName := ← text "generateName"
    generation := ← Json.field fields "generation" Json.toInt64?
    labels := ← Json.field fields "labels" Json.stringTable?
    managedFields := ← Json.field fields "managedFields" (Json.listOf? ManagedFields.ofJson?)
    name := ← text "name"
    namespaceName := ← text "namespace"
    ownerReferences := ← Json.field fields "ownerReferences" (Json.listOf? OwnerReference.ofJson?)
    resourceVersion := ← text "resourceVersion"
    selfLink := ← text "selfLink"
    uid := ← text "uid" }

def toJson (metadata : Metadata) : Json :=
  Json.record [("annotations", metadata.annotations.map Json.ofStringTable),
    ("creationTimestamp", metadata.creationTimestamp.map fun time => .string time.wholeText),
    ("deletionGracePeriodSeconds", metadata.deletionGracePeriodSeconds.map Json.int),
    ("deletionTimestamp", metadata.deletionTimestamp.map fun time => .string time.wholeText),
    ("finalizers", metadata.finalizers.map Json.strings),
    ("generateName", metadata.generateName.map .string),
    ("generation", metadata.generation.map Json.int),
    ("labels", metadata.labels.map Json.ofStringTable),
    ("managedFields",
      metadata.managedFields.map fun entries => .array (entries.map ManagedFields.toJson)),
    ("name", metadata.name.map .string), ("namespace", metadata.namespaceName.map .string),
    ("ownerReferences",
      metadata.ownerReferences.map fun owners => .array (owners.map OwnerReference.toJson)),
    ("resourceVersion", metadata.resourceVersion.map .string),
    ("selfLink", metadata.selfLink.map .string), ("uid", metadata.uid.map .string)]

/-- The name, or the start of a generated one, or nothing. -/
def nameAny (metadata : Metadata) : String :=
  (metadata.name.or metadata.generateName).getD ""

def labelTable (metadata : Metadata) : Table String := metadata.labels.getD []

def finalizerList (metadata : Metadata) : List String := metadata.finalizers.getD []

end Metadata

/-- An object as queues and stores name it. -/
structure ObjectKey where
  namespaceName : Option String
  name : String
  deriving DecidableEq, Repr, Inhabited

/-- An object without a name cannot be queued or stored; it ends the program. -/
structure NamelessObject where
  deriving DecidableEq, Repr

namespace NamelessObject

def message (_ : NamelessObject) : String := ".metadata.name missing"

end NamelessObject

def Metadata.key (metadata : Metadata) : Except NamelessObject ObjectKey :=
  match metadata.name with
  | some name => .ok ⟨metadata.namespaceName, name⟩
  | none => .error ⟨⟩

structure ObjectReference where
  apiVersion : Option String := none
  fieldPath : Option String := none
  kind : Option String := none
  name : Option String := none
  namespaceName : Option String := none
  resourceVersion : Option String := none
  uid : Option String := none
  deriving DecidableEq, Repr, Inhabited

namespace ObjectReference

def ofMetadata (apiVersion kind : String) (metadata : Metadata) : ObjectReference where
  apiVersion := some apiVersion
  kind := some kind
  name := metadata.name
  namespaceName := metadata.namespaceName
  uid := metadata.uid

def ofJson? (value : Json) : Option ObjectReference := do
  let fields ← value.asObject?
  let text (key : String) := Json.field fields key Json.asString?
  return {
    apiVersion := ← text "apiVersion"
    fieldPath := ← text "fieldPath"
    kind := ← text "kind"
    name := ← text "name"
    namespaceName := ← text "namespace"
    resourceVersion := ← text "resourceVersion"
    uid := ← text "uid" }

def toJson (reference : ObjectReference) : Json :=
  Json.record [("apiVersion", reference.apiVersion.map .string),
    ("fieldPath", reference.fieldPath.map .string), ("kind", reference.kind.map .string),
    ("name", reference.name.map .string), ("namespace", reference.namespaceName.map .string),
    ("resourceVersion", reference.resourceVersion.map .string),
    ("uid", reference.uid.map .string)]

end ObjectReference

end BindingOperator
