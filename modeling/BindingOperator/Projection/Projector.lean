import BindingOperator.Projection.Container
import BindingOperator.Projection.Template
import BindingOperator.Failure

/-!
Projecting a binding into a workload and removing it again. Only the pod template changes.
Projection fails on a workload without one and on a template of an unexpected shape;
removal needs a template and passes over every part of it that has another shape.
-/

namespace BindingOperator

structure Projector where
  project : Binding → Object → Except Failure Object
  unproject : Binding → Object → Except Failure Object

def containerLists : List String := ["initContainers", "containers"]

def annotationsOf? (template : Table Json) : Option (Table Json) :=
  (((Table.lookup "metadata" template).bind Json.asObject?).bind
    (Table.lookup "annotations")).bind Json.asObject?

def ledgerOf (annotations : Table Json) : Ledger :=
  readRecord {} Ledger.ofText? (Table.lookup ledgerAnnotation annotations)

def ownedEnvOf (key : String) (annotations : Table Json) : OwnedEnv :=
  readRecord [] OwnedEnv.ofText? (Table.lookup (annotationName "env" key) annotations)

/-- Projects into the containers of a list one after the other. -/
def projectContainers (imprint : Imprint) (previous : OwnedEnv) :
    List Json → Ledger × OwnedEnv → Option (List Json × Ledger × OwnedEnv)
  | [], state => some ([], state)
  | item :: rest, state => do
      let container ← item.asObject?
      let name ← containerName? container
      let before := (Table.lookup name previous).getD []
      let result ← projectContainer imprint name before container state.1
      let owned :=
        if result.owned.isEmpty then state.2 else Table.insert name result.owned state.2
      let more ← projectContainers imprint previous rest (result.ledger, owned)
      return (.object result.container :: more.1, more.2)

def projectContainerLists (imprint : Imprint) (previous : OwnedEnv) :
    List String → Table Json × Ledger × OwnedEnv → Option (Table Json × Ledger × OwnedEnv)
  | [], state => some state
  | list :: rest, (spec, state) =>
      match (Table.lookup list spec).bind Json.asArray? with
      | none => projectContainerLists imprint previous rest (spec, state)
      | some containers => do
          let projected ← projectContainers imprint previous containers state
          projectContainerLists imprint previous rest
            (Table.insert list (.array projected.1) spec, projected.2)

/-- Projects into a pod template; fails on an unexpected shape. -/
def projectTemplate (imprint : Imprint) (template : Table Json) : Option (Table Json) := do
  let records := ((annotationsOf? template).map fun annotations =>
    (ledgerOf annotations, ownedEnvOf imprint.key annotations)).getD ({}, [])
  let ledger := trackField template "metadata" "metadata" records.1
  let hasAnnotations := ((Table.lookup "metadata" template).bind Json.asObject?).any
    (Table.has "annotations")
  let ledger := if hasAnnotations then ledger else ledger.noteCreated "annotations"
  let spec ← (Table.lookup "spec" template).bind Json.asObject?
  let ledger := trackField spec "volumes" "volumes" ledger
  let volumes ← listField? spec "volumes"
  let spec := Table.insert "volumes" (.array (putNamed imprint.volumeEntry volumes)) spec
  let projected ← projectContainerLists imprint records.2 containerLists (spec, ledger, [])
  let template := Table.insert "spec" (.object projected.1) template
  let metadata ← tableField? template "metadata"
  let annotations ← tableField? metadata "annotations"
  let ledger := projected.2.1
  let owned := projected.2.2
  let annotations := Table.insert (annotationName "secret" imprint.key) (.string imprint.secret)
    annotations
  let annotations := Table.assign (annotationName "type" imprint.key)
    (imprint.type.map .string) annotations
  let annotations := Table.assign (annotationName "provider" imprint.key)
    (imprint.provider.map .string) annotations
  let annotations := writeRecord (annotationName "env" imprint.key) (OwnedEnv.toJson owned)
    owned.isEmpty annotations
  let annotations := writeRecord ledgerAnnotation ledger.toJson ledger.isEmpty annotations
  return Table.insert "metadata"
    (.object (Table.insert "annotations" (.object annotations) metadata)) template

/-- Removes a binding from the containers of a list; other items are passed over. -/
def unprojectContainers (volume : String) (owned : OwnedEnv) :
    List Json → Ledger → List Json × Ledger
  | [], ledger => ([], ledger)
  | item :: rest, ledger =>
      match item.asObject?.bind fun container =>
          (containerName? container).map fun name => (container, name) with
      | none =>
          let more := unprojectContainers volume owned rest ledger
          (item :: more.1, more.2)
      | some (container, name) =>
          let cleared := unprojectContainer volume name ((Table.lookup name owned).getD [])
            container ledger
          let more := unprojectContainers volume owned rest cleared.2
          (.object cleared.1 :: more.1, more.2)

def unprojectContainerLists (volume : String) (owned : OwnedEnv) :
    List String → Table Json × Ledger → Table Json × Ledger
  | [], state => state
  | list :: rest, (spec, ledger) =>
      match (Table.lookup list spec).bind Json.asArray? with
      | none => unprojectContainerLists volume owned rest (spec, ledger)
      | some containers =>
          let cleared := unprojectContainers volume owned containers ledger
          unprojectContainerLists volume owned rest
            (Table.insert list (.array cleared.1) spec, cleared.2)

def unprojectSpec (volume : String) (owned : OwnedEnv) (spec : Table Json) (ledger : Ledger) :
    Table Json × Ledger :=
  let cleared := mapListField "volumes"
    (fun volumes => volumes.filter fun entry => entryName entry ≠ some volume) spec
  let released := releaseField cleared "volumes" "volumes" ledger
  unprojectContainerLists volume owned containerLists released

/-- Replaces the table of a field that is one, together with a ledger. -/
def mapTableField (field : String) (change : Table Json → Ledger → Table Json × Ledger)
    (parent : Table Json) (ledger : Ledger) : Table Json × Ledger :=
  match (Table.lookup field parent).bind Json.asObject? with
  | some fields =>
      let changed := change fields ledger
      (Table.insert field (.object changed.1) parent, changed.2)
  | none => (parent, ledger)

def mapAnnotations (change : Table Json → Table Json) (template : Table Json) : Table Json :=
  (mapTableField "metadata" (mapTableField "annotations" fun annotations ledger =>
    (change annotations, ledger)) template {}).1

def hasProjection (annotations : Table Json) : Bool :=
  annotations.any fun entry =>
    (annotationName "secret" "").toList.isPrefixOf entry.1.toList

def eraseAnnotations (key : String) (annotations : Table Json) : Table Json :=
  ["env", "secret", "type", "provider"].foldl
    (fun annotations field => Table.erase (annotationName field key) annotations) annotations

def unprojectTemplate (key : String) (template : Table Json) : Table Json :=
  let records := ((annotationsOf? template).map fun annotations =>
    (ledgerOf annotations, ownedEnvOf key annotations)).getD ({}, [])
  let template := mapAnnotations (eraseAnnotations key) template
  let cleared := mapTableField "spec" (unprojectSpec (volumeName key) records.2) template records.1
  let ledger := cleared.2
  let template := mapAnnotations (fun annotations =>
    writeRecord ledgerAnnotation ledger.toJson
      (!hasProjection annotations || ledger.isEmpty) annotations) cleared.1
  let released := mapTableField "metadata"
    (fun metadata ledger => releaseField metadata "annotations" "annotations" ledger)
    template ledger
  (releaseField released.1 "metadata" "metadata" released.2).1

namespace PodTemplate

def noTemplate (workload : Object) : Failure :=
  .projection workload.nameAny "workload has no pod template"

def malformed (workload : Object) : Failure :=
  .projection workload.nameAny "pod template has an unexpected shape"

def unproject (binding : Binding) (workload : Object) : Except Failure Object :=
  match workload.templatePath? with
  | none => .error (noTemplate workload)
  | some path =>
      .ok (workload.withTemplateAt path
        (unprojectTemplate binding.key ((workload.templateAt? path).getD [])))

/-- A binding whose Secret is not known is removed. -/
def project (binding : Binding) (workload : Object) : Except Failure Object :=
  match binding.imprint? with
  | none => unproject binding workload
  | some imprint =>
      match workload.templatePath? with
      | none => .error (noTemplate workload)
      | some path =>
          match projectTemplate imprint ((workload.templateAt? path).getD []) with
          | none => .error (malformed workload)
          | some template => .ok (workload.withTemplateAt path template)

def projector : Projector := ⟨project, unproject⟩

end PodTemplate

end BindingOperator
