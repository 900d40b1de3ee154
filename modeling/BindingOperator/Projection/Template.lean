import BindingOperator.Object

/-!
Where the pod template of a workload is: under the spec, or one level deeper under the
template of its jobs. Reading and replacing go through one location, so whatever is done to
a template leaves the rest of the workload as it is.
-/

namespace BindingOperator

def templatePaths : List (List String) :=
  [["spec", "template"], ["spec", "jobTemplate", "spec", "template"]]

namespace Object

def templateAt? (workload : Object) (path : List String) : Option (Table Json) :=
  ((Json.object workload.body).at? path).bind Json.asObject?

/-- The first location that holds an object. -/
def templatePath? (workload : Object) : Option (List String) :=
  templatePaths.find? fun path => (workload.templateAt? path).isSome

def withTemplateAt (path : List String) (template : Table Json) (workload : Object) : Object :=
  match Json.replaceAt (.object template) path (.object workload.body) with
  | .object body => { workload with body }
  | _ => workload

def template? (workload : Object) : Option (Table Json) :=
  workload.templatePath?.bind workload.templateAt?

end Object

end BindingOperator
