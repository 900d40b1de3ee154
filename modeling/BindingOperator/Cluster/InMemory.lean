import BindingOperator.Cluster.Fault
import BindingOperator.Controller.Call

/-!
A cluster in memory that answers the calls of a pass: objects are found by plural,
namespace and name, kinds are served from a list, every call is logged, and faults may be
raised. Every write counts a numeric resource version up.
-/

namespace BindingOperator

/-- One more, where the version is a number. -/
def nextVersion (version : String) : String :=
  let digits := match version.toList with
    | '+' :: rest => rest
    | characters => characters
  let isNumber := !digits.isEmpty && digits.all fun c => '0' ≤ c && c ≤ '9'
  let value := digits.foldl (fun value c => value * 10 + (c.toNat - 48)) 0
  if isNumber && value < limit64 then Nat.repr (value + 1) else version

def Metadata.bumped (metadata : Metadata) : Metadata :=
  { metadata with resourceVersion := metadata.resourceVersion.map nextVersion }

structure StoredObject where
  plural : String
  object : Object

namespace StoredObject

def isAt (plural namespaceName name : String) (stored : StoredObject) : Bool :=
  stored.plural = plural && stored.object.metadata.namespaceName.getD "" = namespaceName &&
    stored.object.metadata.name = some name

end StoredObject

structure ServedKind where
  kind : GroupVersionKind
  plural : String

def findServed (kind : GroupVersionKind) (served : List ServedKind) : Except Failure Resource :=
  match served.find? fun entry => entry.kind = kind with
  | some entry => .ok (kind.resource entry.plural)
  | none => .error (.mapping kind.group kind.version kind.kind "not served")

namespace BindingCall

/-- The name of a call that counts in logs and faults; events are not counted. -/
def name : BindingCall → String
  | .resolve _ => "resolve"
  | .getObject .. => "get_object"
  | .listObjects .. => "list_objects"
  | .updateObject .. => "update_object"
  | .patchFinalizers .. => "patch_finalizers"
  | .updateStatus _ => "update_status"
  | .publish .. => "publish"

def target : BindingCall → String
  | .resolve kind => kind.kind
  | .getObject _ _ name => name
  | .listObjects .. => ""
  | .updateObject _ object => object.nameAny
  | .patchFinalizers binding _ => binding.nameAny
  | .updateStatus binding => binding.nameAny
  | .publish .. => ""

end BindingCall

structure InMemory where
  objects : List StoredObject := []
  kinds : List ServedKind := []
  faults : List Fault := []
  binding : Option Binding := none
  calls : List BindingCall := []
  events : List (ObjectReference × Event) := []

namespace InMemory

def find? (plural namespaceName name : String) (cluster : InMemory) : Option Object :=
  (cluster.objects.find? fun stored => stored.isAt plural namespaceName name).map (·.object)

/-- Changes the first object at a place. -/
def modify (plural namespaceName name : String) (change : Object → Object)
    (cluster : InMemory) : InMemory :=
  let rec go : List StoredObject → List StoredObject
    | [] => []
    | stored :: rest =>
        if stored.isAt plural namespaceName name then
          { stored with object := change stored.object } :: rest
        else stored :: go rest
  { cluster with objects := go cluster.objects }

def remove (plural namespaceName name : String) (cluster : InMemory) : InMemory :=
  { cluster with
    objects := cluster.objects.filter fun stored => !stored.isAt plural namespaceName name }

/-- Carries out a call that no fault concerns. -/
def perform (cluster : InMemory) : (call : BindingCall) → call.Answer × InMemory
  | .resolve kind => (findServed kind cluster.kinds, cluster)
  | .getObject resource namespaceName name =>
      (match cluster.find? resource.plural namespaceName name with
        | some object => .ok object
        | none => .error (.notFound resource.kind (namespaceName ++ "/" ++ name)), cluster)
  | .listObjects resource namespaceName _ =>
      (.ok ((cluster.objects.filter fun stored =>
        stored.plural = resource.plural &&
          stored.object.metadata.namespaceName.getD "" = namespaceName).map (·.object)), cluster)
  | .updateObject resource object =>
      let namespaceName := object.metadata.namespaceName.getD ""
      let name := object.nameAny
      if (cluster.find? resource.plural namespaceName name).isSome then
        let written := { object with metadata := object.metadata.bumped }
        (.ok written, cluster.modify resource.plural namespaceName name fun _ => written)
      else (.error (.notFound resource.kind (namespaceName ++ "/" ++ name)), cluster)
  | .patchFinalizers binding finalizers =>
      let patched := binding.withFinalizers finalizers
      let written := { patched with metadata := patched.metadata.bumped }
      (.ok written, { cluster with binding := some written })
  | .updateStatus binding =>
      let written := { binding with metadata := binding.metadata.bumped }
      (.ok written, { cluster with binding := some written })
  | .publish about event =>
      ((), { cluster with events := cluster.events ++ [(about, event)] })

/-- A call answered with a failure; events are always taken. -/
def refuse (failure : Failure) : (call : BindingCall) → call.Answer
  | .resolve _ => .error failure
  | .getObject .. => .error failure
  | .listObjects .. => .error failure
  | .updateObject .. => .error failure
  | .patchFinalizers .. => .error failure
  | .updateStatus _ => .error failure
  | .publish .. => ()

def answer (call : BindingCall) : StateM InMemory call.Answer := fun cluster =>
  match call with
  | .publish about event => cluster.perform (.publish about event)
  | call =>
      let logged := { cluster with calls := cluster.calls ++ [call] }
      match Fault.strike call.name call.target logged.faults with
      | (some failure, faults) => (refuse failure call, { logged with faults })
      | (none, faults) => InMemory.perform { logged with faults } call

def run {α : Type} (program : BindingTalk α) (cluster : InMemory) : α × InMemory :=
  (Dialogue.run answer program).run cluster

/-- The cluster with empty logs. -/
def cleared (cluster : InMemory) : InMemory := { cluster with calls := [], events := [] }

end InMemory

end BindingOperator
