import BindingOperator.Json.Misfit
import BindingOperator.Json.Record
import BindingOperator.Program.Environment
import BindingOperator.Program.File

/-!
Finding the cluster. A configuration names contexts, a context names a cluster, and a
cluster has the address of its server. The files of the configuration are looked for where
the environment says, or in the home directory, and are merged, the first mention of a name
counting. A program that runs inside a cluster is told about it by the environment, which
is looked at when there is no configuration that can be used.
-/

namespace BindingOperator

structure Kubeconfig where
  kind : Option String := none
  apiVersion : Option String := none
  currentContext : Option String := none
  contexts : List (String × Option String) := []
  /-- Clusters by name, each with its server; a cluster may be only a name. -/
  clusters : List (String × Option (Option String)) := []
  deriving DecidableEq, Repr, Inhabited

inductive KubeconfigFailure where
  | pathUnknown
  | unreadable (path : String) (fault : FileFault)
  /-- The document has not the structure of a configuration. -/
  | malformed (cause : String)
  | kindMismatch
  | apiVersionMismatch
  | noCurrentContext
  | noContext (name : String)
  | noCluster (name : String)
  | noServer
  deriving DecidableEq, Repr

namespace KubeconfigFailure

def message : KubeconfigFailure → String
  | .pathUnknown => "failed to find the path of kubeconfig"
  | .unreadable path fault =>
      "failed to read kubeconfig from '" ++ Text.quoted path ++ "': " ++ fault.text
  | .malformed cause => "the structure of the parsed kubeconfig is invalid: " ++ cause
  | .kindMismatch => "kubeconfigs with mismatching kind cannot be merged"
  | .apiVersionMismatch => "kubeconfigs with mismatching api version cannot be merged"
  | .noCurrentContext => "failed to determine current context"
  | .noContext name => "failed to load current context: " ++ name
  | .noCluster name => "failed to load the cluster of context: " ++ name
  | .noServer => "cluster url is missing on selected cluster"

def cause? : KubeconfigFailure → Option String
  | .unreadable _ fault => some fault.text
  | .malformed cause => some cause
  | .pathUnknown | .kindMismatch | .apiVersionMismatch | .noCurrentContext | .noContext _
  | .noCluster _ | .noServer => none

end KubeconfigFailure

namespace Kubeconfig

def mismatch {α : Type} (value : Json) (expected : String) : Except String α :=
  .error (Json.Misfit.wrongKind "unit value" expected value)

def text (value : Json) : Except String String :=
  match value with
  | .string text => .ok text
  | value => mismatch value "a string"

def record (name : String) (value : Json) : Except String (Table Json) :=
  match value with
  | .object fields => .ok fields
  | value => mismatch value ("struct " ++ name)

def required {α : Type} (fields : Table Json) (key : String) (read : Json → Except String α) :
    Except String α :=
  match Table.lookup key fields with
  | some value => read value
  | none => .error ("missing field `" ++ key ++ "`")

def optional {α : Type} (fields : Table Json) (key : String) (read : Json → Except String α) :
    Except String (Option α) :=
  match Table.lookup key fields with
  | none | some .null => .ok none
  | some value => (read value).map some

/-- A list; null is an empty one. -/
def list {α : Type} (fields : Table Json) (key : String) (read : Json → Except String α) :
    Except String (List α) := do
  let items ← optional fields key fun
    | .array items => items.mapM read
    | value => mismatch value "a sequence"
  return items.getD []

def context (value : Json) : Except String (String × Option String) := do
  let fields ← record "NamedContext" value
  let name ← required fields "name" text
  let cluster ← optional fields "context" fun value => do
    required (← record "Context" value) "cluster" text
  return (name, cluster)

def cluster (value : Json) : Except String (String × Option (Option String)) := do
  let fields ← record "NamedCluster" value
  let name ← required fields "name" text
  let server ← optional fields "cluster" fun value => do
    optional (← record "Cluster" value) "server" text
  return (name, server)

def ofJson (value : Json) : Except String Kubeconfig := do
  let fields ← record "Kubeconfig" value
  return {
    kind := ← optional fields "kind" text
    apiVersion := ← optional fields "apiVersion" text
    currentContext := ← optional fields "current-context" text
    contexts := ← list fields "contexts" context
    clusters := ← list fields "clusters" cluster }

/-- The document of a file: an empty file is null, and what is no document is a text. -/
def document (source : String) : Json :=
  let trimmed := source.trimAscii.toString
  if trimmed = "" then .null else (Json.parse? source).getD (.string trimmed)

def differ (left right : Option String) : Bool :=
  left.isSome && right.isSome && left ≠ right

def merge (first second : Kubeconfig) : Except KubeconfigFailure Kubeconfig :=
  if differ first.kind second.kind then .error .kindMismatch
  else if differ first.apiVersion second.apiVersion then .error .apiVersionMismatch
  else .ok {
    kind := first.kind.or second.kind
    apiVersion := first.apiVersion.or second.apiVersion
    currentContext := first.currentContext.or second.currentContext
    contexts := first.contexts ++ second.contexts
    clusters := first.clusters ++ second.clusters }

def load (path : String) : FileTalk (Except KubeconfigFailure Kubeconfig) := do
  match ← FileTalk.read path with
  | .error fault => pure (.error (.unreadable path fault))
  | .ok source => pure ((ofJson (document source)).mapError .malformed)

def loadAll : List String → Kubeconfig → FileTalk (Except KubeconfigFailure Kubeconfig)
  | [], merged => pure (.ok merged)
  | path :: rest, merged => do
      match ← load path with
      | .error failure => pure (.error failure)
      | .ok config =>
          match merge merged config with
          | .error failure => pure (.error failure)
          | .ok merged => loadAll rest merged

def namedPaths (environment : Environment) : List String :=
  (((environment.lookup "KUBECONFIG").getD "").splitOn ":").filter (· ≠ "")

def find (environment : Environment) :
    FileTalk (Except KubeconfigFailure Kubeconfig) :=
  match namedPaths environment, environment.lookup "HOME" with
  | [], none => pure (.error .pathUnknown)
  | [], some home => load (home ++ "/.kube/config")
  | paths, _ => loadAll paths {}

def server (config : Kubeconfig) : Except KubeconfigFailure String := do
  let some current := config.currentContext | .error .noCurrentContext
  let some (some clusterName) := config.contexts.lookup current | .error (.noContext current)
  let some (some server) := config.clusters.lookup clusterName | .error (.noCluster clusterName)
  let some address := server | .error .noServer
  return address

end Kubeconfig

/-- Why the environment does not tell about a cluster around the program. -/
inductive InClusterFailure where
  | variableMissing
  | portInvalid (cause : String)
  | namespaceUnreadable (fault : FileFault)
  deriving DecidableEq, Repr

namespace InClusterFailure

def message : InClusterFailure → String
  | .variableMissing =>
      "failed to read an incluster environment variable: environment variable not found"
  | .portInvalid cause => "failed to parse cluster port: " ++ cause
  | .namespaceUnreadable fault => "failed to read the default namespace: " ++ fault.text

end InClusterFailure

/-- Where a cluster tells a program its namespace. -/
def namespacePath : String := "/var/run/secrets/kubernetes.io/serviceaccount/namespace"

/-- Why a text is no port, if it is none. -/
def portFault? (text : String) : Option String :=
  let digits := match text.toList with
    | '+' :: rest => if rest.isEmpty then '+' :: rest else rest
    | rest => rest
  if digits.isEmpty then some "cannot parse integer from empty string"
  else if !digits.all Char.isDigit then some "invalid digit found in string"
  else if digits.foldl (fun sum c => sum * 10 + (c.toNat - 48)) 0 < 65536 then none
  else some "number too large to fit in target type"

def findInCluster (environment : Environment) :
    FileTalk (Except InClusterFailure String) :=
  match environment.lookup "KUBERNETES_SERVICE_HOST",
      environment.lookup "KUBERNETES_SERVICE_PORT" with
  | some host, some port =>
      match portFault? port with
      | some cause => pure (.error (.portInvalid cause))
      | none => do
          match ← FileTalk.read namespacePath with
          | .error fault => pure (.error (.namespaceUnreadable fault))
          | .ok _ => pure (.ok ("https://" ++ host ++ ":" ++ port))
  | _, _ => pure (.error .variableMissing)

/-- Why no cluster was found. -/
structure ClusterUnknown where
  inCluster : InClusterFailure
  kubeconfig : KubeconfigFailure
  deriving DecidableEq, Repr

namespace ClusterUnknown

def message (failure : ClusterUnknown) : String :=
  "failed to infer config: in-cluster: (" ++ failure.inCluster.message ++ "), kubeconfig: ("
    ++ failure.kubeconfig.message ++ ")"

/-- The failure and its causes, the outermost one first. -/
def chain (failure : ClusterUnknown) : List String :=
  ["Failed to infer configuration: " ++ failure.message, failure.message,
    failure.kubeconfig.message] ++ failure.kubeconfig.cause?.toList

end ClusterUnknown

def findServer (environment : Environment) : FileTalk (Except ClusterUnknown String) := do
  match (← Kubeconfig.find environment).bind Kubeconfig.server with
  | .ok server => pure (.ok server)
  | .error kubeconfig =>
      match ← findInCluster environment with
      | .ok server => pure (.ok server)
      | .error inCluster => pure (.error ⟨inCluster, kubeconfig⟩)

end BindingOperator
