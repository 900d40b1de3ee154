import BindingOperator.Cluster.InMemory
import BindingOperator.Webhook.Admission
import BindingOperator.Webhook.Sync

/-!
Clusters in memory that answer the webhook controllers and the admission endpoints. What
the mapper and the client are asked is logged apart, and their faults are counted apart.
-/

namespace BindingOperator

structure InMemoryWebhooks where
  bindings : List Binding := []
  kinds : List ServedKind := []
  clientFaults : List Fault := []
  mapperFaults : List Fault := []
  clientCalls : List WebhookCall := []
  resolved : List GroupVersionKind := []
  events : List (ObjectReference × Event) := []
  /-- The configuration as it was accepted last. -/
  stored : Option WebhookConfiguration := none

namespace InMemoryWebhooks

def strikeMapper (kind : GroupVersionKind) (cluster : InMemoryWebhooks) :
    Option Failure × InMemoryWebhooks :=
  let struck := Fault.strike "resolve" kind.kind cluster.mapperFaults
  (struck.1, { cluster with mapperFaults := struck.2, resolved := cluster.resolved ++ [kind] })

def strikeClient (call : WebhookCall) (name target : String) (cluster : InMemoryWebhooks) :
    Option Failure × InMemoryWebhooks :=
  let struck := Fault.strike name target cluster.clientFaults
  (struck.1, { cluster with
    clientFaults := struck.2, clientCalls := cluster.clientCalls ++ [call] })

def answer : (call : WebhookCall) → StateM InMemoryWebhooks call.Answer
  | .resolve kind => fun cluster =>
      match cluster.strikeMapper kind with
      | (some failure, after) => (.error failure, after)
      | (none, after) => (findServed kind after.kinds, after)
  | .listBindings => fun cluster =>
      match cluster.strikeClient .listBindings "list_bindings" "" with
      | (some failure, after) => (.error failure, after)
      | (none, after) => (.ok after.bindings, after)
  | .replaceConfiguration config => fun cluster =>
      match cluster.strikeClient (.replaceConfiguration config) "replace_configuration"
          config.nameAny with
      | (some failure, after) => (.error failure, after)
      | (none, after) => (.ok config, { after with stored := some config })
  | .publish about event => fun cluster =>
      ((), { cluster with events := cluster.events ++ [(about, event)] })

def run {α : Type} (program : WebhookTalk α) (cluster : InMemoryWebhooks) :
    α × InMemoryWebhooks :=
  (Dialogue.run answer program).run cluster

/-- The cluster with empty logs. -/
def cleared (cluster : InMemoryWebhooks) : InMemoryWebhooks :=
  { cluster with clientCalls := [], resolved := [], events := [] }

end InMemoryWebhooks

/-- What the admission endpoints talk to: listed bindings and a queue of limited room. -/
structure InMemoryAdmission where
  bindings : List Binding := []
  faults : List Fault := []
  /-- How many keys the queue holds at most; nothing is taken once it is closed. -/
  room : Option Nat := some 16
  listed : List String := []
  queued : List ObjectKey := []

namespace InMemoryAdmission

def answer : (call : AdmissionCall) → StateM InMemoryAdmission call.Answer
  | .listBindings namespaceName => fun cluster =>
      let struck := Fault.strike "list_bindings_in" namespaceName cluster.faults
      let after := { cluster with
        faults := struck.2, listed := cluster.listed ++ [namespaceName] }
      match struck.1 with
      | some failure => (.error failure, after)
      | none =>
          (.ok (after.bindings.filter fun binding => binding.namespaceName = namespaceName), after)
  | .enqueue key => fun cluster =>
      if cluster.room.any (cluster.queued.length < ·) then
        (true, { cluster with queued := cluster.queued ++ [key] })
      else (false, cluster)

def run {α : Type} (program : AdmissionTalk α) (cluster : InMemoryAdmission) :
    α × InMemoryAdmission :=
  (Dialogue.run answer program).run cluster

/-- The cluster with an empty log and a queue that was emptied. -/
def cleared (cluster : InMemoryAdmission) : InMemoryAdmission :=
  { cluster with listed := [], queued := [] }

end InMemoryAdmission

end BindingOperator
