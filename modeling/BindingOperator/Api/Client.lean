import BindingOperator.Api.Mapper
import BindingOperator.Api.Recorder
import BindingOperator.Controller.Call
import BindingOperator.Webhook.Admission
import BindingOperator.Webhook.Sync

/-!
The calls of the controllers carried out over HTTP. Every failed request is classified as
one about a named object, so that a missing object and a missing permission can be told
from everything else. A write of a binding is a merge patch that carries the version it was
made for; the status is spelled out in full, so that what it lacks is removed.
-/

namespace BindingOperator

namespace AdmissionType

def resource (type : AdmissionType) : Resource where
  group := WebhookConfiguration.group
  version := WebhookConfiguration.version
  apiVersion := WebhookConfiguration.apiVersion
  kind := type.kind
  plural := type.plural

end AdmissionType

def qualifiedName (namespaceName name : String) : String := namespaceName ++ "/" ++ name

/-- An absent text is null. -/
def textOrNull (text : Option String) : Json := (text.map Json.string).getD .null

namespace Binding

def finalizersPatch (binding : Binding) (finalizers : List String) : Json :=
  Json.record [("metadata", some (Json.record [("finalizers", some (Json.strings finalizers)),
    ("resourceVersion", some (textOrNull binding.metadata.resourceVersion))]))]

/-- The patch that writes the whole status: what is not set is null. -/
def statusPatch (binding : Binding) : Json :=
  let status := binding.statusOrDefault
  Json.record [("metadata", some (Json.record [("resourceVersion",
      some (textOrNull binding.metadata.resourceVersion))])),
    ("status", some (Json.record [
      ("observedGeneration", some ((status.observedGeneration.map Json.int).getD .null)),
      ("conditions", some (.array (status.conditions.map Condition.toJson))),
      ("binding", some ((status.secret.map BindingStatus.secretToJson).getD .null))]))]

end Binding

namespace ApiClient

def send {α : Type} (ofJson? : Json → Option α) (kind name verb : String)
    (request : ApiRequest.Built) : HttpTalk (Except Failure α) := do
  let answer ← ApiRequest.send kind ofJson? request
  pure (answer.mapError fun cause => .ofRequest cause kind name verb)

def getObject (resource : Resource) (namespaceName name : String) :
    HttpTalk (Except Failure Object) :=
  send Object.ofJson? resource.kind (qualifiedName namespaceName name) "get"
    (ApiRequest.get (resource.collectionPath (some namespaceName)) name)

def listObjects (resource : Resource) (namespaceName query : String) :
    HttpTalk (Except Failure (List Object)) := do
  let listed ← send (ObjectList.ofJson? Object.ofJson?) resource.kind
    (qualifiedName namespaceName "*") "list"
    (ApiRequest.list (resource.collectionPath (some namespaceName)) [("labelSelector", query)])
  pure (listed.map ObjectList.items)

def updateObject (resource : Resource) (object : Object) : HttpTalk (Except Failure Object) :=
  let namespaceName := object.metadata.namespaceName.getD ""
  send Object.ofJson? resource.kind (qualifiedName namespaceName object.nameAny) "update"
    (ApiRequest.replace (resource.collectionPath (some namespaceName)) object.nameAny
      object.toJson)

/-- The namespace of a binding, or the one that counts where none is named. -/
def bindingCollection (defaultNamespace : String) (binding : Binding) : String :=
  bindingResource.collectionPath (some (binding.metadata.namespaceName.getD defaultNamespace))

def patchFinalizers (defaultNamespace : String) (binding : Binding) (finalizers : List String) :
    HttpTalk (Except Failure Binding) :=
  send Binding.ofJson? Binding.kind binding.nameAny "patch"
    (ApiRequest.patch (bindingCollection defaultNamespace binding) binding.nameAny ""
      ApiRequest.writeParameters (binding.finalizersPatch finalizers))

def updateStatus (defaultNamespace : String) (binding : Binding) :
    HttpTalk (Except Failure Binding) :=
  send Binding.ofJson? Binding.kind binding.nameAny "update"
    (ApiRequest.patch (bindingCollection defaultNamespace binding) binding.nameAny "/status"
      ApiRequest.writeParameters binding.statusPatch)

def listBindings : HttpTalk (Except Failure (List Binding)) := do
  let listed ← send (ObjectList.ofJson? Binding.ofJson?) Binding.kind "*" "list"
    (ApiRequest.list (bindingResource.collectionPath none) [])
  pure (listed.map ObjectList.items)

def listBindingsIn (namespaceName : String) : HttpTalk (Except Failure (List Binding)) := do
  let listed ← send (ObjectList.ofJson? Binding.ofJson?) Binding.kind
    (qualifiedName namespaceName "*") "list"
    (ApiRequest.list (bindingResource.collectionPath (some namespaceName)) [])
  pure (listed.map ObjectList.items)

def replaceConfiguration (config : WebhookConfiguration) :
    HttpTalk (Except Failure WebhookConfiguration) :=
  send (WebhookConfiguration.ofJson? config.type) config.kind config.nameAny "update"
    (ApiRequest.replace (config.type.resource.collectionPath none) config.nameAny config.toJson)

end ApiClient

/-- Where events go: to the server, or into a list. -/
inductive EventSink where
  | server (recorder : Recorder)
  | collected (events : List (ObjectReference × Event))
  deriving Repr

namespace EventSink

def publish (now : Instant) (about : ObjectReference) (event : Event) :
    EventSink → HttpTalk EventSink
  | .server recorder => do
      let ((), recorder) ← Recorder.publish now about event recorder
      pure (.server recorder)
  | .collected events => pure (.collected (events ++ [(about, event)]))

def events : EventSink → List (ObjectReference × Event)
  | .server _ => []
  | .collected events => events

end EventSink

structure ApiSession where
  mapper : MapperCache := []
  sink : EventSink

namespace ApiSession

def reporting (controller : String) : ApiSession where
  sink := .server { controller }

end ApiSession

abbrev SessionTalk := StateT ApiSession HttpTalk

namespace SessionTalk

def resolve (kind : GroupVersionKind) : SessionTalk (Except Failure Resource) := fun session => do
  let (resource, mapper) ← resolveOverHttp kind session.mapper
  pure (resource, { session with mapper })

def publish (now : Instant) (about : ObjectReference) (event : Event) : SessionTalk Unit :=
  fun session => do
    let sink ← session.sink.publish now about event
    pure ((), { session with sink })

end SessionTalk

namespace BindingCall

def overHttp (defaultNamespace : String) (now : Instant) :
    (call : BindingCall) → SessionTalk call.Answer
  | .resolve kind => SessionTalk.resolve kind
  | .getObject resource namespaceName name =>
      liftM (ApiClient.getObject resource namespaceName name)
  | .listObjects resource namespaceName query =>
      liftM (ApiClient.listObjects resource namespaceName query)
  | .updateObject resource object => liftM (ApiClient.updateObject resource object)
  | .patchFinalizers binding finalizers =>
      liftM (ApiClient.patchFinalizers defaultNamespace binding finalizers)
  | .updateStatus binding => liftM (ApiClient.updateStatus defaultNamespace binding)
  | .publish about event => SessionTalk.publish now about event

end BindingCall

namespace WebhookCall

def overHttp (now : Instant) : (call : WebhookCall) → SessionTalk call.Answer
  | .resolve kind => SessionTalk.resolve kind
  | .listBindings => liftM ApiClient.listBindings
  | .replaceConfiguration config => liftM (ApiClient.replaceConfiguration config)
  | .publish about event => SessionTalk.publish now about event

end WebhookCall

end BindingOperator
