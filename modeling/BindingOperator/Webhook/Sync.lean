import BindingOperator.Dialogue
import BindingOperator.Event
import BindingOperator.Controller.Action
import BindingOperator.Webhook.Configuration
import BindingOperator.Webhook.Kinds

/-!
Keeping the rules of a webhook in step with the bindings. The configuration only says that
the rules are due; the bindings decide what they are. Nothing is written while the stored
rules agree with the desired ones, and one kind that cannot be resolved stops the whole
synthesis before anything is written.
-/

namespace BindingOperator

inductive WebhookCall where
  | resolve (kind : GroupVersionKind)
  | listBindings
  | replaceConfiguration (config : WebhookConfiguration)
  | publish (about : ObjectReference) (event : Event)

namespace WebhookCall

abbrev Answer : WebhookCall → Type
  | .resolve _ => Except Failure Resource
  | .listBindings => Except Failure (List Binding)
  | .replaceConfiguration _ => Except Failure WebhookConfiguration
  | .publish .. => Unit

end WebhookCall

abbrev WebhookTalk := Dialogue WebhookCall.Answer

namespace WebhookTalk

def resolve (kind : GroupVersionKind) : WebhookTalk (Except Failure Resource) :=
  Dialogue.call (WebhookCall.resolve kind)

def listBindings : WebhookTalk (Except Failure (List Binding)) :=
  Dialogue.call WebhookCall.listBindings

def replaceConfiguration (config : WebhookConfiguration) :
    WebhookTalk (Except Failure WebhookConfiguration) :=
  Dialogue.call (WebhookCall.replaceConfiguration config)

def publish (about : ObjectReference) (event : Event) : WebhookTalk Unit :=
  Dialogue.call (WebhookCall.publish about event)

end WebhookTalk

/-- The group and plural of every kind, in order; the first failure ends it. -/
def resolveResources : List GroupVersionKind →
    WebhookTalk (Except Failure (List (String × String)))
  | [] => pure (.ok [])
  | kind :: rest => do
      match ← WebhookTalk.resolve kind with
      | .error failure => pure (.error failure)
      | .ok resource =>
          match ← resolveResources rest with
          | .error failure => pure (.error failure)
          | .ok more => pure (.ok ((resource.group, resource.plural) :: more))

def webhookRules (kinds : List GroupVersionKind) (operations : List String) :
    WebhookTalk (Except Failure (List WebhookRule)) := do
  match ← resolveResources kinds with
  | .error failure => pure (.error failure)
  | .ok resources => pure (.ok (WebhookRule.merge operations resources))

/-- An entry that the operator owns: its name, the kinds it intercepts, and the writes. -/
structure WebhookTask where
  webhook : String
  observe : List Binding → ObservedKinds
  operations : List String

/-- Brings the rules of an entry up to date; a configuration without it is left alone. -/
def syncRules (task : WebhookTask) (config : WebhookConfiguration) :
    WebhookTalk (Except Failure Action) := do
  match config.rules? task.webhook with
  | none => pure (.ok .awaitChange)
  | some stored =>
      match ← WebhookTalk.listBindings with
      | .error failure => pure (.error failure)
      | .ok bindings =>
          match ← webhookRules (task.observe bindings) task.operations with
          | .error failure => pure (.error failure)
          | .ok desired =>
              if WebhookRule.agree stored desired then pure (.ok .awaitChange)
              else
                match ← WebhookTalk.replaceConfiguration (config.setRules task.webhook desired) with
                | .error failure => pure (.error failure)
                | .ok updated => do
                    WebhookTalk.publish updated.reference
                      (.configurationUpdated updated.kind updated.nameAny)
                    pure (.ok .awaitChange)

def webhookControllerName : String := "servicebinding-webhook-controller"

/-- Seconds before a failed synchronisation is tried again. -/
def webhookRetryDelay : Nat := 15

def webhookErrorPolicy (_ : Failure) : Action := .requeue webhookRetryDelay

namespace AdmissionType

/-- The configuration that is managed unless another one is named. -/
def defaultConfiguration : AdmissionType → String
  | .mutating => "servicebinding-admission-projector"
  | .validating => "servicebinding-trigger"

def task : AdmissionType → WebhookTask
  | .mutating => ⟨"projector.servicebinding.io", ObservedKinds.forProjector, projectorOperations⟩
  | .validating => ⟨"trigger.servicebinding.io", ObservedKinds.forTrigger, triggerOperations⟩

end AdmissionType

/-- One pass over a configuration; only the managed one is touched. -/
def reconcileConfiguration (managed : String) (config : WebhookConfiguration) :
    WebhookTalk (Except Failure Action) :=
  if config.nameAny = managed then syncRules config.type.task config
  else pure (.ok .awaitChange)

end BindingOperator
