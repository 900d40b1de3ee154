import BindingOperator.Webhook.Rule
import BindingOperator.Metadata
import BindingOperator.Kind
import BindingOperator.Text.Base64

/-!
Configurations of admission webhooks, mutating or validating. A configuration holds any
number of entries, known by their names; the operator owns the rules of one of them and
leaves everything else as it is. Texts that are required read as empty when they are missing.
-/

namespace BindingOperator

/-- What an admission webhook may do with a request. -/
inductive AdmissionType where
  | mutating
  | validating
  deriving DecidableEq, Repr, Inhabited

structure WebhookService where
  name : String
  namespaceName : String
  path : Option String
  port : Option Int
  deriving DecidableEq, Repr, Inhabited

/-- Where a webhook is reached. -/
structure WebhookClientConfig where
  caBundle : Option String := none
  service : Option WebhookService := none
  url : Option String := none
  deriving DecidableEq, Repr, Inhabited

structure MatchCondition where
  expression : String
  name : String
  deriving DecidableEq, Repr, Inhabited

structure EntryExpression where
  key : String
  operator : String
  values : Option (List String)
  deriving DecidableEq, Repr, Inhabited

/-- A label selector as an entry holds it: absent and empty parts are told apart. -/
structure EntrySelector where
  matchExpressions : Option (List EntryExpression)
  matchLabels : Option (Table String)
  deriving DecidableEq, Repr, Inhabited

structure WebhookEntry where
  admissionReviewVersions : List String := []
  clientConfig : WebhookClientConfig := {}
  failurePolicy : Option String := none
  matchConditions : Option (List MatchCondition) := none
  matchPolicy : Option String := none
  name : String := ""
  namespaceSelector : Option EntrySelector := none
  objectSelector : Option EntrySelector := none
  /-- Only mutating webhooks are called again. -/
  reinvocationPolicy : Option String := none
  rules : Option (List WebhookRule) := none
  sideEffects : String := ""
  timeoutSeconds : Option Int := none
  deriving DecidableEq, Repr, Inhabited

structure WebhookConfiguration where
  type : AdmissionType
  metadata : Metadata := {}
  webhooks : Option (List WebhookEntry) := none
  deriving DecidableEq, Repr, Inhabited

namespace WebhookService

def ofJson? (value : Json) : Option WebhookService := do
  let fields ← value.asObject?
  return {
    name := ← Json.textField fields "name"
    namespaceName := ← Json.textField fields "namespace"
    path := ← Json.field fields "path" Json.asString?
    port := ← Json.field fields "port" Json.toInt32? }

def toJson (service : WebhookService) : Json :=
  Json.record [("name", some (.string service.name)),
    ("namespace", some (.string service.namespaceName)), ("path", service.path.map .string),
    ("port", service.port.map Json.int)]

end WebhookService

namespace WebhookClientConfig

def bundle? (value : Json) : Option String :=
  value.asString?.filter fun text => Text.isBase64 text.toList

def ofJson? (value : Json) : Option WebhookClientConfig := do
  let fields ← value.asObject?
  return {
    caBundle := ← Json.field fields "caBundle" bundle?
    service := ← Json.field fields "service" WebhookService.ofJson?
    url := ← Json.field fields "url" Json.asString? }

def toJson (target : WebhookClientConfig) : Json :=
  Json.record [("caBundle", target.caBundle.map .string),
    ("service", target.service.map WebhookService.toJson), ("url", target.url.map .string)]

end WebhookClientConfig

namespace MatchCondition

def ofJson? (value : Json) : Option MatchCondition := do
  let fields ← value.asObject?
  return {
    expression := ← Json.textField fields "expression"
    name := ← Json.textField fields "name" }

def toJson (condition : MatchCondition) : Json :=
  Json.record [("expression", some (.string condition.expression)),
    ("name", some (.string condition.name))]

end MatchCondition

namespace EntryExpression

def ofJson? (value : Json) : Option EntryExpression := do
  let fields ← value.asObject?
  return {
    key := ← Json.textField fields "key"
    operator := ← Json.textField fields "operator"
    values := ← Json.field fields "values" Json.stringList? }

def toJson (expression : EntryExpression) : Json :=
  Json.record [("key", some (.string expression.key)),
    ("operator", some (.string expression.operator)),
    ("values", expression.values.map Json.strings)]

end EntryExpression

namespace EntrySelector

def ofJson? (value : Json) : Option EntrySelector := do
  let fields ← value.asObject?
  return {
    matchExpressions :=
      ← Json.field fields "matchExpressions" (Json.listOf? EntryExpression.ofJson?)
    matchLabels := ← Json.field fields "matchLabels" Json.stringTable? }

def toJson (selector : EntrySelector) : Json :=
  Json.record [
    ("matchExpressions", selector.matchExpressions.map fun expressions =>
      .array (expressions.map EntryExpression.toJson)),
    ("matchLabels", selector.matchLabels.map Json.ofStringTable)]

end EntrySelector

namespace WebhookEntry

/-- The policy of being called again; entries that validate have none. -/
def reinvocation? (type : AdmissionType) (fields : Table Json) : Option (Option String) :=
  match type with
  | .mutating => Json.field fields "reinvocationPolicy" Json.asString?
  | .validating => some none

def ofJson? (type : AdmissionType) (value : Json) : Option WebhookEntry := do
  let fields ← value.asObject?
  let text (key : String) := Json.field fields key Json.asString?
  return {
    admissionReviewVersions :=
      (← Json.field fields "admissionReviewVersions" Json.stringList?).getD []
    clientConfig := (← Json.field fields "clientConfig" WebhookClientConfig.ofJson?).getD {}
    failurePolicy := ← text "failurePolicy"
    matchConditions :=
      ← Json.field fields "matchConditions" (Json.listOf? MatchCondition.ofJson?)
    matchPolicy := ← text "matchPolicy"
    name := ← Json.textField fields "name"
    namespaceSelector := ← Json.field fields "namespaceSelector" EntrySelector.ofJson?
    objectSelector := ← Json.field fields "objectSelector" EntrySelector.ofJson?
    reinvocationPolicy := ← reinvocation? type fields
    rules := ← Json.field fields "rules" (Json.listOf? WebhookRule.ofJson?)
    sideEffects := ← Json.textField fields "sideEffects"
    timeoutSeconds := ← Json.field fields "timeoutSeconds" Json.toInt32? }

def rulesToJson (rules : List WebhookRule) : Json :=
  .array (rules.map WebhookRule.toJson)

def toJson (entry : WebhookEntry) : Json :=
  Json.record [("admissionReviewVersions", some (Json.strings entry.admissionReviewVersions)),
    ("clientConfig", some entry.clientConfig.toJson),
    ("failurePolicy", entry.failurePolicy.map .string),
    ("matchConditions", entry.matchConditions.map fun conditions =>
      .array (conditions.map MatchCondition.toJson)),
    ("matchPolicy", entry.matchPolicy.map .string), ("name", some (.string entry.name)),
    ("namespaceSelector", entry.namespaceSelector.map EntrySelector.toJson),
    ("objectSelector", entry.objectSelector.map EntrySelector.toJson),
    ("reinvocationPolicy", entry.reinvocationPolicy.map .string),
    ("rules", entry.rules.map rulesToJson), ("sideEffects", some (.string entry.sideEffects)),
    ("timeoutSeconds", entry.timeoutSeconds.map Json.int)]

end WebhookEntry

namespace AdmissionType

def kind : AdmissionType → String
  | .mutating => "MutatingWebhookConfiguration"
  | .validating => "ValidatingWebhookConfiguration"

def plural : AdmissionType → String
  | .mutating => "mutatingwebhookconfigurations"
  | .validating => "validatingwebhookconfigurations"

end AdmissionType

namespace WebhookConfiguration

def group : String := "admissionregistration.k8s.io"
def version : String := "v1"
def apiVersion : String := formatApiVersion group version

/-- A tag may be missing but must not be another one. -/
def tagged (expected : String) (tag : Option Json) : Bool :=
  tag.all (· = .string expected)

def ofJson? (type : AdmissionType) (value : Json) : Option WebhookConfiguration := do
  let fields ← value.asObject?
  guard (tagged apiVersion (Table.lookup "apiVersion" fields))
  guard (tagged type.kind (Table.lookup "kind" fields))
  return {
    type
    metadata := (← Json.field fields "metadata" Metadata.ofJson?).getD {}
    webhooks := ← Json.field fields "webhooks" (Json.listOf? (WebhookEntry.ofJson? type)) }

def toJson (config : WebhookConfiguration) : Json :=
  Json.record [("apiVersion", some (.string apiVersion)), ("kind", some (.string config.type.kind)),
    ("metadata", some config.metadata.toJson),
    ("webhooks", config.webhooks.map fun entries => .array (entries.map WebhookEntry.toJson))]

def kind (config : WebhookConfiguration) : String := config.type.kind

def nameAny (config : WebhookConfiguration) : String := config.metadata.nameAny

def entries (config : WebhookConfiguration) : List WebhookEntry := config.webhooks.getD []

/-- The rules of the first entry of the name; an entry may have none. -/
def rules? (webhook : String) (config : WebhookConfiguration) : Option (List WebhookRule) :=
  (config.entries.find? fun entry => entry.name = webhook).map fun entry => entry.rules.getD []

/-- Gives the first entry of the name other rules. -/
def replaceRules (webhook : String) (rules : List WebhookRule) :
    List WebhookEntry → List WebhookEntry
  | [] => []
  | entry :: rest =>
      if entry.name = webhook then { entry with rules := some rules } :: rest
      else entry :: replaceRules webhook rules rest

def setRules (webhook : String) (rules : List WebhookRule) (config : WebhookConfiguration) :
    WebhookConfiguration :=
  { config with webhooks := config.webhooks.map (replaceRules webhook rules) }

def reference (config : WebhookConfiguration) : ObjectReference :=
  .ofMetadata apiVersion config.kind config.metadata

theorem find?_replaceRules (webhook : String) (rules : List WebhookRule)
    (entries : List WebhookEntry) (present : ∃ entry ∈ entries, entry.name = webhook) :
    (replaceRules webhook rules entries).find? (fun entry => entry.name = webhook)
      = ((entries.find? fun entry => entry.name = webhook).map
          fun entry => { entry with rules := some rules }) := by
  induction entries with
  | nil => simp at present
  | cons entry rest ih =>
      by_cases named : entry.name = webhook
      · simp [replaceRules, named]
      · have later : ∃ entry ∈ rest, entry.name = webhook := by
          obtain ⟨found, member, same⟩ := present
          rcases List.mem_cons.mp member with rfl | member
          · exact absurd same named
          · exact ⟨found, member, same⟩
        simp [replaceRules, named, ih later]

end WebhookConfiguration

end BindingOperator
