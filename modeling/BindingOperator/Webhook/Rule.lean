import BindingOperator.Json.Record

/-!
Rules of a webhook: which writes of which resources the API server sends to it. Resources
are folded into one rule per group, groups and resources in ascending order, so that the
same resources always make the same rules. Every version is matched.
-/

namespace BindingOperator

structure WebhookRule where
  apiGroups : Option (List String) := none
  apiVersions : Option (List String) := none
  operations : Option (List String) := none
  resources : Option (List String) := none
  scope : Option String := none
  deriving DecidableEq, Repr, Inhabited

def projectorOperations : List String := ["CREATE", "UPDATE"]

def triggerOperations : List String := ["CREATE", "UPDATE", "DELETE"]

namespace WebhookRule

def defaultScope : String := "*"

def ofJson? (value : Json) : Option WebhookRule := do
  let fields ← value.asObject?
  let names (key : String) := Json.field fields key Json.stringList?
  return {
    apiGroups := ← names "apiGroups"
    apiVersions := ← names "apiVersions"
    operations := ← names "operations"
    resources := ← names "resources"
    scope := ← Json.field fields "scope" Json.asString? }

def toJson (rule : WebhookRule) : Json :=
  Json.record [("apiGroups", rule.apiGroups.map Json.strings),
    ("apiVersions", rule.apiVersions.map Json.strings),
    ("operations", rule.operations.map Json.strings),
    ("resources", rule.resources.map Json.strings), ("scope", rule.scope.map .string)]

def withScope (rule : WebhookRule) : WebhookRule :=
  { rule with scope := some (rule.scope.getD defaultScope) }

/-- The resources of every group, both in ascending order. -/
def groupResources (resources : List (String × String)) : Table NameSet :=
  resources.foldl
    (fun groups resource =>
      Table.insert resource.1
        (NameSet.insert resource.2 ((Table.lookup resource.1 groups).getD [])) groups) []

def merge (operations : List String) (resources : List (String × String)) :
    List WebhookRule :=
  (groupResources resources).map fun group =>
    { apiGroups := some [group.1]
      apiVersions := some ["*"]
      operations := some operations
      resources := some group.2 }

/-- Whether two lists of rules say the same; a scope that is not set is the default. -/
def agree (stored desired : List WebhookRule) : Bool :=
  stored.map withScope = desired.map withScope

end WebhookRule

end BindingOperator
