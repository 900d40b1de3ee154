import BindingOperator.Api.Request

/-!
Discovery: the API server lists the resources of a group and version, and a kind is served
by the first of them that is no part of another one. A resource may state a group and a
version of its own.
-/

namespace BindingOperator

structure ListedResource where
  kind : String
  name : String
  group : Option String := none
  version : Option String := none
  deriving DecidableEq, Repr, Inhabited

structure ResourceList where
  groupVersion : String
  resources : List ListedResource
  deriving DecidableEq, Repr, Inhabited

namespace ListedResource

def ofJson? (value : Json) : Option ListedResource := do
  let fields ← value.asObject?
  let _ ← Json.field fields "categories" Json.stringList?
  let _ ← Json.field fields "namespaced" Json.toBool?
  let _ ← Json.field fields "shortNames" Json.stringList?
  let _ ← Json.field fields "singularName" Json.asString?
  let _ ← Json.field fields "storageVersionHash" Json.asString?
  let _ ← Json.field fields "verbs" Json.stringList?
  return {
    kind := ← Json.textField fields "kind"
    name := ← Json.textField fields "name"
    group := ← Json.field fields "group" Json.asString?
    version := ← Json.field fields "version" Json.asString? }

/-- Parts of a resource have a path for a name. -/
def isPart (resource : ListedResource) : Bool :=
  resource.name.toList.contains '/'

end ListedResource

namespace ResourceList

def kind : String := "APIResourceList"

def ofJson? (value : Json) : Option ResourceList := do
  let fields ← value.asObject?
  guard ((Table.lookup "apiVersion" fields).all (· = .string "v1"))
  guard ((Table.lookup "kind" fields).all (· = .string kind))
  return {
    groupVersion := ← Json.textField fields "groupVersion"
    resources := (← Json.field fields "resources" (Json.listOf? ListedResource.ofJson?)).getD [] }

def find? (kind : String) (list : ResourceList) : Option Resource :=
  (list.resources.find? fun listed => listed.kind = kind && !listed.isPart).map fun listed =>
    let parsed := parseApiVersion list.groupVersion
    { group := listed.group.getD parsed.1
      version := listed.version.getD parsed.2
      apiVersion := formatApiVersion parsed.1 parsed.2
      kind := listed.kind
      plural := listed.name }

end ResourceList

namespace GroupVersionKind

def apiVersion (kind : GroupVersionKind) : String := formatApiVersion kind.group kind.version

/-- Where the resources of the group and version of a kind are listed. -/
def discoveryPath (kind : GroupVersionKind) : String :=
  (if kind.group = "" then "/api/" else "/apis/") ++ kind.apiVersion

def details (kind : GroupVersionKind) : String :=
  "GroupVersionKind \x7b group: " ++ Text.quoted kind.group ++ ", version: "
    ++ Text.quoted kind.version ++ ", kind: " ++ Text.quoted kind.kind ++ " \x7d"

end GroupVersionKind

def discover (kind : GroupVersionKind) : HttpTalk (Except RequestFailure Resource) :=
  match HttpTarget.parse? kind.discoveryPath with
  | none => pure (.error (.unaddressable "invalid uri character"))
  | some target => do
      let listed ← ApiRequest.send ResourceList.kind ResourceList.ofJson?
        (.ok { method := .get, target })
      pure (match listed with
        | .error failure => .error failure
        | .ok list =>
            match list.find? kind.kind with
            | some resource => .ok resource
            | none => .error (.undiscovered ("Missing Kind: " ++ kind.details)))

end BindingOperator
