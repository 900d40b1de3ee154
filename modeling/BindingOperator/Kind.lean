import BindingOperator.Json.Record

/-!
Kinds of objects and the resources that serve them. A kind is named by its group, version
and kind; the core group is empty and is not written in an API version.
-/

namespace BindingOperator

structure GroupVersionKind where
  group : String
  version : String
  kind : String
  deriving DecidableEq, Repr, Inhabited

structure Resource where
  group : String
  version : String
  apiVersion : String
  kind : String
  plural : String
  deriving DecidableEq, Repr, Inhabited

/-- Group and version: what stands before the first slash and after it. -/
def parseApiVersion (apiVersion : String) : String × String :=
  let characters := apiVersion.toList
  match characters.dropWhile (· ≠ '/') with
  | [] => ("", apiVersion)
  | _ :: version =>
      (String.ofList (characters.takeWhile (· ≠ '/')), String.ofList version)

def formatApiVersion (group version : String) : String :=
  if group = "" then version else group ++ "/" ++ version

namespace GroupVersionKind

def ofApiVersion (apiVersion kind : String) : GroupVersionKind :=
  let parsed := parseApiVersion apiVersion
  ⟨parsed.1, parsed.2, kind⟩

def resource (kind : GroupVersionKind) (plural : String) : Resource where
  group := kind.group
  version := kind.version
  apiVersion := formatApiVersion kind.group kind.version
  kind := kind.kind
  plural := plural

def toJson (kind : GroupVersionKind) : Json :=
  Json.strings [kind.group, kind.version, kind.kind]

end GroupVersionKind

namespace Resource

def toJson (resource : Resource) : Json :=
  Json.record [("group", some (.string resource.group)),
    ("version", some (.string resource.version)),
    ("apiVersion", some (.string resource.apiVersion)),
    ("kind", some (.string resource.kind)), ("plural", some (.string resource.plural))]

end Resource

end BindingOperator
