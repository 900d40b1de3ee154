import BindingOperator.Metadata

/-!
Objects of any kind: services and workloads whose schema the operator does not know. The
metadata is read strictly; everything else is kept as it is in the body.
-/

namespace BindingOperator

/-- API version and kind, when an object states both. -/
structure TypeTag where
  apiVersion : String
  kind : String
  deriving DecidableEq, Repr, Inhabited

structure Object where
  tag : Option TypeTag := none
  metadata : Metadata := {}
  body : Table Json := []
  deriving DecidableEq, Repr, Inhabited

namespace Object

/-- The tag and the fields that are left. API version and kind are taken out one after the
other until one of them is no text; what was taken out is lost unless both are text. -/
def splitTag (fields : Table Json) : Option TypeTag × Table Json :=
  match Table.lookup "apiVersion" fields with
  | none => (none, Table.erase "kind" fields)
  | some (.string apiVersion) =>
      let rest := Table.erase "apiVersion" fields
      match Table.lookup "kind" rest with
      | some (.string kind) => (some ⟨apiVersion, kind⟩, Table.erase "kind" rest)
      | _ => (none, Table.erase "kind" rest)
  | some _ => (none, Table.erase "apiVersion" fields)

def ofJson? (value : Json) : Option Object := do
  let fields ← value.asObject?
  let metadata ← Json.defaulted {} Metadata.ofJson? (Table.lookup "metadata" fields)
  let split := splitTag (Table.erase "metadata" fields)
  return ⟨split.1, metadata, split.2⟩

def toJson (object : Object) : Json :=
  let tagged := match object.tag with
    | some tag =>
        Table.insert "apiVersion" (.string tag.apiVersion)
          (Table.insert "kind" (.string tag.kind) object.body)
    | none => object.body
  .object (Table.insert "metadata" object.metadata.toJson tagged)

def nameAny (object : Object) : String := object.metadata.nameAny

def labels (object : Object) : Table String := object.metadata.labelTable

/-- The name of the Secret a service publishes in a document; an empty one is none. -/
def secretNameIn (document : Json) : Option String :=
  ((document.at? ["status", "binding", "name"]).bind Json.asString?).filter (· ≠ "")

def secretName (object : Object) : Option String := secretNameIn (.object object.body)

end Object

end BindingOperator
