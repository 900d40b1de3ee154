import BindingOperator.Json.Patch
import BindingOperator.Json.Reader
import BindingOperator.Kind
import BindingOperator.Object

/-!
Admission reviews: the question of the API server about one write, and the answer to it.
A record that writes a field twice is refused. Of a request only the parts that the answer
depends on are kept; the others are checked for their shape.
-/

namespace BindingOperator

inductive AdmissionOperation where
  | create
  | update
  | delete
  | connect
  deriving DecidableEq, Repr, Inhabited

structure AdmissionRequest where
  uid : String
  kind : GroupVersionKind
  namespaceName : Option String := none
  operation : AdmissionOperation
  object : Option Object := none
  oldObject : Option Object := none
  deriving DecidableEq, Repr, Inhabited

structure AdmissionReview where
  apiVersion : String
  kind : String
  request : Option AdmissionRequest := none
  deriving DecidableEq, Repr, Inhabited

structure AdmissionResponse where
  uid : String
  allowed : Bool := true
  message : Option String := none
  patch : Option Json.Patch := none
  deriving DecidableEq, Repr

namespace AdmissionOperation

def ofText? (text : String) : Option AdmissionOperation :=
  if text = "CREATE" then some .create
  else if text = "UPDATE" then some .update
  else if text = "DELETE" then some .delete
  else if text = "CONNECT" then some .connect
  else none

/-- A bare name, or an object whose only field is the name with nothing in it. -/
def ofJson? : Json → Option AdmissionOperation
  | .string text => ofText? text
  | .object [(text, .null)] => ofText? text
  | _ => none

end AdmissionOperation

namespace AdmissionRequest

def triple? (names : List String) (value : Json) : Option (String × String × String) := do
  if value.repeatsField names then none
  match ← value.columns? names with
  | [first, second, third] =>
      return (← Json.required Json.asString? first, ← Json.required Json.asString? second,
        ← Json.required Json.asString? third)
  | _ => none

def kind? (value : Json) : Option GroupVersionKind :=
  (triple? ["group", "version", "kind"] value).map fun (group, version, kind) =>
    ⟨group, version, kind⟩

def resource? : Json → Option (String × String × String) :=
  triple? ["group", "version", "resource"]

def userFits (value : Json) : Bool :=
  value.asObject?.any fun fields =>
    (Json.field fields "extra" (Json.tableOf? Json.stringList?)).isSome &&
      (Json.field fields "groups" Json.stringList?).isSome &&
      (Json.field fields "uid" Json.asString?).isSome &&
      (Json.field fields "username" Json.asString?).isSome

def object? (value : Json) : Option Object :=
  if value.repeatsField ["metadata"] then none else Object.ofJson? value.canonical

def fieldNames : List String :=
  ["uid", "kind", "resource", "subResource", "requestKind", "requestResource",
    "requestSubResource", "name", "namespace", "operation", "userInfo", "object", "oldObject",
    "dryRun", "options"]

/-- An object, or an array of its columns down to both objects at least. -/
def ofJson? (value : Json) : Option AdmissionRequest := do
  if value.repeatsField fieldNames || value.asArray?.any (·.length < 13) then none
  match ← value.columns? fieldNames with
  | [uid, kind, resource, subResource, requestKind, requestResource, requestSubResource, name,
      namespaceName, operation, user, object, oldObject, dryRun, _] =>
      let uid ← Json.required Json.asString? uid
      let kind ← Json.required kind? kind
      let _ ← Json.required resource? resource
      let _ ← Json.optional Json.asString? subResource
      let _ ← Json.optional kind? requestKind
      let _ ← Json.optional resource? requestResource
      let _ ← Json.optional Json.asString? requestSubResource
      let _ ← Json.defaulted "" Json.asString? name
      let namespaceName ← Json.optional Json.asString? namespaceName
      let operation ← Json.required AdmissionOperation.ofJson? operation
      guard (user.any fun user => userFits user.canonical)
      let object ← Json.optional object? object
      let oldObject ← Json.optional object? oldObject
      let _ ← Json.defaulted false Json.toBool? dryRun
      return { uid, kind, namespaceName, operation, object, oldObject }
  | _ => none

end AdmissionRequest

/-- Why a body is no review. -/
inductive ReviewFault where
  /-- The text is no document. -/
  | malformed
  /-- The document is no review. -/
  | undecodable
  deriving DecidableEq, Repr

namespace AdmissionReview

/-- An answer inside a question is not used, but must be one. -/
def responseFits (value : Json) : Bool :=
  value.asObject?.any fun fields =>
    (Table.lookup "uid" fields).any (·.asString?.isSome) &&
      (Table.lookup "allowed" fields).any (Json.toBool? · |>.isSome) &&
      (Table.lookup "status" fields).any Json.isObject

def ofJson? (value : Json) : Option AdmissionReview := do
  if value.repeatsField ["apiVersion", "kind", "request", "response"] then none
  let fields ← value.asObject?
  let request ← Json.field fields "request" AdmissionRequest.ofJson?
  let _ ← Json.field fields "response" fun response => guard (responseFits response.canonical)
  return {
    apiVersion := ← Json.required Json.asString? (Table.lookup "apiVersion" fields)
    kind := ← Json.required Json.asString? (Table.lookup "kind" fields)
    request }

/-- Reads a review from the text of a body. A document is judged as soon as it ends, and
an array is none from its first character on; only then does what follows it count. -/
def parse (text : String) : Except ReviewFault AdmissionReview :=
  let body := Json.Reader.skipBlanks text.toList
  match Json.Reader.value? .exact Json.nestingLimit body with
  | none => .error (if body.head? = some '[' then .undecodable else .malformed)
  | some (value, rest) =>
      match ofJson? value with
      | none => .error .undecodable
      | some review =>
          if (Json.Reader.skipBlanks rest).isEmpty then .ok review else .error .malformed

end AdmissionReview

namespace AdmissionResponse

def allow (request : AdmissionRequest) : AdmissionResponse := { uid := request.uid }

def deny (request : AdmissionRequest) (message : String) : AdmissionResponse :=
  { uid := request.uid, allowed := false, message := some message }

def toJson (response : AdmissionResponse) : Json :=
  Json.record [("uid", some (.string response.uid)), ("allowed", some (.bool response.allowed)),
    ("status", some (Json.record [("message", response.message.map .string)])),
    ("patch", response.patch.map Json.Patch.toJson),
    ("patchType", response.patch.map fun _ => .string "JSONPatch")]

def inReview (review : AdmissionReview) (response : AdmissionResponse) : Json :=
  Json.record [("apiVersion", some (.string review.apiVersion)),
    ("kind", some (.string review.kind)), ("response", some response.toJson)]

end AdmissionResponse

end BindingOperator
