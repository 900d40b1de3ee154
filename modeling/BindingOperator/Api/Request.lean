import BindingOperator.Failure
import BindingOperator.Http.Message
import BindingOperator.Http.StatusPhrase
import BindingOperator.Json.Misfit
import BindingOperator.Json.Record
import BindingOperator.Kind
import BindingOperator.Text.FormEncoded

/-!
Requests to the API server: where objects are found, what reading and writing sends, and
how an answer is understood. An answer of 400 or above is a refusal; the code inside its
body counts, and the status of the answer only where the body tells none.
-/

namespace BindingOperator

def fieldManager : String := "servicebinding-controller"

namespace Resource

def collectionPath (resource : Resource) (namespaceName : Option String) : String :=
  "/" ++ (if resource.group = "" then "api" else "apis") ++ "/" ++ resource.apiVersion ++ "/"
    ++ (namespaceName.map fun name => "namespaces/" ++ name ++ "/").getD "" ++ resource.plural

end Resource

namespace ApiRequest

/-- A request that may turn out not to be one. -/
abbrev Built := Except RequestFailure HttpRequest

def build (method : HttpMethod) (target : String) (body : Option HttpBody) : Built :=
  match HttpTarget.parse? target with
  | some target => .ok { method, target, body }
  | none => .error (.unbuildable "failed to build request: invalid uri character")

def named (name : String) (request : Built) : Built :=
  if name = "" then
    .error (.unbuildable "failed to validate request: A non-empty name is required")
  else request

def writeParameters : String :=
  Text.formParameters [("fieldManager", fieldManager)]

def get (collection name : String) : Built :=
  named name (build .get (collection ++ "/" ++ name) none)

def list (collection : String) (parameters : List (String × String)) : Built :=
  build .get (collection ++ "?" ++ Text.formParameters parameters) none

def replace (collection name : String) (document : Json) : Built :=
  named name (build .put (collection ++ "/" ++ name ++ "?" ++ writeParameters)
    (some ⟨document, "application/json"⟩))

/-- A merge patch of an object or of a part of it; parameters may be left out. -/
def patch (collection name part parameters : String) (document : Json) : Built :=
  named name (build .patch (collection ++ "/" ++ name ++ part ++ "?" ++ parameters)
    (some ⟨document, "application/merge-patch+json"⟩))

def create (collection : String) (document : Json) : Built :=
  build .post (collection ++ "?") (some ⟨document, "application/json"⟩)

end ApiRequest

namespace Refusal

def code? (value : Json) : Option UInt16 :=
  (Json.toInt64? value).bind fun code =>
    if 0 ≤ code ∧ code < 65536 then some (UInt16.ofNat code.toNat) else none

/-- An object, or an array of all four columns. -/
def ofJson? (value : Json) : Option Refusal := do
  if value.repeatsField ["status", "message", "reason", "code"] then none
  match ← value.columns? ["status", "message", "reason", "code"] with
  | [status, message, reason, code] =>
      return {
        status := ← Json.required Json.asString? status
        message := ← Json.defaulted "" Json.asString? message
        reason := ← Json.defaulted "" Json.asString? reason
        code := ← Json.required code? code }
  | _ => none

def ofResponse (response : HttpResponse) : Refusal :=
  ((Json.raw? response.body).bind ofJson?).getD
    { status := statusText response.status
      message := Text.quoted response.body
      reason := "Failed to parse error data"
      code := UInt16.ofNat response.status }

end Refusal

/-- The body of an answer that is no refusal. -/
def acceptedBody (answer : Except TransportFault HttpResponse) : Except RequestFailure String :=
  match answer with
  | .error cause => .error (.unreachable cause)
  | .ok response =>
      if 400 ≤ response.status && response.status < 600 then
        .error (.refused (Refusal.ofResponse response))
      else .ok response.body

/-- The value that a body holds; what it is expected to be is named where it is not. -/
def decodeBody {α : Type} (expected : String) (ofJson? : Json → Option α) (body : String) :
    Except RequestFailure α :=
  match (Json.parse? body).bind ofJson? with
  | some value => .ok value
  | none => .error (.unreadable (Json.misfit expected body))

/-- Sends a request and reads the answer; a request that could not be built is not sent. -/
def ApiRequest.send {α : Type} (expected : String) (ofJson? : Json → Option α)
    (request : ApiRequest.Built) : HttpTalk (Except RequestFailure α) :=
  match request with
  | .error failure => pure (.error failure)
  | .ok request => do
      let answer ← HttpTalk.exchange request
      pure (acceptedBody answer >>= decodeBody expected ofJson?)

structure ListMetadata where
  continueToken : Option String := none
  resourceVersion : Option String := none
  deriving DecidableEq, Repr, Inhabited

namespace ListMetadata

def ofJson? (value : Json) : Option ListMetadata := do
  let fields ← value.asObject?
  let _ ← Json.field fields "remainingItemCount" Json.toInt64?
  let _ ← Json.field fields "selfLink" Json.asString?
  return {
    continueToken := ← Json.field fields "continue" Json.asString?
    resourceVersion := ← Json.field fields "resourceVersion" Json.asString? }

end ListMetadata

structure ObjectList (α : Type) where
  metadata : ListMetadata
  items : List α

namespace ObjectList

/-- Items that are null are none; they must not be missing. -/
def ofJson? {α : Type} (item? : Json → Option α) (value : Json) : Option (ObjectList α) := do
  let fields ← value.asObject?
  let metadata ← Json.defaulted {} ListMetadata.ofJson? (Table.lookup "metadata" fields)
  let items ← Json.required (fun items => Json.optional (Json.listOf? item?) (some items))
    (Table.lookup "items" fields)
  return ⟨metadata, items.getD []⟩

end ObjectList

end BindingOperator
