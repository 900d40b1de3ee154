import BindingOperator.Text.Quoted
import BindingOperator.Json.Basic

/-!
What can go wrong, by cause. Answers of the API server are classified where they arrive: a
404 is a missing object, a 403 a missing permission, a 409 a lost race. Everything else
keeps the answer it came from. The wording of a failure is given once, in `message`.
-/

namespace BindingOperator

structure Refusal where
  status : String
  message : String
  reason : String
  code : UInt16
  deriving DecidableEq, Repr, Inhabited

namespace Refusal

def details (refusal : Refusal) : String :=
  "ErrorResponse \x7b status: " ++ Text.quoted refusal.status ++ ", message: "
    ++ Text.quoted refusal.message ++ ", reason: " ++ Text.quoted refusal.reason
    ++ ", code: " ++ Nat.repr refusal.code.toNat ++ " \x7d"

def text (refusal : Refusal) : String :=
  refusal.message ++ ": " ++ refusal.reason ++ " (" ++ refusal.details ++ ")"

end Refusal

/-- Why a request to the API server brought no usable answer. -/
inductive RequestFailure where
  | refused (refusal : Refusal)
  /-- The request could not be formed. -/
  | unbuildable (cause : String)
  /-- The address of the request is none. -/
  | unaddressable (cause : String)
  /-- No answer came. -/
  | unreachable (cause : String)
  /-- The answer is not what was asked for. -/
  | unreadable (cause : String)
  /-- Discovery does not list the kind. -/
  | undiscovered (cause : String)
  | other
  deriving DecidableEq, Repr, Inhabited

namespace RequestFailure

def text : RequestFailure → String
  | .refused refusal => "ApiError: " ++ refusal.text
  | .unbuildable cause => "Failed to build request: " ++ cause
  | .unaddressable cause => "HttpError: " ++ cause
  | .unreachable cause => "ServiceError: " ++ cause
  | .unreadable cause => "Error deserializing response: " ++ cause
  | .undiscovered cause => "Error from discovery: " ++ cause
  | .other => ""

def refusedWith (code : UInt16) : RequestFailure → Bool
  | .refused refusal => refusal.code = code
  | _ => false

end RequestFailure

inductive Failure where
  | notFound (kind name : String)
  | forbidden (kind name verb : String)
  /-- A write against a version that is no longer the stored one. -/
  | conflict (kind name message : String)
  | mapping (group version kind message : String)
  | projection (workload message : String)
  | internal (message : String)
  | request (cause : RequestFailure)
  deriving DecidableEq, Repr, Inhabited

namespace Failure

def ofRequest (cause : RequestFailure) (kind name verb : String) : Failure :=
  match cause with
  | .refused refusal =>
      if refusal.code = 404 then .notFound kind name
      else if refusal.code = 403 then .forbidden kind name verb
      else if refusal.code = 409 then .conflict kind name refusal.message
      else .request cause
  | _ => .request cause

def isNotFound : Failure → Bool
  | .notFound .. => true
  | .request cause => cause.refusedWith 404
  | _ => false

def isForbidden : Failure → Bool
  | .forbidden .. => true
  | .request cause => cause.refusedWith 403
  | _ => false

def isConflict : Failure → Bool
  | .conflict .. => true
  | .request cause => cause.refusedWith 409
  | _ => false

def message : Failure → String
  | .notFound kind name => kind ++ " " ++ name ++ " not found"
  | .forbidden kind name verb => "forbidden to " ++ verb ++ " " ++ kind ++ " " ++ name
  | .conflict kind name message => "conflict writing " ++ kind ++ " " ++ name ++ ": " ++ message
  | .mapping group version kind message =>
      "no resource mapping for " ++ group ++ "/" ++ version ++ ", Kind=" ++ kind ++ ": " ++ message
  | .projection workload message =>
      "projection error for workload " ++ workload ++ ": " ++ message
  | .internal message => "internal error: " ++ message
  | .request cause => "kubernetes error: " ++ cause.text

end Failure

end BindingOperator
