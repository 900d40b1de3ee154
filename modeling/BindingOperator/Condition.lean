import BindingOperator.Metadata

/-!
Conditions report the state of a binding. `Ready` is never written by itself: it is the
aggregate of its dependents, recomputed after each of them is written. Every pass starts
over from `Unknown`; the times of conditions whose status stays the same are then carried
over from what was stored, so that an unchanged binding has an unchanged status. Every
condition that is written takes its own reading of the clock, and so does the `Ready` that
follows it.
-/

namespace BindingOperator

inductive ConditionStatus where
  | true
  | false
  | unknown
  deriving DecidableEq, Repr, Inhabited

structure Condition where
  type : String
  status : ConditionStatus
  reason : String
  message : String
  lastTransitionTime : Option Instant
  deriving DecidableEq, Repr, Inhabited

namespace ConditionType

def ready : String := "Ready"
def serviceAvailable : String := "ServiceAvailable"
def workloadProjected : String := "WorkloadProjected"

/-- The dependents of `Ready` in the order they are consulted. -/
def dependents : List String := [serviceAvailable, workloadProjected]

end ConditionType

namespace Reason

def initializing : String := "Initializing"
def ready : String := "Ready"
def resolvedBindingSecret : String := "ResolvedBindingSecret"
def serviceNotFound : String := "ServiceNotFound"
def serviceForbidden : String := "ServiceForbidden"
def serviceMissingBinding : String := "ServiceMissingBinding"
def workloadNotFound : String := "WorkloadNotFound"
def workloadForbidden : String := "WorkloadForbidden"
def workloadProjected : String := "WorkloadProjected"

end Reason

namespace ConditionStatus

def text : ConditionStatus → String
  | .true => "True"
  | .false => "False"
  | .unknown => "Unknown"

def ofText? (text : String) : Option ConditionStatus :=
  if text = "True" then some .true
  else if text = "False" then some .false
  else if text = "Unknown" then some .unknown
  else none

/-- A bare name, or an object whose only field is the name with nothing in it. -/
def ofJson? : Json → Option ConditionStatus
  | .string text => ofText? text
  | .object [(text, .null)] => ofText? text
  | _ => none

end ConditionStatus

namespace Condition

def ofJson? (value : Json) : Option Condition := do
  match ← value.columns? ["type", "status", "reason", "message", "lastTransitionTime"] with
  | [type, status, reason, message, time] =>
      return {
        type := ← Json.required Json.asString? type
        status := ← Json.required ConditionStatus.ofJson? status
        reason := ← Json.defaulted "" Json.asString? reason
        message := ← Json.defaulted "" Json.asString? message
        lastTransitionTime := ← Json.optional Json.toInstant? time }
  | _ => none

def toJson (condition : Condition) : Json :=
  Json.record [("type", some (.string condition.type)),
    ("status", some (.string condition.status.text)),
    ("reason", some (.string condition.reason)), ("message", some (.string condition.message)),
    ("lastTransitionTime", condition.lastTransitionTime.map fun time => .string time.text)]

/-- What a condition says apart from its type and time. -/
abbrev Verdict := ConditionStatus × String × String

def verdict (condition : Condition) : Verdict :=
  (condition.status, condition.reason, condition.message)

/-- A condition as it is first written, stamped to the second. -/
def ofVerdict (reading : Instant) (type : String) (verdict : Verdict) : Condition :=
  ⟨type, verdict.1, verdict.2.1, verdict.2.2, some reading.truncated⟩

/-- The state before any stage has written a condition. -/
def initial : Verdict := (.unknown, Reason.initializing, "")

end Condition

/-- The first dependent with the status; a missing one is unknown and initializing. -/
def firstWith (status : ConditionStatus) : List (Option Condition) → Option Condition.Verdict
  | [] => none
  | some condition :: rest =>
      if condition.status = status then some condition.verdict else firstWith status rest
  | none :: rest =>
      if status = .unknown then some Condition.initial else firstWith status rest

/-- The first false dependent, else the first unknown one, else true. -/
def aggregate (dependents : List (Option Condition)) : Condition.Verdict :=
  ((firstWith .false dependents).or (firstWith .unknown dependents)).getD
    (.true, Reason.ready, "")

namespace Conditions

def find? (type : String) (conditions : List Condition) : Option Condition :=
  conditions.find? fun condition => condition.type = type

/-- The condition as it replaces an older one of its type: the same verdict changes
nothing, and a new verdict of the same status keeps the time. -/
def succeed (older newer : Condition) : Condition :=
  if older.verdict = newer.verdict then older
  else if older.status = newer.status then
    { newer with lastTransitionTime := older.lastTransitionTime }
  else newer

/-- Replaces the first condition of the type, or adds one at the end. -/
def write (condition : Condition) : List Condition → List Condition
  | [] => [condition]
  | first :: rest =>
      if first.type = condition.type then succeed first condition :: rest
      else first :: write condition rest

def dependentsOf (conditions : List Condition) : List (Option Condition) :=
  ConditionType.dependents.map fun type => find? type conditions

def recomputeReady (reading : Instant) (conditions : List Condition) : List Condition :=
  write (.ofVerdict reading ConditionType.ready (aggregate (dependentsOf conditions))) conditions

/-- Writes a condition and brings `Ready` up to date, unless it is `Ready` itself. -/
def set (clock : Clock) (type : String) (verdict : Condition.Verdict)
    (conditions : List Condition) : List Condition :=
  let written := write (.ofVerdict (clock.reading 0) type verdict) conditions
  if type = ConditionType.ready then written else recomputeReady (clock.reading 1) written

def markTrue (clock : Clock) (type reason : String) : List Condition → List Condition :=
  set clock type (.true, reason, "")

def markFalse (clock : Clock) (type reason message : String) : List Condition → List Condition :=
  set clock type (.false, reason, message)

def markUnknown (clock : Clock) (type reason message : String) :
    List Condition → List Condition :=
  set clock type (.unknown, reason, message)

def addMissing (reading : Instant) (conditions : List Condition) (type : String) :
    List Condition :=
  if (find? type conditions).isSome then conditions
  else conditions ++ [.ofVerdict reading type Condition.initial]

/-- Drops the conditions of the types, except `Ready`, and adds every managed condition
that is missing as initializing. Others keep their place. -/
def reset (clock : Clock) (types : List String) (conditions : List Condition) :
    List Condition :=
  let kept := conditions.filter fun condition =>
    !types.contains condition.type || condition.type = ConditionType.ready
  let managed := ConditionType.ready :: ConditionType.dependents
  let filled := managed.zipIdx.foldl
    (fun added entry => addMissing (clock.reading entry.2) added entry.1) kept
  recomputeReady (clock.reading managed.length) filled

def isInitializing (type : String) (conditions : List Condition) : Bool :=
  match find? type conditions with
  | none => true
  | some condition =>
      condition.status = .unknown && condition.reason = Reason.initializing

/-- The time stored with the same type and status, if there is one. -/
def carryTime (previous : List Condition) (condition : Condition) : Condition :=
  match previous.find? fun older =>
      older.type = condition.type && older.status = condition.status with
  | some older => { condition with lastTransitionTime := older.lastTransitionTime }
  | none => condition

def carryTimes (previous current : List Condition) : List Condition :=
  current.map (carryTime previous)

end Conditions

end BindingOperator
