import BindingOperator.Api.Request
import BindingOperator.Event
import BindingOperator.Metadata

/-!
Recording events with the API server. An event is created; the same event about the same
object is then a series, which counts it up. An event is the same when its reason and its
action are, and it keeps the note it was created with. A failure to record is passed over,
and what was not accepted is not remembered.
-/

namespace BindingOperator

/-- How often an event was seen, and when it was last. -/
structure EventSeries where
  count : Nat
  lastObserved : Instant
  deriving DecidableEq, Repr, Inhabited

structure RecordedEvent where
  name : String
  about : ObjectReference
  event : Event
  time : Instant
  series : Option EventSeries := none
  deriving DecidableEq, Repr, Inhabited

structure Recorder where
  controller : String
  known : List RecordedEvent := []
  deriving Repr, Inhabited

namespace EventSeries

def toJson (series : EventSeries) : Json :=
  Json.record [("count", some (Json.nat series.count)),
    ("lastObservedTime", some (.string series.lastObserved.microText))]

def fits (value : Json) : Bool :=
  value.asObject?.any fun fields =>
    (Json.field fields "count" Json.toInt32?).isSome &&
      (Json.field fields "lastObservedTime" Json.toInstant?).isSome

end EventSeries

namespace RecordedEvent

def apiVersion : String := "events.k8s.io/v1"
def kind : String := "Event"

def metadata (recorded : RecordedEvent) : Metadata where
  name := some recorded.name
  namespaceName := recorded.about.namespaceName

def toJson (controller : String) (recorded : RecordedEvent) : Json :=
  Json.record [("action", some (.string recorded.event.action)),
    ("apiVersion", some (.string apiVersion)),
    ("eventTime", some (.string recorded.time.microText)), ("kind", some (.string kind)),
    ("metadata", some recorded.metadata.toJson),
    ("note", some (.string recorded.event.note)), ("reason", some (.string recorded.event.reason)),
    ("regarding", some recorded.about.toJson), ("reportingController", some (.string controller)),
    ("reportingInstance", some (.string controller)),
    ("series", recorded.series.map EventSeries.toJson), ("type", some (.string "Normal"))]

def sourceFits (value : Json) : Bool :=
  value.asObject?.any fun fields =>
    (Json.field fields "component" Json.asString?).isSome &&
      (Json.field fields "host" Json.asString?).isSome

def fits (value : Json) : Bool :=
  value.asObject?.any fun fields =>
    let has {α : Type} (decode : Json → Option α) (key : String) : Bool :=
      (Json.field fields key decode).isSome
    (Table.lookup "apiVersion" fields).all (· = .string apiVersion) &&
      (Table.lookup "kind" fields).all (· = .string kind) &&
      (["action", "note", "reason", "reportingController", "reportingInstance", "type"].all
        (has Json.asString?)) &&
      (["deprecatedFirstTimestamp", "deprecatedLastTimestamp", "eventTime"].all
        (has Json.toInstant?)) &&
      (["regarding", "related"].all (has ObjectReference.ofJson?)) &&
      has Json.toInt32? "deprecatedCount" && has Metadata.ofJson? "metadata" &&
      has (fun value => guard (sourceFits value)) "deprecatedSource" &&
      has (fun value => guard (EventSeries.fits value)) "series"

def isSame (about : ObjectReference) (event : Event) (recorded : RecordedEvent) : Bool :=
  recorded.about = about && recorded.event.reason = event.reason &&
    recorded.event.action = event.action

end RecordedEvent

namespace Recorder

/-- The digits of a moment that make a name unique. -/
def stamp (now : Instant) : String :=
  String.ofList (Nat.toDigits 16 now.nanoseconds.toNat)

def fresh (now : Instant) (about : ObjectReference) (event : Event) (recorder : Recorder) :
    RecordedEvent where
  name := about.name.getD recorder.controller ++ "." ++ stamp now
  about := about
  event := event
  time := now

/-- The recorded event seen once more. -/
def again (now : Instant) (recorded : RecordedEvent) : RecordedEvent :=
  let count := (recorded.series.map EventSeries.count).getD 1 + 1
  { recorded with series := some ⟨count, now⟩ }

def collection (about : ObjectReference) : String :=
  Resource.collectionPath ⟨"events.k8s.io", "v1", RecordedEvent.apiVersion, "Event", "events"⟩
    (some (about.namespaceName.getD "default"))

/-- What is sent for an event, and what is remembered once it is accepted. -/
def next (now : Instant) (about : ObjectReference) (event : Event) (recorder : Recorder) :
    ApiRequest.Built × RecordedEvent :=
  match recorder.known.find? (RecordedEvent.isSame about event) with
  | none =>
      let recorded := recorder.fresh now about event
      (ApiRequest.create (collection about) (recorded.toJson recorder.controller), recorded)
  | some known =>
      let recorded := again now known
      (ApiRequest.patch (collection about) recorded.name "" ""
        (recorded.toJson recorder.controller), recorded)

def remember (recorded : RecordedEvent) (recorder : Recorder) : Recorder :=
  let others := recorder.known.filter fun known => !known.isSame recorded.about recorded.event
  { recorder with known := recorded :: others }

def publish (now : Instant) (about : ObjectReference) (event : Event) :
    StateT Recorder HttpTalk Unit := fun recorder => do
  let (request, recorded) := recorder.next now about event
  let answer ← ApiRequest.send "Event" (fun value => guard (RecordedEvent.fits value)) request
  pure ((), match answer with
    | .error _ => recorder
    | .ok () => recorder.remember recorded)

end Recorder

end BindingOperator
