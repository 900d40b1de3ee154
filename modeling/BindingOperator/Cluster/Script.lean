import BindingOperator.Cluster.InMemory
import BindingOperator.Cluster.Scripted
import BindingOperator.Json.Loose

/-!
Scripts: documents that describe a cluster in memory or a scripted server. They are read
loosely, so that a script only says what matters to it.
-/

namespace BindingOperator

/-- A failure, named by its class; its other fields depend on that. -/
def Failure.ofScript (script : Json) : Failure :=
  let kind := script.text "kind"
  let name := script.text "name"
  let verb := script.text "verb"
  let message := script.text "message"
  let refusal : Refusal := ⟨script.text "status", message, script.text "reason",
    ((script.nat? "code").getD 0).toUInt16⟩
  match script.text "class" with
  | "NotFound" => .notFound kind name
  | "Forbidden" => .forbidden kind name verb
  | "Conflict" => .conflict kind name message
  | "Mapping" => .mapping (script.text "group") (script.text "version") kind message
  | "Projection" => .projection (script.text "workload") message
  | "Api" => .request (.refused refusal)
  | "FromKube" => .ofRequest (.refused refusal) kind name verb
  | "FromKubeOther" => .ofRequest .other kind name verb
  | _ => .internal message

def Fault.ofScript (script : Json) : Fault where
  call := script.text "call"
  target := script.text? "name"
  failure := .ofScript (script.part "error")
  skip := (script.nat? "skip").getD 0
  times := script.nat? "times"

def GroupVersionKind.ofScript (script : Json) : GroupVersionKind :=
  ⟨script.text "group", script.text "version", script.text "kind"⟩

def ServedKind.ofScript (script : Json) : ServedKind :=
  ⟨.ofScript script, script.text "plural"⟩

def Resource.ofScript (script : Json) : Resource :=
  (GroupVersionKind.ofScript script).resource (script.text "plural")

namespace Route

/-- An event of a watch, with the seconds since the one before. -/
def eventOfScript (script : Json) : Nat × String :=
  ((script.nat? "wait").getD 0,
    (Json.record [("type", some (script.part "type")),
      ("object", some (script.part "object"))]).compact)

def replyOfScript (script : Json) : RouteReply :=
  if script.flag "broken" then .broken
  else
    match script.text? "raw" with
    | some raw => .text raw
    | none => if script.flag "echo" then .echo else .text (script.part "body").compact

def ofScript (script : Json) : Route where
  method := script.text "method"
  path := script.text "path"
  status := (script.nat? "status").getD 200
  reply := replyOfScript script
  times := script.nat? "times"
  opens := (script.nat? "after").getD 0
  closes := script.nat? "until"
  events := (script.items "events").map eventOfScript

end Route

end BindingOperator
