import BindingOperator.Text.Letters

/-!
The format of the log stream and the filter that decides what goes into it.
-/

namespace BindingOperator

inductive LogFormat where
  | json
  | text
  deriving DecidableEq, Repr, Inhabited

/-- The filter where none is set, or the one that is set cannot be read. -/
def defaultLogFilter : String := "info,servicebinding=debug,kube=info,tower=warn,hyper=warn"

inductive TelemetryFailure where
  | alreadyInstalled
  /-- The name, in lower case, of no format. -/
  | unknownFormat (name : String)
  deriving DecidableEq, Repr

namespace TelemetryFailure

def message : TelemetryFailure → String
  | .alreadyInstalled =>
      "failed to initialize tracing subscriber: "
        ++ "a global default trace dispatcher has already been set"
  | .unknownFormat name =>
      "unknown log format '" ++ name ++ "', expected 'json' or 'text'"

end TelemetryFailure

namespace LogFormat

def parse (name : String) : Except TelemetryFailure LogFormat :=
  let lower := Text.lowerLetters name
  if lower = "json" then .ok .json
  else if lower = "text" || lower = "plain" then .ok .text
  else .error (.unknownFormat lower)

def name : LogFormat → String
  | .json => "json"
  | .text => "text"

end LogFormat

/-- Installs the log stream unless there is one. -/
def installLog (installed : Bool) (_ : LogFormat) : Except TelemetryFailure Unit :=
  if installed then .error .alreadyInstalled else .ok ()

end BindingOperator
