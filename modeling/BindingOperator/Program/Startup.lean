import BindingOperator.Definition.Binding
import BindingOperator.Json.Block
import BindingOperator.Program.Kubeconfig
import BindingOperator.Program.LogFilter
import BindingOperator.Program.Tls
import BindingOperator.Program.Usage

/-!
The start of the program: it reads its command line, answers at once what needs no cluster,
looks for the cluster, announces its controllers in the log, and loads what the admission
server needs. The report tells what is written and how the program ends, if it does.
-/

namespace BindingOperator

inductive OutputLine where
  | text (line : String)
  | entry (format : LogFormat) (entry : LogRecord)
  deriving DecidableEq, Repr

structure Report where
  output : List OutputLine := []
  errors : List String := []
  /-- The exit code; a program that goes on running has none yet. -/
  exit : Option Nat
  deriving DecidableEq, Repr

namespace Report

def said (lines : List String) : Report where
  output := lines.map .text
  exit := some 0

/-- A cause with its number, its further lines indented like the first. -/
def numbered (mark : String) (cause : String) : List String :=
  match cause.splitOn "\n" with
  | [] => []
  | first :: rest =>
      (mark ++ first) :: rest.map fun line => String.ofList (List.replicate mark.length ' ') ++ line

def markOf (place : Nat) : String :=
  let digits := Nat.repr place
  String.ofList (List.replicate (5 - digits.length) ' ') ++ digits ++ ": "

def numberedFrom (place : Nat) : List String → List String
  | [] => []
  | cause :: rest => numbered (markOf place) cause ++ numberedFrom (place + 1) rest

/-- A failure and its causes; a single cause has no number. -/
def causeLines : List String → List String
  | [] => []
  | [cause] => ["", "Caused by:"] ++ numbered "    " cause
  | causes => ["", "Caused by:"] ++ numberedFrom 0 causes

def failureLines : List String → List String
  | [] => []
  | failure :: causes => (("Error: " ++ failure).splitOn "\n") ++ causeLines causes

/-- The program ends with a failure, after what it had written. -/
def failed (output : List OutputLine) (chain : List String) : Report where
  output := output
  errors := failureLines chain
  exit := some 1

end Report

/-- Where the records of the start come from. -/
def programTarget : String := programName
def runnerTarget : String := programName ++ "::controller_runner"

/-- What the log is told while the controllers are built. -/
def announcements (settings : Settings) : List LogRecord :=
  [{ target := programTarget, message := "Starting ServiceBinding controllers..." },
    { target := runnerTarget, message := "- ServiceBinding controller" },
    { target := runnerTarget, message := "- MutatingWebhookConfiguration controller"
      fields := [("configuration", settings.mutatingName)] },
    { target := runnerTarget, message := "- ValidatingWebhookConfiguration controller"
      fields := [("configuration", settings.validatingName)] }]

def logFilterVariable : String := "RUST_LOG"

def logLines (settings : Settings) (environment : Environment) (entries : List LogRecord) :
    List OutputLine :=
  let filter := LogFilter.ofSetting (environment.lookup logFilterVariable)
  (entries.filter filter.lets).map (OutputLine.entry settings.logFormat)

def startWith (settings : Settings) (environment : Environment) : FileTalk Report := do
  match ← findServer environment with
  | .error failure => pure (Report.failed [] failure.chain)
  | .ok _ =>
      let output := logLines settings environment (announcements settings)
      if settings.serverDisabled then pure { output, exit := none }
      else
        match ← loadTls settings.certificate settings.key with
        | .error failure =>
            pure (Report.failed output (serverFailure settings.certificate failure))
        | .ok () => pure { output, exit := none }

/-- The start of the program, up to where it would go on running. -/
def startProgram (arguments : List String) (environment : Environment) :
    FileTalk Report :=
  match CommandLine.read arguments environment with
  | .error fault => pure { errors := fault.lines, exit := some 2 }
  | .ok .help => pure (Report.said (Usage.help environment))
  | .ok .version => pure (Report.said [Usage.version])
  | .ok (.run settings) =>
      if settings.definitionOnly then
        pure (Report.said (Binding.definition.blockLines ++ [""]))
      else startWith settings environment

end BindingOperator
