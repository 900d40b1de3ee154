import BindingOperator.Program.Startup

/-!
The program. It hands its arguments, the variables it looks at and the files it asks for to
`startProgram`, and writes what the report says.
-/

namespace BindingOperator

def watchedVariables : List String :=
  ProgramOption.settable.filterMap ProgramOption.environmentName? ++
    [logFilterVariable, "KUBECONFIG", "HOME", "KUBERNETES_SERVICE_HOST",
      "KUBERNETES_SERVICE_PORT"]

def readVariables : List String → IO Environment
  | [] => return []
  | name :: rest => do
      let more ← readVariables rest
      match ← IO.getEnv name with
      | some value => return (name, value) :: more
      | none => return more

def faultOf : IO.Error → FileFault
  | .noFileOrDirectory .. => .missing
  | .permissionDenied .. => .denied
  | .inappropriateType .. => .directory
  | failure => .other (toString failure)

def readText (path : String) : IO (Except FileFault String) := do
  try
    return .ok (← IO.FS.readFile path)
  catch failure => return .error (faultOf failure)

def outputText : OutputLine → String
  | .text line => line
  | .entry .json entry => entry.toJson.compact
  | .entry .text entry => entry.line

/-- What is said where the program would go on running: it has no way to reach a cluster. -/
def unreachable : List String := ["Error: the cluster cannot be reached"]

end BindingOperator

open BindingOperator in
def main (arguments : List String) : IO UInt32 := do
  let environment ← readVariables watchedVariables
  let report ← Dialogue.run readText (startProgram arguments environment)
  for line in report.output do IO.println (outputText line)
  for line in report.errors do IO.eprintln line
  match report.exit with
  | some code => return code.toUInt32
  | none => do
      for line in unreachable do IO.eprintln line
      return 1
