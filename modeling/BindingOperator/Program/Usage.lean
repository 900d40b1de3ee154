import BindingOperator.Program.CommandLine

/-!
The words in which the program speaks of its command line: the help, the version, and what
is said about a fault, with the options that were meant.
-/

namespace BindingOperator

def programName : String := "servicebinding"

def programVersion : String := "0.1.0"

def programPurpose : String := "ServiceBinding operator binary: controllers and admission server"

namespace ProgramOption

def purpose : ProgramOption → String
  | .definition => "Print the ServiceBinding CRD as YAML and exit"
  | .mutatingName => "Name of the MutatingWebhookConfiguration to keep in sync"
  | .validatingName => "Name of the ValidatingWebhookConfiguration to keep in sync"
  | .address => "Bind address of the admission server"
  | .certificate => "PEM certificate served by the admission server"
  | .key => "PEM private key of the admission server"
  | .logFormat => "Log output format: json or text"
  | .serverDisabled => "Run the controllers without the admission server"
  | .help => "Print help"
  | .version => "Print version"

/-- The value that counts when an option is not given. -/
def default? (option : ProgramOption) : Option String :=
  let settings : Settings := {}
  match option with
  | .mutatingName => some settings.mutatingName
  | .validatingName => some settings.validatingName
  | .address => some settings.address.text
  | .certificate => some settings.certificate
  | .key => some settings.key
  | .logFormat => some settings.logFormat.name
  | .definition | .serverDisabled | .help | .version => none

def letter? : ProgramOption → Option String
  | .help => some "-h, "
  | .version => some "-V, "
  | _ => none

end ProgramOption

namespace Usage

/-- An entry of the help: the option, and below it what it does, the variable with its value
and the default. -/
def entry (environment : Environment) (option : ProgramOption) : List String :=
  let setBy := (option.environmentName?.map fun name =>
    " [env: " ++ name ++ "=" ++ (environment.lookup name).getD "" ++ "]").getD ""
  let default := (option.default?.map fun value => " [default: " ++ value ++ "]").getD ""
  ["  " ++ option.letter?.getD "    " ++ option.written,
    "          " ++ option.purpose ++ setBy ++ default]

def synopsis : String := "Usage: " ++ programName ++ " [OPTIONS]"

def help (environment : Environment) : List String :=
  [programPurpose, "", synopsis, "", "Options:"] ++ ProgramOption.all.flatMap (entry environment)

def version : String := programName ++ " " ++ programVersion

def alternatives : String :=
  "<" ++ String.intercalate "|" (ProgramOption.settable.map ProgramOption.written) ++ ">"

/-- The options that are spoken of. One that sets something stands with its alternatives
once any of them was given. -/
def synopsisOf (spoken : Option ProgramOption) (anyGiven : Bool) : String :=
  let alone := spoken.filter fun option => !(anyGiven && ProgramOption.settable.contains option)
  let parts := (alone.map ProgramOption.written).toList ++ (if anyGiven then [alternatives] else [])
  if parts.isEmpty then synopsis
  else "Usage: " ++ String.intercalate " " (programName :: parts)

end Usage

namespace UsageFault

def message : UsageFault → String
  | .unknownArgument text _ _ => "unexpected argument '" ++ text ++ "' found"
  | .repeated option => "the argument '" ++ option.written ++ "' cannot be used multiple times"
  | .unexpectedValue option value _ =>
      "unexpected value '" ++ value ++ "' for '" ++ option.written
        ++ "' found; no more were expected"
  | .missingValue option =>
      "a value is required for '" ++ option.written ++ "' but none was supplied"
  | .invalidValue option value cause =>
      "invalid value '" ++ value ++ "' for '" ++ option.written ++ "': " ++ cause

/-- The option that was meant, and how the program is used. -/
def hints : UsageFault → List String
  | .unknownArgument _ (some meant) othersGiven =>
      ["", "  tip: a similar argument exists: '--" ++ meant.name ++ "'", "",
        Usage.synopsisOf (some meant)
          (othersGiven || ProgramOption.settable.contains meant)]
  | .unknownArgument _ none othersGiven => ["", Usage.synopsisOf none othersGiven]
  | .repeated _ => ["", Usage.synopsis]
  | .unexpectedValue option _ othersGiven => ["", Usage.synopsisOf (some option) othersGiven]
  | .missingValue _ | .invalidValue .. => []

def lines (fault : UsageFault) : List String :=
  ("error: " ++ fault.message) :: fault.hints ++ ["", "For more information, try '--help'."]

end UsageFault

end BindingOperator
