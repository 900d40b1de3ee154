import BindingOperator.Program.Settings
import BindingOperator.Text.Similarity

/-!
Reading the command line. The arguments are read in order, and the first fault ends it; the
value of an option, which may be an argument of its own, is taken in when the next option is
met or at the end. The variables of the environment come last, for the options that were
not given.
-/

namespace BindingOperator

inductive UsageFault where
  /-- An argument that is none of the options; one may have been meant, and others may have
  been given before. -/
  | unknownArgument (text : String) (meant : Option ProgramOption) (othersGiven : Bool)
  | repeated (option : ProgramOption)
  /-- A value for an option that takes none. -/
  | unexpectedValue (option : ProgramOption) (value : String) (othersGiven : Bool)
  | missingValue (option : ProgramOption)
  | invalidValue (option : ProgramOption) (value cause : String)
  deriving DecidableEq, Repr

inductive Request where
  | help
  | version
  | run (settings : Settings)
  deriving DecidableEq, Repr

namespace CommandLine

structure Progress where
  settings : Settings := {}
  given : List ProgramOption := []
  /-- An option whose value was not taken in yet. -/
  pending : Option (ProgramOption × Option String) := none

def takeValue (option : ProgramOption) (value : String) (progress : Progress) :
    Except UsageFault Progress :=
  if progress.given.contains option then .error (.repeated option)
  else
    match option.setValue value progress.settings with
    | .ok settings => .ok { progress with settings, given := progress.given ++ [option] }
    | .error .missing => .error (.missingValue option)
    | .error (.invalid cause) => .error (.invalidValue option value cause)

def settle (progress : Progress) : Except UsageFault Progress :=
  match progress.pending with
  | none => .ok progress
  | some (option, none) => .error (.missingValue option)
  | some (option, some value) => takeValue option value { progress with pending := none }

def Progress.anyGiven (progress : Progress) : Bool := !progress.given.isEmpty

/-- Whether an option was given, its value taken in or not. -/
def Progress.anyStarted (progress : Progress) : Bool :=
  progress.anyGiven || progress.pending.any fun option => option.2.isSome

/-- Two names are taken to be the same one misspelt above this. -/
def misspellingBound : Text.Fraction := (7, 10)

def unknownName (name : String) (progress : Progress) : UsageFault :=
  .unknownArgument ("--" ++ name)
    ((Text.mostSimilar misspellingBound name (ProgramOption.all.map ProgramOption.name)).bind
      ProgramOption.ofName?)
    progress.anyStarted

/-- The progress after an argument, or what it asks for at once. -/
abbrev Step := Except UsageFault (Progress ⊕ Request)

/-- Takes in an option that takes no value. -/
def takeFlag (option : ProgramOption) (progress : Progress) : Step := do
  let progress ← settle progress
  match option with
  | .help => return .inr .help
  | .version => return .inr .version
  | _ =>
      if progress.given.contains option then throw (.repeated option)
      return .inl { progress with
        settings := option.setFlag progress.settings
        given := progress.given ++ [option] }

def takeNamed (name : String) (value : Option String) (progress : Progress) : Step := do
  match ProgramOption.ofName? name with
  | none => throw (unknownName name progress)
  | some option =>
      match option.valueName?, value with
      | some _, some value => do
          let progress ← settle progress
          return .inl (← takeValue option value progress)
      | some _, none => do
          let progress ← settle progress
          return .inl { progress with pending := some (option, none) }
      | none, some value => throw (.unexpectedValue option value progress.anyGiven)
      | none, none => takeFlag option progress

/-- Takes in an argument that begins with one dash: its first letter decides. -/
def takeLetter (letter : Char) (progress : Progress) : Step :=
  match ProgramOption.ofLetter? letter with
  | some option => takeFlag option progress
  | none => .error (.unknownArgument (String.ofList ['-', letter]) none false)

/-- Takes in an argument that is no option. -/
def takePlain (text : String) (progress : Progress) : Step :=
  match progress.pending with
  | some (option, none) => .ok (.inl { progress with pending := some (option, some text) })
  | _ => .error (.unknownArgument text none false)

/-- The name and the value that an argument after its dashes holds. -/
def splitValue (characters : List Char) : String × Option String :=
  let name := String.ofList (characters.takeWhile (· ≠ '='))
  match characters.dropWhile (· ≠ '=') with
  | [] => (name, none)
  | _ :: value => (name, some (String.ofList value))

def take (argument : String) (progress : Progress) : Step :=
  match argument.toList with
  | '-' :: '-' :: rest => takeNamed (splitValue rest).1 (splitValue rest).2 progress
  | '-' :: letter :: _ => takeLetter letter progress
  | _ => takePlain argument progress

/-- Nothing after two dashes is an option, and there is nothing else. -/
def takeArguments : List String → Progress → Step
  | [], progress => (settle progress).map .inl
  | "--" :: [], progress => (settle progress).map .inl
  | "--" :: "--" :: _, _ => .error (.unknownArgument "--" none false)
  | "--" :: text :: _, _ => .error (.unknownArgument text none false)
  | argument :: rest, progress =>
      match take argument progress with
      | .ok (.inl progress) => takeArguments rest progress
      | ended => ended

/-- Takes in the variables of the options that were not given, in the order of the options. -/
def takeVariables (environment : Environment) : List ProgramOption → Progress →
    Except UsageFault Progress
  | [], progress => .ok progress
  | option :: rest, progress =>
      if progress.given.contains option then takeVariables environment rest progress
      else
        match option.environmentName?.bind (environment.lookup ·) with
        | none => takeVariables environment rest progress
        | some value => do takeVariables environment rest (← takeValue option value progress)

/-- Reads the arguments, without the name of the program, and the environment. -/
def read (arguments : List String) (environment : Environment) :
    Except UsageFault Request := do
  match ← takeArguments arguments {} with
  | .inr request => return request
  | .inl progress =>
      let progress ← takeVariables environment ProgramOption.settable progress
      return .run progress.settings

end CommandLine

end BindingOperator
