import BindingOperator.Program.Environment
import BindingOperator.Program.LogFormat
import BindingOperator.Program.SocketAddress
import BindingOperator.Webhook.Sync

/-!
The settings of the program and the options that set them. An option that takes a value can
also be set by a variable of the environment; without either its default counts.
-/

namespace BindingOperator

structure Settings where
  /-- Only print the definition of bindings. -/
  definitionOnly : Bool := false
  mutatingName : String := AdmissionType.defaultConfiguration .mutating
  validatingName : String := AdmissionType.defaultConfiguration .validating
  address : SocketAddress := ⟨.octets [0, 0, 0, 0], 9443⟩
  certificate : String := "/var/run/servicebinding/tls/tls.crt"
  key : String := "/var/run/servicebinding/tls/tls.key"
  logFormat : LogFormat := .json
  serverDisabled : Bool := false
  deriving DecidableEq, Repr, Inhabited

inductive ProgramOption where
  | definition
  | mutatingName
  | validatingName
  | address
  | certificate
  | key
  | logFormat
  | serverDisabled
  | help
  | version
  deriving DecidableEq, Repr, Inhabited

/-- Why an option does not take a value. -/
inductive ValueFault where
  | missing
  | invalid (cause : String)
  deriving DecidableEq, Repr

namespace ProgramOption

def settable : List ProgramOption :=
  [.definition, .mutatingName, .validatingName, .address, .certificate, .key, .logFormat,
    .serverDisabled]

def all : List ProgramOption := settable ++ [.help, .version]

def name : ProgramOption → String
  | .definition => "crd"
  | .mutatingName => "mutating-webhook-name"
  | .validatingName => "validating-webhook-name"
  | .address => "webhook-addr"
  | .certificate => "tls-cert"
  | .key => "tls-key"
  | .logFormat => "log-format"
  | .serverDisabled => "disable-webhook-server"
  | .help => "help"
  | .version => "version"

def ofName? (name : String) : Option ProgramOption :=
  all.find? fun option => option.name = name

def ofLetter? (letter : Char) : Option ProgramOption :=
  if letter = 'h' then some .help else if letter = 'V' then some .version else none

/-- What the value of an option is called; the other options take none. -/
def valueName? : ProgramOption → Option String
  | .mutatingName => some "MUTATING_WEBHOOK_NAME"
  | .validatingName => some "VALIDATING_WEBHOOK_NAME"
  | .address => some "WEBHOOK_ADDR"
  | .certificate => some "TLS_CERT"
  | .key => some "TLS_KEY"
  | .logFormat => some "LOG_FORMAT"
  | .definition | .serverDisabled | .help | .version => none

def environmentName? : ProgramOption → Option String
  | .mutatingName => some "SERVICEBINDING_MUTATING_WEBHOOK"
  | .validatingName => some "SERVICEBINDING_VALIDATING_WEBHOOK"
  | .address => some "SERVICEBINDING_WEBHOOK_ADDR"
  | .certificate => some "SERVICEBINDING_TLS_CERT"
  | .key => some "SERVICEBINDING_TLS_KEY"
  | .logFormat => some "SERVICEBINDING_LOG_FORMAT"
  | .definition | .serverDisabled | .help | .version => none

def written (option : ProgramOption) : String :=
  "--" ++ option.name ++ (option.valueName?.map fun value => " <" ++ value ++ ">").getD ""

/-- Sets what an option that takes no value stands for. -/
def setFlag (option : ProgramOption) (settings : Settings) : Settings :=
  match option with
  | .definition => { settings with definitionOnly := true }
  | .serverDisabled => { settings with serverDisabled := true }
  | _ => settings

/-- A path that is not empty. -/
def path (value : String) : Except ValueFault String :=
  if value = "" then .error .missing else .ok value

def setValue (option : ProgramOption) (value : String) (settings : Settings) :
    Except ValueFault Settings :=
  match option with
  | .mutatingName => .ok { settings with mutatingName := value }
  | .validatingName => .ok { settings with validatingName := value }
  | .address =>
      match SocketAddress.parse? value with
      | some bound => .ok { settings with address := bound }
      | none => .error (.invalid "invalid socket address syntax")
  | .certificate => (path value).map fun path => { settings with certificate := path }
  | .key => (path value).map fun path => { settings with key := path }
  | .logFormat =>
      match LogFormat.parse value with
      | .ok format => .ok { settings with logFormat := format }
      | .error failure => .error (.invalid failure.message)
  | .definition | .serverDisabled | .help | .version => .ok settings

end ProgramOption

end BindingOperator
