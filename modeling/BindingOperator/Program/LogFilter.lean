import BindingOperator.Program.LogFormat
import BindingOperator.Json.Record

/-!
Which records go into the log. A filter is a list of directives; of those that are about a
record the most specific one decides, by the level up to which it lets records through. A
directive may name a target, whose start is enough, a field that a record must have, and a
span; no record here belongs to a span.
-/

namespace BindingOperator

inductive LogLevel where
  | off
  | error
  | warn
  | info
  | debug
  | trace
  deriving DecidableEq, Repr, Inhabited

namespace LogLevel

def rank : LogLevel → Nat
  | .off => 0
  | .error => 1
  | .warn => 2
  | .info => 3
  | .debug => 4
  | .trace => 5

def all : List LogLevel := [.off, .error, .warn, .info, .debug, .trace]

def name : LogLevel → String
  | .off => "off"
  | .error => "error"
  | .warn => "warn"
  | .info => "info"
  | .debug => "debug"
  | .trace => "trace"

/-- A level is written as its name or its rank. -/
def parse? (text : String) : Option LogLevel :=
  let digits := match text.toList with
    | '+' :: rest => rest
    | rest => rest
  if !digits.isEmpty && digits.all Char.isDigit then
    let value := digits.foldl (fun sum c => sum * 10 + (c.toNat - 48)) 0
    all.find? fun level => level.rank = value
  else all.find? fun level => level.name = Text.lowerLetters text

end LogLevel

structure LogRecord where
  target : String
  message : String
  fields : List (String × String) := []
  deriving DecidableEq, Repr, Inhabited

namespace LogRecord

/-- The record as an object, without the time. -/
def toJson (entry : LogRecord) : Json :=
  Json.record [("fields", some (.object (Table.ofEntries (("message", .string entry.message) ::
      entry.fields.map fun (name, value) => (name, .string value))))),
    ("level", some (.string "INFO")), ("target", some (.string entry.target))]

/-- The record as a line, without the time. -/
def line (entry : LogRecord) : String :=
  "INFO " ++ entry.target ++ ": " ++ entry.message ++
    String.join (entry.fields.map fun (name, value) => " " ++ name ++ "=" ++ value)

def hasField (entry : LogRecord) (name : String) : Bool :=
  name = "message" || entry.fields.any fun field => field.1 = name

end LogRecord

structure LogDirective where
  target : Option String := none
  /-- The directive is about what happens within a span. -/
  inSpan : Bool := false
  /-- A field that must be there; one with a value is a matter of spans. -/
  fieldName : Option String := none
  level : LogLevel := .trace
  deriving DecidableEq, Repr, Inhabited

namespace LogDirective

/-- A level that may be left out, which lets everything through. -/
def levelOr? (text : List Char) : Option LogLevel :=
  if text.isEmpty then some .trace else LogLevel.parse? (String.ofList text)

/-- What stands behind a bracket that was closed: nothing, or a level. -/
def readLevel (directive : LogDirective) : List Char → Option LogDirective
  | [] => some directive
  | '=' :: level => (levelOr? level).map fun level => { directive with level }
  | _ => none

/-- Reads the part between brackets: a span, and the field of one behind a brace. -/
def readSpan (directive : LogDirective) (text : List Char) : Option LogDirective :=
  let span := text.takeWhile fun c => c ≠ ']' && c ≠ '\x7b'
  match text.dropWhile fun c => c ≠ ']' && c ≠ '\x7b' with
  | ']' :: rest => readLevel { directive with inSpan := true } rest
  | '\x7b' :: rest =>
      let field := rest.takeWhile (· ≠ '\x7d')
      match rest.dropWhile (· ≠ '\x7d') with
      | '\x7d' :: ']' :: rest =>
          if field.isEmpty then none
          else readLevel { directive with
            inSpan := !span.isEmpty || field.contains '='
            fieldName := some (String.ofList field) } rest
      | _ => none
  | _ => none

/-- Whether a target may start so. -/
def startsTarget (c : Char) : Bool :=
  c = '-' || c = ':' || c = '_' || c.isAlphanum || 128 ≤ c.toNat

def parse? (text : String) : Option LogDirective :=
  match text.trimAscii.toString.toList with
  | [] => none
  | '[' :: rest => readSpan {} rest
  | first :: rest =>
      let whole := first :: rest
      if !startsTarget first then none
      else
        let target := String.ofList (whole.takeWhile fun c => c ≠ '=' && c ≠ '[')
        match whole.dropWhile fun c => c ≠ '=' && c ≠ '[' with
        | [] =>
            match LogLevel.parse? target with
            | some level => some { level }
            | none => some { target := some target }
        | '=' :: level => (levelOr? level).map fun level => { target := some target, level }
        | _ :: span => readSpan { target := some target } span

def concerns (entry : LogRecord) (directive : LogDirective) : Bool :=
  !directive.inSpan && directive.fieldName.all entry.hasField &&
    directive.target.all fun target => target.toList.isPrefixOf entry.target.toList

/-- A longer target is more specific, then a field. -/
def specificity (directive : LogDirective) : Nat × Nat :=
  ((directive.target.map fun target => target.utf8ByteSize + 1).getD 0,
    if directive.fieldName.isSome then 1 else 0)

/-- The more specific of two directives, the second one of two equal ones. -/
def chosen (first second : LogDirective) : LogDirective :=
  let left := first.specificity
  let right := second.specificity
  if left.1 < right.1 || (left.1 = right.1 && left.2 ≤ right.2) then second else first

end LogDirective

abbrev LogFilter := List LogDirective

namespace LogFilter

/-- Reads the directives between commas; without any, only errors are let through. -/
def parse? (text : String) : Option LogFilter :=
  (((text.splitOn ",").filter (· ≠ "")).mapM LogDirective.parse?).map fun directives =>
    if directives.isEmpty then [{ level := .error }] else directives

def lets (filter : LogFilter) (entry : LogRecord) : Bool :=
  match filter.filter (LogDirective.concerns entry) with
  | [] => false
  | first :: rest => LogLevel.info.rank ≤ (rest.foldl LogDirective.chosen first).level.rank

/-- The filter that is asked for, or the usual one when none is or it cannot be read. -/
def ofSetting (setting : Option String) : LogFilter :=
  ((setting.bind parse?).or (parse? defaultLogFilter)).getD []

end LogFilter

end BindingOperator
