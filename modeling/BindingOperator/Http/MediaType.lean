import BindingOperator.Text.Letters

/-!
Media types, as the header that names the type of a body writes them: a type, a subtype
with an optional suffix after its last plus sign, and parameters. Letter case plays no part.
-/

namespace BindingOperator

structure MediaType where
  type : String
  subtype : String
  suffix : Option String
  deriving DecidableEq, Repr

namespace MediaType

def isToken (c : Char) : Bool :=
  ('a' ≤ c && c ≤ 'z') || ('A' ≤ c && c ≤ 'Z') || ('0' ≤ c && c ≤ '9') ||
    "!#$%&'*+-.^_|~".toList.contains c || c.toNat = 0x60

def isQuotable (c : Char) : Bool := 31 < c.toNat && c.toNat ≠ 127

inductive ParameterState where
  | start
  | name
  | valueStart
  | value
  | quotedStart
  | quoted
  | quotedEnd

namespace ParameterState

def step : ParameterState → Char → Option ParameterState
  | .start, c => if c = ' ' then some .start else if isToken c then some .name else none
  | .name, c => if c = '=' then some .valueStart else if isToken c then some .name else none
  | .valueStart, c =>
      if c = '"' then some .quotedStart else if isToken c then some .value else none
  | .value, c => if c = ';' then some .start else if isToken c then some .value else none
  | .quotedStart, c => if isQuotable c then some .quoted else none
  | .quoted, c => if c = '"' then some .quotedEnd else if isQuotable c then some .quoted else none
  | .quotedEnd, c => if c = ';' then some .start else if c = ' ' then some .quotedEnd else none

/-- Whether the parameters may end here. -/
def mayEnd : ParameterState → Bool
  | .start | .valueStart | .value | .quotedEnd => true
  | .name | .quotedStart | .quoted => false

end ParameterState

def parametersFit (text : List Char) : Bool :=
  (text.foldlM ParameterState.step .start).any ParameterState.mayEnd

/-- Subtype and suffix: what stands before the last plus sign that is not the first
character, and after it. -/
def splitSuffix (text : List Char) : List Char × Option (List Char) :=
  let suffix := (text.reverse.takeWhile (· ≠ '+')).reverse
  let before := text.take (text.length - suffix.length - 1)
  if suffix.length < text.length && !before.isEmpty then (before, some suffix) else (text, none)

def lower (text : List Char) : String := Text.lowerLetters (String.ofList text)

def parse? (text : String) : Option MediaType := do
  let characters := text.toList
  let type := characters.takeWhile isToken
  match characters.dropWhile isToken with
  | '/' :: rest =>
      let split := splitSuffix (rest.takeWhile isToken)
      let parsed : MediaType := ⟨lower type, lower split.1, split.2.map lower⟩
      if type.isEmpty then none
      else
        match rest.dropWhile isToken with
        | [] => some parsed
        | ';' :: parameters =>
            if split.1.isEmpty || !parametersFit parameters then none else some parsed
        | _ => none
  | _ => none

def isJson (media : MediaType) : Bool :=
  media.type = "application" && (media.subtype = "json" || media.suffix = some "json")

end MediaType

end BindingOperator
