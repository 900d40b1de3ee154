import BindingOperator.Json.Reader
import BindingOperator.Text.Quoted

/-!
Why a text is not the record that was asked for. The cause is told with the place where the
reading stopped: a line, and a column in bytes. It stops at a character that starts no value,
behind a value of another kind, and behind the bracket of an array. A fault inside the record
is placed at the end of the text.
-/

namespace BindingOperator.Json.Misfit

/-- How much of the last line was read, in bytes. -/
def column (read : List Char) : Nat :=
  (read.reverse.takeWhile (· ≠ '\n')).foldl (fun size c => size + c.utf8Size) 0

/-- A cause with the place that the part of the text that was read ends in. -/
def placed (cause : String) (read : List Char) : String :=
  let line := (read.filter (· = '\n')).length + 1
  cause ++ " at line " ++ Nat.repr line ++ " column " ++ Nat.repr (column read)

/-- What a value is; what is said of null differs from format to format. -/
def kindText (nullText : String) : Json → String
  | .null => nullText
  | .bool value => "boolean `" ++ (if value then "true" else "false") ++ "`"
  | .number (.int value) => "integer `" ++ toString value ++ "`"
  | .number value => "floating point `" ++ value.text ++ "`"
  | .string text => "string " ++ Text.quoted text
  | .array _ => "sequence"
  | .object _ => "map"

def wrongKind (nullText expected : String) (value : Json) : String :=
  "invalid type: " ++ kindText nullText value ++ ", expected " ++ expected

/-- The part of a text that a word was compared with, up to the first letter that differs. -/
def compared : List Char → List Char → List Char
  | expected :: word, c :: text =>
      if c = expected then c :: compared word text else [c]
  | _, _ => []

/-- A word that was begun: it ends too early, or goes on in another way. -/
def brokenWord (blanks word text : List Char) : String :=
  let read := compared word text
  if read.length < word.length && read.length = text.length && read.isPrefixOf word then
    placed "EOF while parsing a value" (blanks ++ read)
  else placed "expected ident" (blanks ++ read)

/-- A record that was begun and is none. -/
def brokenRecord (blanks inside : List Char) : String :=
  let skipped := inside.takeWhile Reader.isBlank
  match inside.dropWhile Reader.isBlank with
  | [] => placed "EOF while parsing an object" (blanks ++ '\x7b' :: inside)
  | c :: _ =>
      if c = '"' || c = '\x7d' then placed "invalid value" (blanks ++ '\x7b' :: inside)
      else placed "key must be a string" (blanks ++ '\x7b' :: skipped ++ [c])

/-- A text whose first value cannot be read. -/
def brokenValue (blanks text : List Char) : String :=
  match text with
  | [] => placed "EOF while parsing a value" blanks
  | 'n' :: _ => brokenWord blanks "null".toList text
  | 't' :: _ => brokenWord blanks "true".toList text
  | 'f' :: _ => brokenWord blanks "false".toList text
  | '"' :: _ => placed "EOF while parsing a string" (blanks ++ text)
  | '\x7b' :: inside => brokenRecord blanks inside
  | c :: _ =>
      if c = '-' || Reader.isDigit c then placed "invalid number" (blanks ++ text)
      else placed "expected value" (blanks ++ [c])

/-- An array is turned down before its first item; an empty one is read to its end. -/
def arrayText (expected : String) (blanks inside : List Char) : String :=
  let skipped := inside.takeWhile Reader.isBlank
  let closed := if (inside.dropWhile Reader.isBlank).head? = some ']' then [']'] else []
  placed (wrongKind "null" expected (.array [])) (blanks ++ '[' :: skipped ++ closed)

end BindingOperator.Json.Misfit

namespace BindingOperator.Json

/-- Why a text is not the record that was expected. -/
def misfit (expected text : String) : String :=
  let characters := text.toList
  let blanks := characters.takeWhile Reader.isBlank
  match Reader.skipBlanks characters with
  | '[' :: inside => Misfit.arrayText expected blanks inside
  | '\x7b' :: inside => Misfit.brokenRecord blanks inside
  | start =>
      match Reader.value? .exact nestingLimit start with
      | some (value, rest) =>
          Misfit.placed (Misfit.wrongKind "null" expected value)
            (characters.take (characters.length - rest.length))
      | none => Misfit.brokenValue blanks start

end BindingOperator.Json
