import BindingOperator.Json.Printer
import BindingOperator.Text.Letters

/-!
The block form of a document: a field or an item to a line, what belongs to it indented
below it, and the items of a list behind dashes. A text stands for itself unless it would be
read as something else; then it stands between single quotes, or, when it has several
lines, line by line below a bar.
-/

namespace BindingOperator.Json

def reservedTexts : List String :=
  ["null", "~", "true", "false", "y", "n", "yes", "no", "on", "off"]

/-- Whether a text would be read as a number. -/
def looksNumeric (characters : List Char) : Bool :=
  let unsigned := match characters with
    | '+' :: rest | '-' :: rest => rest
    | rest => rest
  match unsigned with
  | '.' :: c :: _ => c.isDigit || ['i', 'I', 'n', 'N'].contains c
  | c :: _ => c.isDigit
  | [] => false

/-- Whether a text may start with a character, given the one after it. -/
def mayStart (first : Char) (second : Option Char) : Bool :=
  if ['-', '?', ':'].contains first then second.any (· ≠ ' ')
  else !(['\'', '"', ',', '[', ']', '\x7b', '\x7d', '#', '&', '*', '!', '|', '>', '%', '@',
    '\x60', ' '].contains first)

/-- Whether a text holds what ends it: a colon before a blank, or a number sign after one. -/
def endsEarly : List Char → Bool
  | [] => false
  | [last] => last = ':' || last = ' '
  | first :: second :: rest =>
      (first = ':' && second = ' ') || (first = ' ' && second = '#') || endsEarly (second :: rest)

def standsAlone (text : String) : Bool :=
  match text.toList with
  | [] => false
  | first :: rest =>
      mayStart first rest.head? && !endsEarly (first :: rest) &&
        !(reservedTexts.contains (Text.lowerLetters text)) && !looksNumeric (first :: rest) &&
        (first :: rest).all fun c => ' ' ≤ c

def singleQuoted (text : String) : String :=
  "'" ++ String.ofList (text.toList.flatMap fun c => if c = '\'' then ['\'', '\''] else [c]) ++ "'"

def lineText (text : String) : String :=
  if standsAlone text then text
  else if text.toList.all (' ' ≤ ·) then singleQuoted text
  else String.ofList (quote text)

/-- The mark of a text of several lines tells how it ends. -/
def barMark (text : String) : String :=
  match text.toList.reverse with
  | '\n' :: '\n' :: _ => "|+"
  | '\n' :: _ => "|"
  | _ => "|-"

/-- The lines of a text; an end of line at its end starts none. -/
def textLines (text : String) : List String :=
  let lines := text.splitOn "\n"
  if lines.getLast? = some "" then lines.dropLast else lines

/-- Lines one step further in; an empty line stays empty. -/
def indented (lines : List String) : List String :=
  lines.map fun line => if line.isEmpty then line else "  " ++ line

def textBlock (text : String) : String × List String :=
  if text.contains '\n' then (barMark text, indented (textLines text))
  else (lineText text, [])

mutual

/-- A value that is not nested: what stands behind its key, and the lines below it. -/
def fieldBlock : Json → String × List String
  | .null => (" null", [])
  | .bool value => (if value then " true" else " false", [])
  | .number value => (" " ++ value.text, [])
  | .string text => (" " ++ (textBlock text).1, (textBlock text).2)
  | .array [] => (" []", [])
  | .array (first :: rest) => ("", itemLines (first :: rest))
  | .object [] => (" \x7b\x7d", [])
  | .object (first :: rest) => ("", indented (fieldLines (first :: rest)))

def fieldLines : List (String × Json) → List String
  | [] => []
  | (key, value) :: rest =>
      let block := fieldBlock value
      ((lineText key ++ ":" ++ block.1) :: block.2) ++ fieldLines rest

def blockLines : Json → List String
  | .object (first :: rest) => fieldLines (first :: rest)
  | .array (first :: rest) => itemLines (first :: rest)
  | .null => ["null"]
  | .bool value => [if value then "true" else "false"]
  | .number value => [value.text]
  | .string text => (textBlock text).1 :: (textBlock text).2
  | .array [] => ["[]"]
  | .object [] => ["\x7b\x7d"]

def itemLines : List Json → List String
  | [] => []
  | item :: rest =>
      (match blockLines item with
        | [] => []
        | first :: more => ("- " ++ first) :: indented more) ++ itemLines rest

end

def block (value : Json) : String :=
  String.join (value.blockLines.map (· ++ "\n"))

end BindingOperator.Json
