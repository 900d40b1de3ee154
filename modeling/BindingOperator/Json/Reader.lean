import BindingOperator.Json.Basic

/-!
Reading documents from text. A reading step takes the characters before it and returns
what it read with the characters after it; it fails on the first character that fits no
rule. Nesting is limited to 127 levels. `raw?` keeps the fields of an object as they were
written, also twice; `parse?` gives the canonical document. Whoever knows the fields of a
record reads these alone and skips the others: what is skipped need only have the form of a
value, however deep it is and whatever its numbers and characters are.
-/

namespace BindingOperator.Json.Reader

def isBlank (c : Char) : Bool :=
  c = ' ' || c = '\t' || c = '\n' || c = '\r'

def skipBlanks (text : List Char) : List Char :=
  text.dropWhile isBlank

def hexDigit? (c : Char) : Option Nat :=
  if '0' ≤ c ∧ c ≤ '9' then some (c.toNat - 48)
  else if 'a' ≤ c ∧ c ≤ 'f' then some (c.toNat - 87)
  else if 'A' ≤ c ∧ c ≤ 'F' then some (c.toNat - 55)
  else none

def fourHex? (a b c d : Char) : Option Nat := do
  let a ← hexDigit? a
  let b ← hexDigit? b
  let c ← hexDigit? c
  let d ← hexDigit? d
  return ((a * 16 + b) * 16 + c) * 16 + d

def simpleEscape? : Char → Option Char
  | '"' => some '"'
  | '\\' => some '\\'
  | '/' => some '/'
  | 'b' => some '\x08'
  | 'f' => some '\x0c'
  | 'n' => some '\n'
  | 'r' => some '\r'
  | 't' => some '\t'
  | _ => none

def isHighHalf (unit : Nat) : Bool := 0xD800 ≤ unit && unit < 0xDC00
def isLowHalf (unit : Nat) : Bool := 0xDC00 ≤ unit && unit < 0xE000

/-- The rest of a string, its opening quote already read. Two halves of a character
outside the basic plane are written one after the other; a lone half is refused. -/
def stringBody : List Char → Option (List Char × List Char)
  | [] => none
  | '"' :: rest => some ([], rest)
  | '\\' :: 'u' :: a :: b :: c :: d :: rest =>
      (fourHex? a b c d).bind fun unit =>
        if isHighHalf unit then
          match rest with
          | '\\' :: 'u' :: e :: f :: g :: h :: rest =>
              (fourHex? e f g h).bind fun low =>
                if isLowHalf low then
                  let code := 0x10000 + (unit - 0xD800) * 0x400 + (low - 0xDC00)
                  (stringBody rest).map fun read => (Char.ofNat code :: read.1, read.2)
                else none
          | _ => none
        else if isLowHalf unit then none
        else (stringBody rest).map fun read => (Char.ofNat unit :: read.1, read.2)
  | '\\' :: c :: rest =>
      (simpleEscape? c).bind fun plain =>
        (stringBody rest).map fun read => (plain :: read.1, read.2)
  | c :: rest =>
      if c = '\\' || c.toNat < 0x20 then none
      else (stringBody rest).map fun read => (c :: read.1, read.2)

/-- The rest of a string that is skipped; halves of characters may stand alone in it. -/
def skipString : List Char → Option (List Char)
  | [] => none
  | '"' :: rest => some rest
  | '\\' :: 'u' :: a :: b :: c :: d :: rest => (fourHex? a b c d).bind fun _ => skipString rest
  | '\\' :: c :: rest => (simpleEscape? c).bind fun _ => skipString rest
  | c :: rest => if c = '\\' || c.toNat < 0x20 then none else skipString rest

def isDigit (c : Char) : Bool := '0' ≤ c && c ≤ '9'

def digits (text : List Char) : List Nat × List Char :=
  ((text.takeWhile isDigit).map fun c => c.toNat - 48, text.dropWhile isDigit)

/-- Decimals after a point; a point needs at least one digit. -/
def decimals? : List Char → Option (Option (List Nat) × List Char)
  | '.' :: rest =>
      let read := digits rest
      if read.1.isEmpty then none else some (some read.1, read.2)
  | text => some (none, text)

def powerDigits? (down : Bool) (text : List Char) :
    Option (Option (Bool × List Nat) × List Char) :=
  let read := digits text
  if read.1.isEmpty then none else some (some (down, read.1), read.2)

def power? : List Char → Option (Option (Bool × List Nat) × List Char)
  | 'e' :: rest | 'E' :: rest =>
      match rest with
      | '+' :: rest => powerDigits? false rest
      | '-' :: rest => powerDigits? true rest
      | rest => powerDigits? false rest
  | text => some (none, text)

/-- A number as it is written: its digits before the point and after it, and its power. -/
abbrev Spelling := List Nat × Option (List Nat) × Option (Bool × List Nat)

/-- A number without its sign. A zero stands alone before the point. -/
def unsigned? (text : List Char) : Option (Spelling × List Char) := do
  let whole := digits text
  match whole.1 with
  | [] => none
  | 0 :: _ :: _ => none
  | _ => pure ()
  let fraction ← decimals? whole.2
  let power ← power? fraction.2
  return ((whole.1, fraction.1, power.1), power.2)

def signed? (negative : Bool) (text : List Char) : Option (Number × List Char) :=
  (unsigned? text).bind fun read =>
    (Number.ofDigits? negative read.1.1 read.1.2.1 read.1.2.2).map fun number => (number, read.2)

def number? : List Char → Option (Number × List Char)
  | '-' :: rest => signed? true rest
  | text => signed? false text

/-- The characters after a number that is skipped, which may be out of range. -/
def skipNumber : List Char → Option (List Char)
  | '-' :: rest => (unsigned? rest).map Prod.snd
  | text => (unsigned? text).map Prod.snd

/-- How the strings and the numbers of a value are read. -/
structure Literals where
  /-- A string whose opening quote is already read. -/
  string? : List Char → Option (List Char × List Char)
  number? : List Char → Option (Number × List Char)

namespace Literals

/-- For what they say. -/
def exact : Literals := ⟨stringBody, Reader.number?⟩

/-- For their form alone; nothing of what they say is kept. -/
def skipped : Literals where
  string? text := (skipString text).map fun rest => ([], rest)
  number? text := (skipNumber text).map fun rest => (.int 0, rest)

def quoted? (literals : Literals) : List Char → Option (String × List Char)
  | '"' :: rest => (literals.string? rest).map fun read => (String.ofList read.1, read.2)
  | _ => none

end Literals

/-- The characters after a word, when the text starts with it. -/
def after? : List Char → List Char → Option (List Char)
  | [], text => some text
  | _ :: _, [] => none
  | expected :: word, c :: text => if c = expected then after? word text else none

/-- Items up to the closing bracket; the fuel is the number of characters left. -/
def items? (item? : List Char → Option (Json × List Char)) :
    Nat → List Char → Option (List Json × List Char)
  | 0, _ => none
  | fuel + 1, text =>
      (item? (skipBlanks text)).bind fun read =>
        match skipBlanks read.2 with
        | ',' :: rest =>
            (items? item? fuel rest).map fun more => (read.1 :: more.1, more.2)
        | ']' :: rest => some ([read.1], rest)
        | _ => none

/-- Fields up to the closing brace; how a value is read may depend on the name before it. -/
def fields? {α : Type} (name? : List Char → Option (String × List Char))
    (item? : String → List Char → Option (α × List Char)) :
    Nat → List Char → Option (List (String × α) × List Char)
  | 0, _ => none
  | fuel + 1, text =>
      (name? (skipBlanks text)).bind fun name =>
        match skipBlanks name.2 with
        | ':' :: rest =>
            (item? name.1 (skipBlanks rest)).bind fun read =>
              match skipBlanks read.2 with
              | ',' :: rest =>
                  (fields? name? item? fuel rest).map fun more =>
                    ((name.1, read.1) :: more.1, more.2)
              | '}' :: rest => some ([(name.1, read.1)], rest)
              | _ => none
        | _ => none

/-- A value that starts at the first character; the second argument counts the levels of
nesting that are left. -/
def value? (literals : Literals) : Nat → List Char → Option (Json × List Char)
  | levels, text =>
      match text with
      | 'n' :: rest => (after? ['u', 'l', 'l'] rest).map fun rest => (.null, rest)
      | 't' :: rest => (after? ['r', 'u', 'e'] rest).map fun rest => (.bool true, rest)
      | 'f' :: rest => (after? ['a', 'l', 's', 'e'] rest).map fun rest => (.bool false, rest)
      | '"' :: rest =>
          (literals.string? rest).map fun read => (.string (String.ofList read.1), read.2)
      | '[' :: rest =>
          match levels with
          | 0 => none
          | deeper + 1 =>
              match skipBlanks rest with
              | ']' :: rest => some (.array [], rest)
              | rest =>
                  (items? (value? literals deeper) rest.length rest).map fun read =>
                    (.array read.1, read.2)
      | '{' :: rest =>
          match levels with
          | 0 => none
          | deeper + 1 =>
              match skipBlanks rest with
              | '}' :: rest => some (.object [], rest)
              | rest =>
                  (fields? literals.quoted? (fun _ => value? literals deeper) rest.length rest).map
                    fun read => (.object read.1, read.2)
      | text => (literals.number? text).map fun read => (.number read.1, read.2)

/-- The characters after a value that is skipped; no text is nested deeper than it is long. -/
def skipValue (text : List Char) : Option (List Char) :=
  (value? .skipped text.length text).map Prod.snd

/-- The value of a field that is known, and nothing of any other. -/
def known? (names : List String) (levels : Nat) (name : String) (text : List Char) :
    Option (Option Json × List Char) :=
  if names.contains name then
    (value? .exact levels text).map fun read => (some read.1, read.2)
  else (skipValue text).map fun rest => (none, rest)

/-- A record: of an object the fields with the names alone; any other value is read as it is. -/
def record? (names : List String) : Nat → List Char → Option (Json × List Char)
  | deeper + 1, '{' :: text =>
      match skipBlanks text with
      | '}' :: rest => some (.object [], rest)
      | rest =>
          (fields? Literals.exact.quoted? (known? names deeper) rest.length rest).map fun read =>
            (.object (read.1.filterMap fun field => field.2.map fun value => (field.1, value)),
              read.2)
  | levels, text => value? .exact levels text

end BindingOperator.Json.Reader

namespace BindingOperator.Json

def nestingLimit : Nat := 127

/-- What a reader makes of a text; nothing but blanks may stand around it. -/
def whole? (value? : List Char → Option (Json × List Char)) (text : String) : Option Json :=
  (value? (Reader.skipBlanks text.toList)).bind fun read =>
    if (Reader.skipBlanks read.2).isEmpty then some read.1 else none

/-- The document written in the text, with fields as they are written. -/
def raw? (text : String) : Option Json := whole? (Reader.value? .exact nestingLimit) text

/-- The record written in the text, with its known fields as they are written. -/
def rawRecord? (names : List String) (text : String) : Option Json :=
  whole? (Reader.record? names nestingLimit) text

def parse? (text : String) : Option Json :=
  (raw? text).map canonical

end BindingOperator.Json
