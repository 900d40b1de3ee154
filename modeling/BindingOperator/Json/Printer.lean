import BindingOperator.Json.Basic

/-!
The compact text of a document: no blanks, fields in their order, a quote, a backslash
and control characters escaped and every other character as it is.
-/

namespace BindingOperator.Json

def lowerHex (digit : Nat) : Char :=
  if digit < 10 then Char.ofNat (48 + digit) else Char.ofNat (87 + digit)

def escapeChar (c : Char) : List Char :=
  match c with
  | '"' => ['\\', '"']
  | '\\' => ['\\', '\\']
  | '\n' => ['\\', 'n']
  | '\r' => ['\\', 'r']
  | '\t' => ['\\', 't']
  | '\x08' => ['\\', 'b']
  | '\x0c' => ['\\', 'f']
  | c =>
      if c.toNat < 0x20 then
        ['\\', 'u', '0', '0', lowerHex (c.toNat / 16), lowerHex (c.toNat % 16)]
      else [c]

def quote (text : String) : List Char :=
  '"' :: text.toList.flatMap escapeChar ++ ['"']

mutual

def print : Json → List Char
  | .null => ['n', 'u', 'l', 'l']
  | .bool true => ['t', 'r', 'u', 'e']
  | .bool false => ['f', 'a', 'l', 's', 'e']
  | .number value => value.text.toList
  | .string value => quote value
  | .array [] => ['[', ']']
  | .array (first :: rest) => '[' :: print first ++ printItems rest
  | .object [] => ['\x7b', '\x7d']
  | .object ((key, first) :: rest) =>
      '\x7b' :: quote key ++ ':' :: print first ++ printFields rest

/-- The items after the first, up to the closing bracket. -/
def printItems : List Json → List Char
  | [] => [']']
  | item :: rest => ',' :: print item ++ printItems rest

/-- The fields after the first, up to the closing brace. -/
def printFields : List (String × Json) → List Char
  | [] => ['\x7d']
  | (key, value) :: rest => ',' :: quote key ++ ':' :: print value ++ printFields rest

end

def compact (value : Json) : String := String.ofList value.print

end BindingOperator.Json
