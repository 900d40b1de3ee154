import BindingOperator.Text.Invisible

/-!
Text between quotes, for messages that show a value exactly: quotes, backslashes and line
breaks are escaped by a letter, characters that cannot be seen by their code.
-/

namespace BindingOperator.Text

/-- The digits of a code, lower case, without leading zeros. -/
def codeDigits (code : Nat) : List Char :=
  Nat.toDigits 16 code

def quotedChar (c : Char) : List Char :=
  match c with
  | '"' => ['\\', '"']
  | '\\' => ['\\', '\\']
  | '\n' => ['\\', 'n']
  | '\r' => ['\\', 'r']
  | '\t' => ['\\', 't']
  | '\x00' => ['\\', '0']
  | c =>
      if isInvisible c then '\\' :: 'u' :: '\x7b' :: codeDigits c.toNat ++ ['\x7d'] else [c]

def quoted (text : String) : String :=
  String.ofList ('"' :: text.toList.flatMap quotedChar ++ ['"'])

end BindingOperator.Text
