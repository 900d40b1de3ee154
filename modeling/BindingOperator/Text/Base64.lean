/-!
Base 64 with padding, as bytes are written in documents. Every run of bytes has one text,
so a text can stand for its bytes once it is known to be well formed.
-/

namespace BindingOperator.Text

def base64Digit? (c : Char) : Option Nat :=
  if 'A' ≤ c ∧ c ≤ 'Z' then some (c.toNat - 65)
  else if 'a' ≤ c ∧ c ≤ 'z' then some (c.toNat - 71)
  else if '0' ≤ c ∧ c ≤ '9' then some (c.toNat + 4)
  else if c = '+' then some 62
  else if c = '/' then some 63
  else none

/-- Four digits at a time; at the end one or two bytes may be missing, and the bits of the
last digit that belong to no byte are zero. -/
def isBase64 : List Char → Bool
  | [] => true
  | [a, b, '=', '='] => (base64Digit? a).isSome && (base64Digit? b).any (· % 16 = 0)
  | [a, b, c, '='] =>
      (base64Digit? a).isSome && (base64Digit? b).isSome && (base64Digit? c).any (· % 4 = 0)
  | a :: b :: c :: d :: rest =>
      (base64Digit? a).isSome && (base64Digit? b).isSome && (base64Digit? c).isSome &&
        (base64Digit? d).isSome && isBase64 rest
  | _ => false

end BindingOperator.Text
