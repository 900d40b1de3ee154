/-!
The form encoding of query parameters: letters, digits and four marks stand for themselves,
a space is written as a plus sign, and every other byte of the text by its two hexadecimal
digits after a percent sign.
-/

namespace BindingOperator.Text

def isPlainByte (byte : Nat) : Bool :=
  (0x30 ≤ byte && byte ≤ 0x39) || (0x41 ≤ byte && byte ≤ 0x5a) || (0x61 ≤ byte && byte ≤ 0x7a) ||
    byte = 0x2a || byte = 0x2d || byte = 0x2e || byte = 0x5f

def upperHex (digit : Nat) : Char :=
  if digit < 10 then Char.ofNat (48 + digit) else Char.ofNat (55 + digit)

def formByte (byte : UInt8) : List Char :=
  let value := byte.toNat
  if isPlainByte value then [Char.ofNat value]
  else if value = 0x20 then ['+']
  else ['%', upperHex (value / 16), upperHex (value % 16)]

def formEncoded (text : String) : String :=
  String.ofList ((text.toList.flatMap String.utf8EncodeChar).flatMap formByte)

/-- Parameters in order. Each begins with the sign that separates it from what is before it,
the first one too. -/
def formParameters (parameters : List (String × String)) : String :=
  String.join (parameters.map fun (name, value) =>
    "&" ++ formEncoded name ++ "=" ++ formEncoded value)

end BindingOperator.Text
