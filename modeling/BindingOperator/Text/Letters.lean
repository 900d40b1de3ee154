/-!
Letter case of the letters of the alphabet; any other character stays as it is.
-/

namespace BindingOperator.Text

def lowerLetter (c : Char) : Char :=
  if 'A' ≤ c ∧ c ≤ 'Z' then Char.ofNat (c.toNat + 32) else c

def lowerLetters (text : String) : String :=
  String.ofList (text.toList.map lowerLetter)

end BindingOperator.Text
