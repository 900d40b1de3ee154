import BindingOperator.Json.Basic

/-!
Loose reading of documents: what is missing and what is of another kind than the one that is
asked for are the same, and have the value that says the least.
-/

namespace BindingOperator.Json

/-- A field, or null. -/
def part (value : Json) (key : String) : Json := (value.field? key).getD .null

def text? (value : Json) (key : String) : Option String := (value.field? key).bind asString?

def text (value : Json) (key : String) : String := (value.text? key).getD ""

def items (value : Json) (key : String) : List Json :=
  ((value.field? key).bind asArray?).getD []

def entries (value : Json) (key : String) : Table Json :=
  ((value.field? key).bind asObject?).getD []

def nat? (value : Json) (key : String) : Option Nat :=
  match value.part key with
  | .number (.int count) => if 0 ≤ count then some count.toNat else none
  | _ => none

def flag (value : Json) (key : String) : Bool :=
  match value.part key with
  | .bool set => set
  | _ => false

end BindingOperator.Json
