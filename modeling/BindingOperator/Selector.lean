import BindingOperator.Failure
import BindingOperator.Json.Record

/-!
Label selectors. A label selector is what a binding writes; a query is the list of
requirements it stands for, all of which a set of labels must meet. An expression that
stands for no requirement refuses the whole selector: none is ever dropped.
-/

namespace BindingOperator

structure LabelExpression where
  key : String
  operator : String
  values : List String
  deriving DecidableEq, Repr, Inhabited

structure LabelSelector where
  matchLabels : Table String := []
  matchExpressions : List LabelExpression := []
  deriving DecidableEq, Repr, Inhabited

namespace LabelExpression

def ofJson? (value : Json) : Option LabelExpression := do
  match ← value.columns? ["key", "operator", "values"] with
  | [key, operator, values] =>
      return {
        key := ← Json.required Json.asString? key
        operator := ← Json.required Json.asString? operator
        values := ← Json.defaulted [] Json.stringList? values }
  | _ => none

def toJson (expression : LabelExpression) : Json :=
  Json.record [("key", some (.string expression.key)),
    ("operator", some (.string expression.operator)),
    ("values", Json.nonEmpty (expression.values.map .string))]

end LabelExpression

namespace LabelSelector

def ofJson? (value : Json) : Option LabelSelector := do
  match ← value.columns? ["matchLabels", "matchExpressions"] with
  | [labels, expressions] =>
      return {
        matchLabels := ← Json.defaulted [] Json.stringTable? labels
        matchExpressions :=
          ← Json.defaulted [] (Json.listOf? LabelExpression.ofJson?) expressions }
  | _ => none

def toJson (selector : LabelSelector) : Json :=
  Json.record [
    ("matchLabels",
      if selector.matchLabels.isEmpty then none
      else some (Json.ofStringTable selector.matchLabels)),
    ("matchExpressions", Json.nonEmpty (selector.matchExpressions.map LabelExpression.toJson))]

end LabelSelector

inductive Requirement where
  | equals (key value : String)
  | isIn (key : String) (values : NameSet)
  | notIn (key : String) (values : NameSet)
  | present (key : String)
  | absent (key : String)
  deriving DecidableEq, Repr

namespace Requirement

/-- A missing key meets `notIn` and `absent`. -/
def holds (labels : Table String) : Requirement → Bool
  | .equals key value => Table.lookup key labels = some value
  | .isIn key values => (Table.lookup key labels).any (values.contains ·)
  | .notIn key values => (Table.lookup key labels).all (!values.contains ·)
  | .present key => Table.has key labels
  | .absent key => !Table.has key labels

def text : Requirement → String
  | .equals key value => key ++ "=" ++ value
  | .isIn key values => key ++ " in (" ++ String.intercalate "," values ++ ")"
  | .notIn key values => key ++ " notin (" ++ String.intercalate "," values ++ ")"
  | .present key => key
  | .absent key => "!" ++ key

end Requirement

abbrev Query := List Requirement

namespace Query

def selects (query : Query) (labels : Table String) : Bool :=
  query.all (Requirement.holds labels)

def text (query : Query) : String :=
  String.intercalate "," (query.map Requirement.text)

end Query

/-- Why an expression stands for no requirement. -/
inductive SelectorFault where
  | unknownOperator
  | noValues
  deriving DecidableEq, Repr

namespace SelectorFault

def message : SelectorFault → String
  | .unknownOperator => "Invalid expression operator"
  | .noValues => "Expected values for In operator, got none"

def failure (fault : SelectorFault) : Failure :=
  .internal ("invalid label selector: failed to parse value as expression: " ++ fault.message)

end SelectorFault

namespace LabelExpression

def requirement (expression : LabelExpression) : Except SelectorFault Requirement :=
  if expression.operator = "In" then
    if expression.values = [] then .error .noValues
    else .ok (.isIn expression.key (NameSet.ofNames expression.values))
  else if expression.operator = "NotIn" then
    if expression.values = [] then .error .noValues
    else .ok (.notIn expression.key (NameSet.ofNames expression.values))
  else if expression.operator = "Exists" then .ok (.present expression.key)
  else if expression.operator = "DoesNotExist" then .ok (.absent expression.key)
  else .error .unknownOperator

end LabelExpression

namespace LabelSelector

def requirements : List LabelExpression → Except SelectorFault (List Requirement)
  | [] => .ok []
  | expression :: rest =>
      match expression.requirement with
      | .error fault => .error fault
      | .ok requirement =>
          match requirements rest with
          | .error fault => .error fault
          | .ok more => .ok (requirement :: more)

def query (selector : LabelSelector) : Except Failure Query :=
  match requirements selector.matchExpressions with
  | .error fault => .error fault.failure
  | .ok expressions =>
      .ok (selector.matchLabels.map (fun label => .equals label.1 label.2) ++ expressions)

end LabelSelector

end BindingOperator
