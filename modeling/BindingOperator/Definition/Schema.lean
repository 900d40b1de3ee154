import BindingOperator.Json.Basic

/-!
Schemas that say what a document may hold. A schema is itself a document: the type of the
value, a description, and what else narrows the value down.
-/

namespace BindingOperator.Schema

/-- A schema with one more field. -/
def having (key : String) (value : Json) : Json → Json
  | .object fields => .object (Table.insert key value fields)
  | schema => schema

def ofType (type : String) : Json := Json.record [("type", some (.string type))]

def described (description : String) (schema : Json) : Json :=
  having "description" (.string description) schema

/-- The value may be null. -/
def nullable (schema : Json) : Json := having "nullable" (.bool true) schema

def anyText : Json := ofType "string"

def text (description : String) : Json := described description anyText

/-- A text that is empty unless it is given. -/
def defaultText (description : String) : Json := having "default" (.string "") (text description)

def choice (description : String) (values : List String) : Json :=
  having "enum" (Json.strings values) (text description)

def dateTime (description : String) : Json :=
  having "format" (.string "date-time") (text description)

def integer (description : String) : Json :=
  having "format" (.string "int64") (described description (ofType "integer"))

def list (description : String) (items : Json) : Json :=
  having "items" items (described description (ofType "array"))

def table (description : String) (values : Json) : Json :=
  having "additionalProperties" values (described description (ofType "object"))

/-- A record, and the fields that must not be missing. -/
def record (description : String) (fields : List (String × Json)) (required : List String) : Json :=
  let schema := having "properties" (.object (Table.ofEntries fields))
    (described description (ofType "object"))
  if required.isEmpty then schema else having "required" (Json.strings required) schema

end BindingOperator.Schema
