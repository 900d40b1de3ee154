import BindingOperator.Json.Basic

/-!
Reading records from documents. A record is an object, whose unknown fields are ignored,
or an array of its columns in their order, the last ones left out. A column is required,
optional (absent or null), or has a default when it is absent.
-/

namespace BindingOperator.Json

/-- The columns of a record with the given names; absent ones are `none`. -/
def columns? (names : List String) : Json → Option (List (Option Json))
  | .object fields => some (names.map fun name => Table.lookup name fields)
  | .array items =>
      if items.length ≤ names.length then
        some (items.map some ++ List.replicate (names.length - items.length) none)
      else none
  | _ => none

/-- Whether an object writes one of the fields more than once. -/
def repeatsField (names : List String) : Json → Bool
  | .object fields =>
      names.any fun name => 1 < (fields.filter fun field => field.1 = name).length
  | _ => false

variable {α : Type}

def required (decode : Json → Option α) : Option Json → Option α
  | none => none
  | some value => decode value

def optional (decode : Json → Option α) : Option Json → Option (Option α)
  | none | some .null => some none
  | some value => (decode value).map some

def defaulted (fallback : α) (decode : Json → Option α) : Option Json → Option α
  | none => some fallback
  | some value => decode value

/-- A field that may be absent or null. -/
def field (fields : Table Json) (key : String) (decode : Json → Option α) :
    Option (Option α) :=
  optional decode (Table.lookup key fields)

/-- A text that is empty when it is absent or null. -/
def textField (fields : Table Json) (key : String) : Option String :=
  (field fields key asString?).map (·.getD "")

def toBool? : Json → Option Bool
  | .bool value => some value
  | _ => none

def toInt64? : Json → Option Int
  | .number value => value.toInt64?
  | _ => none

def toInt32? (value : Json) : Option Int :=
  value.toInt64?.bind fun number =>
    if -(limit31 : Int) ≤ number ∧ number < limit31 then some number else none

def listOf? (decode : Json → Option α) (value : Json) : Option (List α) :=
  value.asArray?.bind fun items => items.mapM decode

def stringList? : Json → Option (List String) := listOf? asString?

def tableOf? (decode : Json → Option α) (value : Json) : Option (Table α) :=
  value.asObject?.bind fun fields =>
    fields.mapM fun field => (decode field.2).map fun value => (field.1, value)

def stringTable? : Json → Option (Table String) := tableOf? asString?

def ofStringTable (table : Table String) : Json :=
  .object (table.map fun entry => (entry.1, .string entry.2))

/-- Empty lists are left out of an encoded record. -/
def nonEmpty (items : List Json) : Option Json :=
  if items.isEmpty then none else some (.array items)

end BindingOperator.Json
