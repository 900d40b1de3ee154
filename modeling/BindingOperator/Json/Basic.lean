import BindingOperator.Table
import BindingOperator.Json.Number

/-!
Documents: the schema-less values that objects of a cluster are made of. The fields of an
object are a table. `Canonical` says that every table inside a document is ordered, and
`canonical` brings any document to that form, the last of two fields of one name winning.
-/

namespace BindingOperator

inductive Json where
  | null
  | bool (value : Bool)
  | number (value : Number)
  | string (value : String)
  | array (items : List Json)
  | object (fields : List (String × Json))
  deriving Repr, Inhabited

namespace Json

mutual

def decEq : (left right : Json) → Decidable (left = right)
  | .null, .null => .isTrue rfl
  | .bool a, .bool b =>
      if same : a = b then .isTrue (by rw [same]) else .isFalse (by simpa using same)
  | .number a, .number b =>
      if same : a = b then .isTrue (by rw [same]) else .isFalse (by simpa using same)
  | .string a, .string b =>
      if same : a = b then .isTrue (by rw [same]) else .isFalse (by simpa using same)
  | .array a, .array b =>
      match decEqItems a b with
      | .isTrue same => .isTrue (by rw [same])
      | .isFalse different => .isFalse (by simpa using different)
  | .object a, .object b =>
      match decEqFields a b with
      | .isTrue same => .isTrue (by rw [same])
      | .isFalse different => .isFalse (by simpa using different)
  | .null, .bool _ | .null, .number _ | .null, .string _ | .null, .array _ | .null, .object _
  | .bool _, .null | .bool _, .number _ | .bool _, .string _ | .bool _, .array _
  | .bool _, .object _ | .number _, .null | .number _, .bool _ | .number _, .string _
  | .number _, .array _ | .number _, .object _ | .string _, .null | .string _, .bool _
  | .string _, .number _ | .string _, .array _ | .string _, .object _ | .array _, .null
  | .array _, .bool _ | .array _, .number _ | .array _, .string _ | .array _, .object _
  | .object _, .null | .object _, .bool _ | .object _, .number _ | .object _, .string _
  | .object _, .array _ => .isFalse (by simp)

def decEqItems : (left right : List Json) → Decidable (left = right)
  | [], [] => .isTrue rfl
  | [], _ :: _ => .isFalse (by simp)
  | _ :: _, [] => .isFalse (by simp)
  | a :: as, b :: bs =>
      match decEq a b, decEqItems as bs with
      | .isTrue first, .isTrue rest => .isTrue (by rw [first, rest])
      | .isFalse first, _ => .isFalse (fun same => first (List.cons.inj same).1)
      | _, .isFalse rest => .isFalse (fun same => rest (List.cons.inj same).2)

def decEqFields : (left right : List (String × Json)) → Decidable (left = right)
  | [], [] => .isTrue rfl
  | [], _ :: _ => .isFalse (by simp)
  | _ :: _, [] => .isFalse (by simp)
  | (k, a) :: as, (l, b) :: bs =>
      if names : k = l then
        match decEq a b, decEqFields as bs with
        | .isTrue first, .isTrue rest => .isTrue (by rw [names, first, rest])
        | .isFalse first, _ =>
            .isFalse (fun same => first (Prod.mk.inj (List.cons.inj same).1).2)
        | _, .isFalse rest => .isFalse (fun same => rest (List.cons.inj same).2)
      else .isFalse (fun same => names (Prod.mk.inj (List.cons.inj same).1).1)

end

instance : DecidableEq Json := decEq

def nat (value : Nat) : Json := .number (.int value)

def int (value : Int) : Json := .number (.int value)

def strings (values : List String) : Json := .array (values.map .string)

def asString? : Json → Option String
  | .string value => some value
  | _ => none

def asArray? : Json → Option (List Json)
  | .array items => some items
  | _ => none

def asObject? : Json → Option (Table Json)
  | .object fields => some fields
  | _ => none

def isObject (value : Json) : Bool := value.asObject?.isSome

/-- A field of an object; other values have no fields. -/
def field? (value : Json) (key : String) : Option Json :=
  match value with
  | .object fields => Table.lookup key fields
  | _ => none

def at? : Json → List String → Option Json
  | value, [] => some value
  | value, key :: rest => (value.field? key).bind (at? · rest)

/-- Replaces the value that a path of keys leads to; a path that leads nowhere changes
nothing. -/
def replaceAt (new : Json) : List String → Json → Json
  | [], _ => new
  | key :: rest, .object fields =>
      match Table.lookup key fields with
      | some inner => .object (Table.insert key (replaceAt new rest inner) fields)
      | none => .object fields
  | _ :: _, value => value

def record (fields : List (String × Option Json)) : Json :=
  .object (Table.ofOptional fields)

mutual

def Canonical : Json → Prop
  | .array items => CanonicalItems items
  | .object fields => Table.Ordered fields ∧ CanonicalFields fields
  | _ => True

def CanonicalItems : List Json → Prop
  | [] => True
  | item :: rest => Canonical item ∧ CanonicalItems rest

def CanonicalFields : List (String × Json) → Prop
  | [] => True
  | (_, value) :: rest => Canonical value ∧ CanonicalFields rest

end

mutual

def canonical : Json → Json
  | .array items => .array (canonicalItems items)
  | .object fields => .object (Table.ofEntries (canonicalFields fields))
  | value => value

def canonicalItems : List Json → List Json
  | [] => []
  | item :: rest => canonical item :: canonicalItems rest

def canonicalFields : List (String × Json) → List (String × Json)
  | [] => []
  | (key, value) :: rest => (key, canonical value) :: canonicalFields rest

end

end Json

end BindingOperator
