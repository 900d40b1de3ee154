import BindingOperator.Json.Reader
import BindingOperator.Json.Printer
import BindingOperator.Json.Record

/-!
Bookkeeping of projections, kept as text in annotations of the pod template. The ledger is
shared by all bindings of a template: which fields did not exist before, and which
containers were given the root variable. Each binding also records the variables it owns,
container by container. Bookkeeping that cannot be read owns nothing.
-/

namespace BindingOperator

structure Ledger where
  /-- Markers of the fields that projection created. -/
  created : NameSet := []
  /-- Names of the containers whose root variable was injected. -/
  roots : NameSet := []
  deriving DecidableEq, Repr, Inhabited

/-- The names of the variables a binding owns, by container name. -/
abbrev OwnedEnv := Table NameSet

def nameSetOfJson? (value : Json) : Option NameSet :=
  (Json.stringList? value).map NameSet.ofNames

namespace Ledger

def isEmpty (ledger : Ledger) : Bool :=
  ledger.created.isEmpty && ledger.roots.isEmpty

def noteCreated (marker : String) (ledger : Ledger) : Ledger :=
  { ledger with created := NameSet.insert marker ledger.created }

def noteRoot (container : String) (ledger : Ledger) : Ledger :=
  { ledger with roots := NameSet.insert container ledger.roots }

def fields : List String := ["created", "root"]

/-- Reads a ledger whose fields are as they are written: a field that is written twice
makes it unreadable. -/
def ofJson? (value : Json) : Option Ledger := do
  if value.repeatsField fields then none
  match ← value.columns? fields with
  | [created, roots] =>
      return {
        created := ← Json.defaulted [] nameSetOfJson? created
        roots := ← Json.defaulted [] nameSetOfJson? roots }
  | _ => none

/-- Fields of others are passed over, whatever they hold. -/
def ofText? (text : String) : Option Ledger :=
  (Json.rawRecord? fields text).bind ofJson?

def toJson (ledger : Ledger) : Json :=
  Json.record [("created", Json.nonEmpty (ledger.created.map .string)),
    ("root", Json.nonEmpty (ledger.roots.map .string))]

end Ledger

namespace OwnedEnv

/-- Of a container that is written twice the last record counts. -/
def ofJson? (value : Json) : Option OwnedEnv := do
  let fields ← value.asObject?
  let entries ← fields.mapM fun field =>
    (nameSetOfJson? field.2).map fun names => (field.1, names)
  return Table.ofEntries entries

def ofText? (text : String) : Option OwnedEnv :=
  (Json.raw? text).bind ofJson?

def toJson (owned : OwnedEnv) : Json :=
  .object (owned.map fun entry => (entry.1, Json.strings entry.2))

end OwnedEnv

/-- What an annotation records; nothing when it is absent or cannot be read. -/
def readRecord {α : Type} (fallback : α) (ofText? : String → Option α) (recorded : Option Json) :
    α :=
  ((recorded.bind Json.asString?).bind ofText?).getD fallback

/-- Writes a record into an annotation, or removes it when there is nothing to record. -/
def writeRecord (key : String) (record : Json) (empty : Bool) (annotations : Table Json) :
    Table Json :=
  Table.assign key (if empty then none else some (.string record.compact)) annotations

end BindingOperator
