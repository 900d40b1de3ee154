import BindingOperator.Api.Request
import BindingOperator.Metadata

/-!
What a watch is told. An object is there, new or changed, or it is gone; a bookmark only
moves the version on; and the server may refuse, which means that the version is too old
when the code is that of something gone.
-/

namespace BindingOperator

inductive WatchEvent (α : Type) where
  | stored (object : α)
  | deleted (object : α)
  | bookmark
  /-- The version is too old to go on from. -/
  | expired
  /-- A refusal of another kind, or no event at all. -/
  | broken

namespace WatchEvent

variable {α : Type}

def goneCode : UInt16 := 410

def bookmarkFits (value : Json) : Bool :=
  value.asObject?.any fun fields =>
    (Table.lookup "metadata" fields).any fun metadata =>
      metadata.asObject?.any fun fields =>
        ((Table.lookup "resourceVersion" fields).bind Json.asString?).isSome

def ofJson? (object? : Json → Option α) (value : Json) : Option (WatchEvent α) := do
  let fields ← value.asObject?
  let object ← Table.lookup "object" fields
  match ← (Table.lookup "type" fields).bind Json.asString? with
  | "ADDED" | "MODIFIED" => (object? object).map .stored
  | "DELETED" => (object? object).map .deleted
  | "BOOKMARK" => if bookmarkFits object then some .bookmark else none
  | "ERROR" =>
      (Refusal.ofJson? object).map fun refusal =>
        if refusal.code = goneCode then .expired else .broken
  | _ => none

def read (object? : Json → Option α) (line : String) : WatchEvent α :=
  ((Json.parse? line).bind (ofJson? object?)).getD .broken

end WatchEvent

end BindingOperator
