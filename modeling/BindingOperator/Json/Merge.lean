import BindingOperator.Json.Basic

/-!
Merge patches. An object is merged field by field, a null removes its field, and any other
value replaces what is there.
-/

namespace BindingOperator.Json

mutual

/-- The document after the patch. -/
def merge (document : Json) : Json → Json
  | .object changes => .object (mergeFields (document.asObject?.getD []) changes)
  | patch => patch

def mergeFields (fields : Table Json) : List (String × Json) → Table Json
  | [] => fields
  | (key, .null) :: rest => mergeFields (Table.erase key fields) rest
  | (key, change) :: rest =>
      mergeFields
        (Table.insert key (merge ((Table.lookup key fields).getD .null) change) fields) rest

end

end BindingOperator.Json
