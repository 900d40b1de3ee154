import BindingOperator.Json.Basic

/-!
Patches as lists of operations on paths, and the difference of two documents as such a
patch. Objects are compared by the keys of the new one, then what only the old one has is
removed; arrays are compared place by place and grow or shrink at their end.
-/

namespace BindingOperator.Json

/-- A step of a path: a field or a place in an array. -/
inductive Step where
  | field (key : String)
  | place (index : Nat)
  deriving DecidableEq, Repr

abbrev Path := List Step

inductive Operation where
  | add (path : Path) (value : Json)
  | remove (path : Path)
  | replace (path : Path) (value : Json)
  deriving DecidableEq, Repr

abbrev Patch := List Operation

def removeFields (path : Path) (old new : Table Json) : Patch :=
  (old.filter fun field => !Table.has field.1 new).map fun field =>
    .remove (path ++ [.field field.1])

/-- Adds items at the end of an array, the first at the given place. -/
def addItems (path : Path) : Nat → List Json → Patch
  | _, [] => []
  | index, item :: rest =>
      .add (path ++ [.place index]) item :: addItems path (index + 1) rest

mutual

def diffAt (path : Path) (old : Json) : Json → Patch
  | .object new =>
      match old with
      | .object old => diffFields path old new ++ removeFields path old new
      | _ => [.replace path (.object new)]
  | .array new =>
      match old with
      | .array old => diffItems path 0 old new
      | _ => [.replace path (.array new)]
  | new => if old = new then [] else [.replace path new]

def diffFields (path : Path) (old : Table Json) : List (String × Json) → Patch
  | [] => []
  | (key, value) :: rest =>
      (match Table.lookup key old with
        | some before => diffAt (path ++ [.field key]) before value
        | none => [.add (path ++ [.field key]) value]) ++ diffFields path old rest

def diffItems (path : Path) (index : Nat) (old : List Json) : List Json → Patch
  | [] => old.map fun _ => .remove (path ++ [.place index])
  | item :: rest =>
      match old with
      | [] => addItems path index (item :: rest)
      | before :: more =>
          diffAt (path ++ [.place index]) before item ++ diffItems path (index + 1) more rest

end

def diff (old new : Json) : Patch := diffAt [] old new

/-- Changes the value at a path; fails when the path leads nowhere. -/
def modifyAt? (change : Json → Option Json) : Path → Json → Option Json
  | [], document => change document
  | .field key :: rest, .object fields => do
      let inner ← Table.lookup key fields
      let changed ← modifyAt? change rest inner
      return .object (Table.insert key changed fields)
  | .place index :: rest, .array items => do
      let inner ← items[index]?
      let changed ← modifyAt? change rest inner
      return .array (items.set index changed)
  | _, _ => none

def addStep? (step : Step) (value : Json) : Json → Option Json
  | .object fields =>
      match step with
      | .field key => some (.object (Table.insert key value fields))
      | .place _ => none
  | .array items =>
      match step with
      | .place index =>
          if index ≤ items.length then some (.array (items.insertIdx index value)) else none
      | .field _ => none
  | _ => none

def removeStep? (step : Step) : Json → Option Json
  | .object fields =>
      match step with
      | .field key =>
          if Table.has key fields then some (.object (Table.erase key fields)) else none
      | .place _ => none
  | .array items =>
      match step with
      | .place index =>
          if index < items.length then some (.array (items.eraseIdx index)) else none
      | .field _ => none
  | _ => none

/-- The last step of a path and the steps before it. -/
def splitLast? (path : Path) : Option (Path × Step) :=
  path.getLast?.map fun last => (path.dropLast, last)

namespace Operation

def perform? (operation : Operation) (document : Json) : Option Json :=
  match operation with
  | .add path value =>
      match splitLast? path with
      | none => some value
      | some (parent, step) => modifyAt? (addStep? step value) parent document
  | .remove path => (splitLast? path).bind fun (parent, step) =>
      modifyAt? (removeStep? step) parent document
  | .replace path value => modifyAt? (fun _ => some value) path document

end Operation

/-- Applies the operations one after the other. -/
def Patch.perform? : Patch → Json → Option Json
  | [], document => some document
  | operation :: rest, document =>
      (operation.perform? document).bind (Patch.perform? rest)

/-- In a written path a tilde and a slash of a key are escaped. -/
def escapeStep (key : String) : String :=
  String.ofList (key.toList.flatMap fun c =>
    if c = '~' then ['~', '0'] else if c = '/' then ['~', '1'] else [c])

namespace Step

def text : Step → String
  | .field key => escapeStep key
  | .place index => Nat.repr index

end Step

def pathText (path : Path) : String :=
  String.join (path.map fun step => "/" ++ step.text)

namespace Operation

def toJson : Operation → Json
  | .add path value => Json.record [("op", some (.string "add")),
      ("path", some (.string (pathText path))), ("value", some value)]
  | .remove path => Json.record [("op", some (.string "remove")),
      ("path", some (.string (pathText path)))]
  | .replace path value => Json.record [("op", some (.string "replace")),
      ("path", some (.string (pathText path))), ("value", some value)]

end Operation

def Patch.toJson (patch : Patch) : Json := .array (patch.map Operation.toJson)

end BindingOperator.Json
