import BindingOperator.Projection.Imprint
import BindingOperator.Projection.Ledger

/-!
Projection into one container and removal from it. Entries of a list are known by their
`name`; a variable that the container defines itself is never touched, and what the
container was given is recorded so that exactly that can be taken away again.
-/

namespace BindingOperator

def entryName (entry : Json) : Option String :=
  (entry.field? "name").bind Json.asString?

/-- Replaces the first entry of the same name, or adds the entry at the end. -/
def putNamed (entry : Json) : List Json → List Json
  | [] => [entry]
  | first :: rest =>
      if entryName first = entryName entry then entry :: rest
      else first :: putNamed entry rest

/-- Notes a field that is about to be created. -/
def trackField (parent : Table Json) (field marker : String) (ledger : Ledger) : Ledger :=
  if Table.has field parent then ledger else ledger.noteCreated marker

/-- The list of a field, empty when the field is absent. -/
def listField? (parent : Table Json) (field : String) : Option (List Json) :=
  match Table.lookup field parent with
  | none => some []
  | some value => value.asArray?

/-- The table of a field, empty when the field is absent. -/
def tableField? (parent : Table Json) (field : String) : Option (Table Json) :=
  match Table.lookup field parent with
  | none => some []
  | some value => value.asObject?

def isEmptyCollection : Json → Bool
  | .array items => items.isEmpty
  | .object fields => fields.isEmpty
  | _ => false

/-- Drops a field that projection created once nothing is left in it. -/
def releaseField (parent : Table Json) (field marker : String) (ledger : Ledger) :
    Table Json × Ledger :=
  if (Table.lookup field parent).any isEmptyCollection && ledger.created.contains marker then
    (Table.erase field parent, { ledger with created := NameSet.erase marker ledger.created })
  else (parent, ledger)

/-- The fields of a container that projection may create. -/
def containerFields : List String := ["env", "volumeMounts"]

def containerName? (container : Table Json) : Option String :=
  (Table.lookup "name" container).bind Json.asString?

/-- The root that the list of variables sets, the default when it is no plain text. -/
def rootOf? (env : List Json) : Option String :=
  (env.find? fun entry => entryName entry = some rootVariable).map fun entry =>
    ((entry.field? "value").bind Json.asString?).getD defaultRoot

def rootEntry : Json :=
  Json.record [("name", some (.string rootVariable)), ("value", some (.string defaultRoot))]

/-- Takes out the variables the binding owned and no longer maps. -/
def dropStale (imprint : Imprint) (previous : NameSet) (env : List Json) : List Json :=
  env.filter fun entry =>
    let name := (entryName entry).getD ""
    !(previous.contains name && !imprint.env.any (·.name = name))

/-- Writes one variable unless someone else defines it; the owned names grow by it. -/
def projectVariable (imprint : Imprint) (previous : NameSet)
    (state : List Json × NameSet) (mapping : EnvMapping) : List Json × NameSet :=
  let definedElsewhere := !previous.contains mapping.name &&
    state.1.any fun entry => entryName entry = some mapping.name
  if definedElsewhere then state
  else (putNamed (imprint.variableEntry mapping) state.1, NameSet.insert mapping.name state.2)

/-- The variables after projection and the names that the binding owns among them. -/
def projectEnv (imprint : Imprint) (previous : NameSet) (env : List Json) :
    List Json × NameSet :=
  imprint.env.foldl (projectVariable imprint previous) (dropStale imprint previous env, [])

structure ContainerResult where
  container : Table Json
  owned : NameSet
  ledger : Ledger

/-- Projects into the fields of a container; fails when a list is no list. -/
def projectContainer (imprint : Imprint) (name : String) (previous : NameSet)
    (container : Table Json) (ledger : Ledger) : Option ContainerResult := do
  let tracked := containerFields.foldl
    (fun ledger field => trackField container field (containerMarker field name) ledger) ledger
  let env ← listField? container "env"
  let mounts ← listField? container "volumeMounts"
  let rooted := match rootOf? env with
    | some root => (env, root, tracked)
    | none => (env ++ [rootEntry], defaultRoot, tracked.noteRoot name)
  let projected := projectEnv imprint previous rooted.1
  let mounted := putNamed (imprint.mountEntry rooted.2.1) mounts
  return {
    container := Table.insert "volumeMounts" (.array mounted)
      (Table.insert "env" (.array projected.1) container)
    owned := projected.2
    ledger := rooted.2.2 }

def mapListField (field : String) (change : List Json → List Json) (parent : Table Json) :
    Table Json :=
  match (Table.lookup field parent).bind Json.asArray? with
  | some items => Table.insert field (.array (change items)) parent
  | none => parent

def isBound (container : Table Json) : Bool :=
  (((Table.lookup "volumeMounts" container).bind Json.asArray?).getD []).any fun mount =>
    (entryName mount).any fun name => volumePrefix.toList.isPrefixOf name.toList

/-- Takes the mount and the owned variables of a binding out of a container, and the root
with the last mount. -/
def unprojectContainer (volume : String) (name : String) (owned : NameSet)
    (container : Table Json) (ledger : Ledger) : Table Json × Ledger :=
  let unmounted := mapListField "volumeMounts"
    (fun mounts => mounts.filter fun mount => entryName mount ≠ some volume) container
  let leavesRoot := !isBound unmounted && ledger.roots.contains name
  let ledger :=
    if leavesRoot then { ledger with roots := NameSet.erase name ledger.roots } else ledger
  let cleared := mapListField "env"
    (fun env => env.filter fun entry =>
      let entryName := (entryName entry).getD ""
      !(owned.contains entryName || (leavesRoot && entryName = rootVariable))) unmounted
  containerFields.foldl
    (fun state field => releaseField state.1 field (containerMarker field name) state.2)
    (cleared, ledger)

end BindingOperator
