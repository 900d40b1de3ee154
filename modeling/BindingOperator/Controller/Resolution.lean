import BindingOperator.Controller.Call

/-!
Resolving references: a service to the name of its Secret, a workload reference to the
workloads it names or selects. Resolution only reads. That something is missing or must not
be read is an outcome and not a failure, because a pass records it as a condition.
-/

namespace BindingOperator

inductive ServiceResolution where
  | resolved (secret : String)
  /-- The service is there but has published no Secret. -/
  | missingBinding
  | notFound
  | forbidden
  deriving DecidableEq, Repr

/-- The permission that was missing. -/
inductive AccessScope where
  | single
  | list
  deriving DecidableEq, Repr

inductive WorkloadResolution where
  | resolved (resource : Resource) (workloads : List Object)
  | notFound
  | forbidden (scope : AccessScope)
  deriving DecidableEq, Repr

/-- A direct Secret stands for itself without any call; one without a name is none. Any
other service is read for the name it publishes. -/
def resolveService (namespaceName : String) (service : ServiceReference) :
    BindingTalk (Except Failure ServiceResolution) :=
  if service.isDirectSecret then
    pure (.ok (if service.name = "" then .missingBinding else .resolved service.name))
  else do
    match ← BindingTalk.resolve service.kindOf with
    | .error failure => pure (.error failure)
    | .ok resource =>
        match ← BindingTalk.getObject resource namespaceName service.name with
        | .error failure =>
            if failure.isNotFound then pure (.ok .notFound)
            else if failure.isForbidden then pure (.ok .forbidden)
            else pure (.error failure)
        | .ok object =>
            match object.secretName with
            | some secret => pure (.ok (.resolved secret))
            | none => pure (.ok .missingBinding)

/-- A name, unless it is empty, names one workload; otherwise a selector selects any number
of them, and without either there are none. What the server lists is filtered again. -/
def resolveWorkloads (namespaceName : String) (workload : WorkloadReference) :
    BindingTalk (Except Failure WorkloadResolution) := do
  match ← BindingTalk.resolve workload.kindOf with
  | .error failure => pure (.error failure)
  | .ok resource =>
      match workload.name.filter (· ≠ ""), workload.selector with
      | some name, _ =>
          match ← BindingTalk.getObject resource namespaceName name with
          | .ok object => pure (.ok (.resolved resource [object]))
          | .error failure =>
              if failure.isNotFound then pure (.ok .notFound)
              else if failure.isForbidden then pure (.ok (.forbidden .single))
              else pure (.error failure)
      | none, none => pure (.ok (.resolved resource []))
      | none, some selector =>
          match selector.query with
          | .error failure => pure (.error failure)
          | .ok query =>
              match ← BindingTalk.listObjects resource namespaceName query.text with
              | .error failure =>
                  if failure.isForbidden then pure (.ok (.forbidden .list))
                  else pure (.error failure)
              | .ok listed =>
                  pure (.ok (.resolved resource
                    (listed.filter fun object => query.selects object.labels)))

end BindingOperator
