import BindingOperator.Api.Discovery

/-!
Resolving kinds through a cache. A kind is looked up first and asked for only when it is not
there; what was found is remembered, a failure is not, so that a kind that is served later is
found later. The three steps are calls of their own, because several passes share one cache.
-/

namespace BindingOperator

inductive MapperCall where
  | lookup (kind : GroupVersionKind)
  | discover (kind : GroupVersionKind)
  | remember (kind : GroupVersionKind) (resource : Resource)
  deriving DecidableEq, Repr

namespace MapperCall

abbrev Answer : MapperCall → Type
  | .lookup _ => Option Resource
  | .discover _ => Except RequestFailure Resource
  | .remember .. => Unit

end MapperCall

abbrev MapperTalk := Dialogue MapperCall.Answer

def GroupVersionKind.mappingFailure (kind : GroupVersionKind) (cause : RequestFailure) : Failure :=
  .mapping kind.group kind.version kind.kind cause.text

/-- Resolves a kind, from the cache if it was found before. -/
def resolveKind (kind : GroupVersionKind) : MapperTalk (Except Failure Resource) :=
  .ask (.lookup kind) fun
    | some resource => .done (.ok resource)
    | none => .ask (.discover kind) fun
        | .error cause => .done (.error (kind.mappingFailure cause))
        | .ok resource => .ask (.remember kind resource) fun _ => .done (.ok resource)

abbrev MapperCache := List (GroupVersionKind × Resource)

namespace MapperCache

def lookup (kind : GroupVersionKind) : MapperCache → Option Resource
  | [] => none
  | (known, resource) :: rest => if known = kind then some resource else lookup kind rest

def insert (kind : GroupVersionKind) (resource : Resource) (cache : MapperCache) : MapperCache :=
  (kind, resource) :: cache

theorem lookup_insert_same (kind : GroupVersionKind) (resource : Resource) (cache : MapperCache) :
    lookup kind (cache.insert kind resource) = some resource := by
  simp [insert, lookup]

theorem lookup_insert_other (kind other : GroupVersionKind) (resource : Resource)
    (cache : MapperCache) (different : kind ≠ other) :
    lookup other (cache.insert kind resource) = lookup other cache := by
  simp [insert, lookup, different]

end MapperCache

namespace MapperCall

/-- Carries out a step over a cache; only discovery talks to the server. -/
def answer : (call : MapperCall) → StateT MapperCache HttpTalk call.Answer
  | .lookup kind => fun cache => pure (cache.lookup kind, cache)
  | .discover kind => fun cache => do
      let found ← BindingOperator.discover kind
      pure (found, cache)
  | .remember kind resource => fun cache => pure ((), cache.insert kind resource)

end MapperCall

def resolveOverHttp (kind : GroupVersionKind) :
    StateT MapperCache HttpTalk (Except Failure Resource) :=
  Dialogue.run MapperCall.answer (resolveKind kind)

end BindingOperator
