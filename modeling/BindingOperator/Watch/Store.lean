import BindingOperator.Watch.Watcher

/-!
What a controller knows of its objects: the last state that a list or a watch told. A list
replaces everything that was known, but only once it is complete.
-/

namespace BindingOperator

structure WatchStore (α : Type) where
  objects : List (ObjectKey × α) := []
  /-- The objects of a list that is not complete yet. -/
  incoming : List (ObjectKey × α) := []
  ready : Bool := false

namespace WatchStore

variable {α : Type}

def get? (key : ObjectKey) (store : WatchStore α) : Option α :=
  (store.objects.find? fun entry => entry.1 = key).map Prod.snd

def without (key : ObjectKey) (objects : List (ObjectKey × α)) : List (ObjectKey × α) :=
  objects.filter fun entry => entry.1 ≠ key

def take (metadata : α → Metadata) (news : WatchNews α) (store : WatchStore α) :
    Except NamelessObject (WatchStore α) := do
  match news with
  | .emptied => pure { store with incoming := [] }
  | .listed object => do
      let key ← (metadata object).key
      pure { store with incoming := (key, object) :: without key store.incoming }
  | .complete => pure { objects := store.incoming, incoming := [], ready := true }
  | .stored object => do
      let key ← (metadata object).key
      pure { store with objects := (key, object) :: without key store.objects }
  | .deleted object => do
      let key ← (metadata object).key
      pure { store with objects := without key store.objects }
  | .failed => pure store

/-- The pass that news about an object asks for: an object that is gone needs none. -/
def concerns (metadata : α → Metadata) : WatchNews α → Except NamelessObject (Option ObjectKey)
  | .listed object | .stored object => (metadata object).key.map some
  | .deleted _ | .emptied | .complete | .failed => .ok none

end WatchStore

end BindingOperator
