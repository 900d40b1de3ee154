import BindingOperator.Controller.Action
import BindingOperator.Power
import BindingOperator.Watch.Agenda
import BindingOperator.Watch.Store

/-!
The loop of a controller. It follows its own objects and passes over each one that is
listed or changes; it may also be asked for passes through a queue, or by every change of a
binding. After a failure it takes in nothing for a while, longer with each failure, until
something arrives again. A pass starts once the first list is complete, over the object as
it is known; an object that is not known is passed over in silence.
-/

namespace BindingOperator

structure RelatedWatch (β : Type) where
  watched : Watched β
  key : ObjectKey
  state : WatchState β := .unlisted

structure ControlLoop (α β : Type) where
  watched : Watched α
  state : WatchState α := .unlisted
  related : Option (RelatedWatch β) := none
  /-- Passes asked for through the queue, each with the time when it arrives. -/
  queue : List (Nat × ObjectKey) := []
  store : WatchStore α := {}
  agenda : Agenda := []
  /-- Passes start when this is set. -/
  started : Bool := false
  /-- The failures since something arrived last. -/
  failures : Nat := 0
  pausedUntil : Nat := 0

namespace ControlLoop

variable {α β : Type}

/-- Milliseconds that a pause lasts at least, and at most. -/
def shortestPause : Nat := 800
def longestPause : Nat := 30000

/-- What is added to a pause, so that not all clients come back at once. -/
def pauseSpread : Nat := 400

/-- The pause after a number of failures in a row doubles with each of them. -/
def pauseLength (failures : Nat) : Nat :=
  min (shortestPause * powerOfTwo failures) longestPause + pauseSpread

/-- The loop takes in nothing for a while. -/
def pause (time : Nat) (loop : ControlLoop α β) : ControlLoop α β :=
  { loop with
    failures := loop.failures + 1
    pausedUntil := time + pauseLength loop.failures }

def wake (time : Nat) (key : ObjectKey) (loop : ControlLoop α β) : ControlLoop α β :=
  { loop with agenda := loop.agenda.ask key time, failures := 0 }

def takeOwn (time : Nat) (loop : ControlLoop α β) (news : WatchNews α) :
    Except NamelessObject (ControlLoop α β) := do
  let store ← loop.store.take loop.watched.metadata news
  let loop := { loop with store }
  match ← WatchStore.concerns loop.watched.metadata news with
  | some key => pure (loop.wake time key)
  | none => pure (if news.isFailed then loop.pause time else loop)

/-- Takes in news of the related objects: every one of them asks for the same pass. -/
def takeRelated (time : Nat) (key : ObjectKey) (loop : ControlLoop α β) (news : WatchNews β) :
    ControlLoop α β :=
  if news.isFailed then loop.pause time
  else if news.object?.isSome then loop.wake time key
  else loop

def takeQueue (time : Nat) (loop : ControlLoop α β) : ControlLoop α β :=
  let (arrived, later) := loop.queue.partition fun entry => entry.1 ≤ time
  arrived.foldl (fun loop entry => loop.wake time entry.2) { loop with queue := later }

def isPaused (time : Nat) (loop : ControlLoop α β) : Bool := time < loop.pausedUntil

def pollOwn (time : Nat) (loop : ControlLoop α β) :
    StateT ScriptedServer (Except NamelessObject) (ControlLoop α β) := fun server => do
  let ((news, state), server) := (loop.watched.poll time loop.state).run server
  let loop ← news.foldlM (takeOwn time) { loop with state }
  pure (loop, server)

def pollRelated (time : Nat) (loop : ControlLoop α β) : StateM ScriptedServer (ControlLoop α β) :=
  match loop.related with
  | none => pure loop
  | some related => do
      let (news, state) ← related.watched.poll time related.state
      pure (news.foldl (takeRelated time related.key)
        { loop with related := some { related with state } })

/-- Polls the own objects, the related ones and the queue; a failure ends it. -/
def poll (time : Nat) (loop : ControlLoop α β) :
    StateT ScriptedServer (Except NamelessObject) (ControlLoop α β) := fun server => do
  if loop.isPaused time then pure (loop, server)
  else
    let (loop, server) ← loop.pollOwn time server
    if loop.isPaused time then pure (loop, server)
    else
      let (loop, server) := (loop.pollRelated time).run server
      pure (if loop.isPaused time then loop else loop.takeQueue time, server)

def takeDue (time : Nat) (loop : ControlLoop α β) : List α × ControlLoop α β :=
  if loop.started then
    let (keys, agenda) := loop.agenda.due time
    (keys.filterMap fun key => loop.store.get? key, { loop with agenda })
  else ([], { loop with started := loop.store.ready })

def afterPass (time : Nat) (key : ObjectKey) (action : Action) (loop : ControlLoop α β) :
    ControlLoop α β :=
  match action with
  | .awaitChange => loop
  | .requeue seconds =>
      { loop with agenda := loop.agenda.ask key (time + seconds * secondLength) }

def isBusy (time : Nat) (loop : ControlLoop α β) : Bool :=
  (!loop.isPaused time &&
    (loop.state.isBusy time || (loop.related.any fun related => related.state.isBusy time) ||
      loop.queue.any fun entry => entry.1 ≤ time)) ||
    (if loop.started then loop.agenda.any fun entry => entry.2 ≤ time else loop.store.ready)

/-- The times at which something may happen next. -/
def times (loop : ControlLoop α β) : List Nat :=
  loop.pausedUntil :: loop.state.nextArrival?.toList ++
    (loop.related.bind fun related => related.state.nextArrival?).toList ++
    loop.queue.map Prod.fst ++ loop.agenda.map Prod.snd

end ControlLoop

end BindingOperator
