import BindingOperator.Cluster.Scripted
import BindingOperator.Watch.Event
import BindingOperator.Watch.Scope

/-!
Following the objects of a scope. A watcher lists the objects page by page, then watches
them from the version of the list; whatever makes the version unknown leads back to a new
list. It moves in two halves: it takes in what has arrived, and then asks for what it needs
next, whose answer it takes in the next time. After a failure it asks for nothing until it
is polled again.
-/

namespace BindingOperator

structure Watched (α : Type) where
  scope : WatchScope
  ofJson? : Json → Option α
  metadata : α → Metadata

inductive WatchState (α : Type) where
  | unlisted
  /-- The list goes on where the token leads. -/
  | unfinished (token : String)
  | paged (answer : Except RequestFailure (ObjectList α))
  | listed (version : String)
  /-- The watch was asked for and is answered: what will arrive, and when. -/
  | opened (version : String) (answer : Except RequestFailure (List (Nat × String)))
  | following (arrivals : List (Nat × String))

inductive WatchNews (α : Type) where
  | emptied
  | listed (object : α)
  | complete
  | stored (object : α)
  | deleted (object : α)
  | failed

namespace WatchNews

variable {α : Type}

def isFailed : WatchNews α → Bool
  | .failed => true
  | _ => false

def object? : WatchNews α → Option α
  | .listed object | .stored object | .deleted object => some object
  | .emptied | .complete | .failed => none

end WatchNews

def nonEmptyText (text : Option String) : Option String := text.filter (· ≠ "")

namespace WatchState

variable {α : Type}

/-- Takes in a page: a list that ends without a version cannot be watched. -/
def takePage (page : ObjectList α) : List (WatchNews α) × WatchState α :=
  let objects := page.items.map WatchNews.listed
  match nonEmptyText page.metadata.continueToken,
      nonEmptyText page.metadata.resourceVersion with
  | some token, _ => (objects, .unfinished token)
  | none, some version => (objects ++ [.complete], .listed version)
  | none, none => ([.failed], .unlisted)

/-- Takes in the events that have arrived, up to one that fails. -/
def takeEvents (watched : Watched α) (time : Nat) :
    List (Nat × String) → List (WatchNews α) × WatchState α
  | [] => ([], .following [])
  | (arrival, line) :: rest =>
      if time < arrival then ([], .following ((arrival, line) :: rest))
      else
        let more := takeEvents watched time rest
        let versioned (object : α) (news : WatchNews α) :=
          match nonEmptyText (watched.metadata object).resourceVersion with
          | some _ => (news :: more.1, more.2)
          | none => ([.failed], .unlisted)
        match WatchEvent.read watched.ofJson? line with
        | .stored object => versioned object (.stored object)
        | .deleted object => versioned object (.deleted object)
        | .bookmark => more
        | .expired => ([.failed], .unlisted)
        | .broken => ([.failed], .following rest)

def takeIn (watched : Watched α) (time : Nat) :
    WatchState α → List (WatchNews α) × WatchState α
  | .paged (.ok page) => takePage page
  | .paged (.error _) => ([.failed], .unlisted)
  | .opened _ (.ok arrivals) | .following arrivals => takeEvents watched time arrivals
  | .opened version (.error _) => ([.failed], .listed version)
  | state => ([], state)

def isBusy (time : Nat) : WatchState α → Bool
  | .following ((arrival, _) :: _) => arrival ≤ time
  | .following [] => false
  | _ => true

/-- When the next event arrives. -/
def nextArrival? : WatchState α → Option Nat
  | .following ((arrival, _) :: _) => some arrival
  | _ => none

end WatchState

def secondLength : Nat := 1000

namespace WatchReply

/-- The lines of a watch that was opened at a time, with the times when they arrive. -/
def lines (time : Nat) : Except TransportFault WatchReply →
    Except RequestFailure (List (Nat × String))
  | .error cause => .error (.unreachable cause)
  | .ok (.stream events) =>
      .ok (events.map fun (wait, line) => (time + wait * secondLength, line))
  | .ok (.answered response) =>
      (acceptedBody (.ok response)).bind fun _ => .error .other

end WatchReply

namespace Watched

variable {α : Type}

def askPage (watched : Watched α) (time : Nat) (token : Option String) :
    StateM ScriptedServer (WatchState α) := do
  let answer ← Dialogue.run (fun request => ScriptedServer.answerAt (time / secondLength) request)
    (ApiRequest.send "ObjectList" (ObjectList.ofJson? watched.ofJson?)
      (watched.scope.listRequest token))
  pure (.paged answer)

def askWatch (watched : Watched α) (time : Nat) (version : String) :
    StateM ScriptedServer (WatchState α) :=
  match watched.scope.watchRequest version with
  | .error failure => pure (.opened version (.error failure))
  | .ok request => do
      let reply ← ScriptedServer.watchAt (time / secondLength) request
      pure (.opened version (WatchReply.lines time reply))

def ask (watched : Watched α) (time : Nat) :
    WatchState α → StateM ScriptedServer (List (WatchNews α) × WatchState α)
  | .unlisted => do pure ([.emptied], ← watched.askPage time none)
  | .unfinished token => do pure ([], ← watched.askPage time (some token))
  | .listed version => do pure ([], ← watched.askWatch time version)
  | state => pure ([], state)

/-- Takes in what has arrived and asks for what is next. A failure is the last news. -/
def poll (watched : Watched α) (time : Nat) (state : WatchState α) :
    StateM ScriptedServer (List (WatchNews α) × WatchState α) := do
  let (news, state) := state.takeIn watched time
  if news.any WatchNews.isFailed then pure (news, state)
  else
    let (begun, state) ← watched.ask time state
    pure (news ++ begun, state)

end Watched

end BindingOperator
