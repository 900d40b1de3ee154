import BindingOperator.Api.Client
import BindingOperator.Controller.Reconcile
import BindingOperator.Watch.ControlLoop

/-!
The controllers of the operator, run against a scripted server under a clock that jumps from
one moment at which something happens to the next. Time is counted in milliseconds. The
controllers share what was found out about kinds; those of the two webhook configurations
report their events together.
-/

namespace BindingOperator

namespace WatchScope

def bindings : WatchScope where
  resource := bindingResource

def configuration (type : AdmissionType) (name : String) : WatchScope where
  resource := type.resource
  name := some name

end WatchScope

namespace Watched

def bindings : Watched Binding where
  scope := .bindings
  ofJson? := Binding.ofJson?
  metadata := Binding.metadata

def configuration (type : AdmissionType) (name : String) : Watched WebhookConfiguration where
  scope := .configuration type name
  ofJson? := WebhookConfiguration.ofJson? type
  metadata := WebhookConfiguration.metadata

end Watched

abbrev BindingLoop := ControlLoop Binding Binding

/-- The loop of a webhook controller, which the changes of bindings wake too. -/
abbrev WebhookLoop := ControlLoop WebhookConfiguration Binding

def WebhookLoop.managing (type : AdmissionType) (name : String) : WebhookLoop where
  watched := .configuration type name
  related := some { watched := .bindings, key := ⟨none, name⟩ }

structure Rehearsal where
  defaultNamespace : String
  now : Instant
  projector : Projector
  server : ScriptedServer
  mapper : MapperCache := []
  bindingSink : EventSink := .server { controller := bindingControllerName }
  webhookSink : EventSink := .server { controller := webhookControllerName }
  bindingLoop : Option BindingLoop := none
  /-- The webhook controllers, each with the name of the configuration it manages. -/
  webhookLoops : List (String × WebhookLoop) := []

namespace Rehearsal

def talk {α : Type} (time : Nat) (program : HttpTalk α) (rehearsal : Rehearsal) :
    α × Rehearsal :=
  let (value, server) := (Dialogue.run
    (fun request => ScriptedServer.answerAt (time / secondLength) request) program).run
    rehearsal.server
  (value, { rehearsal with server })

/-- A pass over a binding, and what it leaves to do. Nothing is left after a breach. -/
def passBinding (time : Nat) (binding : Binding) (rehearsal : Rehearsal) : Action × Rehearsal :=
  let session : ApiSession := { mapper := rehearsal.mapper, sink := rehearsal.bindingSink }
  let pass := Dialogue.run (BindingCall.overHttp rehearsal.defaultNamespace rehearsal.now)
    (reconcile rehearsal.now rehearsal.projector binding)
  let ((result, session), rehearsal) := rehearsal.talk time (pass session)
  let action := match result with
    | .ok action => action
    | .error (.failure failure) => bindingErrorPolicy failure
    | .error (.breach _) => .awaitChange
  (action, { rehearsal with mapper := session.mapper, bindingSink := session.sink })

def passConfiguration (time : Nat) (managed : String) (config : WebhookConfiguration)
    (rehearsal : Rehearsal) : Action × Rehearsal :=
  let session : ApiSession := { mapper := rehearsal.mapper, sink := rehearsal.webhookSink }
  let pass := Dialogue.run (WebhookCall.overHttp rehearsal.now)
    (reconcileConfiguration managed config)
  let ((result, session), rehearsal) := rehearsal.talk time (pass session)
  let action := match result with
    | .ok action => action
    | .error failure => webhookErrorPolicy failure
  (action, { rehearsal with mapper := session.mapper, webhookSink := session.sink })

/-- Passes over objects one after the other; what each leaves to do goes to the loop. -/
def passEach {α β : Type} (time : Nat) (pass : α → Rehearsal → Action × Rehearsal) :
    List α → ControlLoop α β → Rehearsal → Except NamelessObject (ControlLoop α β × Rehearsal)
  | [], loop, rehearsal => .ok (loop, rehearsal)
  | object :: rest, loop, rehearsal => do
      let key ← (loop.watched.metadata object).key
      let (action, rehearsal) := pass object rehearsal
      passEach time pass rest (loop.afterPass time key action) rehearsal

/-- One round of a loop: it takes in what has arrived, and the passes that are due run. -/
def round {α β : Type} (time : Nat) (pass : α → Rehearsal → Action × Rehearsal)
    (loop : ControlLoop α β) (rehearsal : Rehearsal) :
    Except NamelessObject (ControlLoop α β × Rehearsal) := do
  let (loop, server) ← loop.poll time rehearsal.server
  let (objects, loop) := loop.takeDue time
  passEach time pass objects loop { rehearsal with server }

def roundWebhooks (time : Nat) : List (String × WebhookLoop) → Rehearsal →
    Except NamelessObject (List (String × WebhookLoop) × Rehearsal)
  | [], rehearsal => .ok ([], rehearsal)
  | (managed, loop) :: rest, rehearsal => do
      let (loop, rehearsal) ← round time (passConfiguration time managed) loop rehearsal
      let (rest, rehearsal) ← roundWebhooks time rest rehearsal
      pure ((managed, loop) :: rest, rehearsal)

def roundAll (time : Nat) (rehearsal : Rehearsal) : Except NamelessObject Rehearsal := do
  let rehearsal ← match rehearsal.bindingLoop with
    | none => pure rehearsal
    | some loop => do
        let (loop, rehearsal) ← round time (passBinding time) loop rehearsal
        pure { rehearsal with bindingLoop := some loop }
  let (webhookLoops, rehearsal) ← roundWebhooks time rehearsal.webhookLoops rehearsal
  pure { rehearsal with webhookLoops }

def isBusy (time : Nat) (rehearsal : Rehearsal) : Bool :=
  (rehearsal.bindingLoop.any (·.isBusy time)) || rehearsal.webhookLoops.any (·.2.isBusy time)

/-- The most rounds at one moment; only a list without an end needs more. -/
def mostRounds : Nat := 1000

/-- Rounds at one moment until nothing is left to do. -/
def settle (time : Nat) : Nat → Rehearsal → Except NamelessObject Rehearsal
  | 0, rehearsal => .ok rehearsal
  | rounds + 1, rehearsal =>
      if rehearsal.isBusy time then do settle time rounds (← rehearsal.roundAll time)
      else .ok rehearsal

/-- The next moment after a time at which something may happen. -/
def nextTime? (time : Nat) (rehearsal : Rehearsal) : Option Nat :=
  let times := (rehearsal.bindingLoop.map ControlLoop.times).getD [] ++
    rehearsal.webhookLoops.flatMap fun loop => loop.2.times
  (times.filter (time < ·)).min?

/-- Runs the loops from a time up to a limit, which is not reached. -/
def runFrom (time limit : Nat) (rehearsal : Rehearsal) : Except NamelessObject Rehearsal :=
  if time < limit then do
    let rehearsal ← rehearsal.settle time mostRounds
    match rehearsal.nextTime? time with
    | none => pure rehearsal
    | some next => if time < next then runFrom next limit rehearsal else pure rehearsal
  else .ok rehearsal
termination_by limit - time

/-- The requests of a run that lasts some seconds, in the order they were sent. -/
def requests (seconds : Nat) (rehearsal : Rehearsal) :
    Except NamelessObject (List HttpRequest) :=
  (rehearsal.runFrom 0 (seconds * secondLength)).map fun ended => ended.server.requests

end Rehearsal

end BindingOperator
