import BindingOperator.Http.Message
import BindingOperator.Json.Printer

/-!
A server that answers by a script. The first route for the method and the path of a request
that is open at the time and was not used up answers it; without one the answer is that
nothing is there. A route can also answer a watch, with events that arrive one after the
other. Every request is logged.
-/

namespace BindingOperator

inductive RouteReply where
  /-- The connection fails. -/
  | broken
  | text (text : String)
  /-- What was sent comes back. -/
  | echo

structure Route where
  method : String
  path : String
  status : Nat := 200
  reply : RouteReply
  /-- How often the route may be used. -/
  times : Option Nat := none
  /-- The first second at which the route is open. -/
  opens : Nat := 0
  /-- The second from which on it is closed. -/
  closes : Option Nat := none
  /-- What a watch is told: the seconds since the event before, and the event. -/
  events : List (Nat × String) := []
  used : Nat := 0

namespace Route

def isOpen (time : Nat) (route : Route) : Bool :=
  route.opens ≤ time && route.closes.all (time < ·) && route.times.all (route.used < ·)

def serves (time : Nat) (method path : String) (route : Route) : Bool :=
  route.method = method && route.path = path && route.isOpen time

/-- Uses the first route that serves a request; its place in the script comes with it. -/
def use (time : Nat) (method path : String) : List Route → Option Route × List Route
  | [] => (none, [])
  | route :: rest =>
      if route.serves time method path then
        (some route, { route with used := route.used + 1 } :: rest)
      else
        let more := use time method path rest
        (more.1, route :: more.2)

/-- The answer when no route serves a request. -/
def nothing : HttpResponse where
  status := 404
  body := (Json.record [("status", some (.string "Failure")),
    ("message", some (.string "no route")), ("reason", some (.string "NotFound")),
    ("code", some (Json.nat 404))]).compact

def answer (request : HttpRequest) (route : Route) : Except TransportFault HttpResponse :=
  match route.reply with
  | .broken => .error "connection refused"
  | .text text => .ok ⟨route.status, text⟩
  | .echo => .ok ⟨route.status, (request.body.map fun body => body.document.compact).getD ""⟩

end Route

inductive WatchReply where
  | answered (response : HttpResponse)
  /-- The events to come, each with the seconds until it arrives. -/
  | stream (events : List (Nat × String))

namespace WatchReply

/-- The events of a route, the seconds counted from the start of the watch. -/
def arrivals (since : Nat) : List (Nat × String) → List (Nat × String)
  | [] => []
  | (wait, event) :: rest => (since + wait, event) :: arrivals (since + wait) rest

def method : String := "WATCH"

def ofRoute (request : HttpRequest) (route : Route) : Except TransportFault WatchReply :=
  (route.answer request).map fun response =>
    if response.status = 200 then .stream (arrivals 0 route.events) else .answered response

end WatchReply

structure ScriptedServer where
  routes : List Route
  /-- The requests so far, the last one first. -/
  log : List HttpRequest := []

namespace ScriptedServer

def answerAt (time : Nat) (request : HttpRequest) :
    StateM ScriptedServer (Except TransportFault HttpResponse) := fun server =>
  let (route, routes) := Route.use time request.method.text request.target.path server.routes
  let answer := match route with
    | some route => route.answer request
    | none => .ok Route.nothing
  (answer, { routes, log := request :: server.log })

/-- Answers a watch at a time. Without a route the stream is open and silent. -/
def watchAt (time : Nat) (request : HttpRequest) :
    StateM ScriptedServer (Except TransportFault WatchReply) := fun server =>
  let (route, routes) := Route.use time WatchReply.method request.target.path server.routes
  let answer := match route with
    | some route => WatchReply.ofRoute request route
    | none => .ok (.stream [])
  (answer, { routes, log := request :: server.log })

def run {α : Type} (program : HttpTalk α) (server : ScriptedServer) : α × ScriptedServer :=
  (Dialogue.run (fun request => answerAt 0 request) program).run server

def requests (server : ScriptedServer) : List HttpRequest := server.log.reverse

def cleared (server : ScriptedServer) : ScriptedServer := { server with log := [] }

end ScriptedServer

end BindingOperator
