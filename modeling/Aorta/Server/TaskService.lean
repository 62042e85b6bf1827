import Aorta.Library.Linearization
import Aorta.Server.HeadResponses
import Aorta.Server.RequestStream
import Aorta.Tasks.TaskStore

/-!
# The task service

Reactors, workers and Redis together. A request about tasks leaves a job behind, a worker
executes its operation on Redis, and the response made of the outcome is published to the
reactor. Any outstanding job may be executed next, and any executed one published. A call
that fails has not reached Redis, or has and is executed there at some later time.

The reactors may belong to several servers that share one Redis. What was asked for,
executed and answered is no part of the program.
-/

namespace Aorta.Server

open Aorta.Library.Ascii Aorta.Http Aorta.Library.Linearization Aorta.Net Aorta.Redis Aorta.Tasks

set_option autoImplicit false

/-- The request, of those that are dispatched, that is not answered at once. -/
def asked (handle : Nat → HttpRequest → HandleResult) (requests : List (Nat × HttpRequest)) :
    Option (Nat × HttpRequest) :=
  requests.find? fun request => handle request.1 request.2 = .pending

/-- The operation that a request leaves to a worker. -/
def operationOf (handlers : Nat → HttpHandler) (asked : Nat × HttpRequest) :
    Option (Nat × Operation) :=
  match (handlers asked.1).handle asked.2 {} with
  | .completed _ => none
  | .pending operation => some (asked.1, operation)

namespace Reactor

variable (handlers : Nat → HttpHandler) (reactor : Reactor)

/-- What `handleClient` submits to the workers. -/
def clientSubmits (fd : Int) (answers : ClientAnswers) : Option (Nat × Operation) :=
  (asked (Session.answering handlers)
    (reactor.clientInbound (Session.answering handlers) fd answers).requests).bind
      (operationOf handlers)

/-- What an event makes the reactor submit to the workers. -/
def submits : Input → Option (Nat × Operation)
  | .client fd events answers =>
      if events.error then none
      else if events.hangup then none
      else if events.input then reactor.clientSubmits handlers fd answers
      else none
  | _ => none

end Reactor

/-- A request of a reactor. -/
structure Ticket where
  reactor : Nat
  serial : Nat
deriving DecidableEq, Repr

/-- `finished` are the outcomes of the jobs that were executed, `abandoned` the operations
that failed and may still be executed. -/
structure TaskService (State : Type) where
  reactors : List Reactor
  redis : State
  finished : List (Ticket × Outcome) := []
  abandoned : List Operation := []
  history : List (Event Ticket Operation Outcome) := []
  log : List (Execution Ticket Operation Outcome) := []

namespace TaskService

variable {State : Type} (server : RedisServer State) (handlers : Nat → Nat → HttpHandler)

def create (reactorCount : Nat) (redis : State) : TaskService State where
  reactors := (List.range reactorCount).map fun (index : Nat) => { id := index }
  redis := redis

variable (service : TaskService State)

/-- The operation of a request that was submitted. -/
def askedFor (history : List (Event Ticket Operation Outcome)) (ticket : Ticket) :
    Option Operation :=
  history.findSome? fun
    | .asked other operation => if other = ticket then some operation else none
    | .answered _ _ => none

/-- An event of a reactor; what the workers do is not its own. -/
def react (index : Nat) (input : Reactor.Input) : TaskService State :=
  match service.reactors[index]?, input with
  | none, _ => service
  | some _, .worker _ _ => service
  | some reactor, input =>
      { service with
        reactors := service.reactors.set index
          (reactor.step (Session.answering (handlers index)) input)
        history := service.history ++
          ((reactor.submits (handlers index) input).map fun submitted =>
            Event.asked ⟨index, submitted.1⟩ submitted.2).toList }

def outstanding (index job : Nat) : Option Callback :=
  service.reactors[index]?.bind fun reactor => reactor.shared.jobs[job]?

/-- A worker executes a job that no worker has executed. -/
def execute (index job : Nat) (reached : Bool) : TaskService State :=
  match service.outstanding index job with
  | none => service
  | some callback =>
      let ticket : Ticket := ⟨index, callback.serial⟩
      if ticket ∈ service.finished.map Prod.fst then service
      else
        match askedFor service.history ticket with
        | none => service
        | some operation =>
            let (outcome, redis) := perform server reached service.redis operation
            { service with
              redis := redis
              finished := service.finished ++ [(ticket, outcome)]
              abandoned := if reached then service.abandoned
                else service.abandoned ++ [operation]
              log := service.log ++ [⟨ticket, operation, outcome⟩] }

/-- Redis executes an operation that failed. -/
def executeLate (index : Nat) : TaskService State :=
  match service.abandoned[index]? with
  | none => service
  | some operation =>
      { service with
        redis := (perform server true service.redis operation).2
        abandoned := service.abandoned.eraseIdx index }

/-- A worker publishes the response to the outcome of a job. -/
def publish (index job : Nat) : TaskService State :=
  match service.reactors[index]?, service.outstanding index job with
  | some reactor, some callback =>
      match service.finished.find? fun entry => entry.1 = ⟨index, callback.serial⟩ with
      | none => service
      | some (ticket, outcome) =>
          { service with
            reactors := service.reactors.set index
              (reactor.finishJob job (HttpHandler.respond outcome))
            history := service.history ++ [.answered ticket outcome] }
  | _, _ => service

/-- The work of a job throws. -/
def throw (index job : Nat) : TaskService State :=
  match service.reactors[index]? with
  | none => service
  | some reactor =>
      { service with reactors := service.reactors.set index (reactor.finishJob job none) }

inductive Step where
  | react (index : Nat) (input : Reactor.Input)
  | execute (index job : Nat) (reached : Bool)
  | executeLate (index : Nat)
  | publish (index job : Nat)
  | throw (index job : Nat)

def step (service : TaskService State) : Step → TaskService State
  | .react index input => service.react handlers index input
  | .execute index job reached => service.execute server index job reached
  | .executeLate index => service.executeLate server index
  | .publish index job => service.publish index job
  | .throw index job => service.throw index job

end TaskService

end Aorta.Server
