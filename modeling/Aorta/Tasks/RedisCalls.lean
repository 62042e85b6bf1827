import Mathlib.Logic.Function.Basic
import Aorta.Library.Linearization
import Aorta.Tasks.TaskStore

/-!
# Calls over connections

Each worker has a `RedisClient` and this a connection. A worker sends one command and waits
for the reply. If it comes to nothing the context is in error, and before the next command a
new connection is made. What was sent on a connection may be executed at any later time, also
when the client has given it up, or never.

The numbers of the calls, and what is recorded of them, are no part of the program.
-/

namespace Aorta.Redis

open Aorta.Library.Ascii

set_option autoImplicit false

/-- `redisContext`: its error flag and its connection. -/
structure Context (Link : Type) where
  err : Bool := false
  link : Link

structure RedisClient (Link : Type) where
  context : Option (Context Link) := none

/-- What `redisConnectWithTimeout` and `redisSetTimeout` come to. -/
inductive ConnectAnswer where
  | noContext
  | refused
  | noTimeout
  | connected

namespace RedisClient

variable {Link : Type} (client : RedisClient Link) (fresh : Link) (answer : ConnectAnswer)

/-- `fresh` is a connection on which nothing is on its way. -/
def connect : Bool × RedisClient Link :=
  match client.context with
  | some _ => (true, client)
  | none =>
      match answer with
      | .noContext => (false, client)
      | .refused => (false, { client with context := none })
      | .noTimeout => (false, { client with context := none })
      | .connected => (true, { client with context := some { link := fresh } })

/-- The connection that is given up comes last. -/
def ensureConnected : Bool × RedisClient Link × Option Link :=
  match client.context with
  | some context =>
      if context.err then
        let (connected, next) := connect { client with context := none } fresh answer
        (connected, next, some context.link)
      else (true, client, none)
  | none =>
      let (connected, next) := client.connect fresh answer
      (connected, next, none)

theorem connect_none : connect ⟨none⟩ fresh answer = (true, ⟨some { link := fresh }⟩) ∨
    connect ⟨none⟩ fresh answer = (false, ⟨none⟩) := by
  cases answer with
  | connected => exact .inl rfl
  | noContext => exact .inr rfl
  | refused => exact .inr rfl
  | noTimeout => exact .inr rfl

end RedisClient

end Aorta.Redis

namespace Aorta.Tasks

open Aorta.Library.Ascii Aorta.Library.Decimal Aorta.Library.Linearization Aorta.Redis

set_option autoImplicit false

section Answers

variable {State : Type} (server : RedisServer State)

/-- The command of an operation. -/
def script : Operation → Script State Reply
  | .getAll => listTasks server taskSetKey
  | .create title => createScript server nextIdKey taskSetKey title
  | .update id title completed =>
      updateScript server (taskKey id) title (if completed then ascii "1" else ascii "0")
  | .remove id => removeScript server (taskKey id) taskSetKey (decimal id)

def answer (operation : Operation) (state : State) : Reply × State :=
  match exec (script server operation) state with
  | (.ok reply, after) => (reply, after)
  | (.error message, after) => (.error message, after)

/-- What a job makes of a reply or of none. -/
def outcomeOf (operation : Operation) (reply : Option Reply) : Outcome :=
  match operation with
  | .getAll =>
      match reply.bind readTasks with
      | none => .listed false []
      | some redisTasks =>
          .listed true (sortById (redisTasks.map fun task => ⟨task.id, task.title, task.completed⟩))
  | .create title =>
      match reply.bind readCreated with
      | none => .created false {}
      | some id => .created true ⟨id, title, false⟩
  | .update id _ completed =>
      match reply.bind readUpdated with
      | none => .updated false {}
      | some updatedTitle => .updated true ⟨id, updatedTitle, completed⟩
  | .remove _ =>
      match reply.bind readRemoved with
      | none => .removed false false
      | some removed => .removed true removed

theorem redis_command_answer (operation : Operation) (state : State) :
    redisCommand true (script server operation) state =
      (some (answer server operation state).1, (answer server operation state).2) := by
  unfold redisCommand answer
  rw [if_pos rfl]
  cases exec (script server operation) state with
  | mk result after =>
      cases result with
      | ok reply => rfl
      | error message => rfl

variable {server}

/-- A job that reaches Redis makes its outcome of the reply to its own command. -/
theorem perform_answer {operation : Operation} (titled : operation ≠ .create []) (state : State) :
    perform server true state operation =
      (outcomeOf operation (some (answer server operation state).1),
        (answer server operation state).2) := by
  have called := redis_command_answer server operation state
  generalize answer server operation state = answered at called ⊢
  cases operation with
  | getAll =>
      change redisCommand true (listTasks server taskSetKey) state = _ at called
      unfold perform getAll getAllTasks outcomeOf
      dsimp only
      rw [called]
      dsimp only
      cases (some answered.1).bind readTasks with
      | none => rfl
      | some tasks => rfl
  | create title =>
      have filled : title.isEmpty = false := by
        cases title with
        | nil => exact absurd rfl titled
        | cons first rest => rfl
      change redisCommand true (createScript server nextIdKey taskSetKey title) state = _ at called
      unfold perform create createTask outcomeOf
      dsimp only
      rw [filled, called]
      dsimp only [Bool.false_eq_true, if_false]
      cases (some answered.1).bind readCreated with
      | none => rfl
      | some id => rfl
  | update id title completed =>
      change redisCommand true (updateScript server (taskKey id) title
        (if completed then ascii "1" else ascii "0")) state = _ at called
      unfold perform update updateTask outcomeOf
      dsimp only
      rw [called]
      dsimp only
      cases (some answered.1).bind readUpdated with
      | none => rfl
      | some updatedTitle => rfl
  | remove id =>
      change redisCommand true (removeScript server (taskKey id) taskSetKey (decimal id)) state = _
        at called
      unfold perform remove removeTask outcomeOf
      dsimp only
      rw [called]
      dsimp only
      cases (some answered.1).bind readRemoved with
      | none => rfl
      | some removed => rfl

theorem outcome_of_none {operation : Operation} (titled : operation ≠ .create []) (state : State) :
    perform server false state operation = (outcomeOf operation none, state) := by
  rw [unreached_performs server state operation titled]
  cases operation with
  | getAll => rfl
  | create title => rfl
  | update id title completed => rfl
  | remove id => rfl

end Answers

/-- What is on its way over a connection, with the numbers of the calls. -/
structure Link where
  commands : List (Nat × Operation) := []
  replies : List (Nat × Reply) := []

/-- `call` is the call that waits for its reply, with its number. -/
structure Worker where
  client : RedisClient Link := {}
  call : Option (Nat × Operation) := none

/-- `given` are the connections that were given up. Of a call whose command was executed while
it waited, the log holds the reply; `received` are the calls that got one, `failed` those that
failed after all. The commands of all other failed calls are `left`. -/
structure RedisCalls (State : Type) where
  redis : State
  workers : Nat → Worker := fun _ => {}
  given : List Link := []
  next : Nat := 0
  history : List (Event Nat Operation Outcome) := []
  log : List (Execution Nat Operation (Option Reply)) := []
  received : List Nat := []
  failed : List Nat := []
  left : List (Nat × Operation) := []

/-- Where a connection is. -/
inductive Place where
  | worker (index : Nat)
  | given (index : Nat)
deriving DecidableEq

namespace RedisCalls

variable {State : Type} (server : RedisServer State) (calls : RedisCalls State)

def linkAt : Place → Option Link
  | .worker index => (calls.workers index).client.context.map Context.link
  | .given index => calls.given[index]?

def setLink (place : Place) (link : Link) : RedisCalls State :=
  { calls with
    workers :=
      match place with
      | .worker index =>
          let worker := calls.workers index
          Function.update calls.workers index { worker with
            client := ⟨worker.client.context.map fun context => { context with link := link }⟩ }
      | .given _ => calls.workers
    given :=
      match place with
      | .worker _ => calls.given
      | .given index => calls.given.set index link }

def setWorker (index : Nat) (worker : Worker) : RedisCalls State :=
  { calls with workers := Function.update calls.workers index worker }

/-- A call that fails before anything is executed for it. -/
def abandon (number : Nat) (operation : Operation) : RedisCalls State :=
  { calls with
    history := calls.history ++ [.answered number (outcomeOf operation none)]
    log := calls.log ++ [⟨number, operation, none⟩]
    left := calls.left ++ [(number, operation)] }

def begin (operation : Operation) : RedisCalls State :=
  { calls with
    next := calls.next + 1
    history := calls.history ++ [.asked calls.next operation] }

/-- A worker makes sure of its connection. -/
def reconnect (index : Nat) (connects : ConnectAnswer) : Bool × RedisCalls State :=
  let worker := calls.workers index
  let (connected, client, freed) := worker.client.ensureConnected {} connects
  (connected, { calls.setWorker index { worker with client := client } with
    given := calls.given ++ freed.toList })

/-- A worker calls. The command is sent as a whole, or the context is in error. -/
def call (index : Nat) (operation : Operation) (connects : ConnectAnswer) (sends : Bool) :
    RedisCalls State :=
  match (calls.workers index).call with
  | some _ => calls
  | none =>
      if operation = .create [] then calls
      else
        let (connected, ready) := calls.reconnect index connects
        let begun := ready.begin operation
        match connected, (ready.workers index).client.context with
        | true, some context =>
            if sends then
              begun.setWorker index
                { client := ⟨some { context with
                    link := { context.link with
                      commands := context.link.commands ++ [(calls.next, operation)] } }⟩
                  call := some (calls.next, operation) }
            else
              (begun.abandon calls.next operation).setWorker index
                { client := ⟨some { context with err := true }⟩ }
        | _, _ => begun.abandon calls.next operation

/-- Redis executes the first command that has come over a connection. -/
def execute (place : Place) : RedisCalls State :=
  match calls.linkAt place with
  | some ⟨(number, operation) :: commands, replies⟩ =>
      let (reply, redis) := answer server operation calls.redis
      let late := (number, operation) ∈ calls.left
      { calls.setLink place ⟨commands, replies ++ [(number, reply)]⟩ with
        redis := redis
        log := if late then calls.log else calls.log ++ [⟨number, operation, some reply⟩]
        left := calls.left.erase (number, operation) }
  | _ => calls

/-- Redis finds the connection closed before it executes what has come over it. -/
def discard (place : Place) : RedisCalls State :=
  match calls.linkAt place with
  | some link => calls.setLink place { link with commands := [] }
  | none => calls

/-- A worker reads the first reply on its connection, whosever it is. -/
def receive (index : Nat) : RedisCalls State :=
  match (calls.workers index).call, (calls.workers index).client.context with
  | some (number, operation), some ⟨err, ⟨commands, (_, reply) :: replies⟩⟩ =>
      { calls.setWorker index { client := ⟨some ⟨err, ⟨commands, replies⟩⟩⟩ } with
        history := calls.history ++ [.answered number (outcomeOf operation (some reply))]
        received := calls.received ++ [number] }
  | _, _ => calls

/-- A worker waits too long, or reading fails. -/
def fail (index : Nat) : RedisCalls State :=
  let worker := calls.workers index
  match worker.call with
  | none => calls
  | some (number, operation) =>
      let stopped := calls.setWorker index
        { client := ⟨worker.client.context.map fun context => { context with err := true }⟩ }
      if number ∈ calls.log.map Execution.ticket then
        { stopped with
          history := calls.history ++ [.answered number (outcomeOf operation none)]
          failed := calls.failed ++ [number] }
      else stopped.abandon number operation

inductive Step where
  | call (index : Nat) (operation : Operation) (connects : ConnectAnswer) (sends : Bool)
  | execute (place : Place)
  | discard (place : Place)
  | receive (index : Nat)
  | fail (index : Nat)

def step : Step → RedisCalls State
  | .call index operation connects sends => calls.call index operation connects sends
  | .execute place => calls.execute server place
  | .discard place => calls.discard place
  | .receive index => calls.receive index
  | .fail index => calls.fail index

end RedisCalls

end Aorta.Tasks
