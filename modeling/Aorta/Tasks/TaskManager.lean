import Mathlib.Data.List.Sort
import Aorta.Redis.RedisClient

/-!
# `TaskManager`

The jobs that are submitted to the workers, executed against a Redis server, and
what their callbacks are given.
-/

namespace Aorta.Tasks

open Aorta.Library.Ascii Aorta.Library.Decimal Aorta.Redis

set_option autoImplicit false

structure Task where
  id : Nat := 0
  title : Bytes := []
  completed : Bool := false
deriving DecidableEq, Repr

def taskSetKey : Bytes := ascii "tasks"

def nextIdKey : Bytes := ascii "task:next_id"

def taskKey (id : Nat) : Bytes := ascii "task:" ++ decimal id

inductive Operation where
  | getAll
  | create (title : Bytes)
  | update (id : Nat) (title : Bytes) (completed : Bool)
  | remove (id : Nat)
deriving DecidableEq, Repr

/-- The arguments of the callback; `rejected` when no job was submitted. -/
inductive Outcome where
  | rejected
  | listed (success : Bool) (tasks : List Task)
  | created (success : Bool) (task : Task)
  | updated (success : Bool) (task : Task)
  | removed (success removed : Bool)
deriving DecidableEq, Repr

section Jobs

variable {State : Type} (server : RedisServer State) (reached : Bool) (state : State)

/-- `std::sort` by id. -/
def sortById (tasks : List Task) : List Task :=
  tasks.insertionSort fun first second => first.id ≤ second.id

def getAll : Outcome × State :=
  match getAllTasks server reached taskSetKey state with
  | (none, after) => (.listed false [], after)
  | (some redisTasks, after) =>
      (.listed true (sortById (redisTasks.map fun task => ⟨task.id, task.title, task.completed⟩)),
        after)

def create (title : Bytes) : Outcome × State :=
  if title.isEmpty then (.rejected, state)
  else
    match createTask server reached nextIdKey taskSetKey title state with
    | (none, after) => (.created false {}, after)
    | (some id, after) => (.created true ⟨id, title, false⟩, after)

def update (id : Nat) (title : Bytes) (completed : Bool) : Outcome × State :=
  match updateTask server reached (taskKey id) title completed state with
  | (none, after) => (.updated false {}, after)
  | (some updatedTitle, after) => (.updated true ⟨id, updatedTitle, completed⟩, after)

def remove (id : Nat) : Outcome × State :=
  match removeTask server reached (taskKey id) taskSetKey (decimal id) state with
  | (none, after) => (.removed false false, after)
  | (some removed, after) => (.removed true removed, after)

def perform : Operation → Outcome × State
  | .getAll => getAll server reached state
  | .create title => create server reached state title
  | .update id title completed => update server reached state id title completed
  | .remove id => remove server reached state id

end Jobs

/-- The jobs of all workers and servers in the order in which Redis executes them. -/
def performAll {State : Type} (server : RedisServer State) :
    State → List (Bool × Operation) → List Outcome × State
  | state, [] => ([], state)
  | state, (reached, operation) :: operations =>
      let (outcome, after) := perform server reached state operation
      let (outcomes, final) := performAll server after operations
      (outcome :: outcomes, final)

end Aorta.Tasks
