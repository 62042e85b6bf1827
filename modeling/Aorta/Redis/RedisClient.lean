import Aorta.Redis.RedisServer

/-!
# `RedisClient`

The task commands of the client: each is one script or one `SORT` and reads the
reply. A call that does not reach the server, because no connection could be made
or the reply is null, is `reached = false`; the server has then not executed it.
A Lua number is rendered as plain decimal digits.
-/

namespace Aorta.Redis

open Aorta.Library.Ascii Aorta.Library.Decimal

set_option autoImplicit false

structure RedisTask where
  id : Nat
  title : Bytes
  completed : Bool
deriving DecidableEq, Repr

section Scripts

variable {State : Type} (server : RedisServer State)

def createScript (nextIdKey taskSetKey title : Bytes) : Script State Reply := do
  let id ← server.incr nextIdKey
  let taskKey := ascii "task:" ++ decimal id
  let _ ← server.hset taskKey [(ascii "title", title), (ascii "completed", ascii "0")]
  let _ ← server.sadd taskSetKey (decimal id)
  return .integer id

/-- A title that is missing is `false` in Lua, and no argument for `HSET`. -/
def updateScript (taskKey title completed : Bytes) : Script State Reply := do
  let found ← server.keyExists taskKey
  if found = 0 then return .array [.integer 0]
  else
    let currentTitle ← server.hget taskKey (ascii "title")
    match if title ≠ [] then some title else currentTitle with
    | none => throw (ascii "ERR Lua redis lib command arguments must be strings or integers")
    | some currentTitle =>
        let _ ← server.hset taskKey
          [(ascii "title", currentTitle), (ascii "completed", completed)]
        return .array [.integer 1, .string currentTitle]

def removeScript (taskKey taskSetKey id : Bytes) : Script State Reply := do
  let found ← server.keyExists taskKey
  if found = 0 then return .integer 0
  else
    let _ ← server.del taskKey
    let _ ← server.srem taskSetKey id
    return .integer 1

/-- `SORT key BY nosort GET # GET task:*->title GET task:*->completed`. -/
def listTasks (taskSetKey : Bytes) : Script State Reply := do
  let elements ← server.sort taskSetKey
    [.element, .field (ascii "task:") (ascii "title"),
      .field (ascii "task:") (ascii "completed")]
  return .array elements

end Scripts

/-- `redisCommand` behind `ensureConnected`: no reply, or the server's. -/
def redisCommand {State : Type} (reached : Bool) (script : Script State Reply)
    (state : State) : Option Reply × State :=
  if reached then
    match exec script state with
    | (.ok reply, after) => (some reply, after)
    | (.error message, after) => (some (.error message), after)
  else (none, state)

section Replies

/-- The id as a `std::size_t`. -/
def readCreated : Reply → Option Nat
  | .integer value => some (value % 2 ^ 64).toNat
  | _ => none

def readUpdated : Reply → Option Bytes
  | .array [.integer 1, .string title] => some title
  | _ => none

def readRemoved : Reply → Option Bool
  | .integer value => some (value = 1)
  | _ => none

/-- Three elements of the listing; a triple that is not a task is left out. -/
def readTask : Reply → Reply → Reply → Option RedisTask
  | .string id, .string title, .string completed =>
      (stoull id).map fun id => ⟨id, title, completed = ascii "1"⟩
  | _, _, _ => none

def readTriples : List Reply → List RedisTask
  | id :: title :: completed :: rest =>
      (readTask id title completed).toList ++ readTriples rest
  | _ => []

def readTasks : Reply → Option (List RedisTask)
  | .array elements =>
      if elements.length % 3 ≠ 0 then none else some (readTriples elements)
  | _ => none

end Replies

section Client

variable {State : Type} (server : RedisServer State) (reached : Bool)

def getAllTasks (taskSetKey : Bytes) (state : State) : Option (List RedisTask) × State :=
  let (reply, after) := redisCommand reached (listTasks server taskSetKey) state
  (reply.bind readTasks, after)

def createTask (nextIdKey taskSetKey title : Bytes) (state : State) : Option Nat × State :=
  let (reply, after) :=
    redisCommand reached (createScript server nextIdKey taskSetKey title) state
  (reply.bind readCreated, after)

def updateTask (taskKey title : Bytes) (completed : Bool) (state : State) :
    Option Bytes × State :=
  let (reply, after) := redisCommand reached
    (updateScript server taskKey title (if completed then ascii "1" else ascii "0")) state
  (reply.bind readUpdated, after)

def removeTask (taskKey taskSetKey id : Bytes) (state : State) : Option Bool × State :=
  let (reply, after) := redisCommand reached (removeScript server taskKey taskSetKey id) state
  (reply.bind readRemoved, after)

end Client

end Aorta.Redis
