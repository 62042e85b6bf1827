import Aorta.Http.HttpHandler
import Aorta.Tasks.TaskStore

/-!
# What the client is told of a failed storage

A job makes of the reply of Redis an outcome, and the callback of the job an answer. The
outcome of an update or of a removal does not tell a failure from a task that does not
exist, and the answer is 404 for both.
-/

namespace Aorta.Http.HttpHandler

open Aorta.Library.Ascii Aorta.Library.Decimal Aorta.Redis Aorta.Tasks

set_option autoImplicit false

section Replies

def script {State : Type} (server : RedisServer State) : Operation → Script State Reply
  | .getAll => listTasks server taskSetKey
  | .create title => createScript server nextIdKey taskSetKey title
  | .update id title completed => updateScript server (taskKey id) title (completedText completed)
  | .remove id => removeScript server (taskKey id) taskSetKey (decimal id)

/-- The outcome that a reply leads to; there is none when Redis is not reached. -/
def outcomeOf (operation : Operation) (reply : Option Reply) : Outcome :=
  match operation with
  | .getAll =>
      match reply.bind readTasks with
      | none => .listed false []
      | some tasks =>
          .listed true (sortById (tasks.map fun task => ⟨task.id, task.title, task.completed⟩))
  | .create title =>
      match reply.bind readCreated with
      | none => .created false {}
      | some id => .created true ⟨id, title, false⟩
  | .update id _ completed =>
      match reply.bind readUpdated with
      | none => .updated false {}
      | some title => .updated true ⟨id, title, completed⟩
  | .remove _ =>
      match reply.bind readRemoved with
      | none => .removed false false
      | some removed => .removed true removed

theorem perform_outcome {State : Type} (server : RedisServer State) (reached : Bool)
    (state : State) {operation : Operation} (titled : operation ≠ .create []) :
    (perform server reached state operation).1 =
      outcomeOf operation (redisCommand reached (script server operation) state).1 := by
  cases operation with
  | getAll =>
      simp only [perform, getAll, getAllTasks, outcomeOf, script]
      cases (redisCommand reached (listTasks server taskSetKey) state).1.bind readTasks with
      | none => rfl
      | some tasks => rfl
  | create title =>
      have filled : title.isEmpty = false := by
        cases title with
        | nil => exact absurd rfl titled
        | cons first rest => rfl
      simp only [perform, Tasks.create, createTask, outcomeOf, script, filled,
        Bool.false_eq_true, if_false]
      cases (redisCommand reached (createScript server nextIdKey taskSetKey title)
          state).1.bind readCreated with
      | none => rfl
      | some id => rfl
  | update id title completed =>
      simp only [perform, update, updateTask, outcomeOf, script, completedText]
      cases (redisCommand reached (updateScript server (taskKey id) title
          (if completed then ascii "1" else ascii "0")) state).1.bind readUpdated with
      | none => rfl
      | some updated => rfl
  | remove id =>
      simp only [perform, remove, removeTask, outcomeOf, script]
      cases (redisCommand reached (removeScript server (taskKey id) taskSetKey (decimal id))
          state).1.bind readRemoved with
      | none => rfl
      | some removed => rfl

/-- What an operation expects of Redis. Everything else is a failure of the storage. -/
def Expected : Operation → Option Reply → Prop
  | .getAll, reply => ∃ tasks, reply.bind readTasks = some tasks
  | .create _, reply => ∃ id, reply = some (.integer id)
  | .update _ _ _, reply =>
      reply = some (.array [.integer 0]) ∨
        ∃ title, reply = some (.array [.integer 1, .string title])
  | .remove _, reply => reply = some (.integer 0) ∨ reply = some (.integer 1)

/-- What the script answers when it has found no task. -/
def Missing : Operation → Option Reply → Prop
  | .update _ _ _, reply => reply = some (.array [.integer 0])
  | .remove _, reply => reply = some (.integer 0)
  | _, _ => False

def answerStatus (operation : Operation) (reply : Option Reply) : Option Nat :=
  (respond (outcomeOf operation reply)).map HttpResponse.statusCode

/-- The client is told that a task does not exist only when it does not, and of every
failure of the storage. -/
def Honest (operation : Operation) (reply : Option Reply) : Prop :=
  (answerStatus operation reply = some 404 → Missing operation reply) ∧
    (¬ Expected operation reply → answerStatus operation reply = some 503)

end Replies

section Honesty

theorem get_all_status (reply : Option Reply) : answerStatus .getAll reply =
    some (if (reply.bind readTasks).isSome then 200 else 503) := by
  simp only [answerStatus, outcomeOf]
  cases reply.bind readTasks with
  | none => rfl
  | some tasks => rfl

theorem create_status (title : Bytes) (reply : Option Reply) :
    answerStatus (.create title) reply =
      some (if (reply.bind readCreated).isSome then 201 else 503) := by
  simp only [answerStatus, outcomeOf]
  cases reply.bind readCreated with
  | none => rfl
  | some id => rfl

theorem update_status (id : Nat) (title : Bytes) (completed : Bool) (reply : Option Reply) :
    answerStatus (.update id title completed) reply =
      some (if (reply.bind readUpdated).isSome then 200 else 404) := by
  simp only [answerStatus, outcomeOf]
  cases reply.bind readUpdated with
  | none => rfl
  | some updated => rfl

theorem remove_status (id : Nat) (reply : Option Reply) :
    answerStatus (.remove id) reply =
      some (if reply.bind readRemoved = some true then 204 else 404) := by
  simp only [answerStatus, outcomeOf]
  cases reply.bind readRemoved with
  | none => rfl
  | some removed =>
      cases removed with
      | true => rfl
      | false => rfl

theorem get_all_honest (reply : Option Reply) : Honest .getAll reply := by
  unfold Honest
  rw [get_all_status]
  cases read : reply.bind readTasks with
  | none => exact ⟨nofun, fun _ => rfl⟩
  | some tasks => exact ⟨nofun, fun unexpected => absurd ⟨tasks, read⟩ unexpected⟩

theorem create_honest (title : Bytes) (reply : Option Reply) : Honest (.create title) reply := by
  unfold Honest
  rw [create_status]
  cases read : reply.bind readCreated with
  | none => exact ⟨nofun, fun _ => rfl⟩
  | some id =>
      refine ⟨nofun, ?_⟩
      intro unexpected
      obtain ⟨given, isGiven, created⟩ := Option.bind_eq_some_iff.mp read
      cases given with
      | integer value => exact absurd ⟨value, isGiven⟩ unexpected
      | _ => cases created

theorem update_honest_iff (id : Nat) (title : Bytes) (completed : Bool) (reply : Option Reply) :
    Honest (.update id title completed) reply ↔ Expected (.update id title completed) reply := by
  constructor
  · intro honest
    by_contra unexpected
    have unavailable := honest.2 unexpected
    rw [update_status] at unavailable
    split_ifs at unavailable
    all_goals cases unavailable
  · intro expected
    refine ⟨?_, fun unexpected => absurd expected unexpected⟩
    rcases expected with same | ⟨updated, same⟩
    · exact fun _ => same
    · subst same
      exact nofun

theorem remove_honest_iff (id : Nat) (reply : Option Reply) :
    Honest (.remove id) reply ↔ Expected (.remove id) reply := by
  constructor
  · intro honest
    by_contra unexpected
    have unavailable := honest.2 unexpected
    rw [remove_status] at unavailable
    split_ifs at unavailable
    all_goals cases unavailable
  · intro expected
    refine ⟨?_, fun unexpected => absurd expected unexpected⟩
    rcases expected with same | same
    · exact fun _ => same
    · subst same
      exact nofun

end Honesty

section Scripts

variable {State : Type} (server : RedisServer State)

/-- The script does not answer this. -/
def Never (script : Script State Reply) (state : State) (reply : Reply) : Prop :=
  ∀ after, exec script state ≠ (.ok reply, after)

theorem never_bind {Result : Type} (first : Script State Result)
    {next : Result → Script State Reply} {state : State} {reply : Reply}
    (later : ∀ result after, Never (next result) after reply) :
    Never (first >>= next) state reply := by
  intro final answers
  cases ran : exec first state with
  | mk result after =>
      cases result with
      | error message =>
          rw [exec_bind_error ran] at answers
          cases answers
      | ok result =>
          rw [exec_bind_ok ran] at answers
          exact later result after final answers

theorem update_never {state : State} {key : Bytes} (title completed : Bytes)
    (present : (server.keys state key).isSome = true) :
    Never (updateScript server key title completed) state (.array [.integer 0]) := by
  have found := server.exists_ok state key
  rw [if_pos present] at found
  intro final
  unfold updateScript
  rw [exec_bind_ok found]
  apply never_bind (server.hget key (ascii "title"))
  intro currentTitle after
  cases (if title ≠ [] then some title else currentTitle) with
  | none =>
      intro last answers
      cases answers
  | some newTitle =>
      apply never_bind
      intro added middle last answers
      cases answers

theorem remove_never {state : State} {key : Bytes} (taskSetKey id : Bytes)
    (present : (server.keys state key).isSome = true) :
    Never (removeScript server key taskSetKey id) state (.integer 0) := by
  have found := server.exists_ok state key
  rw [if_pos present] at found
  intro final
  unfold removeScript
  rw [exec_bind_ok found]
  apply never_bind (server.del key)
  intro deleted after
  apply never_bind
  intro removed middle last answers
  cases answers

theorem reply_never {script : Script State Reply} {state : State} {reply : Reply}
    (never : Never script state reply) (notError : ∀ message, reply ≠ .error message) :
    (redisCommand true script state).1 ≠ some reply := by
  unfold redisCommand
  simp only [if_true]
  cases ran : exec script state with
  | mk result after =>
      cases result with
      | ok answer =>
          intro same
          cases same
          exact never after ran
      | error message =>
          intro same
          cases same
          exact notError message rfl

theorem missing_reply_iff {script : Script State Reply} {state : State} {key : Bytes}
    {reply : Reply} (notError : ∀ message, reply ≠ .error message)
    (absent : server.keys state key = none → exec script state = (.ok reply, state))
    (present : (server.keys state key).isSome = true → Never script state reply)
    (reached : Bool) :
    (redisCommand reached script state).1 = some reply ↔
      reached = true ∧ server.keys state key = none := by
  cases reached with
  | false => simp [redisCommand]
  | true =>
      cases holds : server.keys state key with
      | none =>
          have answers := absent holds
          simp [redisCommand, answers]
      | some value =>
          have never := present (by rw [holds]; rfl)
          simp [reply_never never notError]

theorem update_missing_iff (reached : Bool) (state : State) (id : Nat) (title : Bytes)
    (completed : Bool) :
    Missing (.update id title completed)
        (redisCommand reached (script server (.update id title completed)) state).1 ↔
      reached = true ∧ server.keys state (taskKey id) = none := by
  apply missing_reply_iff server
  · exact nofun
  · intro absent
    have missing := server.exists_ok state (taskKey id)
    rw [absent] at missing
    simp only [script, updateScript]
    rw [exec_bind_ok missing]
    rfl
  · exact update_never server title (completedText completed)

theorem remove_missing_iff (reached : Bool) (state : State) (id : Nat) :
    Missing (.remove id) (redisCommand reached (script server (.remove id)) state).1 ↔
      reached = true ∧ server.keys state (taskKey id) = none := by
  apply missing_reply_iff server
  · exact nofun
  · intro absent
    have missing := server.exists_ok state (taskKey id)
    rw [absent] at missing
    simp only [script, removeScript]
    rw [exec_bind_ok missing]
    rfl
  · exact remove_never server taskSetKey (decimal id)

end Scripts

section Result

variable {State : Type}

/-- A listing or a creation is answered honestly whatever Redis replies, an update or a
removal if and only if Redis replies what the script can reply. That reply says that
there is no task if and only if the script was executed and the key was missing. -/
theorem changes_honest_iff (server : RedisServer State) :
    (∀ reply, Honest .getAll reply) ∧ (∀ title reply, Honest (.create title) reply) ∧
      (∀ id title completed reply, Honest (.update id title completed) reply ↔
        Expected (.update id title completed) reply) ∧
      (∀ id reply, Honest (.remove id) reply ↔ Expected (.remove id) reply) ∧
      ∀ operation, operation ≠ .create [] → ∀ reached state,
        let reply := (redisCommand reached (script server operation) state).1
        (respond (perform server reached state operation).1).map HttpResponse.statusCode =
            answerStatus operation reply ∧
          ∀ id title completed, operation = .update id title completed ∨ operation = .remove id →
            (Missing operation reply ↔
              reached = true ∧ server.keys state (taskKey id) = none) := by
  refine ⟨get_all_honest, create_honest, update_honest_iff, remove_honest_iff, ?_⟩
  intro operation titled reached state
  refine ⟨?_, ?_⟩
  · rw [perform_outcome server reached state titled]
    rfl
  · rintro id title completed (rfl | rfl)
    · exact update_missing_iff server reached state id title completed
    · exact remove_missing_iff server reached state id

theorem missing_task_is_told :
    Honest (.update 1 (ascii "tea") true) (some (.array [.integer 0])) ∧
      Honest (.remove 1) (some (.integer 0)) := by
  obtain ⟨_, _, update, remove, _⟩ := changes_honest_iff MemoryServer.memoryServer
  exact ⟨(update 1 (ascii "tea") true _).mpr (.inl rfl), (remove 1 _).mpr (.inl rfl)⟩

/-- Redis is not reached, and a task that exists is said not to. -/
theorem unreached_task_is_denied :
    let task := setFields (fun _ => none)
      [(ascii "title", ascii "tea"), (ascii "completed", ascii "0")]
    let table : MemoryServer.Table := fun key =>
      if key = ascii "task:1" then some (.hash task) else none
    (MemoryServer.memoryServer.keys table (taskKey 1)).isSome = true ∧
      (respond (perform MemoryServer.memoryServer false table
        (.update 1 (ascii "tea") true)).1).map HttpResponse.statusCode = some 404 ∧
      (respond (perform MemoryServer.memoryServer false table
        (.remove 1)).1).map HttpResponse.statusCode = some 404 ∧
      ¬ Honest (.update 1 (ascii "tea") true) none ∧ ¬ Honest (.remove 1) none := by
  refine ⟨rfl, rfl, rfl, ?_, ?_⟩
  · intro honest
    rcases (update_honest_iff 1 (ascii "tea") true none).mp honest with absurdity | ⟨_, absurdity⟩
    · cases absurdity
    · cases absurdity
  · intro honest
    rcases (remove_honest_iff 1 none).mp honest with absurdity | absurdity
    · cases absurdity
    · cases absurdity

end Result

end Aorta.Http.HttpHandler
