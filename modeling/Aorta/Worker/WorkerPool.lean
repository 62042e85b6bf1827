import Aorta.Library.Custody
import Aorta.Library.Run

/-!
# `WorkerPool`

The threads of the workers and of the reactors share the job queue and the completion
channels. What is done under a lock, and each call of the kernel, is one step; the steps
of all threads interleave in any order. A step that its thread cannot take next changes
nothing. What the work of a job returns is an argument of the step that runs it.

The number of a job, the jobs with the completions they returned, and what was accepted,
run, pushed and popped are no part of the program.
-/

namespace Aorta.Worker

set_option autoImplicit false

structure Job (Work : Type) where
  number : Nat
  reactorId : Nat
  work : Work
deriving DecidableEq, Repr

/-- A completion and the job that returned it. -/
structure Returned (Work Completion : Type) where
  job : Job Work
  completion : Completion
deriving DecidableEq, Repr

/-- A channel, with the counter of its `eventfd`. -/
structure CompletionChannel (Work Completion : Type) where
  completions : List (Returned Work Completion) := []
  counter : Nat := 0
deriving DecidableEq, Repr

/-- Where a worker is in `workerLoop` and `publishCompletion`. -/
inductive WorkerPhase (Work Completion : Type) where
  | waiting
  | taken (job : Job Work)
  | returned (completion : Returned Work Completion)
  | pushed (reactorId : Nat)
deriving DecidableEq, Repr

/-- Where a reactor is in `handleCompletions`. -/
inductive ReactorPhase where
  | outside
  | consuming
  | popping
deriving DecidableEq, Repr

structure WorkerPool (Work Completion : Type) where
  jobs : List (Job Work) := []
  workers : List (WorkerPhase Work Completion)
  channels : List (CompletionChannel Work Completion)
  reactors : List ReactorPhase
  accepted : List (Job Work) := []
  ran : List (Job Work × Option Completion) := []
  pushed : List (Nat × Returned Work Completion) := []
  popped : List (Nat × Returned Work Completion) := []
deriving DecidableEq, Repr

namespace WorkerPool

variable {Work Completion : Type}

def maxQueuedJobs : Nat := 4096

/-- The largest value of the counter of an `eventfd`. -/
def maxCounter : Nat := 2 ^ 64 - 2

def create (reactorCount workerCount : Nat) : WorkerPool Work Completion where
  workers := List.replicate workerCount .waiting
  channels := List.replicate reactorCount {}
  reactors := List.replicate reactorCount .outside

section Submit

variable (pool : WorkerPool Work Completion)

/-- `none` is an empty `std::function`. -/
def submit (reactorId : Nat) (work : Option Work) : Bool × WorkerPool Work Completion :=
  match work with
  | none => (false, pool)
  | some work =>
      if reactorId ≥ pool.channels.length then (false, pool)
      else if pool.workers.isEmpty || pool.jobs.length ≥ maxQueuedJobs then (false, pool)
      else
        let job : Job Work := ⟨pool.accepted.length, reactorId, work⟩
        (true, { pool with
          jobs := pool.jobs ++ [job]
          accepted := pool.accepted ++ [job] })

end Submit

section Workers

variable (pool : WorkerPool Work Completion) (worker : Nat)

/-- A worker leaves the wait with the first job. -/
def takeJob : WorkerPool Work Completion :=
  match pool.workers[worker]?, pool.jobs with
  | some .waiting, job :: jobs =>
      { pool with jobs := jobs, workers := pool.workers.set worker (.taken job) }
  | _, _ => pool

/-- The work of a job returns a completion, or nothing, or throws. -/
def runJob (result : Option Completion) : WorkerPool Work Completion :=
  match pool.workers[worker]? with
  | some (.taken job) =>
      let phase : WorkerPhase Work Completion :=
        match result with
        | some completion => .returned ⟨job, completion⟩
        | none => .waiting
      { pool with
        workers := pool.workers.set worker phase
        ran := pool.ran ++ [(job, result)] }
  | _ => pool

/-- `publishCompletion` as far as the lock goes. -/
def pushCompletion : WorkerPool Work Completion :=
  match pool.workers[worker]? with
  | some (.returned completion) =>
      let reactorId := completion.job.reactorId
      match pool.channels[reactorId]? with
      | none => { pool with workers := pool.workers.set worker .waiting }
      | some channel =>
          { pool with
            workers := pool.workers.set worker (.pushed reactorId)
            channels := pool.channels.set reactorId
              { channel with completions := channel.completions ++ [completion] }
            pushed := pool.pushed ++ [(reactorId, completion)] }
  | _ => pool

/-- The counter after a `write` of one; a full counter stays as it is. -/
def signal (counter : Nat) : Nat := if counter < maxCounter then counter + 1 else counter

/-- The `write` of `publishCompletion`; one that is interrupted is made again. -/
def writeEvent (interrupted : Bool) : WorkerPool Work Completion :=
  match pool.workers[worker]? with
  | some (.pushed reactorId) =>
      if interrupted then pool
      else
        match pool.channels[reactorId]? with
        | none => { pool with workers := pool.workers.set worker .waiting }
        | some channel =>
            { pool with
              workers := pool.workers.set worker .waiting
              channels := pool.channels.set reactorId
                { channel with counter := signal channel.counter } }
  | _ => pool

end Workers

section Reactors

variable (pool : WorkerPool Work Completion) (reactor : Nat)

/-- A reactor calls `handleCompletions`. -/
def enterCompletions : WorkerPool Work Completion :=
  match pool.reactors[reactor]? with
  | some .outside => { pool with reactors := pool.reactors.set reactor .consuming }
  | _ => pool

/-- A `read` of `consumeCompletionEvent`: the counter is taken until there is none. -/
def readEvent (interrupted : Bool) : WorkerPool Work Completion :=
  match pool.reactors[reactor]?, pool.channels[reactor]? with
  | some .consuming, some channel =>
      if interrupted then pool
      else if channel.counter > 0 then
        { pool with channels := pool.channels.set reactor { channel with counter := 0 } }
      else { pool with reactors := pool.reactors.set reactor .popping }
  | _, _ => pool

/-- `popCompletion`; without a completion `handleCompletions` is left. -/
def popCompletion : WorkerPool Work Completion :=
  match pool.reactors[reactor]?, pool.channels[reactor]? with
  | some .popping, some channel =>
      match channel.completions with
      | [] => { pool with reactors := pool.reactors.set reactor .outside }
      | completion :: completions =>
          { pool with
            channels := pool.channels.set reactor { channel with completions := completions }
            popped := pool.popped ++ [(reactor, completion)] }
  | _, _ => pool

end Reactors

/-- A step of one of the threads. -/
inductive Step (Work Completion : Type) where
  | submit (reactorId : Nat) (work : Option Work)
  | take (worker : Nat)
  | run (worker : Nat) (result : Option Completion)
  | push (worker : Nat)
  | write (worker : Nat) (interrupted : Bool)
  | enter (reactor : Nat)
  | read (reactor : Nat) (interrupted : Bool)
  | pop (reactor : Nat)

def step (pool : WorkerPool Work Completion) : Step Work Completion → WorkerPool Work Completion
  | .submit reactorId work => (pool.submit reactorId work).2
  | .take worker => pool.takeJob worker
  | .run worker result => pool.runJob worker result
  | .push worker => pool.pushCompletion worker
  | .write worker interrupted => pool.writeEvent worker interrupted
  | .enter reactor => pool.enterCompletions reactor
  | .read reactor interrupted => pool.readEvent reactor interrupted
  | .pop reactor => pool.popCompletion reactor

end WorkerPool

end Aorta.Worker
