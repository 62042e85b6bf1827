import Aorta.Worker.WorkerPool

/-!
# The threads of a `WorkerPool`

A worker tests, under `jobs_mutex`, whether there is anything for it, and sleeps on
`jobs_condition` where there is nothing. `submit` wakes one sleeper, `stop` all of them,
and the kernel any of them at any time. The thread that calls `stop` joins the workers
before it clears what is left.

Which sleeper `notify_one` wakes is an argument of `submit`. What `stop` takes out of the
channels is no part of the program.
-/

namespace Aorta.Worker

set_option autoImplicit false

/-- Whether a worker runs, sleeps on `jobs_condition`, or has left `workerLoop`. -/
inductive Stage where
  | running
  | asleep
  | ended
deriving DecidableEq, Repr

def Stage.notified : Stage → Stage
  | .asleep => .running
  | stage => stage

/-- Where the thread that calls `stop` is. -/
inductive Stopper where
  | outside
  | marked
  | joining (worker : Nat)
  | clearing
  | emptying (reactorId : Nat)
deriving DecidableEq, Repr

structure WorkerThreads (Work Completion : Type) where
  pool : WorkerPool Work Completion
  stages : List Stage
  stopping : Bool := false
  stopper : Stopper := .outside
  discarded : List (Nat × Returned Work Completion) := []
deriving DecidableEq, Repr

namespace WorkerThreads

variable {Work Completion : Type}

/-- The number of workers where none is asked for is half the hardware's threads. -/
def workerCount (hardware requested : Nat) : Nat :=
  if requested = 0 then if hardware = 0 then 1 else max 1 (hardware / 2) else requested

/-- The constructor; without an `eventfd` for every reactor there are no channels and no
workers. -/
def create (reactorCount hardware requested : Nat) (eventfd : Nat → Bool) :
    WorkerThreads Work Completion :=
  if (List.range reactorCount).all eventfd then
    { pool := WorkerPool.create reactorCount (workerCount hardware requested)
      stages := List.replicate (workerCount hardware requested) .running }
  else
    { pool := { WorkerPool.create reactorCount 0 with channels := [] }
      stages := [] }

/-- `notify_one`; the kernel wakes a sleeper of its choice. -/
def notifyOne (stages : List Stage) (woken : Nat) : List Stage :=
  if stages[woken]? = some .asleep then stages.set woken .running
  else stages.set (stages.idxOf .asleep) .running

def notifyAll (stages : List Stage) : List Stage := stages.map Stage.notified

variable (threads : WorkerThreads Work Completion)

def submit (reactorId : Nat) (work : Option Work) (woken : Nat) :
    Bool × WorkerThreads Work Completion :=
  if threads.stopping then (false, threads)
  else
    let (submitted, pool) := threads.pool.submit reactorId work
    if submitted then
      (true, { threads with pool := pool, stages := notifyOne threads.stages woken })
    else (false, threads)

/-- What a worker does while it holds `jobs_mutex`. -/
def testJobs (worker : Nat) : WorkerThreads Work Completion :=
  if !(threads.stopping || !threads.pool.jobs.isEmpty) then
    { threads with stages := threads.stages.set worker .asleep }
  else if threads.stopping && threads.pool.jobs.isEmpty then
    { threads with stages := threads.stages.set worker .ended }
  else { threads with pool := threads.pool.takeJob worker }

/-- A worker goes on from where it is. -/
def advance (worker : Nat) (result : Option Completion) (interrupted : Bool) :
    WorkerThreads Work Completion :=
  match threads.stages[worker]?, threads.pool.workers[worker]? with
  | some .running, some .waiting => threads.testJobs worker
  | some .running, some (.taken _) =>
      { threads with pool := threads.pool.runJob worker result }
  | some .running, some (.returned _) =>
      { threads with pool := threads.pool.pushCompletion worker }
  | some .running, some (.pushed _) =>
      { threads with pool := threads.pool.writeEvent worker interrupted }
  | _, _ => threads

/-- A wake-up that no one asked for. -/
def wake (worker : Nat) : WorkerThreads Work Completion :=
  if threads.stages[worker]? = some .asleep then
    { threads with stages := threads.stages.set worker .running }
  else threads

/-- A worker that has left `workerLoop` can be joined; once all are, they are gone. -/
def join (worker : Nat) : WorkerThreads Work Completion :=
  match threads.stages[worker]? with
  | some .ended => { threads with stopper := .joining (worker + 1) }
  | some _ => threads
  | none =>
      { threads with
        pool := { threads.pool with workers := [] }
        stages := []
        stopper := .clearing }

/-- `stop` clears the completions of a channel, then of the next. -/
def emptyChannel (reactorId : Nat) : WorkerThreads Work Completion :=
  match threads.pool.channels[reactorId]? with
  | none => { threads with stopper := .outside }
  | some channel =>
      { threads with
        pool := { threads.pool with
          channels := threads.pool.channels.set reactorId { channel with completions := [] } }
        stopper := .emptying (reactorId + 1)
        discarded := threads.discarded ++
          channel.completions.map fun completion => (reactorId, completion) }

/-- The thread that calls `stop` goes on from where it is; a second `stop` returns. -/
def stop : WorkerThreads Work Completion :=
  match threads.stopper with
  | .outside =>
      if threads.stopping then threads
      else { threads with stopping := true, stopper := .marked }
  | .marked =>
      { threads with stages := notifyAll threads.stages, stopper := .joining 0 }
  | .joining worker => threads.join worker
  | .clearing =>
      { threads with pool := { threads.pool with jobs := [] }, stopper := .emptying 0 }
  | .emptying reactorId => threads.emptyChannel reactorId

/-- A step of one of the threads, or of the kernel. -/
inductive Step (Work Completion : Type) where
  | submit (reactorId : Nat) (work : Option Work) (woken : Nat)
  | advance (worker : Nat) (result : Option Completion) (interrupted : Bool)
  | wake (worker : Nat)
  | stop
  | enter (reactor : Nat)
  | read (reactor : Nat) (interrupted : Bool)
  | pop (reactor : Nat)

def step (threads : WorkerThreads Work Completion) :
    Step Work Completion → WorkerThreads Work Completion
  | .submit reactorId work woken => (threads.submit reactorId work woken).2
  | .advance worker result interrupted => threads.advance worker result interrupted
  | .wake worker => threads.wake worker
  | .stop => threads.stop
  | .enter reactor => { threads with pool := threads.pool.enterCompletions reactor }
  | .read reactor interrupted =>
      { threads with pool := threads.pool.readEvent reactor interrupted }
  | .pop reactor => { threads with pool := threads.pool.popCompletion reactor }

end WorkerThreads

end Aorta.Worker
