import Aorta.Worker.Completions
import Aorta.Worker.WorkerThreads

/-!
# What a step of the threads does

Every step is one of a few moves. A worker that runs takes a job, runs it, and hands its
completion over; what a reactor does leaves the jobs and the workers as they are; and the
thread that calls `stop` goes through its phases in order.
-/

namespace Aorta.Worker

set_option autoImplicit false

variable {Work Completion : Type}

/-- How many steps a worker has to take before it waits again. -/
def WorkerPhase.toGo : WorkerPhase Work Completion → Nat
  | .waiting => 0
  | .taken _ => 3
  | .returned _ => 2
  | .pushed _ => 1

namespace WorkerThreads

/-- The jobs are where they were. -/
structure SameJobs (before after : WorkerPool Work Completion) : Prop where
  jobs : after.jobs = before.jobs
  accepted : after.accepted = before.accepted
  ran : after.ran = before.ran

/-- The channels hold what they held, or less. -/
def Emptier (before after : WorkerPool Work Completion) : Prop :=
  ∀ (reactorId : Nat) (channel : CompletionChannel Work Completion),
    after.channels[reactorId]? = some channel → ∃ earlier, before.channels[reactorId]? =
      some earlier ∧ channel.completions <:+ earlier.completions

/-- A worker that runs takes a step outside `jobs_mutex`. -/
structure Handed (before : WorkerPool Work Completion) (worker : Nat)
    (old new : WorkerPhase Work Completion) (after : WorkerPool Work Completion) : Prop where
  here : before.workers[worker]? = some old
  change : WorkerPool.Change before after
  same : SameJobs before after
  workers : after.workers = before.workers.set worker new
  channels : after.channels.length = before.channels.length
  free : old.job = [] ∧ new.job = []
  nearer : new.toGo < old.toGo

structure Reacted (before after : WorkerPool Work Completion) : Prop where
  change : WorkerPool.Change before after
  same : SameJobs before after
  workers : after.workers = before.workers
  channels : after.channels.length = before.channels.length
  emptier : Emptier before after

/-- What a step does. -/
inductive Move (threads : WorkerThreads Work Completion) : WorkerThreads Work Completion → Prop
  | idle : Move threads threads
  | submitted (reactorId : Nat) (work : Work) (woken : Nat) (going : threads.stopping = false)
      (manned : threads.pool.workers ≠ []) (known : reactorId < threads.pool.channels.length)
      (room : threads.pool.jobs.length < WorkerPool.maxQueuedJobs) :
      Move threads { threads with
        pool := { threads.pool with
          jobs := threads.pool.jobs ++ [⟨threads.pool.accepted.length, reactorId, work⟩]
          accepted := threads.pool.accepted ++ [⟨threads.pool.accepted.length, reactorId, work⟩] }
        stages := notifyOne threads.stages woken }
  | slept (worker : Nat) (runs : threads.stages[worker]? = some .running)
      (waits : threads.pool.workers[worker]? = some .waiting) (going : threads.stopping = false)
      (nothing : threads.pool.jobs = []) :
      Move threads { threads with stages := threads.stages.set worker .asleep }
  | ended (worker : Nat) (runs : threads.stages[worker]? = some .running)
      (waits : threads.pool.workers[worker]? = some .waiting) (stops : threads.stopping = true)
      (nothing : threads.pool.jobs = []) :
      Move threads { threads with stages := threads.stages.set worker .ended }
  | took (worker : Nat) (job : Job Work) (jobs : List (Job Work))
      (runs : threads.stages[worker]? = some .running)
      (waits : threads.pool.workers[worker]? = some .waiting)
      (queued : threads.pool.jobs = job :: jobs) :
      Move threads { threads with
        pool := { threads.pool with
          jobs := jobs, workers := threads.pool.workers.set worker (.taken job) } }
  | ran (worker : Nat) (job : Job Work) (result : Option Completion)
      (runs : threads.stages[worker]? = some .running)
      (here : threads.pool.workers[worker]? = some (.taken job)) :
      Move threads { threads with
        pool := { threads.pool with
          workers := threads.pool.workers.set worker
            (result.elim .waiting fun completion => .returned ⟨job, completion⟩)
          ran := threads.pool.ran ++ [(job, result)] } }
  | handed (worker : Nat) (old new : WorkerPhase Work Completion)
      (after : WorkerPool Work Completion) (runs : threads.stages[worker]? = some .running)
      (hands : Handed threads.pool worker old new after) :
      Move threads { threads with pool := after }
  | woke (worker : Nat) (sleeps : threads.stages[worker]? = some .asleep) :
      Move threads { threads with stages := threads.stages.set worker .running }
  | reacted (after : WorkerPool Work Completion) (reacts : Reacted threads.pool after) :
      Move threads { threads with pool := after }
  | marked (outside : threads.stopper = .outside) (going : threads.stopping = false) :
      Move threads { threads with stopping := true, stopper := .marked }
  | notified (marked : threads.stopper = .marked) :
      Move threads { threads with stages := notifyAll threads.stages, stopper := .joining 0 }
  | joined (worker : Nat) (joining : threads.stopper = .joining worker)
      (ended : threads.stages[worker]? = some .ended) :
      Move threads { threads with stopper := .joining (worker + 1) }
  | left (worker : Nat) (joining : threads.stopper = .joining worker)
      (all : threads.stages[worker]? = none) :
      Move threads { threads with
        pool := { threads.pool with workers := [] }, stages := [], stopper := .clearing }
  | cleared (clearing : threads.stopper = .clearing) :
      Move threads { threads with
        pool := { threads.pool with jobs := [] }, stopper := .emptying 0 }
  | emptied (reactorId : Nat) (channel : CompletionChannel Work Completion)
      (emptying : threads.stopper = .emptying reactorId)
      (open_ : threads.pool.channels[reactorId]? = some channel) :
      Move threads { threads with
        pool := { threads.pool with
          channels := threads.pool.channels.set reactorId { channel with completions := [] } }
        stopper := .emptying (reactorId + 1)
        discarded := threads.discarded ++
          channel.completions.map fun completion => (reactorId, completion) }
  | stopped (reactorId : Nat) (emptying : threads.stopper = .emptying reactorId)
      (all : threads.pool.channels[reactorId]? = none) :
      Move threads { threads with stopper := .outside }

section Moves

variable (pool : WorkerPool Work Completion)

theorem submit_accepted {reactorId : Nat} {work : Option Work}
    (accepted : (pool.submit reactorId work).1 = true) :
    ∃ given, work = some given ∧ reactorId < pool.channels.length ∧ pool.workers ≠ [] ∧
      pool.jobs.length < WorkerPool.maxQueuedJobs ∧
      (pool.submit reactorId work).2 = { pool with
        jobs := pool.jobs ++ [⟨pool.accepted.length, reactorId, given⟩]
        accepted := pool.accepted ++ [⟨pool.accepted.length, reactorId, given⟩] } := by
  unfold WorkerPool.submit at accepted ⊢
  cases work with
  | none => cases accepted
  | some given =>
      dsimp only at accepted ⊢
      split_ifs at accepted ⊢ with unknown full
      simp only [Bool.or_eq_true, decide_eq_true_eq, not_or] at full
      obtain ⟨manned, room⟩ := full
      refine ⟨given, rfl, Nat.lt_of_not_le unknown, ?_, Nat.lt_of_not_le room, rfl⟩
      intro unmanned
      rw [unmanned] at manned
      exact manned rfl

variable {pool} in
theorem push_hands {worker : Nat} {completion : Returned Work Completion}
    (here : pool.workers[worker]? = some (.returned completion)) :
    ∃ new, Handed pool worker (.returned completion) new (pool.pushCompletion worker) := by
  have change := WorkerPool.step_changes pool (.push worker)
  dsimp only [WorkerPool.step] at change
  cases found : pool.channels[completion.job.reactorId]? with
  | none =>
      refine ⟨.waiting, here, change, ?_, ?_, ?_, ⟨rfl, rfl⟩, Nat.zero_lt_succ 1⟩
      · simp only [WorkerPool.pushCompletion, here, found]
        exact ⟨rfl, rfl, rfl⟩
      · simp only [WorkerPool.pushCompletion, here, found]
      · simp only [WorkerPool.pushCompletion, here, found]
  | some channel =>
      refine ⟨.pushed completion.job.reactorId, here, change, ?_, ?_, ?_, ⟨rfl, rfl⟩, ?_⟩
      · simp only [WorkerPool.pushCompletion, here, found]
        exact ⟨rfl, rfl, rfl⟩
      · simp only [WorkerPool.pushCompletion, here, found]
      · simp only [WorkerPool.pushCompletion, here, found, List.length_set]
      · exact Nat.lt_succ_self 1

variable {pool} in
theorem write_hands {worker reactorId : Nat}
    (here : pool.workers[worker]? = some (.pushed reactorId)) :
    Handed pool worker (.pushed reactorId) .waiting (pool.writeEvent worker false) := by
  have change := WorkerPool.step_changes pool (.write worker false)
  dsimp only [WorkerPool.step] at change
  cases found : pool.channels[reactorId]? with
  | none =>
      refine ⟨here, change, ?_, ?_, ?_, ⟨rfl, rfl⟩, Nat.zero_lt_one⟩
      · simp only [WorkerPool.writeEvent, here, found]
        exact ⟨rfl, rfl, rfl⟩
      · simp only [WorkerPool.writeEvent, here, found]
        rfl
      · simp only [WorkerPool.writeEvent, here, found]
        rfl
  | some channel =>
      refine ⟨here, change, ?_, ?_, ?_, ⟨rfl, rfl⟩, Nat.zero_lt_one⟩
      · simp only [WorkerPool.writeEvent, here, found]
        exact ⟨rfl, rfl, rfl⟩
      · simp only [WorkerPool.writeEvent, here, found]
        rfl
      · simp only [WorkerPool.writeEvent, here, found]
        exact List.length_set

variable {pool} in
theorem emptier_refl : Emptier pool pool := by
  intro reactorId channel open_
  exact ⟨channel, open_, List.suffix_refl _⟩

variable {pool} in
theorem emptier_set {reactorId : Nat} {old : CompletionChannel Work Completion}
    (open_ : pool.channels[reactorId]? = some old) {new : CompletionChannel Work Completion}
    (fewer : new.completions <:+ old.completions) (after : WorkerPool Work Completion)
    (channels : after.channels = pool.channels.set reactorId new) : Emptier pool after := by
  intro other channel found
  rw [channels, List.getElem?_set] at found
  split_ifs at found with same
  · cases found
    subst same
    exact ⟨old, open_, fewer⟩
  · exact ⟨channel, found, List.suffix_refl _⟩

theorem enter_reacts (reactor : Nat) : Reacted pool (pool.enterCompletions reactor) := by
  have change := WorkerPool.step_changes pool (.enter reactor)
  dsimp only [WorkerPool.step] at change
  have frame : (pool.enterCompletions reactor).channels = pool.channels ∧
      SameJobs pool (pool.enterCompletions reactor) ∧
      (pool.enterCompletions reactor).workers = pool.workers := by
    unfold WorkerPool.enterCompletions
    split
    · exact ⟨rfl, ⟨rfl, rfl, rfl⟩, rfl⟩
    · exact ⟨rfl, ⟨rfl, rfl, rfl⟩, rfl⟩
  obtain ⟨channels, same, workers⟩ := frame
  refine ⟨change, same, workers, by rw [channels], ?_⟩
  intro other channel open_
  rw [channels] at open_
  exact ⟨channel, open_, List.suffix_refl _⟩

theorem reacted_self : Reacted pool pool :=
  ⟨.idle, ⟨rfl, rfl, rfl⟩, rfl, rfl, emptier_refl⟩

theorem read_reacts (reactor : Nat) (interrupted : Bool) :
    Reacted pool (pool.readEvent reactor interrupted) := by
  have change := WorkerPool.step_changes pool (.read reactor interrupted)
  dsimp only [WorkerPool.step] at change
  unfold WorkerPool.readEvent at change ⊢
  split at change
  · rename_i channel here open_
    split_ifs at change ⊢
    · exact reacted_self pool
    · have same : ({ channel with counter := 0 } : CompletionChannel Work Completion).completions
          <:+ channel.completions := List.suffix_refl _
      exact ⟨change, ⟨rfl, rfl, rfl⟩, rfl, List.length_set, emptier_set open_ same _ rfl⟩
    · exact ⟨change, ⟨rfl, rfl, rfl⟩, rfl, rfl, emptier_refl⟩
  · exact reacted_self pool

theorem pop_reacts (reactor : Nat) : Reacted pool (pool.popCompletion reactor) := by
  have change := WorkerPool.step_changes pool (.pop reactor)
  dsimp only [WorkerPool.step] at change
  unfold WorkerPool.popCompletion at change ⊢
  split at change
  · rename_i channel here open_
    split at change
    · exact ⟨change, ⟨rfl, rfl, rfl⟩, rfl, rfl, emptier_refl⟩
    · rename_i completion completions queued
      have fewer : completions <:+ channel.completions := by
        rw [queued]
        exact List.suffix_cons completion completions
      exact ⟨change, ⟨rfl, rfl, rfl⟩, rfl, List.length_set, emptier_set open_ fewer _ rfl⟩
  · exact reacted_self pool

end Moves

section Steps

variable (threads : WorkerThreads Work Completion)

theorem submit_moves (reactorId : Nat) (work : Option Work) (woken : Nat) :
    Move threads (threads.submit reactorId work woken).2 := by
  unfold submit
  split_ifs with stops
  · exact .idle
  · cases submitted : (threads.pool.submit reactorId work).1 with
    | false =>
        simp only [submitted]
        exact .idle
    | true =>
        obtain ⟨given, -, known, manned, room, pool⟩ := submit_accepted threads.pool submitted
        simp only [submitted, if_true, pool]
        exact .submitted reactorId given woken (Bool.eq_false_iff.mpr stops) manned known room

theorem test_moves {worker : Nat} (runs : threads.stages[worker]? = some .running)
    (waits : threads.pool.workers[worker]? = some .waiting) :
    Move threads (threads.testJobs worker) := by
  unfold testJobs
  split_ifs with nothing all
  · simp only [Bool.not_eq_true', Bool.or_eq_false_iff, Bool.not_eq_false',
      List.isEmpty_iff] at nothing
    exact .slept worker runs waits nothing.1 nothing.2
  · simp only [Bool.and_eq_true, List.isEmpty_iff] at all
    exact .ended worker runs waits all.1 all.2
  · cases queued : threads.pool.jobs with
    | nil =>
        rw [queued] at nothing all
        cases stops : threads.stopping with
        | false =>
            rw [stops] at nothing
            exact absurd rfl nothing
        | true =>
            rw [stops] at all
            exact absurd rfl all
    | cons job jobs =>
        have taken : threads.pool.takeJob worker = { threads.pool with
            jobs := jobs, workers := threads.pool.workers.set worker (.taken job) } := by
          unfold WorkerPool.takeJob
          rw [waits, queued]
        rw [taken]
        exact .took worker job jobs runs waits queued

theorem advance_moves (worker : Nat) (result : Option Completion) (interrupted : Bool) :
    Move threads (threads.advance worker result interrupted) := by
  unfold advance
  split
  · rename_i runs waits
    exact threads.test_moves runs waits
  · rename_i job runs here
    have moves := Move.ran worker job result runs here
    unfold WorkerPool.runJob
    rw [here]
    cases result with
    | none => exact moves
    | some completion => exact moves
  · rename_i completion runs here
    obtain ⟨new, hands⟩ := push_hands here
    exact .handed worker _ new _ runs hands
  · rename_i reactorId runs here
    cases interrupted with
    | true =>
        have same : threads.pool.writeEvent worker true = threads.pool := by
          unfold WorkerPool.writeEvent
          rw [here]
          rfl
        rw [same]
        exact .idle
    | false => exact .handed worker _ _ _ runs (write_hands here)
  · exact .idle

theorem join_moves {worker : Nat} (joining : threads.stopper = .joining worker) :
    Move threads (threads.join worker) := by
  unfold join
  split
  · rename_i ended
    exact .joined worker joining ended
  · exact .idle
  · rename_i all
    exact .left worker joining all

theorem empty_moves {reactorId : Nat} (emptying : threads.stopper = .emptying reactorId) :
    Move threads (threads.emptyChannel reactorId) := by
  unfold emptyChannel
  split
  · rename_i all
    exact .stopped reactorId emptying all
  · rename_i channel open_
    exact .emptied reactorId channel emptying open_

theorem stop_moves : Move threads threads.stop := by
  unfold stop
  split
  · rename_i outside
    split_ifs with stops
    · exact .idle
    · exact .marked outside (Bool.eq_false_iff.mpr stops)
  · rename_i marked
    exact .notified marked
  · rename_i worker joining
    exact threads.join_moves joining
  · rename_i clearing
    exact .cleared clearing
  · rename_i reactorId emptying
    exact threads.empty_moves emptying

theorem step_moves (next : Step Work Completion) : Move threads (threads.step next) := by
  cases next with
  | submit reactorId work woken => exact threads.submit_moves reactorId work woken
  | advance worker result interrupted => exact threads.advance_moves worker result interrupted
  | wake worker =>
      simp only [step, wake]
      split_ifs with sleeps
      · exact .woke worker sleeps
      · exact .idle
  | stop => exact threads.stop_moves
  | enter reactor => exact .reacted _ (enter_reacts threads.pool reactor)
  | read reactor interrupted => exact .reacted _ (read_reacts threads.pool reactor interrupted)
  | pop reactor => exact .reacted _ (pop_reacts threads.pool reactor)

end Steps

end WorkerThreads

end Aorta.Worker
