import Aorta.Worker.Sleepers

/-!
# What `stop` leaves behind

Once `stop` has been called no job is accepted any more, and no worker sleeps again after
it has been woken. Every step that a worker or the caller of `stop` can take brings the end
nearer, so it comes whatever the order of the threads, and by then every job that was ever
accepted was run.
-/

namespace Aorta.Worker

open Aorta.Library.Custody Aorta.Library.Progress Aorta.Library.Run

set_option autoImplicit false

variable {Work Completion : Type}

/-- How many steps a worker that has nothing more to do is from leaving. -/
def Stage.toGo : Stage → Nat
  | .asleep => 2
  | .running => 1
  | .ended => 0

theorem WorkerPhase.toGo_le (phase : WorkerPhase Work Completion) : phase.toGo ≤ 3 := by
  cases phase with
  | waiting => exact Nat.zero_le 3
  | taken job => exact Nat.le_refl 3
  | returned completion => exact Nat.le_succ 2
  | pushed reactorId => exact Nat.succ_le_succ (Nat.zero_le 2)

theorem Stage.toGo_le (stage : Stage) : stage.toGo ≤ 2 := by
  cases stage with
  | running => exact Nat.le_succ 1
  | asleep => exact Nat.le_refl 2
  | ended => exact Nat.zero_le 2

theorem Stage.notified_toGo (stage : Stage) : stage.notified.toGo ≤ stage.toGo := by
  cases stage with
  | running => exact Nat.le_refl 1
  | asleep => exact Nat.le_succ 1
  | ended => exact Nat.le_refl 0

/-- How many steps of its own `stop` still has to take. -/
def Stopper.toGo (workers channels : Nat) : Stopper → Nat
  | .outside => 0
  | .marked => channels + workers + 4
  | .joining worker => channels + (workers - worker) + 3
  | .clearing => channels + 2
  | .emptying reactorId => (channels - reactorId) + 1

namespace WorkerThreads

/-- Whose turn it is. -/
inductive Turn where
  | worker (worker : Nat)
  | stop

/-- The turns of the first workers and of the caller of `stop`. -/
def turns (workers : Nat) : Turn → Prop
  | .worker worker => worker < workers
  | .stop => True

/-- A `write` that is interrupted does not count. -/
def takes : Step Work Completion → Turn → Prop
  | .advance worker _ interrupted, .worker turn => worker = turn ∧ interrupted = false
  | .stop, .stop => True
  | _, _ => False

variable (threads : WorkerThreads Work Completion)

/-- How far `stop` is from its end. -/
def distance : Nat :=
  4 * threads.pool.jobs.length + weigh WorkerPhase.toGo threads.pool.workers +
    weigh Stage.toGo threads.stages +
    threads.stopper.toGo threads.stages.length threads.pool.channels.length

/-- Nothing has changed that decides who can take a step. -/
structure Still (before after : WorkerThreads Work Completion) : Prop where
  jobs : after.pool.jobs = before.pool.jobs
  workers : after.pool.workers = before.pool.workers
  stages : after.stages = before.stages
  stopper : after.stopper = before.stopper

section Moves

variable {threads} {after : WorkerThreads Work Completion}

theorem Move.stopping (move : Move threads after) (stops : threads.stopping = true) :
    after.stopping = true := by
  cases move with
  | marked outside going => rfl
  | _ => exact stops

theorem Move.workers_le (move : Move threads after) :
    after.pool.workers.length ≤ threads.pool.workers.length := by
  cases move with
  | took worker job jobs runs waits queued => exact List.length_set.le
  | ran worker job result runs here => exact List.length_set.le
  | handed worker old new next runs hands =>
      dsimp only
      rw [hands.workers]
      exact List.length_set.le
  | reacted next reacts => exact (congrArg List.length reacts.workers).le
  | left worker joining all => exact Nat.zero_le _
  | _ => exact Nat.le_refl _

/-- Every move after `stop` was called brings its end nearer, or is a reactor's. -/
theorem Move.nearer (move : Move threads after) (stops : threads.stopping = true) :
    after.distance < threads.distance ∨
      (Still threads after ∧ after.distance = threads.distance) := by
  unfold distance
  cases move with
  | idle => exact .inr ⟨⟨rfl, rfl, rfl, rfl⟩, rfl⟩
  | submitted reactorId work woken going manned known room =>
      rw [stops] at going
      cases going
  | slept worker runs waits going nothing =>
      rw [stops] at going
      cases going
  | ended worker runs waits stops' nothing =>
      have exchanged := weigh_set Stage.toGo runs .ended
      left
      dsimp only [Stage.toGo] at exchanged ⊢
      rw [List.length_set]
      omega
  | took worker job jobs runs waits queued =>
      have exchanged := weigh_set WorkerPhase.toGo waits (.taken job)
      left
      dsimp only [WorkerPhase.toGo] at exchanged ⊢
      rw [queued, List.length_cons]
      omega
  | ran worker job result runs here =>
      have exchanged := weigh_set WorkerPhase.toGo here
        (result.elim .waiting fun completion => .returned ⟨job, completion⟩)
      have fewer : (result.elim .waiting fun completion => .returned ⟨job, completion⟩ :
          WorkerPhase Work Completion).toGo ≤ 2 := by
        cases result with
        | none => exact Nat.zero_le 2
        | some completion => exact Nat.le_refl 2
      left
      rw [show (WorkerPhase.taken job : WorkerPhase Work Completion).toGo = 3 from rfl] at exchanged
      dsimp only
      omega
  | handed worker old new next runs hands =>
      have exchanged := weigh_set WorkerPhase.toGo hands.here new
      have nearer := hands.nearer
      left
      dsimp only
      rw [hands.workers, hands.same.jobs, hands.channels]
      omega
  | woke worker sleeps =>
      have exchanged := weigh_set Stage.toGo sleeps .running
      left
      dsimp only [Stage.toGo] at exchanged ⊢
      rw [List.length_set]
      omega
  | reacted next reacts =>
      right
      refine ⟨⟨reacts.same.jobs, reacts.workers, rfl, rfl⟩, ?_⟩
      dsimp only
      rw [reacts.same.jobs, reacts.workers, reacts.channels]
  | marked outside going =>
      rw [stops] at going
      cases going
  | notified marked =>
      have lighter := weigh_map_le Stage.toGo Stage.notified Stage.notified_toGo threads.stages
      left
      dsimp only [notifyAll, Stopper.toGo]
      rw [marked, List.length_map]
      dsimp only [Stopper.toGo]
      omega
  | joined worker joining ended =>
      have inside : worker < threads.stages.length := (List.getElem?_eq_some_iff.mp ended).1
      left
      dsimp only
      rw [joining]
      dsimp only [Stopper.toGo]
      omega
  | left worker joining all =>
      left
      rw [joining]
      rw [weigh_nil, weigh_nil]
      dsimp only [Stopper.toGo]
      omega
  | cleared clearing =>
      left
      rw [clearing]
      dsimp only [Stopper.toGo, List.length_nil]
      omega
  | emptied reactorId channel emptying open_ =>
      have inside : reactorId < threads.pool.channels.length :=
        (List.getElem?_eq_some_iff.mp open_).1
      left
      rw [emptying]
      dsimp only [Stopper.toGo]
      rw [List.length_set]
      omega
  | stopped reactorId emptying all =>
      left
      rw [emptying]
      dsimp only [Stopper.toGo]
      omega

end Moves

/-- Whether the thread whose turn it is can take a step. -/
def Enabled : Turn → Prop
  | .worker worker => threads.stages[worker]? = some .running
  | .stop => threads.stopper ≠ .outside ∧ ∀ worker, threads.stopper = .joining worker →
      ∀ stage, threads.stages[worker]? = some stage → stage = .ended

section Enabled

variable {threads}

/-- A worker that runs and finds something to do is in another phase after its turn. -/
theorem advance_changes_phase {worker : Nat} {phase : WorkerPhase Work Completion}
    (runs : threads.stages[worker]? = some .running)
    (here : threads.pool.workers[worker]? = some phase)
    (busy : threads.pool.jobs ≠ [] ∨ phase ≠ .waiting) (result : Option Completion) :
    (threads.advance worker result false).pool.workers[worker]? ≠ some phase := by
  intro same
  have inside : worker < threads.pool.workers.length := (List.getElem?_eq_some_iff.mp here).1
  unfold advance at same
  rw [runs, here] at same
  cases phase with
  | waiting =>
      rcases busy with some_ | works
      · obtain ⟨job, jobs, queued⟩ := List.exists_cons_of_ne_nil some_
        dsimp only [testJobs] at same
        rw [queued] at same
        simp [WorkerPool.takeJob, here, queued, List.getElem?_set_self inside] at same
      · exact works rfl
  | taken job =>
      dsimp only [WorkerPool.runJob] at same
      rw [here] at same
      cases result with
      | none => simp [List.getElem?_set_self inside] at same
      | some completion => simp [List.getElem?_set_self inside] at same
  | returned completion =>
      dsimp only at same
      obtain ⟨new, hands⟩ := push_hands here
      rw [hands.workers, List.getElem?_set_self inside] at same
      have nearer := hands.nearer
      rw [Option.some.inj same] at nearer
      exact Nat.lt_irrefl _ nearer
  | pushed reactorId =>
      dsimp only at same
      rw [(write_hands here).workers, List.getElem?_set_self inside] at same
      cases same

theorem Orderly.advance_moves_on (orderly : Orderly threads) (stops : threads.stopping = true)
    {worker : Nat} (runs : threads.stages[worker]? = some .running)
    (result : Option Completion) :
    ¬ Still threads (threads.advance worker result false) := by
  intro still
  have inside : worker < threads.stages.length := (List.getElem?_eq_some_iff.mp runs).1
  have matched := orderly.staffed.matched
  have here := List.getElem?_eq_getElem (show worker < threads.pool.workers.length by omega)
  by_cases busy : threads.pool.jobs ≠ [] ∨ threads.pool.workers[worker] ≠ .waiting
  · apply advance_changes_phase runs here busy result
    rw [still.workers]
    exact here
  · simp only [not_or, not_not] at busy
    obtain ⟨nothing, waits⟩ := busy
    rw [waits] at here
    have stages : (threads.advance worker result false).stages[worker]? = some .running := by
      rw [still.stages]
      exact runs
    unfold advance at stages
    rw [runs, here] at stages
    dsimp only [testJobs] at stages
    rw [stops, nothing] at stages
    simp [List.getElem?_set_self inside] at stages

theorem stop_moves_on (able : Enabled threads .stop) : ¬ Still threads threads.stop := by
  intro still
  have stopper := still.stopper
  unfold stop at stopper
  obtain ⟨away, joinable⟩ := able
  cases at_ : threads.stopper with
  | outside => exact away at_
  | marked =>
      rw [at_] at stopper
      cases stopper
  | joining worker =>
      rw [at_] at stopper
      dsimp only [join] at stopper
      cases found : threads.stages[worker]? with
      | none =>
          rw [found] at stopper
          cases stopper
      | some stage =>
          rw [found, joinable worker at_ stage found] at stopper
          dsimp only at stopper
          have same := Stopper.joining.inj stopper
          omega
  | clearing =>
      rw [at_] at stopper
      cases stopper
  | emptying reactorId =>
      rw [at_] at stopper
      dsimp only [emptyChannel] at stopper
      cases found : threads.pool.channels[reactorId]? with
      | none =>
          rw [found] at stopper
          cases stopper
      | some channel =>
          rw [found] at stopper
          dsimp only at stopper
          have same := Stopper.emptying.inj stopper
          omega

/-- As long as `stop` is not done, a worker runs or its caller can go on. -/
theorem Orderly.some_enabled (orderly : Orderly threads) (stops : threads.stopping = true)
    (far : 0 < threads.distance) :
    ∃ turn, turns threads.pool.workers.length turn ∧ Enabled threads turn := by
  by_cases away : threads.stopper = .outside
  · have gone : threads.stopper.gone threads.stopping = true := by
      rw [away, stops]
      rfl
    obtain ⟨unmanned, done⟩ := orderly.halting.gone gone
    have matched := orderly.staffed.matched
    rw [unmanned] at matched
    unfold distance at far
    rw [unmanned, done, List.length_eq_zero_iff.mp matched, away] at far
    exact absurd far (Nat.lt_irrefl 0)
  by_cases stuck : ∃ worker stage, threads.stopper = .joining worker ∧
      threads.stages[worker]? = some stage ∧ stage ≠ .ended
  · obtain ⟨worker, stage, joining, found, open_⟩ := stuck
    have inside : worker < threads.stages.length := (List.getElem?_eq_some_iff.mp found).1
    refine ⟨.worker worker, ?_, ?_⟩
    · rw [← orderly.staffed.matched]
      exact inside
    · cases stage with
      | running => exact found
      | asleep =>
          exact absurd (List.mem_of_getElem? found) (orderly.halting.awake worker joining)
      | ended => exact absurd rfl open_
  · refine ⟨.stop, trivial, away, ?_⟩
    intro worker joining stage found
    by_contra open_
    exact stuck ⟨worker, stage, joining, found, open_⟩

/-- A thread that can take a step can until it does, or the end is nearer. -/
theorem Move.stays {after : WorkerThreads Work Completion} (move : Move threads after)
    (stops : threads.stopping = true) {turn : Turn} (able : Enabled threads turn) :
    after.distance < threads.distance ∨ Enabled after turn := by
  rcases move.nearer stops with nearer | ⟨still, -⟩
  · exact .inl nearer
  · right
    cases turn with
    | worker worker =>
        change after.stages[worker]? = some .running
        rw [still.stages]
        exact able
    | stop =>
        obtain ⟨away, joinable⟩ := able
        refine ⟨by rw [still.stopper]; exact away, ?_⟩
        intro worker joining
        rw [still.stopper] at joining
        rw [still.stages]
        exact joinable worker joining

theorem turn_nearer (orderly : Orderly threads) (stops : threads.stopping = true)
    {next : Step Work Completion} {turn : Turn} (able : Enabled threads turn)
    (taken : takes next turn) : (threads.step next).distance < threads.distance := by
  rcases (threads.step_moves next).nearer stops with nearer | ⟨still, -⟩
  · exact nearer
  · exfalso
    cases turn with
    | worker worker =>
        cases next with
        | advance other result interrupted =>
            obtain ⟨same, whole⟩ := taken
            subst same whole
            exact orderly.advance_moves_on stops able result still
        | _ => exact taken
    | stop =>
        cases next with
        | stop => exact stop_moves_on able still
        | _ => exact taken

end Enabled

/-- `stop` was called, and no more workers are there than at that time. -/
structure Stopping (workers : Nat) : Prop where
  orderly : Orderly threads
  stops : threads.stopping = true
  few : threads.pool.workers.length ≤ workers

theorem stopping_advances (workers : Nat) :
    Advances (@step Work Completion) (fun threads => Stopping threads workers)
      distance Enabled takes (turns workers) where
  keeps threads next stopping :=
    ⟨threads.step_orderly next stopping.orderly,
      (threads.step_moves next).stopping stopping.stops,
      Nat.le_trans (threads.step_moves next).workers_le stopping.few⟩
  never_farther threads next stopping := by
    rcases (threads.step_moves next).nearer stopping.stops with nearer | ⟨-, same⟩
    · exact Nat.le_of_lt nearer
    · exact same.le
  some_enabled threads stopping far := by
    obtain ⟨turn, due, able⟩ := stopping.orderly.some_enabled stopping.stops far
    refine ⟨turn, ?_, able⟩
    cases turn with
    | worker worker => exact Nat.lt_of_lt_of_le due stopping.few
    | stop => trivial
  nearer threads next turn stopping able taken _ :=
    turn_nearer stopping.orderly stopping.stops able taken
  stays threads next turn stopping able _ :=
    (threads.step_moves next).stays stopping.stops able

variable {threads} in
theorem Orderly.distance_le (orderly : Orderly threads) :
    threads.distance ≤ 4 * WorkerPool.maxQueuedJobs + 6 * threads.pool.workers.length +
      threads.pool.channels.length + 4 := by
  have jobs : threads.pool.jobs.length ≤ WorkerPool.maxQueuedJobs := orderly.kept.custody.size
  have phases := weigh_le WorkerPhase.toGo WorkerPhase.toGo_le threads.pool.workers
  have stages := weigh_le Stage.toGo Stage.toGo_le threads.stages
  have matched := orderly.staffed.matched
  have own : threads.stopper.toGo threads.stages.length threads.pool.channels.length ≤
      threads.pool.channels.length + threads.stages.length + 4 := by
    cases threads.stopper with
    | outside => exact Nat.zero_le _
    | marked => exact Nat.le_refl _
    | joining worker =>
        dsimp only [Stopper.toGo]
        omega
    | clearing =>
        dsimp only [Stopper.toGo]
        omega
    | emptying reactorId =>
        dsimp only [Stopper.toGo]
        omega
  unfold distance
  omega

/-- `stop` ends, in whatever order the threads take their turns. -/
theorem stop_ends (reactorCount hardware requested : Nat) (eventfd : Nat → Bool)
    (steps : List (Step Work Completion)) (rounds : List (List (Step Work Completion))) :
    let threads := run step (create reactorCount hardware requested eventfd) steps
    threads.stopping = true →
    (∀ round ∈ rounds, Fair (turns threads.pool.workers.length) takes round) →
    4 * WorkerPool.maxQueuedJobs + 6 * threads.pool.workers.length +
      threads.pool.channels.length + 4 ≤ rounds.length →
    (run step threads rounds.flatten).stopper = .outside := by
  intro threads stops fair enough
  have orderly : Orderly threads := run_orderly reactorCount hardware requested eventfd steps
  have reached := (stopping_advances threads.pool.workers.length).rounds_end rounds fair
    ⟨orderly, stops, Nat.le_refl _⟩ (Nat.le_trans orderly.distance_le enough)
  generalize run step threads rounds.flatten = last at reached
  unfold distance at reached
  cases at_ : last.stopper with
  | outside => rfl
  | _ =>
      rw [at_] at reached
      dsimp only [Stopper.toGo] at reached
      omega

def stopWhileQueued : List (Step Nat Nat) := [.submit 0 (some 7) 0, .stop]

def everyTurn : List (Step Nat Nat) := [.advance 0 (some 5) false, .stop]

theorem stop_ends_while_queued :
    (run step (run step (create 1 4 1 fun _ => true) stopWhileQueued)
      (List.replicate 16395 everyTurn).flatten).stopper = .outside := by
  apply stop_ends 1 4 1 (fun _ => true) stopWhileQueued
  · decide
  · intro round member
    rw [List.eq_of_mem_replicate member]
    intro turn due
    cases turn with
    | worker worker =>
        have first : worker < 1 := due
        exact ⟨.advance 0 (some 5) false, List.mem_cons_self, by omega, rfl⟩
    | stop => exact ⟨.stop, List.mem_cons_of_mem _ List.mem_cons_self, trivial⟩
  · rw [List.length_replicate]
    decide

/-- `stop` clears an empty queue, and when it is done every accepted job was run once and
every completion was popped or discarded. -/
theorem stop_runs_every_job (reactorCount hardware requested : Nat) (eventfd : Nat → Bool)
    (steps : List (Step Work Completion)) :
    let threads := run step (create reactorCount hardware requested eventfd) steps
    (threads.stopper = .clearing → threads.pool.jobs = []) ∧
    (threads.stopping = true → threads.stopper = .outside →
      (threads.pool.ran.map Prod.fst).Perm threads.pool.accepted ∧
      ((threads.discarded ++ threads.pool.popped).map Prod.snd).Perm
        (threads.pool.ran.filterMap WorkerPool.returnedBy) ∧
      ∀ channel ∈ threads.pool.channels, channel.completions = []) := by
  intro threads
  have orderly : Orderly threads := run_orderly reactorCount hardware requested eventfd steps
  have custody := orderly.kept.custody
  constructor
  · intro clearing
    have gone : threads.stopper.gone threads.stopping = true := by
      rw [clearing]
      rfl
    exact (orderly.halting.gone gone).2
  · intro stops outside
    have gone : threads.stopper.gone threads.stopping = true := by
      rw [outside, stops]
      rfl
    obtain ⟨unmanned, done⟩ := orderly.halting.gone gone
    have empty : ∀ channel ∈ threads.pool.channels, channel.completions = [] := by
      intro channel member
      obtain ⟨reactorId, found⟩ := List.mem_iff_getElem?.mp member
      apply orderly.halting.emptied reactorId channel found
      rw [outside, stops]
      rfl
    have jobs : (threads.pool.jobs : Multiset (Job Work)) +
        held WorkerPhase.job threads.pool.workers +
        (threads.pool.ran.map Prod.fst : List (Job Work)) = threads.pool.accepted := custody.jobs
    have returned : held WorkerPhase.completion threads.pool.workers +
        (threads.pool.pushed.map Prod.snd : List (Returned Work Completion)) =
        threads.pool.ran.filterMap WorkerPool.returnedBy := custody.returned
    have channels : ((threads.discarded ++ threads.pool.popped).map Prod.snd :
        Multiset (Returned Work Completion)) +
        held CompletionChannel.completions threads.pool.channels =
        (threads.pool.pushed.map Prod.snd : List _) := custody.channels
    refine ⟨?_, ?_, empty⟩
    · rw [done, unmanned, Multiset.coe_nil, zero_add] at jobs
      exact Multiset.coe_eq_coe.mp ((zero_add _).symm.trans jobs)
    · have drained : held CompletionChannel.completions threads.pool.channels = 0 := by
        unfold held
        rw [List.flatMap_eq_nil_iff.mpr empty]
        rfl
      rw [drained, add_zero] at channels
      rw [unmanned] at returned
      apply Multiset.coe_eq_coe.mp
      rw [channels]
      exact (zero_add _).symm.trans returned

/-- A job and its completion while `stop` waits for the worker. -/
def stopAndDrain : List (Step Nat Nat) :=
  [.submit 0 (some 7) 0, .stop, .stop, .advance 0 none false, .advance 0 (some 5) false,
    .advance 0 none false, .stop, .advance 0 none false, .advance 0 none false, .stop, .stop,
    .stop, .stop, .stop]

theorem stop_runs_the_queued_job :
    let threads := run step (create 1 4 1 fun _ => true) stopAndDrain
    threads.stopping = true ∧ threads.stopper = .outside ∧
      (threads.pool.ran.map Prod.fst).Perm threads.pool.accepted ∧
      threads.pool.accepted = [⟨0, 0, 7⟩] := by
  intro threads
  have stops : threads.stopping = true := by decide
  have outside : threads.stopper = .outside := by decide
  have all := (stop_runs_every_job 1 4 1 (fun _ => true) stopAndDrain).2 stops outside
  exact ⟨stops, outside, all.1, by decide⟩

end WorkerThreads

end Aorta.Worker
