import Aorta.Worker.Shutdown

/-!
# No job starves

The queue is first in, first out, and as long as a job is in it some worker runs. So every
accepted job is run after a number of turns that depends on the size of the queue and the
number of workers only, whatever is submitted meanwhile and whether or not `stop` is called.
-/

namespace Aorta.Worker

open Aorta.Library.Custody Aorta.Library.Progress Aorta.Library.Run

set_option autoImplicit false

variable {Work Completion : Type}

namespace WorkerThreads

variable (threads : WorkerThreads Work Completion) (number : Nat)

def Queued : Prop := number ∈ threads.pool.jobs.map Job.number

def HasRun : Prop := number ∈ threads.pool.ran.map fun entry => entry.1.number

instance decidableQueued : Decidable (Queued threads number) :=
  inferInstanceAs (Decidable (_ ∈ _))

instance decidableHasRun : Decidable (HasRun threads number) :=
  inferInstanceAs (Decidable (_ ∈ _))

/-- How far a job is from having been run. -/
def untilRun : Nat :=
  if Queued threads number then
    4 * ((threads.pool.jobs.map Job.number).idxOf number + 1) +
      weigh WorkerPhase.toGo threads.pool.workers
  else if HasRun threads number then 0 else 1

section Moves

variable {threads number} {after : WorkerThreads Work Completion}

theorem Kept.numbers_nodup (kept : Kept threads) :
    (threads.pool.jobs.map Job.number).Nodup := by
  have numbers : threads.pool.accepted.map Job.number = List.range threads.pool.accepted.length :=
    kept.custody.numbers
  have all : (threads.pool.accepted.map Job.number).Nodup := by
    rw [numbers]
    exact List.nodup_range
  exact all.sublist (kept.ordered.sublist.map Job.number)

theorem untilRun_queued (queued : Queued threads number) :
    untilRun threads number = 4 * ((threads.pool.jobs.map Job.number).idxOf number + 1) +
      weigh WorkerPhase.toGo threads.pool.workers := if_pos queued

theorem untilRun_taken (taken : ¬ Queued threads number) : untilRun threads number ≤ 1 := by
  unfold untilRun
  rw [if_neg taken]
  split_ifs
  · exact Nat.zero_le 1
  · exact Nat.le_refl 1

theorem untilRun_workers (queued : Queued threads number) (later : List (Job Work))
    (jobs : after.pool.jobs = threads.pool.jobs ++ later) :
    Queued after number ∧ untilRun after number + weigh WorkerPhase.toGo threads.pool.workers =
      untilRun threads number + weigh WorkerPhase.toGo after.pool.workers := by
  have still : Queued after number := by
    unfold Queued
    rw [jobs, List.map_append]
    exact List.mem_append_left _ queued
  refine ⟨still, ?_⟩
  rw [untilRun_queued queued, untilRun_queued still, jobs, List.map_append,
    List.idxOf_append_of_mem queued]
  omega

theorem untilRun_same (queued : Queued threads number) (later : List (Job Work))
    (jobs : after.pool.jobs = threads.pool.jobs ++ later)
    (workers : after.pool.workers = threads.pool.workers) :
    Queued after number ∧ untilRun after number = untilRun threads number := by
  obtain ⟨still, exchanged⟩ := untilRun_workers queued later jobs
  rw [workers] at exchanged
  exact ⟨still, by omega⟩

theorem untilRun_nearer (queued : Queued threads number) {worker : Nat}
    {old new : WorkerPhase Work Completion} (here : threads.pool.workers[worker]? = some old)
    (jobs : after.pool.jobs = threads.pool.jobs)
    (workers : after.pool.workers = threads.pool.workers.set worker new)
    (nearer : new.toGo < old.toGo) : untilRun after number < untilRun threads number := by
  obtain ⟨still, exchanged⟩ := untilRun_workers queued [] (by rw [jobs, List.append_nil])
  have weights := weigh_set WorkerPhase.toGo here new
  rw [workers] at exchanged
  omega

theorem untilRun_left (taken : ¬ Queued threads number) (still : ¬ Queued after number)
    (ran : HasRun threads number → HasRun after number) :
    untilRun after number ≤ untilRun threads number := by
  unfold untilRun
  rw [if_neg taken, if_neg still]
  by_cases already : HasRun threads number
  · rw [if_pos already, if_pos (ran already)]
  · rw [if_neg already]
    split_ifs
    · exact Nat.zero_le 1
    · exact Nat.le_refl 1

theorem Move.took_head (kept : Kept threads) {worker : Nat} {job : Job Work}
    {jobs : List (Job Work)} (waits : threads.pool.workers[worker]? = some .waiting)
    (queued : threads.pool.jobs = job :: jobs) (here : Queued threads number) :
    untilRun ({ threads with pool := { threads.pool with
        jobs := jobs, workers := threads.pool.workers.set worker (.taken job) } } :
      WorkerThreads Work Completion) number < untilRun threads number := by
  have exchanged := weigh_set WorkerPhase.toGo waits (.taken job)
  have nodup := kept.numbers_nodup
  rw [untilRun_queued here]
  rw [queued, List.map_cons] at nodup ⊢
  unfold Queued at here
  rw [queued, List.map_cons] at here
  by_cases first : number = job.number
  · subst first
    have gone : ¬ Queued ({ threads with pool := { threads.pool with
        jobs := jobs, workers := threads.pool.workers.set worker (.taken job) } } :
        WorkerThreads Work Completion) job.number := (List.nodup_cons.mp nodup).1
    have little := untilRun_taken gone
    omega
  · have later : number ∈ jobs.map Job.number := by
      rcases List.mem_cons.mp here with same | later
      · exact absurd same first
      · exact later
    have still : Queued ({ threads with pool := { threads.pool with
        jobs := jobs, workers := threads.pool.workers.set worker (.taken job) } } :
        WorkerThreads Work Completion) number := later
    have away : job.number ≠ number := fun same => first same.symm
    rw [untilRun_queued still, List.idxOf_cons_ne _ away]
    dsimp only [WorkerPhase.toGo] at exchanged ⊢
    omega

theorem Move.queue_moves (move : Move threads after) (orderly : Orderly threads)
    (here : Queued threads number) :
    untilRun after number < untilRun threads number ∨
      (after.pool.workers = threads.pool.workers ∧ Queued after number ∧
        untilRun after number = untilRun threads number) := by
  have some_ : threads.pool.jobs ≠ [] := by
    intro nothing
    unfold Queued at here
    rw [nothing] at here
    cases here
  have same := List.append_nil threads.pool.jobs
  cases move with
  | idle => exact .inr ⟨rfl, here, rfl⟩
  | submitted reactorId work woken going manned known room =>
      exact .inr ⟨rfl,
        untilRun_same here [⟨threads.pool.accepted.length, reactorId, work⟩] rfl rfl⟩
  | slept worker runs waits going nothing => exact absurd nothing some_
  | ended worker runs waits stops nothing => exact absurd nothing some_
  | took worker job jobs runs waits queued =>
      exact .inl (Move.took_head orderly.kept waits queued here)
  | ran worker job result runs holds =>
      have nearer : (result.elim .waiting fun completion => .returned ⟨job, completion⟩ :
          WorkerPhase Work Completion).toGo < (WorkerPhase.taken job :
          WorkerPhase Work Completion).toGo := by
        cases result with
        | none => exact Nat.zero_lt_succ 2
        | some completion => exact Nat.lt_succ_self 2
      left
      refine untilRun_nearer here holds ?_ ?_ nearer
      · rfl
      · rfl
  | handed worker old new next runs hands =>
      exact .inl (untilRun_nearer here hands.here hands.same.jobs hands.workers hands.nearer)
  | woke worker sleeps => exact .inr ⟨rfl, untilRun_same here [] same.symm rfl⟩
  | reacted next reacts =>
      refine .inr ⟨reacts.workers, untilRun_same here [] ?_ reacts.workers⟩
      rw [same]
      exact reacts.same.jobs
  | marked outside going => exact .inr ⟨rfl, untilRun_same here [] same.symm rfl⟩
  | notified marked => exact .inr ⟨rfl, untilRun_same here [] same.symm rfl⟩
  | joined worker joining ended => exact .inr ⟨rfl, untilRun_same here [] same.symm rfl⟩
  | left worker joining all => exact absurd (orderly.all_done joining all) some_
  | cleared clearing =>
      have gone : threads.stopper.gone threads.stopping = true := by
        rw [clearing]
        rfl
      exact absurd (orderly.halting.gone gone).2 some_
  | emptied reactorId channel emptying open_ => exact .inr ⟨rfl, untilRun_same here [] same.symm rfl⟩
  | stopped reactorId emptying all => exact .inr ⟨rfl, untilRun_same here [] same.symm rfl⟩

/-- A job that was taken does not come back into the queue, and stays run once it was. -/
theorem Move.taken_moves (move : Move threads after) (known : number < threads.pool.accepted.length)
    (taken : ¬ Queued threads number) :
    ¬ Queued after number ∧ (HasRun threads number → HasRun after number) := by
  cases move with
  | submitted reactorId work woken going manned known' room =>
      refine ⟨?_, id⟩
      intro queued
      unfold Queued at queued
      dsimp only at queued
      rw [List.map_append, List.mem_append] at queued
      rcases queued with earlier | new
      · exact taken earlier
      · have same : number = threads.pool.accepted.length := List.mem_singleton.mp new
        omega
  | took worker job jobs runs waits queued =>
      refine ⟨?_, id⟩
      intro still
      apply taken
      unfold Queued
      rw [queued, List.map_cons]
      exact List.mem_cons_of_mem _ still
  | ran worker job result runs holds =>
      refine ⟨taken, ?_⟩
      intro already
      unfold HasRun
      dsimp only
      rw [List.map_append]
      exact List.mem_append_left _ already
  | handed worker old new next runs hands =>
      constructor
      · unfold Queued
        dsimp only
        rw [hands.same.jobs]
        exact taken
      · unfold HasRun
        dsimp only
        rw [hands.same.ran]
        exact id
  | reacted next reacts =>
      constructor
      · unfold Queued
        dsimp only
        rw [reacts.same.jobs]
        exact taken
      · unfold HasRun
        dsimp only
        rw [reacts.same.ran]
        exact id
  | cleared clearing =>
      refine ⟨?_, id⟩
      intro queued
      cases queued
  | _ => exact ⟨taken, id⟩

theorem Move.accepted_extends (move : Move threads after) :
    threads.pool.accepted <+: after.pool.accepted := by
  cases move with
  | submitted reactorId work woken going manned known room => exact List.prefix_append _ _
  | handed worker old new next runs hands =>
      dsimp only
      rewrite [hands.same.accepted]
      exact List.prefix_refl _
  | reacted next reacts =>
      dsimp only
      rewrite [reacts.same.accepted]
      exact List.prefix_refl _
  | _ => exact List.prefix_refl _

theorem Move.never_farther (move : Move threads after) (orderly : Orderly threads)
    (known : number < threads.pool.accepted.length) :
    untilRun after number ≤ untilRun threads number := by
  by_cases here : Queued threads number
  · rcases move.queue_moves orderly here with nearer | ⟨-, -, same⟩
    · exact Nat.le_of_lt nearer
    · exact same.le
  · obtain ⟨still, ran⟩ := move.taken_moves known here
    exact untilRun_left here still ran

theorem Move.runs_on (move : Move threads after) (orderly : Orderly threads) {worker : Nat}
    (runs : threads.stages[worker]? = some .running)
    (busy : threads.pool.jobs ≠ [] ∨ threads.pool.workers[worker]? ≠ some .waiting) :
    after.stages[worker]? = some .running := by
  have inside : worker < threads.stages.length := (List.getElem?_eq_some_iff.mp runs).1
  have set_running : ∀ other, (threads.stages.set other .running)[worker]? = some .running := by
    intro other
    rw [List.getElem?_set]
    split_ifs with same inside_
    · rfl
    · exact absurd (same ▸ inside) inside_
    · exact runs
  have rested : ∀ (other : Nat) (new : Stage), threads.pool.workers[other]? = some .waiting →
      threads.pool.jobs = [] → (threads.stages.set other new)[worker]? = some .running := by
    intro other new waits nothing
    have elsewhere : other ≠ worker := by
      intro same
      subst same
      rcases busy with some_ | works
      · exact some_ nothing
      · exact works waits
    rw [List.getElem?_set_ne elsewhere]
    exact runs
  cases move with
  | submitted reactorId work woken going manned known room =>
      rcases notifyOne_cases threads.stages woken with ⟨-, same⟩ | ⟨other, -, same⟩
      · rw [same]
        exact runs
      · rw [same]
        exact set_running other
  | slept other runs' waits going nothing => exact rested other .asleep waits nothing
  | ended other runs' waits stops nothing => exact rested other .ended waits nothing
  | woke other sleeps => exact set_running other
  | notified marked =>
      dsimp only [notifyAll]
      rw [List.getElem?_map, runs]
      rfl
  | left joiner joining all =>
      have ended := orderly.halting.joined joiner joining worker (by
        have counted := List.getElem?_eq_none_iff.mp all
        omega)
      rw [runs] at ended
      cases ended
  | _ => exact runs

theorem Move.holds_on (move : Move threads after) (orderly : Orderly threads) {worker : Nat}
    {job : Job Work} (runs : threads.stages[worker]? = some .running)
    (holds : threads.pool.workers[worker]? = some (.taken job)) :
    HasRun after job.number ∨ after.pool.workers[worker]? = some (.taken job) := by
  have kept : ∀ (other : Nat) (old new : WorkerPhase Work Completion),
      threads.pool.workers[other]? = some old → old ≠ .taken job →
      (threads.pool.workers.set other new)[worker]? = some (.taken job) := by
    intro other old new found differs
    have elsewhere : other ≠ worker := by
      intro same
      subst same
      rw [holds] at found
      exact differs (Option.some.inj found).symm
    rw [List.getElem?_set_ne elsewhere]
    exact holds
  cases move with
  | took other other_job jobs runs' waits queued =>
      apply Or.inr
      apply kept other .waiting _ waits
      intro same
      cases same
  | ran other other_job result runs' here =>
      by_cases same : other_job = job
      · left
        subst same
        unfold HasRun
        dsimp only
        rw [List.map_append]
        exact List.mem_append_right _ List.mem_cons_self
      · apply Or.inr
        apply kept other (.taken other_job) _ here
        intro equal
        cases equal
        exact same rfl
  | handed other old new next runs' hands =>
      right
      dsimp only
      rw [hands.workers]
      apply kept other old new hands.here
      intro same
      have free := hands.free.1
      rw [same] at free
      cases free
  | reacted next reacts =>
      right
      dsimp only
      rw [reacts.workers]
      exact holds
  | left joiner joining all =>
      have ended := orderly.halting.joined joiner joining worker (by
        have counted := List.getElem?_eq_none_iff.mp all
        have inside := (List.getElem?_eq_some_iff.mp runs).1
        omega)
      rw [runs] at ended
      cases ended
  | _ => exact .inr holds

end Moves

/-- The turns of the first workers, whether or not anyone calls `stop`. -/
def workerTurns (workers : Nat) : Turn → Prop
  | .worker worker => worker < workers
  | .stop => False

/-- A worker whose turn brings a job nearer to being run. -/
def Serves : Turn → Prop
  | .worker worker => threads.stages[worker]? = some .running ∧
      (Queued threads number ∨ ∃ job, threads.pool.workers[worker]? = some (.taken job) ∧
        job.number = number)
  | .stop => False

/-- The job was accepted, and no more workers are there than at some time. -/
structure Awaited (workers : Nat) : Prop where
  orderly : Orderly threads
  known : number < threads.pool.accepted.length
  few : threads.pool.workers.length ≤ workers

section Serves

variable {threads number}

/-- While jobs are queued some worker runs. -/
theorem Orderly.someone_runs (orderly : Orderly threads) (some_ : threads.pool.jobs ≠ []) :
    ∃ worker, worker < threads.pool.workers.length ∧
      threads.stages[worker]? = some .running := by
  have matched := orderly.staffed.matched
  by_cases sleeps : .asleep ∈ threads.stages
  · have enough := orderly.staffed.woken sleeps
    have positive : 0 < threads.ready :=
      Nat.lt_of_lt_of_le (List.length_pos_iff.mpr some_) enough
    obtain ⟨place, member, is_ready⟩ := List.countP_pos_iff.mp positive
    obtain ⟨worker, found⟩ := List.mem_iff_getElem?.mp member
    obtain ⟨stage, phase⟩ := place
    obtain ⟨here, -⟩ := List.getElem?_zip_eq_some.mp found
    have inside : worker < threads.stages.length := (List.getElem?_eq_some_iff.mp here).1
    have running : stage = .running := by
      simp only [isReady, Bool.and_eq_true, beq_iff_eq] at is_ready
      exact is_ready.1
    rw [running] at here
    exact ⟨worker, by omega, here⟩
  · have manned : 0 < threads.pool.workers.length :=
      List.length_pos_iff.mpr (orderly.kept.manned some_)
    have inside : 0 < threads.stages.length := by omega
    refine ⟨0, manned, ?_⟩
    rw [List.getElem?_eq_getElem inside]
    have member := List.getElem_mem inside
    cases stage : threads.stages[0] with
    | running => rfl
    | asleep =>
        rw [stage] at member
        exact absurd member sleeps
    | ended =>
        rw [stage] at member
        exact absurd (orderly.staffed.ended member).2 some_

/-- An accepted job that is neither queued nor run is in a worker's hands. -/
theorem Orderly.held_by (orderly : Orderly threads) (known : number < threads.pool.accepted.length)
    (taken : ¬ Queued threads number) (waits : ¬ HasRun threads number) :
    ∃ (worker : Nat) (job : Job Work), job.number = number ∧
      threads.pool.workers[worker]? = some (.taken job) := by
  have numbers : threads.pool.accepted.map Job.number = List.range threads.pool.accepted.length :=
    orderly.kept.custody.numbers
  have member : number ∈ threads.pool.accepted.map Job.number := by
    rw [numbers]
    exact List.mem_range.mpr known
  obtain ⟨job, accepted, same⟩ := List.mem_map.mp member
  have places : (threads.pool.jobs : Multiset (Job Work)) +
      held WorkerPhase.job threads.pool.workers +
      (threads.pool.ran.map Prod.fst : List (Job Work)) = threads.pool.accepted :=
    orderly.kept.custody.jobs
  have somewhere : job ∈ (threads.pool.accepted : Multiset (Job Work)) := accepted
  rw [← places, Multiset.mem_add, Multiset.mem_add] at somewhere
  rcases somewhere with (queued | in_hand) | ran
  · exact absurd (same ▸ List.mem_map_of_mem queued) taken
  · obtain ⟨phase, at_worker, has⟩ := List.mem_flatMap.mp in_hand
    obtain ⟨worker, found⟩ := List.mem_iff_getElem?.mp at_worker
    cases phase with
    | waiting => cases has
    | taken other =>
        rw [List.mem_singleton.mp has] at same
        exact ⟨worker, other, same, found⟩
    | returned completion => cases has
    | pushed reactorId => cases has
  · obtain ⟨entry, listed, is_job⟩ := List.mem_map.mp ran
    apply absurd _ waits
    unfold HasRun
    rw [← same, ← is_job]
    exact List.mem_map_of_mem listed

theorem Orderly.worker_runs (orderly : Orderly threads) {worker : Nat}
    {phase : WorkerPhase Work Completion}
    (here : threads.pool.workers[worker]? = some phase) (busy : phase ≠ .waiting) :
    threads.stages[worker]? = some .running := by
  have inside : worker < threads.pool.workers.length := (List.getElem?_eq_some_iff.mp here).1
  have matched := orderly.staffed.matched
  cases found : threads.stages[worker]? with
  | none =>
      have beyond := List.getElem?_eq_none_iff.mp found
      omega
  | some stage =>
      by_cases away : stage = .running
      · rw [away]
      · have waits := orderly.staffed.idle worker stage found away
        rw [here] at waits
        exact absurd (Option.some.inj waits) busy

theorem Orderly.someone_serves (orderly : Orderly threads)
    (known : number < threads.pool.accepted.length) (far : 0 < untilRun threads number) :
    ∃ turn, workerTurns threads.pool.workers.length turn ∧ Serves threads number turn := by
  by_cases here : Queued threads number
  · have some_ : threads.pool.jobs ≠ [] := by
      intro nothing
      unfold Queued at here
      rw [nothing] at here
      cases here
    obtain ⟨worker, inside, runs⟩ := orderly.someone_runs some_
    exact ⟨.worker worker, inside, runs, .inl here⟩
  · have waits : ¬ HasRun threads number := by
      intro ran
      unfold untilRun at far
      rw [if_neg here, if_pos ran] at far
      exact absurd far (Nat.lt_irrefl 0)
    obtain ⟨worker, job, same, holds⟩ := orderly.held_by known here waits
    have inside : worker < threads.pool.workers.length := (List.getElem?_eq_some_iff.mp holds).1
    have runs := orderly.worker_runs holds (by
      intro equal
      cases equal)
    exact ⟨.worker worker, inside, runs, .inr ⟨job, holds, same⟩⟩

theorem untilRun_done (taken : ¬ Queued threads number) (ran : HasRun threads number) :
    untilRun threads number = 0 := by
  unfold untilRun
  rw [if_neg taken, if_pos ran]

theorem Move.serves_on {after : WorkerThreads Work Completion} (move : Move threads after)
    (orderly : Orderly threads) (known : number < threads.pool.accepted.length) {turn : Turn}
    (serves : Serves threads number turn) (far : 0 < untilRun threads number) :
    untilRun after number < untilRun threads number ∨ Serves after number turn := by
  cases turn with
  | stop => exact absurd serves id
  | worker worker =>
      obtain ⟨runs, queued | ⟨job, holds, same⟩⟩ := serves
      · rcases move.queue_moves orderly queued with nearer | ⟨-, still, -⟩
        · exact .inl nearer
        · have some_ : threads.pool.jobs ≠ [] := by
            intro nothing
            unfold Queued at queued
            rw [nothing] at queued
            cases queued
          exact .inr ⟨move.runs_on orderly runs (.inl some_), .inl still⟩
      · by_cases here : Queued threads number
        · rcases move.queue_moves orderly here with nearer | ⟨-, still, -⟩
          · exact .inl nearer
          · have some_ : threads.pool.jobs ≠ [] := by
              intro nothing
              unfold Queued at here
              rw [nothing] at here
              cases here
            exact .inr ⟨move.runs_on orderly runs (.inl some_), .inl still⟩
        · have still := (move.taken_moves known here).1
          rcases move.holds_on orderly runs holds with ran | holding
          · rw [same] at ran
            rw [untilRun_done still ran]
            exact .inl far
          · have busy : threads.pool.workers[worker]? ≠ some .waiting := by
              rw [holds]
              intro equal
              cases equal
            exact .inr ⟨move.runs_on orderly runs (.inr busy), .inr ⟨job, holding, same⟩⟩

theorem Orderly.turn_serves (orderly : Orderly threads)
    (known : number < threads.pool.accepted.length) {next : Step Work Completion} {turn : Turn}
    (serves : Serves threads number turn) (taken : takes next turn)
    (far : 0 < untilRun threads number) :
    untilRun (threads.step next) number < untilRun threads number := by
  have move := threads.step_moves next
  cases turn with
  | stop => exact absurd serves id
  | worker worker =>
      cases next with
      | advance other result interrupted =>
          obtain ⟨same, whole⟩ := taken
          subst same whole
          obtain ⟨runs, way⟩ := serves
          have inside : other < threads.stages.length := (List.getElem?_eq_some_iff.mp runs).1
          have matched := orderly.staffed.matched
          have here := List.getElem?_eq_getElem
            (show other < threads.pool.workers.length by omega)
          by_cases queued : Queued threads number
          · rcases move.queue_moves orderly queued with nearer | ⟨workers, -, -⟩
            · exact nearer
            · have some_ : threads.pool.jobs ≠ [] := by
                intro nothing
                unfold Queued at queued
                rw [nothing] at queued
                cases queued
              apply absurd _ (advance_changes_phase runs here (.inl some_) result)
              rw [← here]
              exact congrArg (fun places => places[other]?) workers
          · rcases way with here | ⟨job, holds, same⟩
            · exact absurd here queued
            · have still := (move.taken_moves known queued).1
              rcases move.holds_on orderly runs holds with ran | holding
              · rw [same] at ran
                rw [untilRun_done still ran]
                exact far
              · have busy : (WorkerPhase.taken job : WorkerPhase Work Completion) ≠ .waiting := by
                  intro equal
                  cases equal
                exact absurd holding (advance_changes_phase runs holds (.inr busy) result)
      | _ => exact absurd taken id

end Serves

theorem awaited_advances (workers : Nat) :
    Advances (@step Work Completion)
      (fun threads => Awaited threads number workers) (fun threads => untilRun threads number)
      (fun threads => Serves threads number) takes (workerTurns workers) where
  keeps threads next awaited :=
    ⟨threads.step_orderly next awaited.orderly,
      Nat.lt_of_lt_of_le awaited.known (threads.step_moves next).accepted_extends.length_le,
      Nat.le_trans (threads.step_moves next).workers_le awaited.few⟩
  never_farther threads next awaited :=
    (threads.step_moves next).never_farther awaited.orderly awaited.known
  some_enabled threads awaited far := by
    obtain ⟨turn, due, serves⟩ := awaited.orderly.someone_serves awaited.known far
    refine ⟨turn, ?_, serves⟩
    cases turn with
    | worker worker => exact Nat.lt_of_lt_of_le due awaited.few
    | stop => exact due
  nearer threads next turn awaited serves taken far :=
    awaited.orderly.turn_serves awaited.known serves taken far
  stays threads next turn awaited serves far :=
    (threads.step_moves next).serves_on awaited.orderly awaited.known serves far

variable {threads number} in
theorem Orderly.untilRun_le (orderly : Orderly threads) :
    untilRun threads number ≤
      4 * WorkerPool.maxQueuedJobs + 3 * threads.pool.workers.length + 1 := by
  by_cases here : Queued threads number
  · have place := List.idxOf_lt_length_iff.mpr here
    rw [List.length_map] at place
    have size : threads.pool.jobs.length ≤ WorkerPool.maxQueuedJobs := orderly.kept.custody.size
    have phases := weigh_le WorkerPhase.toGo WorkerPhase.toGo_le threads.pool.workers
    rw [untilRun_queued here]
    omega
  · have little := untilRun_taken here
    omega

theorem run_accepted_extends (inputs : List (Step Work Completion)) :
    threads.pool.accepted <+: (run step threads inputs).pool.accepted := by
  have keeps : ∀ (now : WorkerThreads Work Completion) (next : Step Work Completion),
      threads.pool.accepted <+: now.pool.accepted →
      threads.pool.accepted <+: (now.step next).pool.accepted := by
    intro now next before
    exact before.trans (now.step_moves next).accepted_extends
  exact run_invariant step keeps (List.prefix_refl _) inputs

variable {threads} in
theorem Orderly.job_of_number (orderly : Orderly threads) {job other : Job Work}
    (accepted : job ∈ threads.pool.accepted) (listed : other ∈ threads.pool.accepted)
    (same : other.number = job.number) : other = job := by
  have numbers : threads.pool.accepted.map Job.number = List.range threads.pool.accepted.length :=
    orderly.kept.custody.numbers
  have distinct : (threads.pool.accepted.map Job.number).Nodup := by
    rw [numbers]
    exact List.nodup_range
  exact List.inj_on_of_nodup_map distinct listed accepted same

/-- Every accepted job is run, in whatever order the threads take their turns. -/
theorem no_job_starves (reactorCount hardware requested : Nat) (eventfd : Nat → Bool)
    (steps : List (Step Work Completion)) (rounds : List (List (Step Work Completion))) :
    let threads := run step (create reactorCount hardware requested eventfd) steps
    (∀ round ∈ rounds, Fair (workerTurns threads.pool.workers.length) takes round) →
    4 * WorkerPool.maxQueuedJobs + 3 * threads.pool.workers.length + 1 ≤ rounds.length →
    ∀ job ∈ threads.pool.accepted, ∃ result,
      (job, result) ∈ (run step threads rounds.flatten).pool.ran := by
  intro threads fair enough job accepted
  have orderly : Orderly threads := run_orderly reactorCount hardware requested eventfd steps
  have numbers : threads.pool.accepted.map Job.number = List.range threads.pool.accepted.length :=
    orderly.kept.custody.numbers
  have known : job.number < threads.pool.accepted.length := by
    apply List.mem_range.mp
    rw [← numbers]
    exact List.mem_map_of_mem accepted
  have reached := (awaited_advances job.number threads.pool.workers.length).rounds_end rounds fair
    ⟨orderly, known, Nat.le_refl _⟩ (Nat.le_trans orderly.untilRun_le enough)
  have still_orderly : Orderly (run step threads rounds.flatten) :=
    run_invariant step (fun now next => now.step_orderly next) orderly rounds.flatten
  have still_accepted := (threads.run_accepted_extends rounds.flatten).subset accepted
  generalize run step threads rounds.flatten = last at reached still_orderly still_accepted
  have taken : ¬ Queued last job.number := by
    intro queued
    rw [untilRun_queued queued] at reached
    omega
  have ran : HasRun last job.number := by
    by_contra waits
    unfold untilRun at reached
    rw [if_neg taken, if_neg waits] at reached
    cases reached
  obtain ⟨entry, listed, same⟩ := List.mem_map.mp ran
  have was_accepted : entry.1 ∈ last.pool.accepted :=
    WorkerPool.Custody.ran_accepted still_orderly.kept.custody listed
  have is_job := still_orderly.job_of_number still_accepted was_accepted same
  exact ⟨entry.2, by rw [← is_job]; exact listed⟩

def submitOnce : List (Step Nat Nat) := [.submit 0 (some 7) 0]

def workerTurn : List (Step Nat Nat) := [.advance 0 (some 5) false]

theorem submitted_job_is_run : ∃ result, ((⟨0, 0, 7⟩ : Job Nat), result) ∈
    (run step (run step (create 1 4 1 fun _ => true) submitOnce)
      (List.replicate 16388 workerTurn).flatten).pool.ran := by
  apply no_job_starves 1 4 1 (fun _ => true) submitOnce
  · intro round member
    rw [List.eq_of_mem_replicate member]
    intro turn due
    cases turn with
    | worker worker =>
        have first : worker < 1 := due
        exact ⟨.advance 0 (some 5) false, List.mem_cons_self, by omega, rfl⟩
    | stop => exact absurd due id
  · rw [List.length_replicate]
    decide
  · decide

end WorkerThreads

end Aorta.Worker
