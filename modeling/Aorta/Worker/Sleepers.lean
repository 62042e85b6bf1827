import Aorta.Library.Progress
import Aorta.Worker.ThreadMoves

/-!
# No wake-up is lost

A worker goes to sleep only while it holds `jobs_mutex` and finds nothing to do, and every
job that is queued wakes a sleeper. So as long as anyone sleeps, there is for every queued
job a worker that is awake and has nothing in its hands. No worker leaves before `stop` is
called and the queue is empty, and none sleeps once `stop` has woken them all.
-/

namespace Aorta.Worker

open Aorta.Library.Custody Aorta.Library.Progress Aorta.Library.Run

set_option autoImplicit false

variable {Work Completion : Type}

def WorkerPhase.isWaiting : WorkerPhase Work Completion → Bool
  | .waiting => true
  | _ => false

def Stopper.gone (stopping : Bool) : Stopper → Bool
  | .outside => stopping
  | .marked => false
  | .joining _ => false
  | .clearing => true
  | .emptying _ => true

/-- Whether `stop` has been at the channel of a reactor. -/
def Stopper.emptied (stopping : Bool) (reactorId : Nat) : Stopper → Bool
  | .outside => stopping
  | .emptying next => reactorId < next
  | _ => false

namespace WorkerThreads

/-- A worker that is awake and has nothing in its hands. -/
def isReady (place : Stage × WorkerPhase Work Completion) : Bool :=
  place.1 == .running && place.2.isWaiting

variable (threads : WorkerThreads Work Completion)

def ready : Nat := (threads.stages.zip threads.pool.workers).countP isReady

/-- The workers with nothing in their hands, awake or not. -/
def spare : Nat := threads.pool.workers.countP WorkerPhase.isWaiting

/-- What `stop` took out of the channels counts as popped. -/
def whole : WorkerPool Work Completion :=
  { threads.pool with popped := threads.discarded ++ threads.pool.popped }

/-- What the threads say of the jobs. -/
structure Kept : Prop where
  custody : WorkerPool.Custody threads.whole
  ordered : threads.pool.jobs <:+ threads.pool.accepted
  manned : threads.pool.jobs ≠ [] → threads.pool.workers ≠ []

/-- Who sleeps, and who has left. -/
structure Staffed : Prop where
  matched : threads.stages.length = threads.pool.workers.length
  idle : ∀ (worker : Nat) (stage : Stage), threads.stages[worker]? = some stage →
    stage ≠ .running → threads.pool.workers[worker]? = some .waiting
  ended : .ended ∈ threads.stages → threads.stopping = true ∧ threads.pool.jobs = []
  woken : .asleep ∈ threads.stages → threads.pool.jobs.length ≤ threads.ready

/-- How far `stop` is. -/
structure Halting : Prop where
  stops : threads.stopper ≠ .outside → threads.stopping = true
  awake : ∀ worker, threads.stopper = .joining worker → .asleep ∉ threads.stages
  joined : ∀ worker, threads.stopper = .joining worker →
    ∀ earlier < worker, threads.stages[earlier]? = some .ended
  gone : threads.stopper.gone threads.stopping = true →
    threads.pool.workers = [] ∧ threads.pool.jobs = []
  emptied : ∀ (reactorId : Nat) (channel : CompletionChannel Work Completion),
    threads.pool.channels[reactorId]? = some channel →
    threads.stopper.emptied threads.stopping reactorId = true → channel.completions = []

structure Orderly : Prop where
  kept : Kept threads
  staffed : Staffed threads
  halting : Halting threads

/-! ### The start -/

section Start

variable (reactorCount : Nat)

theorem unmanned_custody : WorkerPool.Custody
    { (WorkerPool.create reactorCount 0 : WorkerPool Work Completion) with channels := [] } := by
  have custody : WorkerPool.Custody (WorkerPool.create reactorCount 0 : WorkerPool Work Completion) :=
    WorkerPool.create_custody reactorCount 0
  refine ⟨custody.size, custody.numbers, ?_, custody.jobs, custody.returned, rfl, custody.pushed,
    custody.popped, ?_⟩
  · intro job accepted
    cases accepted
  · intro reactorId channel open_
    cases open_

theorem create_orderly (hardware requested : Nat) (eventfd : Nat → Bool) :
    Orderly (create reactorCount hardware requested eventfd : WorkerThreads Work Completion) := by
  have running : ∀ (count worker : Nat) (stage : Stage),
      (List.replicate count Stage.running)[worker]? = some stage → stage = .running := by
    intro count worker stage found
    exact List.eq_of_mem_replicate (List.mem_of_getElem? found)
  have runs : ∀ (count : Nat) (stage : Stage), stage ≠ .running →
      stage ∉ List.replicate count Stage.running := by
    intro count stage away member
    exact away (List.eq_of_mem_replicate member)
  unfold create
  split_ifs
  · refine ⟨⟨WorkerPool.create_custody _ _, List.suffix_refl _, fun queued => absurd rfl queued⟩,
      ⟨?_, ?_, ?_, ?_⟩, ⟨fun away => absurd rfl away, ?_, ?_, ?_, ?_⟩⟩
    · simp only [WorkerPool.create, List.length_replicate]
    · intro worker stage found away
      exact absurd (running _ worker stage found) away
    · intro member
      exact absurd member (runs _ _ (by decide))
    · intro member
      exact absurd member (runs _ _ (by decide))
    · intro worker joining
      cases joining
    · intro worker joining
      cases joining
    · intro gone
      cases gone
    · intro reactorId channel open_ emptied
      cases emptied
  · refine ⟨⟨unmanned_custody reactorCount, List.suffix_refl _, fun queued => absurd rfl queued⟩,
      ⟨rfl, ?_, ?_, ?_⟩, ⟨fun away => absurd rfl away, ?_, ?_, ?_, ?_⟩⟩
    · intro worker stage found
      cases found
    · intro member
      cases member
    · intro member
      cases member
    · intro worker joining
      cases joining
    · intro worker joining
      cases joining
    · intro gone
      cases gone
    · intro reactorId channel open_
      cases open_

end Start

/-! ### What is kept of the jobs -/

section Kept

variable {threads} {after : WorkerThreads Work Completion}

theorem change_whole {pool next : WorkerPool Work Completion}
    (change : WorkerPool.Change pool next) (discarded : List (Nat × Returned Work Completion)) :
    WorkerPool.Change { pool with popped := discarded ++ pool.popped }
      { next with popped := discarded ++ next.popped } := by
  cases change with
  | idle => exact .idle
  | submitted reactorId work known room => exact .submitted reactorId work known room
  | taken worker job jobs here queued => exact .taken worker job jobs here queued
  | ran worker job result here => exact .ran worker job result here
  | pushed worker completion channel here open_ =>
      exact .pushed worker completion channel here open_
  | dropped worker completion here missing => exact .dropped worker completion here missing
  | written worker reactorId channel here open_ =>
      exact .written worker reactorId channel here open_
  | unwritten worker reactorId here missing => exact .unwritten worker reactorId here missing
  | entered reactor here => exact .entered reactor here
  | consumed reactor channel here open_ => exact .consumed reactor channel here open_
  | drained reactor here => exact .drained reactor here
  | popped reactor completion completions channel here open_ queued =>
      rw [← List.append_assoc]
      exact .popped reactor completion completions channel here open_ queued
  | left reactor channel here open_ empty => exact .left reactor channel here open_ empty

theorem Kept.change (kept : Kept threads) {next : WorkerPool Work Completion}
    (change : WorkerPool.Change threads.pool next) :
    WorkerPool.Custody ({ threads with pool := next } : WorkerThreads Work Completion).whole :=
  WorkerPool.change_custody kept.custody (change_whole change threads.discarded)

theorem held_waiting {Item : Type} (items : WorkerPhase Work Completion → List Item)
    (free : items .waiting = []) {workers : List (WorkerPhase Work Completion)}
    (waiting : ∀ phase ∈ workers, phase = .waiting) : held items workers = 0 := by
  rw [List.eq_replicate_of_mem waiting]
  exact held_replicate items workers.length free

theorem Kept.left (kept : Kept threads)
    (waiting : ∀ phase ∈ threads.pool.workers, phase = .waiting) :
    WorkerPool.Custody { threads.whole with workers := [] } := by
  have custody := kept.custody
  have jobs := custody.jobs
  have returned := custody.returned
  rw [show threads.whole.workers = threads.pool.workers from rfl] at jobs returned
  rw [held_waiting WorkerPhase.job rfl waiting] at jobs
  rw [held_waiting WorkerPhase.completion rfl waiting] at returned
  exact ⟨custody.size, custody.numbers, custody.known, jobs, returned, custody.channels,
    custody.pushed, custody.popped, custody.queued⟩

theorem Kept.emptied (kept : Kept threads) {reactorId : Nat}
    {channel : CompletionChannel Work Completion}
    (open_ : threads.pool.channels[reactorId]? = some channel) :
    WorkerPool.Custody { threads.pool with
      channels := threads.pool.channels.set reactorId { channel with completions := [] }
      popped := threads.discarded ++ channel.completions.map (fun completion =>
        (reactorId, completion)) ++ threads.pool.popped } := by
  have custody := kept.custody
  refine ⟨custody.size, custody.numbers, ?_, custody.jobs, custody.returned, ?_, custody.pushed,
    ?_, ?_⟩
  · dsimp only
    rw [List.length_set]
    exact custody.known
  · have before := custody.channels
    have exchanged := held_set CompletionChannel.completions open_
      { channel with completions := [] }
    dsimp only [whole] at before exchanged ⊢
    rw [Multiset.coe_nil, zero_add] at exchanged
    rw [← before, ← exchanged, List.map_append, List.map_append, List.map_append, List.map_map,
      ← Multiset.coe_add, ← Multiset.coe_add, ← Multiset.coe_add]
    have same : (Prod.snd ∘ fun completion : Returned Work Completion =>
        (reactorId, completion)) = id := rfl
    rw [same, List.map_id]
    abel
  · intro entry member
    rcases List.mem_append.mp member with before | popped
    · rcases List.mem_append.mp before with earlier | taken
      · exact custody.popped entry (List.mem_append_left _ earlier)
      · obtain ⟨completion, queued, same⟩ := List.mem_map.mp taken
        subst same
        exact (custody.queued reactorId channel open_ completion queued).symm
    · exact custody.popped entry (List.mem_append_right _ popped)
  · apply custody.set_channel
    intro completion member
    cases member

theorem getElem?_set_cases {Place : Type} {places : List Place} {index other : Nat}
    {new found : Place} (here : (places.set index new)[other]? = some found) :
    (other = index ∧ found = new) ∨ (other ≠ index ∧ places[other]? = some found) := by
  rw [List.getElem?_set] at here
  split_ifs at here with same
  · cases here
    exact .inl ⟨same.symm, rfl⟩
  · exact .inr ⟨fun equal => same equal.symm, here⟩

theorem Orderly.all_waiting (orderly : Orderly threads) {worker : Nat}
    (joining : threads.stopper = .joining worker) (all : threads.stages[worker]? = none) :
    ∀ phase ∈ threads.pool.workers, phase = .waiting := by
  intro phase member
  obtain ⟨index, at_index⟩ := List.mem_iff_getElem?.mp member
  obtain ⟨inside, -⟩ := List.getElem?_eq_some_iff.mp at_index
  have counted := List.getElem?_eq_none_iff.mp all
  have matched := orderly.staffed.matched
  have ended := orderly.halting.joined worker joining index (by omega)
  have waits := orderly.staffed.idle index .ended ended (by decide)
  rw [at_index] at waits
  exact Option.some.inj waits

/-- The queue is empty when the last worker is joined. -/
theorem Orderly.all_done (orderly : Orderly threads) {worker : Nat}
    (joining : threads.stopper = .joining worker) (all : threads.stages[worker]? = none) :
    threads.pool.jobs = [] := by
  cases first : threads.stages[0]? with
  | none =>
      by_contra queued
      have matched := orderly.staffed.matched
      have none_ := List.getElem?_eq_none_iff.mp first
      have unmanned : threads.pool.workers.length = 0 := by omega
      exact orderly.kept.manned queued (List.length_eq_zero_iff.mp unmanned)
  | some stage =>
      obtain ⟨inside, -⟩ := List.getElem?_eq_some_iff.mp first
      have counted := List.getElem?_eq_none_iff.mp all
      have ended := orderly.halting.joined worker joining 0 (by omega)
      exact (orderly.staffed.ended (List.mem_of_getElem? ended)).2

theorem Move.kept (orderly : Orderly threads) (move : Move threads after) : Kept after := by
  have kept := orderly.kept
  cases move with
  | idle => exact kept
  | submitted reactorId work woken going manned known room =>
      refine ⟨kept.change (.submitted reactorId work known room), ?_, fun _ => manned⟩
      obtain ⟨taken, accepted⟩ := kept.ordered
      exact ⟨taken, by rw [← accepted, List.append_assoc]⟩
  | slept worker runs waits going nothing => exact ⟨kept.custody, kept.ordered, kept.manned⟩
  | ended worker runs waits stops nothing => exact ⟨kept.custody, kept.ordered, kept.manned⟩
  | took worker job jobs runs waits queued =>
      refine ⟨kept.change (.taken worker job jobs waits queued), ?_, ?_⟩
      · have ordered := kept.ordered
        rw [queued] at ordered
        exact (List.suffix_cons job jobs).trans ordered
      · intro _ unmanned
        have sized := congrArg List.length unmanned
        rw [List.length_set] at sized
        obtain ⟨inside, -⟩ := List.getElem?_eq_some_iff.mp waits
        rw [List.length_nil] at sized
        omega
  | ran worker job result runs here =>
      refine ⟨kept.change (.ran worker job result here), kept.ordered, ?_⟩
      intro queued unmanned
      have sized := congrArg List.length unmanned
      rw [List.length_set] at sized
      exact kept.manned queued (List.length_eq_zero_iff.mp sized)
  | handed worker old new next runs hands =>
      refine ⟨kept.change hands.change, ?_, ?_⟩
      · change next.jobs <:+ next.accepted
        rw [hands.same.jobs, hands.same.accepted]
        exact kept.ordered
      · change next.jobs ≠ [] → next.workers ≠ []
        rw [hands.same.jobs, hands.workers]
        intro queued unmanned
        have sized := congrArg List.length unmanned
        rw [List.length_set] at sized
        exact kept.manned queued (List.length_eq_zero_iff.mp sized)
  | woke worker sleeps => exact ⟨kept.custody, kept.ordered, kept.manned⟩
  | reacted next reacts =>
      refine ⟨kept.change reacts.change, ?_, ?_⟩
      · change next.jobs <:+ next.accepted
        rw [reacts.same.jobs, reacts.same.accepted]
        exact kept.ordered
      · change next.jobs ≠ [] → next.workers ≠ []
        rw [reacts.same.jobs, reacts.workers]
        exact kept.manned
  | marked outside going => exact ⟨kept.custody, kept.ordered, kept.manned⟩
  | notified marked => exact ⟨kept.custody, kept.ordered, kept.manned⟩
  | joined worker joining ended => exact ⟨kept.custody, kept.ordered, kept.manned⟩
  | left worker joining all =>
      have done := orderly.all_done joining all
      refine ⟨kept.left (orderly.all_waiting joining all), kept.ordered, ?_⟩
      intro queued
      exact absurd done queued
  | cleared clearing =>
      have gone : threads.stopper.gone threads.stopping = true := by
        rw [clearing]
        rfl
      obtain ⟨-, done⟩ := orderly.halting.gone gone
      have custody := kept.custody
      refine ⟨⟨Nat.zero_le _, custody.numbers, custody.known, ?_, custody.returned,
        custody.channels, custody.pushed, custody.popped, custody.queued⟩, List.nil_suffix,
        fun queued => absurd rfl queued⟩
      have jobs := custody.jobs
      rw [show threads.whole.jobs = threads.pool.jobs from rfl, done] at jobs
      exact jobs
  | emptied reactorId channel emptying open_ =>
      exact ⟨kept.emptied open_, kept.ordered, kept.manned⟩
  | stopped reactorId emptying all => exact ⟨kept.custody, kept.ordered, kept.manned⟩

end Kept

/-! ### Who sleeps -/

section Staffed

variable {threads} {after : WorkerThreads Work Completion}

theorem notifyOne_cases (stages : List Stage) (woken : Nat) :
    (.asleep ∉ stages ∧ notifyOne stages woken = stages) ∨
    ∃ worker : Nat, stages[worker]? = some .asleep ∧
      notifyOne stages woken = stages.set worker .running := by
  unfold notifyOne
  split_ifs with sleeps
  · exact .inr ⟨woken, sleeps, rfl⟩
  · by_cases anyone : .asleep ∈ stages
    · have inside := List.idxOf_lt_length_iff.mpr anyone
      refine .inr ⟨stages.idxOf .asleep, ?_, rfl⟩
      rw [List.getElem?_eq_getElem inside, List.getElem_idxOf inside]
    · refine .inl ⟨anyone, ?_⟩
      exact List.set_eq_of_length_le (List.idxOf_eq_length anyone).ge

theorem notifyAll_awake (stages : List Stage) : .asleep ∉ notifyAll stages := by
  intro sleeps
  obtain ⟨stage, -, notified⟩ := List.mem_map.mp sleeps
  cases stage with
  | running => cases notified
  | asleep => cases notified
  | ended => cases notified

theorem ready_set {stages : List Stage} {workers : List (WorkerPhase Work Completion)}
    {worker : Nat} {old : Stage} {phase : WorkerPhase Work Completion}
    (here : stages[worker]? = some old) (beside : workers[worker]? = some phase) (new : Stage)
    (next : WorkerPhase Work Completion) :
    (isReady (old, phase)).toNat +
        ((stages.set worker new).zip (workers.set worker next)).countP isReady =
      (isReady (new, next)).toNat + (stages.zip workers).countP isReady := by
  rw [countP_eq_weigh, countP_eq_weigh]
  exact weigh_zip_set (fun place => (isReady place).toNat) here beside new next

theorem ready_set_stage {worker : Nat} {old : Stage} {phase : WorkerPhase Work Completion}
    (here : threads.stages[worker]? = some old)
    (beside : threads.pool.workers[worker]? = some phase) (new : Stage) :
    (isReady (old, phase)).toNat +
        ({ threads with stages := threads.stages.set worker new } :
          WorkerThreads Work Completion).ready =
      (isReady (new, phase)).toNat + threads.ready := by
  have exchanged := ready_set here beside new phase
  rw [set_same beside] at exchanged
  exact exchanged

theorem ready_set_phase {worker : Nat} {old : Stage} {phase : WorkerPhase Work Completion}
    (here : threads.stages[worker]? = some old)
    (beside : threads.pool.workers[worker]? = some phase)
    (next : WorkerPhase Work Completion) (pool : WorkerPool Work Completion)
    (workers : pool.workers = threads.pool.workers.set worker next) :
    (isReady (old, phase)).toNat +
        ({ threads with pool := pool } : WorkerThreads Work Completion).ready =
      (isReady (old, next)).toNat + threads.ready := by
  have exchanged := ready_set here beside old next
  rw [set_same here, ← workers] at exchanged
  exact exchanged

theorem Staffed.idle_set (staffed : Staffed threads) {worker : Nat}
    (waits : threads.pool.workers[worker]? = some .waiting) (new : Stage) :
    ∀ (other : Nat) (stage : Stage), (threads.stages.set worker new)[other]? = some stage →
      stage ≠ .running → threads.pool.workers[other]? = some .waiting := by
  intro other stage found away
  rcases getElem?_set_cases found with ⟨same, -⟩ | ⟨-, elsewhere⟩
  · rw [same]
    exact waits
  · exact staffed.idle other stage elsewhere away

theorem Staffed.idle_set_phase (staffed : Staffed threads) {worker : Nat}
    (runs : threads.stages[worker]? = some .running) (new : WorkerPhase Work Completion) :
    ∀ (other : Nat) (stage : Stage), threads.stages[other]? = some stage →
      stage ≠ .running → (threads.pool.workers.set worker new)[other]? = some .waiting := by
  intro other stage found away
  have elsewhere : worker ≠ other := by
    intro same
    rw [same, found] at runs
    cases runs
    exact away rfl
  rw [List.getElem?_set_ne elsewhere]
  exact staffed.idle other stage found away

theorem Staffed.woke (staffed : Staffed threads) {worker : Nat}
    (sleeps : threads.stages[worker]? = some .asleep) :
    Staffed { threads with stages := threads.stages.set worker .running } ∧
      ({ threads with stages := threads.stages.set worker .running } :
        WorkerThreads Work Completion).ready = threads.ready + 1 := by
  have waits := staffed.idle worker .asleep sleeps (by decide)
  have counted := ready_set_stage sleeps waits .running
  have one : ({ threads with stages := threads.stages.set worker .running } :
      WorkerThreads Work Completion).ready = threads.ready + 1 := by
    rw [show isReady (Stage.asleep, (WorkerPhase.waiting : WorkerPhase Work Completion)) = false
      from rfl, show isReady (Stage.running, (WorkerPhase.waiting : WorkerPhase Work Completion)) =
      true from rfl] at counted
    simp only [Bool.toNat_false, Bool.toNat_true] at counted
    omega
  refine ⟨⟨?_, staffed.idle_set waits .running, ?_, ?_⟩, one⟩
  · dsimp only
    rw [List.length_set]
    exact staffed.matched
  · intro member
    rcases List.mem_or_eq_of_mem_set member with earlier | new
    · exact staffed.ended earlier
    · cases new
  · intro member
    have enough := staffed.woken (List.mem_of_getElem? sleeps)
    rw [one]
    exact Nat.le_succ_of_le enough

theorem Staffed.rested (staffed : Staffed threads) {worker : Nat}
    (waits : threads.pool.workers[worker]? = some .waiting) {new : Stage}
    (leaves : new = .ended → threads.stopping = true) (nothing : threads.pool.jobs = []) :
    Staffed { threads with stages := threads.stages.set worker new } := by
  refine ⟨?_, staffed.idle_set waits new, ?_, ?_⟩
  · dsimp only
    rw [List.length_set]
    exact staffed.matched
  · intro member
    rcases List.mem_or_eq_of_mem_set member with earlier | same
    · exact staffed.ended earlier
    · exact ⟨leaves same.symm, nothing⟩
  · intro _
    dsimp only
    rw [nothing]
    exact Nat.zero_le _

theorem Staffed.worked (staffed : Staffed threads) {worker : Nat}
    {old next : WorkerPhase Work Completion} {pool : WorkerPool Work Completion}
    (runs : threads.stages[worker]? = some .running)
    (here : threads.pool.workers[worker]? = some old)
    (workers : pool.workers = threads.pool.workers.set worker next)
    (fewer : pool.jobs.length + old.isWaiting.toNat ≤ threads.pool.jobs.length + next.isWaiting.toNat)
    (none_ : threads.pool.jobs = [] → pool.jobs = []) :
    Staffed { threads with pool := pool } := by
  have counted := ready_set_phase runs here next pool workers
  refine ⟨?_, ?_, ?_, ?_⟩
  · dsimp only
    rw [workers, List.length_set]
    exact staffed.matched
  · dsimp only
    rw [workers]
    exact staffed.idle_set_phase runs next
  · intro member
    obtain ⟨stops, done⟩ := staffed.ended member
    exact ⟨stops, none_ done⟩
  · intro member
    have enough := staffed.woken member
    have before : isReady (Stage.running, old) = old.isWaiting := rfl
    have now : isReady (Stage.running, next) = next.isWaiting := rfl
    rw [before, now] at counted
    dsimp only at counted ⊢
    omega

theorem Move.staffed (orderly : Orderly threads) (move : Move threads after) : Staffed after := by
  have staffed := orderly.staffed
  cases move with
  | idle => exact staffed
  | submitted reactorId work woken going manned known room =>
      have none_ended : .ended ∉ threads.stages := by
        intro member
        have stops := (staffed.ended member).1
        rw [going] at stops
        cases stops
      rcases notifyOne_cases threads.stages woken with ⟨calm, same⟩ | ⟨worker, sleeps, same⟩
      · rw [same]
        exact ⟨staffed.matched, staffed.idle, fun member => absurd member none_ended,
          fun member => absurd member calm⟩
      · rw [same]
        obtain ⟨roused, one⟩ := staffed.woke sleeps
        refine ⟨roused.matched, roused.idle, ?_, ?_⟩
        · intro member
          have stops := (roused.ended member).1
          dsimp only at stops
          rw [going] at stops
          cases stops
        · intro _
          have enough := staffed.woken (List.mem_of_getElem? sleeps)
          change _ ≤ ({ threads with stages := threads.stages.set worker .running } :
            WorkerThreads Work Completion).ready
          rw [one, List.length_append, List.length_singleton]
          exact Nat.succ_le_succ enough
  | slept worker runs waits going nothing =>
      apply staffed.rested waits _ nothing
      intro same
      cases same
  | ended worker runs waits stops nothing => exact staffed.rested waits (fun _ => stops) nothing
  | took worker job jobs runs waits queued =>
      apply staffed.worked runs waits rfl
      · dsimp only
        rw [queued]
        exact Nat.le_refl _
      · intro nothing
        rw [nothing] at queued
        cases queued
  | ran worker job result runs here =>
      apply staffed.worked runs here rfl
      · exact Nat.add_le_add_left (Nat.zero_le _) _
      · exact id
  | handed worker old new next runs hands =>
      have busy : old.isWaiting = false := by
        cases old with
        | waiting => exact absurd hands.nearer (Nat.not_lt_zero _)
        | taken job => rfl
        | returned completion => rfl
        | pushed reactorId => rfl
      apply staffed.worked runs hands.here hands.workers
      · rw [hands.same.jobs, busy]
        exact Nat.add_le_add_left (Nat.zero_le _) _
      · rw [hands.same.jobs]
        exact id
  | woke worker sleeps => exact (staffed.woke sleeps).1
  | reacted next reacts =>
      refine ⟨?_, ?_, ?_, ?_⟩
      · dsimp only
        rw [reacts.workers]
        exact staffed.matched
      · dsimp only
        rw [reacts.workers]
        exact staffed.idle
      · dsimp only
        rw [reacts.same.jobs]
        exact staffed.ended
      · dsimp only [ready]
        rw [reacts.same.jobs, reacts.workers]
        exact staffed.woken
  | marked outside going =>
      exact ⟨staffed.matched, staffed.idle, fun member => ⟨rfl, (staffed.ended member).2⟩,
        staffed.woken⟩
  | notified marked =>
      refine ⟨?_, ?_, ?_, fun member => absurd member (notifyAll_awake _)⟩
      · dsimp only [notifyAll]
        rw [List.length_map]
        exact staffed.matched
      · intro worker stage found away
        dsimp only [notifyAll] at found
        rw [List.getElem?_map] at found
        obtain ⟨earlier, at_worker, same⟩ := Option.map_eq_some_iff.mp found
        apply staffed.idle worker earlier at_worker
        intro runs
        rw [runs] at same
        exact away same.symm
      · intro member
        obtain ⟨stage, earlier, same⟩ := List.mem_map.mp member
        cases stage with
        | running => cases same
        | asleep => cases same
        | ended => exact staffed.ended earlier
  | joined worker joining ended =>
      exact ⟨staffed.matched, staffed.idle, staffed.ended, staffed.woken⟩
  | left worker joining all =>
      refine ⟨rfl, ?_, ?_, ?_⟩
      · intro worker stage found
        cases found
      · intro member
        cases member
      · intro member
        cases member
  | cleared clearing =>
      exact ⟨staffed.matched, staffed.idle, fun member => ⟨(staffed.ended member).1, rfl⟩,
        fun _ => Nat.zero_le _⟩
  | emptied reactorId channel emptying open_ =>
      exact ⟨staffed.matched, staffed.idle, staffed.ended, staffed.woken⟩
  | stopped reactorId emptying all =>
      exact ⟨staffed.matched, staffed.idle, staffed.ended, staffed.woken⟩

end Staffed

/-! ### How far `stop` is -/

section Halting

variable {threads} {after : WorkerThreads Work Completion}

theorem Halting.outside (halting : Halting threads) (going : threads.stopping = false) :
    threads.stopper = .outside := by
  by_contra away
  have stops := halting.stops away
  rw [going] at stops
  cases stops

/-- The workers are there as long as one of them does anything. -/
theorem Halting.here (halting : Halting threads) {worker : Nat}
    {phase : WorkerPhase Work Completion} (found : threads.pool.workers[worker]? = some phase) :
    threads.stopper.gone threads.stopping = false := by
  cases gone : threads.stopper.gone threads.stopping with
  | false => rfl
  | true =>
      rw [(halting.gone gone).1] at found
      cases found

theorem not_emptied {stopper : Stopper} {stopping : Bool} (here : stopper.gone stopping = false)
    (reactorId : Nat) : stopper.emptied stopping reactorId = false := by
  cases stopper with
  | outside => exact here
  | marked => rfl
  | joining worker => rfl
  | clearing => cases here
  | emptying next => cases here

theorem Halting.set_stage (halting : Halting threads) {worker : Nat} {old new : Stage}
    (found : threads.stages[worker]? = some old) (open_ : old ≠ .ended)
    (calm : new = .asleep → threads.stopping = false) :
    Halting { threads with stages := threads.stages.set worker new } := by
  refine ⟨halting.stops, ?_, ?_, halting.gone, halting.emptied⟩
  · intro joiner joining member
    rcases List.mem_or_eq_of_mem_set member with earlier | same
    · exact halting.awake joiner joining earlier
    · have outside := halting.outside (calm same.symm)
      dsimp only at joining
      rw [outside] at joining
      cases joining
  · intro joiner joining earlier before
    have ended := halting.joined joiner joining earlier before
    have elsewhere : worker ≠ earlier := by
      intro same
      rw [same, ended] at found
      cases found
      exact open_ rfl
    dsimp only
    rw [List.getElem?_set_ne elsewhere]
    exact ended

theorem Halting.worked (halting : Halting threads) {worker : Nat}
    {phase : WorkerPhase Work Completion}
    (found : threads.pool.workers[worker]? = some phase) (next : WorkerPool Work Completion) :
    Halting { threads with pool := next } := by
  have here := halting.here found
  refine ⟨halting.stops, halting.awake, halting.joined, ?_, ?_⟩
  · intro gone
    dsimp only at gone
    rw [here] at gone
    cases gone
  · intro reactorId channel open_ emptied
    dsimp only at emptied
    rw [not_emptied here] at emptied
    cases emptied

/-- The workers that are joined stay joined. -/
theorem Halting.joins (halting : Halting threads) {worker : Nat}
    (joining : threads.stopper = .joining worker)
    (ended : threads.stages[worker]? = some .ended) :
    Halting { threads with stopper := .joining (worker + 1) } := by
  refine ⟨fun _ => ?_, ?_, ?_, ?_, ?_⟩
  · apply halting.stops
    rw [joining]
    intro same
    cases same
  · intro _ _
    exact halting.awake worker joining
  · intro joiner same earlier before
    cases same
    rcases Nat.lt_succ_iff_lt_or_eq.mp before with already | last
    · exact halting.joined worker joining earlier already
    · rw [last]
      exact ended
  · intro gone
    cases gone
  · intro reactorId channel open_ emptied
    cases emptied

theorem Move.halting (orderly : Orderly threads) (move : Move threads after) : Halting after := by
  have halting := orderly.halting
  cases move with
  | idle => exact halting
  | submitted reactorId work woken going manned known room =>
      have outside := halting.outside going
      refine ⟨fun away => absurd outside away, ?_, ?_, ?_, ?_⟩
      · intro worker joining
        dsimp only at joining
        rw [outside] at joining
        cases joining
      · intro worker joining
        dsimp only at joining
        rw [outside] at joining
        cases joining
      · intro gone
        dsimp only at gone
        rw [outside, going] at gone
        cases gone
      · exact halting.emptied
  | slept worker runs waits going nothing =>
      exact halting.set_stage runs (by decide) (fun _ => going)
  | ended worker runs waits stops nothing =>
      apply halting.set_stage runs (by decide)
      intro same
      cases same
  | took worker job jobs runs waits queued => exact halting.worked waits _
  | ran worker job result runs here => exact halting.worked here _
  | handed worker old new next runs hands => exact halting.worked hands.here next
  | woke worker sleeps =>
      apply halting.set_stage sleeps (by decide)
      intro same
      cases same
  | reacted next reacts =>
      refine ⟨halting.stops, halting.awake, halting.joined, ?_, ?_⟩
      · dsimp only
        rw [reacts.workers, reacts.same.jobs]
        exact halting.gone
      · intro reactorId channel open_ emptied
        obtain ⟨earlier, found, fewer⟩ := reacts.emptier reactorId channel open_
        rw [halting.emptied reactorId earlier found emptied] at fewer
        exact List.suffix_nil.mp fewer
  | marked outside going =>
      refine ⟨fun _ => rfl, ?_, ?_, ?_, ?_⟩
      · intro worker joining
        cases joining
      · intro worker joining
        cases joining
      · intro gone
        cases gone
      · intro reactorId channel open_ emptied
        cases emptied
  | notified marked =>
      refine ⟨fun _ => ?_, ?_, ?_, ?_, ?_⟩
      · apply halting.stops
        rw [marked]
        intro same
        cases same
      · intro _ _
        exact notifyAll_awake _
      · intro worker joining earlier before
        cases joining
        exact absurd before (Nat.not_lt_zero earlier)
      · intro gone
        cases gone
      · intro reactorId channel open_ emptied
        cases emptied
  | joined worker joining ended => exact halting.joins joining ended
  | left worker joining all =>
      refine ⟨fun _ => ?_, ?_, ?_, fun _ => ⟨rfl, orderly.all_done joining all⟩, ?_⟩
      · apply halting.stops
        rw [joining]
        intro same
        cases same
      · intro joiner same
        cases same
      · intro joiner same
        cases same
      · intro reactorId channel open_ emptied
        cases emptied
  | cleared clearing =>
      have gone : threads.stopper.gone threads.stopping = true := by
        rw [clearing]
        rfl
      refine ⟨fun _ => ?_, ?_, ?_, fun _ => ⟨(halting.gone gone).1, rfl⟩, ?_⟩
      · apply halting.stops
        rw [clearing]
        intro same
        cases same
      · intro joiner same
        cases same
      · intro joiner same
        cases same
      · intro reactorId channel open_ emptied
        have before : reactorId < 0 := of_decide_eq_true emptied
        exact absurd before (Nat.not_lt_zero reactorId)
  | emptied reactorId channel emptying open_ =>
      have gone : threads.stopper.gone threads.stopping = true := by
        rw [emptying]
        rfl
      refine ⟨fun _ => ?_, ?_, ?_, fun _ => halting.gone gone, ?_⟩
      · apply halting.stops
        rw [emptying]
        intro same
        cases same
      · intro joiner same
        cases same
      · intro joiner same
        cases same
      · intro other stored found emptied
        rcases getElem?_set_cases found with ⟨-, same⟩ | ⟨elsewhere, earlier⟩
        · rw [same]
        · apply halting.emptied other stored earlier
          have before : other < reactorId + 1 := of_decide_eq_true emptied
          rw [emptying]
          exact decide_eq_true (by omega)
  | stopped reactorId emptying all =>
      have gone : threads.stopper.gone threads.stopping = true := by
        rw [emptying]
        rfl
      refine ⟨fun away => absurd rfl away, ?_, ?_, fun _ => halting.gone gone, ?_⟩
      · intro joiner same
        cases same
      · intro joiner same
        cases same
      · intro other stored found _
        have inside : other < threads.pool.channels.length :=
          (List.getElem?_eq_some_iff.mp found).1
        have counted := List.getElem?_eq_none_iff.mp all
        apply halting.emptied other stored found
        rw [emptying]
        exact decide_eq_true (by omega)

theorem Move.orderly (orderly : Orderly threads) (move : Move threads after) : Orderly after :=
  ⟨move.kept orderly, move.staffed orderly, move.halting orderly⟩

end Halting

theorem step_orderly (next : Step Work Completion) (orderly : Orderly threads) :
    Orderly (threads.step next) := (threads.step_moves next).orderly orderly

theorem run_orderly (reactorCount hardware requested : Nat) (eventfd : Nat → Bool)
    (steps : List (Step Work Completion)) :
    Orderly (run step (create reactorCount hardware requested eventfd) steps) :=
  run_invariant step (fun threads next => threads.step_orderly next)
    (create_orderly reactorCount hardware requested eventfd) steps

variable {threads} in
theorem Staffed.spare_ready (staffed : Staffed threads)
    (running : ∀ stage ∈ threads.stages, stage = .running) : threads.spare = threads.ready := by
  have matched := staffed.matched
  have all := List.eq_replicate_of_mem running
  unfold spare ready
  rw [all, matched]
  generalize threads.pool.workers = workers
  induction workers with
  | nil => rfl
  | cons phase workers ih =>
      rw [List.length_cons, List.replicate_succ, List.zip_cons_cons, List.countP_cons,
        List.countP_cons, ih]
      rfl

/-- No job waits while a worker that could take it sleeps. -/
theorem no_job_waits_for_a_sleeper (reactorCount hardware requested : Nat) (eventfd : Nat → Bool)
    (steps : List (Step Work Completion)) :
    let threads := run step (create reactorCount hardware requested eventfd) steps
    min threads.pool.jobs.length threads.spare ≤ threads.ready := by
  intro threads
  have orderly : Orderly threads := run_orderly reactorCount hardware requested eventfd steps
  by_cases sleeps : .asleep ∈ threads.stages
  · exact Nat.le_trans (Nat.min_le_left _ _) (orderly.staffed.woken sleeps)
  by_cases left : .ended ∈ threads.stages
  · rw [(orderly.staffed.ended left).2]
    exact Nat.le_trans (Nat.min_le_left _ _) (Nat.zero_le _)
  have running : ∀ stage ∈ threads.stages, stage = .running := by
    intro stage member
    cases stage with
    | running => rfl
    | asleep => exact absurd member sleeps
    | ended => exact absurd member left
  rw [← orderly.staffed.spare_ready running]
  exact Nat.min_le_right _ _

end WorkerThreads

end Aorta.Worker
