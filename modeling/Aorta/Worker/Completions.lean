import Mathlib.Tactic.Abel
import Aorta.Worker.WorkerPool

/-!
# No completion is lost

Every accepted job is in exactly one place: in the queue, with the worker that took it,
or among those that were run. So is every completion that was returned: with the worker
that is to push it, in the channel of its job's reactor, or popped. A reactor leaves
`handleCompletions` only when it finds its channel empty, and whoever fills the channel
still has its `write` before it.
-/

namespace Aorta.Worker

open Aorta.Library.Custody Aorta.Library.Run

set_option autoImplicit false

variable {Work Completion : Type}

def WorkerPhase.job : WorkerPhase Work Completion → List (Job Work)
  | .taken job => [job]
  | _ => []

def WorkerPhase.completion : WorkerPhase Work Completion → List (Returned Work Completion)
  | .returned completion => [completion]
  | _ => []

namespace WorkerPool

/-- What a step does. -/
inductive Change (pool : WorkerPool Work Completion) : WorkerPool Work Completion → Prop
  | idle : Change pool pool
  | submitted (reactorId : Nat) (work : Work) (known : reactorId < pool.channels.length)
      (room : pool.jobs.length < maxQueuedJobs) :
      Change pool { pool with
        jobs := pool.jobs ++ [⟨pool.accepted.length, reactorId, work⟩]
        accepted := pool.accepted ++ [⟨pool.accepted.length, reactorId, work⟩] }
  | taken (worker : Nat) (job : Job Work) (jobs : List (Job Work))
      (here : pool.workers[worker]? = some .waiting) (queued : pool.jobs = job :: jobs) :
      Change pool { pool with jobs := jobs, workers := pool.workers.set worker (.taken job) }
  | ran (worker : Nat) (job : Job Work) (result : Option Completion)
      (here : pool.workers[worker]? = some (.taken job)) :
      Change pool { pool with
        workers := pool.workers.set worker
          (result.elim .waiting fun completion => .returned ⟨job, completion⟩)
        ran := pool.ran ++ [(job, result)] }
  | pushed (worker : Nat) (completion : Returned Work Completion)
      (channel : CompletionChannel Work Completion)
      (here : pool.workers[worker]? = some (.returned completion))
      (open_ : pool.channels[completion.job.reactorId]? = some channel) :
      Change pool { pool with
        workers := pool.workers.set worker (.pushed completion.job.reactorId)
        channels := pool.channels.set completion.job.reactorId
          { channel with completions := channel.completions ++ [completion] }
        pushed := pool.pushed ++ [(completion.job.reactorId, completion)] }
  | dropped (worker : Nat) (completion : Returned Work Completion)
      (here : pool.workers[worker]? = some (.returned completion))
      (missing : pool.channels[completion.job.reactorId]? = none) :
      Change pool { pool with workers := pool.workers.set worker .waiting }
  | written (worker reactorId : Nat) (channel : CompletionChannel Work Completion)
      (here : pool.workers[worker]? = some (.pushed reactorId))
      (open_ : pool.channels[reactorId]? = some channel) :
      Change pool { pool with
        workers := pool.workers.set worker .waiting
        channels := pool.channels.set reactorId
          { channel with counter := signal channel.counter } }
  | unwritten (worker reactorId : Nat) (here : pool.workers[worker]? = some (.pushed reactorId))
      (missing : pool.channels[reactorId]? = none) :
      Change pool { pool with workers := pool.workers.set worker .waiting }
  | entered (reactor : Nat) (here : pool.reactors[reactor]? = some .outside) :
      Change pool { pool with reactors := pool.reactors.set reactor .consuming }
  | consumed (reactor : Nat) (channel : CompletionChannel Work Completion)
      (here : pool.reactors[reactor]? = some .consuming)
      (open_ : pool.channels[reactor]? = some channel) :
      Change pool { pool with channels := pool.channels.set reactor { channel with counter := 0 } }
  | drained (reactor : Nat) (here : pool.reactors[reactor]? = some .consuming) :
      Change pool { pool with reactors := pool.reactors.set reactor .popping }
  | popped (reactor : Nat) (completion : Returned Work Completion)
      (completions : List (Returned Work Completion))
      (channel : CompletionChannel Work Completion)
      (here : pool.reactors[reactor]? = some .popping)
      (open_ : pool.channels[reactor]? = some channel)
      (queued : channel.completions = completion :: completions) :
      Change pool { pool with
        channels := pool.channels.set reactor { channel with completions := completions }
        popped := pool.popped ++ [(reactor, completion)] }
  | left (reactor : Nat) (channel : CompletionChannel Work Completion)
      (here : pool.reactors[reactor]? = some .popping)
      (open_ : pool.channels[reactor]? = some channel) (empty : channel.completions = []) :
      Change pool { pool with reactors := pool.reactors.set reactor .outside }

theorem step_changes (pool : WorkerPool Work Completion) (next : Step Work Completion) :
    Change pool (pool.step next) := by
  cases next with
  | submit reactorId work =>
      simp only [step, submit]
      cases work with
      | none => exact .idle
      | some work =>
          simp only
          split_ifs with unknown full
          · exact .idle
          · exact .idle
          · simp only [Bool.or_eq_true, decide_eq_true_eq, not_or] at full
            exact .submitted reactorId work (Nat.lt_of_not_le unknown) (Nat.lt_of_not_le full.2)
  | take worker =>
      simp only [step, takeJob]
      split
      · rename_i job jobs here queued
        exact .taken worker job jobs here queued
      · exact .idle
  | run worker result =>
      simp only [step, runJob]
      split
      · rename_i job here
        have changes := Change.ran worker job result here
        cases result with
        | none => exact changes
        | some completion => exact changes
      · exact .idle
  | push worker =>
      simp only [step, pushCompletion]
      split
      · rename_i completion here
        split
        · rename_i missing
          exact .dropped worker completion here missing
        · rename_i channel open_
          exact .pushed worker completion channel here open_
      · exact .idle
  | write worker interrupted =>
      simp only [step, writeEvent]
      split
      · rename_i reactorId here
        split_ifs
        · exact .idle
        · split
          · rename_i missing
            exact .unwritten worker reactorId here missing
          · rename_i channel open_
            exact .written worker reactorId channel here open_
      · exact .idle
  | enter reactor =>
      simp only [step, enterCompletions]
      split
      · rename_i here
        exact .entered reactor here
      · exact .idle
  | read reactor interrupted =>
      simp only [step, readEvent]
      split
      · rename_i channel here open_
        split_ifs
        · exact .idle
        · exact .consumed reactor channel here open_
        · exact .drained reactor here
      · exact .idle
  | pop reactor =>
      simp only [step, popCompletion]
      split
      · rename_i channel here open_
        split
        · rename_i empty
          exact .left reactor channel here open_ empty
        · rename_i completion completions queued
          exact .popped reactor completion completions channel here open_ queued
      · exact .idle

/-! ### Custody -/

/-- The completion that a run of a job returned. -/
def returnedBy (run : Job Work × Option Completion) : Option (Returned Work Completion) :=
  run.2.map fun completion => ⟨run.1, completion⟩

/-- Everything is in exactly one place, and the places have the right address. -/
structure Custody (pool : WorkerPool Work Completion) : Prop where
  size : pool.jobs.length ≤ maxQueuedJobs
  numbers : pool.accepted.map Job.number = List.range pool.accepted.length
  known : ∀ job ∈ pool.accepted, job.reactorId < pool.channels.length
  jobs : (pool.jobs : Multiset (Job Work)) + held WorkerPhase.job pool.workers +
    (pool.ran.map Prod.fst : List (Job Work)) = pool.accepted
  returned : held WorkerPhase.completion pool.workers +
    (pool.pushed.map Prod.snd : List (Returned Work Completion)) = pool.ran.filterMap returnedBy
  channels : (pool.popped.map Prod.snd : Multiset (Returned Work Completion)) +
    held CompletionChannel.completions pool.channels = (pool.pushed.map Prod.snd : List _)
  pushed : ∀ entry ∈ pool.pushed, entry.1 = entry.2.job.reactorId
  popped : ∀ entry ∈ pool.popped, entry.1 = entry.2.job.reactorId
  queued : ∀ (reactorId : Nat) (channel : CompletionChannel Work Completion),
    pool.channels[reactorId]? = some channel →
    ∀ completion ∈ channel.completions, completion.job.reactorId = reactorId

theorem create_custody (reactorCount workerCount : Nat) :
    Custody (create reactorCount workerCount : WorkerPool Work Completion) := by
  constructor
  · exact Nat.zero_le _
  · rfl
  · exact nofun
  · simp only [create]
    rw [held_replicate WorkerPhase.job workerCount rfl]
    rfl
  · simp only [create]
    rw [held_replicate WorkerPhase.completion workerCount rfl]
    rfl
  · simp only [create]
    rw [held_replicate CompletionChannel.completions reactorCount rfl]
    rfl
  · exact nofun
  · exact nofun
  · intro reactorId channel found completion member
    have fresh := List.eq_of_mem_replicate (List.mem_of_getElem? found)
    rw [fresh] at member
    cases member

section Custody

variable {pool : WorkerPool Work Completion}

theorem Custody.set_worker (custody : Custody pool) {worker : Nat}
    {old : WorkerPhase Work Completion} (here : pool.workers[worker]? = some old)
    (new : WorkerPhase Work Completion) (job : new.job = old.job)
    (completion : new.completion = old.completion) :
    Custody { pool with workers := pool.workers.set worker new } where
  size := custody.size
  numbers := custody.numbers
  known := custody.known
  jobs := by
    dsimp only
    rw [held_set_same WorkerPhase.job here new job]
    exact custody.jobs
  returned := by
    dsimp only
    rw [held_set_same WorkerPhase.completion here new completion]
    exact custody.returned
  channels := custody.channels
  pushed := custody.pushed
  popped := custody.popped
  queued := custody.queued

theorem Custody.set_channel (custody : Custody pool) {reactorId : Nat}
    {new : CompletionChannel Work Completion}
    (own : ∀ completion ∈ new.completions, completion.job.reactorId = reactorId) :
    ∀ (other : Nat) (stored : CompletionChannel Work Completion),
      (pool.channels.set reactorId new)[other]? = some stored →
      ∀ completion ∈ stored.completions, completion.job.reactorId = other := by
  intro other stored found
  rw [List.getElem?_set] at found
  split_ifs at found with same
  · cases found
    rw [← same]
    exact own
  · exact custody.queued other stored found

theorem Custody.set_counter (custody : Custody pool) {reactorId : Nat}
    {channel : CompletionChannel Work Completion}
    (open_ : pool.channels[reactorId]? = some channel) (counter : Nat) :
    Custody { pool with
      channels := pool.channels.set reactorId { channel with counter := counter } } where
  size := custody.size
  numbers := custody.numbers
  known := by
    dsimp only
    rw [List.length_set]
    exact custody.known
  jobs := custody.jobs
  returned := custody.returned
  channels := by
    dsimp only
    rw [held_set_same CompletionChannel.completions open_ { channel with counter := counter } rfl]
    exact custody.channels
  pushed := custody.pushed
  popped := custody.popped
  queued := custody.set_channel (custody.queued reactorId channel open_)

theorem Custody.submitted (custody : Custody pool) {reactorId : Nat} (work : Work)
    (known : reactorId < pool.channels.length) (room : pool.jobs.length < maxQueuedJobs) :
    Custody { pool with
      jobs := pool.jobs ++ [⟨pool.accepted.length, reactorId, work⟩]
      accepted := pool.accepted ++ [⟨pool.accepted.length, reactorId, work⟩] } where
  size := by
    rw [List.length_append]
    exact room
  numbers := by
    rw [List.map_append, custody.numbers, List.length_append, List.length_singleton,
      List.range_succ]
    rfl
  known := by
    intro job member
    rcases List.mem_append.mp member with earlier | new
    · exact custody.known job earlier
    · rw [List.mem_singleton.mp new]
      exact known
  jobs := by
    dsimp only
    rw [← Multiset.coe_add, ← Multiset.coe_add, ← custody.jobs]
    abel
  returned := custody.returned
  channels := custody.channels
  pushed := custody.pushed
  popped := custody.popped
  queued := custody.queued

theorem Custody.taken (custody : Custody pool) {worker : Nat} {job : Job Work}
    {jobs : List (Job Work)} (here : pool.workers[worker]? = some .waiting)
    (queued : pool.jobs = job :: jobs) :
    Custody { pool with jobs := jobs, workers := pool.workers.set worker (.taken job) } where
  size := by
    have size := custody.size
    rw [queued, List.length_cons] at size
    exact Nat.le_of_succ_le size
  numbers := custody.numbers
  known := custody.known
  jobs := by
    have exchanged := held_set WorkerPhase.job here (.taken job)
    have before := custody.jobs
    rw [queued, ← Multiset.cons_coe, ← Multiset.singleton_add] at before
    rw [← before]
    dsimp only [WorkerPhase.job] at exchanged ⊢
    rw [Multiset.coe_nil, zero_add, Multiset.coe_singleton] at exchanged
    rw [exchanged]
    abel
  returned := by
    dsimp only
    rw [held_set_same WorkerPhase.completion here (.taken job) rfl]
    exact custody.returned
  channels := custody.channels
  pushed := custody.pushed
  popped := custody.popped
  queued := custody.queued

theorem Custody.ran (custody : Custody pool) {worker : Nat} {job : Job Work}
    (result : Option Completion) (here : pool.workers[worker]? = some (.taken job)) :
    Custody { pool with
      workers := pool.workers.set worker
        (result.elim .waiting fun completion => .returned ⟨job, completion⟩)
      ran := pool.ran ++ [(job, result)] } where
  size := custody.size
  numbers := custody.numbers
  known := custody.known
  jobs := by
    have exchanged := held_set WorkerPhase.job here
      (result.elim .waiting fun completion => .returned ⟨job, completion⟩)
    have free : (result.elim .waiting fun completion => .returned ⟨job, completion⟩ :
        WorkerPhase Work Completion).job = [] := by
      cases result with
      | none => rfl
      | some completion => rfl
    rw [free, Multiset.coe_nil, zero_add] at exchanged
    dsimp only
    rw [← custody.jobs, ← exchanged, coe_map_snoc, WorkerPhase.job, Multiset.coe_singleton]
    abel
  returned := by
    have exchanged := held_set WorkerPhase.completion here
      (result.elim .waiting fun completion => .returned ⟨job, completion⟩)
    dsimp only
    rw [List.filterMap_append, ← Multiset.coe_add, ← custody.returned]
    dsimp only [WorkerPhase.completion] at exchanged
    rw [Multiset.coe_nil, zero_add] at exchanged
    rw [exchanged]
    cases result with
    | none =>
        dsimp only [Option.elim, WorkerPhase.completion]
        rw [Multiset.coe_nil, zero_add]
        exact (add_zero _).symm
    | some completion =>
        dsimp only [Option.elim, WorkerPhase.completion]
        have single : [(job, some completion)].filterMap returnedBy = [⟨job, completion⟩] := rfl
        rw [single]
        abel
  channels := custody.channels
  pushed := custody.pushed
  popped := custody.popped
  queued := custody.queued

theorem Custody.addressed (custody : Custody pool) {worker : Nat}
    {completion : Returned Work Completion}
    (here : pool.workers[worker]? = some (.returned completion)) :
    completion.job.reactorId < pool.channels.length := by
  have holds : completion ∈ held WorkerPhase.completion pool.workers :=
    mem_held WorkerPhase.completion here List.mem_cons_self
  have known : completion ∈ (pool.ran.filterMap returnedBy : Multiset _) := by
    rw [← custody.returned]
    exact Multiset.mem_add.mpr (.inl holds)
  obtain ⟨⟨job, result⟩, ran, returned⟩ := List.mem_filterMap.mp (Multiset.mem_coe.mp known)
  obtain ⟨value, isValue, rfl⟩ := Option.map_eq_some_iff.mp returned
  apply custody.known job
  rw [← Multiset.mem_coe, ← custody.jobs]
  apply Multiset.mem_add.mpr
  exact .inr (Multiset.mem_coe.mpr (List.mem_map.mpr ⟨(job, result), ran, rfl⟩))

theorem Custody.pushed_step (custody : Custody pool) {worker : Nat}
    {completion : Returned Work Completion} {channel : CompletionChannel Work Completion}
    (here : pool.workers[worker]? = some (.returned completion))
    (open_ : pool.channels[completion.job.reactorId]? = some channel) :
    Custody { pool with
      workers := pool.workers.set worker (.pushed completion.job.reactorId)
      channels := pool.channels.set completion.job.reactorId
        { channel with completions := channel.completions ++ [completion] }
      pushed := pool.pushed ++ [(completion.job.reactorId, completion)] } where
  size := custody.size
  numbers := custody.numbers
  known := by
    dsimp only
    rw [List.length_set]
    exact custody.known
  jobs := by
    dsimp only
    rw [held_set_same WorkerPhase.job here (.pushed completion.job.reactorId) rfl]
    exact custody.jobs
  returned := by
    have exchanged := held_set WorkerPhase.completion here (.pushed completion.job.reactorId)
    dsimp only [WorkerPhase.completion] at exchanged ⊢
    rw [Multiset.coe_nil, zero_add] at exchanged
    rw [← custody.returned, ← exchanged, coe_map_snoc, Multiset.coe_singleton]
    abel
  channels := by
    have exchanged := held_set CompletionChannel.completions open_
      { channel with completions := channel.completions ++ [completion] }
    dsimp only at exchanged ⊢
    rw [← Multiset.coe_add, add_assoc, Multiset.coe_singleton] at exchanged
    rw [add_left_cancel exchanged, coe_map_snoc, ← custody.channels]
    abel
  pushed := by
    intro entry member
    rcases List.mem_append.mp member with earlier | new
    · exact custody.pushed entry earlier
    · rw [List.mem_singleton.mp new]
  popped := custody.popped
  queued := by
    apply custody.set_channel
    intro item member
    rcases List.mem_append.mp member with earlier | new
    · exact custody.queued _ channel open_ item earlier
    · rw [List.mem_singleton.mp new]

theorem Custody.popped_step (custody : Custody pool) {reactor : Nat}
    {completion : Returned Work Completion} {completions : List (Returned Work Completion)}
    {channel : CompletionChannel Work Completion}
    (open_ : pool.channels[reactor]? = some channel)
    (queued : channel.completions = completion :: completions) :
    Custody { pool with
      channels := pool.channels.set reactor { channel with completions := completions }
      popped := pool.popped ++ [(reactor, completion)] } where
  size := custody.size
  numbers := custody.numbers
  known := by
    dsimp only
    rw [List.length_set]
    exact custody.known
  jobs := custody.jobs
  returned := custody.returned
  channels := by
    have exchanged := held_set CompletionChannel.completions open_
      { channel with completions := completions }
    dsimp only at exchanged ⊢
    rw [queued, ← Multiset.cons_coe, ← Multiset.singleton_add, add_assoc, add_left_comm]
      at exchanged
    rw [← custody.channels, ← add_left_cancel exchanged, coe_map_snoc]
    abel
  pushed := custody.pushed
  popped := by
    intro entry member
    rcases List.mem_append.mp member with earlier | new
    · exact custody.popped entry earlier
    · rw [List.mem_singleton.mp new]
      apply (custody.queued reactor channel open_ completion ?_).symm
      rw [queued]
      exact List.mem_cons_self
  queued := by
    apply custody.set_channel
    intro item member
    apply custody.queued reactor channel open_
    rw [queued]
    exact List.mem_cons_of_mem _ member

theorem Custody.set_reactors (custody : Custody pool) (reactors : List ReactorPhase) :
    Custody { pool with reactors := reactors } :=
  ⟨custody.size, custody.numbers, custody.known, custody.jobs, custody.returned, custody.channels,
    custody.pushed, custody.popped, custody.queued⟩

theorem change_custody {after : WorkerPool Work Completion} (custody : Custody pool)
    (change : Change pool after) : Custody after := by
  cases change with
  | idle => exact custody
  | submitted reactorId work known room => exact custody.submitted work known room
  | taken worker job jobs here queued => exact custody.taken here queued
  | ran worker job result here => exact custody.ran result here
  | pushed worker completion channel here open_ => exact custody.pushed_step here open_
  | dropped worker completion here missing =>
      have inside := custody.addressed here
      rw [List.getElem?_eq_none_iff] at missing
      omega
  | written worker reactorId channel here open_ =>
      exact (custody.set_worker here .waiting rfl rfl).set_counter open_ (signal channel.counter)
  | unwritten worker reactorId here missing => exact custody.set_worker here .waiting rfl rfl
  | entered reactor here => exact custody.set_reactors _
  | consumed reactor channel here open_ => exact custody.set_counter open_ 0
  | drained reactor here => exact custody.set_reactors _
  | popped reactor completion completions channel here open_ queued =>
      exact custody.popped_step open_ queued
  | left reactor channel here open_ empty => exact custody.set_reactors _

end Custody

/-! ### Wake-ups -/

section Wakes

variable {pool : WorkerPool Work Completion}

/-- A reactor that is outside `handleCompletions` while its channel has completions is
woken, or a worker is about to wake it. -/
def Wakes (pool : WorkerPool Work Completion) : Prop :=
  ∀ (reactor : Nat) (channel : CompletionChannel Work Completion),
    pool.channels[reactor]? = some channel → channel.completions ≠ [] →
    pool.reactors[reactor]? = some .outside → 0 < channel.counter ∨ .pushed reactor ∈ pool.workers

theorem signal_pos (counter : Nat) : 0 < signal counter := by
  unfold signal maxCounter
  split_ifs with room
  · exact Nat.succ_pos counter
  · omega

theorem Wakes.set_worker (wakes : Wakes pool) {worker : Nat}
    {old : WorkerPhase Work Completion} (here : pool.workers[worker]? = some old)
    (busy : ∀ reactor channel, pool.channels[reactor]? = some channel → old ≠ .pushed reactor)
    (new : WorkerPhase Work Completion) :
    Wakes { pool with workers := pool.workers.set worker new } := by
  intro reactor channel open_ waiting outside
  rcases wakes reactor channel open_ waiting outside with positive | writing
  · exact .inl positive
  · exact .inr (mem_set_of_ne here writing (busy reactor channel open_).symm new)

theorem Wakes.set_channel (wakes : Wakes pool) (reactorId : Nat)
    (new : CompletionChannel Work Completion)
    (woken : new.completions ≠ [] → pool.reactors[reactorId]? = some .outside →
      0 < new.counter ∨ .pushed reactorId ∈ pool.workers) :
    Wakes { pool with channels := pool.channels.set reactorId new } := by
  intro reactor channel open_ waiting outside
  dsimp only at open_
  rw [List.getElem?_set] at open_
  split_ifs at open_ with same
  · cases open_
    subst same
    exact woken waiting outside
  · exact wakes reactor channel open_ waiting outside

theorem Wakes.set_reactor (wakes : Wakes pool) (reactorId : Nat) (new : ReactorPhase)
    (inside : new = .outside → ∀ channel, pool.channels[reactorId]? = some channel →
      channel.completions = []) :
    Wakes { pool with reactors := pool.reactors.set reactorId new } := by
  intro reactor channel open_ waiting outside
  dsimp only at outside
  rw [List.getElem?_set] at outside
  split_ifs at outside with same
  · subst same
    cases outside
    exact absurd (inside rfl channel open_) waiting
  · exact wakes reactor channel open_ waiting outside

theorem change_wakes {after : WorkerPool Work Completion} (wakes : Wakes pool)
    (change : Change pool after) : Wakes after := by
  cases change with
  | idle => exact wakes
  | submitted reactorId work known room => exact wakes
  | taken worker job jobs here queued => exact wakes.set_worker here nofun _
  | ran worker job result here => exact wakes.set_worker here nofun _
  | pushed worker completion channel here open_ =>
      apply (wakes.set_worker here nofun (.pushed completion.job.reactorId)).set_channel
      intro _ _
      exact .inr (mem_set_self here _)
  | dropped worker completion here missing => exact wakes.set_worker here nofun _
  | written worker reactorId channel here open_ =>
      intro reactor stored found waiting outside
      dsimp only at found
      rw [List.getElem?_set] at found
      split_ifs at found with same
      · cases found
        exact .inl (signal_pos channel.counter)
      · rcases wakes reactor stored found waiting outside with positive | writing
        · exact .inl positive
        · have another : (WorkerPhase.pushed reactor : WorkerPhase Work Completion) ≠
              .pushed reactorId := by
            intro equal
            cases equal
            exact same rfl
          exact .inr (mem_set_of_ne here writing another .waiting)
  | unwritten worker reactorId here missing =>
      apply wakes.set_worker here
      intro reactor channel open_ same
      cases same
      rw [missing] at open_
      cases open_
  | entered reactor here => exact wakes.set_reactor reactor _ nofun
  | consumed reactor channel here open_ =>
      apply wakes.set_channel
      intro _ outside
      rw [here] at outside
      cases outside
  | drained reactor here => exact wakes.set_reactor reactor _ nofun
  | popped reactor completion completions channel here open_ queued =>
      apply wakes.set_channel
      intro _ outside
      rw [here] at outside
      cases outside
  | left reactor channel here open_ empty =>
      apply wakes.set_reactor
      intro _ other isOther
      rw [open_] at isOther
      cases isOther
      exact empty

theorem create_wakes (reactorCount workerCount : Nat) :
    Wakes (create reactorCount workerCount : WorkerPool Work Completion) := by
  intro reactor channel found waiting
  have fresh := List.eq_of_mem_replicate (List.mem_of_getElem? found)
  rw [fresh] at waiting
  exact absurd rfl waiting

end Wakes

/-! ### Order in the channels -/

section Orders

variable {pool : WorkerPool Work Completion}

/-- A channel holds what was pushed to it and not yet popped, in the order of the pushes. -/
def Orders (pool : WorkerPool Work Completion) : Prop :=
  ∀ (reactor : Nat) (channel : CompletionChannel Work Completion),
    pool.channels[reactor]? = some channel →
    (pool.pushed.filter fun entry => entry.1 = reactor) =
      (pool.popped.filter fun entry => entry.1 = reactor) ++
        channel.completions.map fun completion => (reactor, completion)

theorem Orders.set_counter (orders : Orders pool) {reactorId : Nat}
    {channel : CompletionChannel Work Completion}
    (open_ : pool.channels[reactorId]? = some channel) (counter : Nat) :
    Orders { pool with
      channels := pool.channels.set reactorId { channel with counter := counter } } := by
  intro reactor stored found
  dsimp only at found ⊢
  rw [List.getElem?_set] at found
  split_ifs at found with same
  · cases found
    subst same
    exact orders reactorId channel open_
  · exact orders reactor stored found

theorem Orders.pushed (orders : Orders pool) {reactorId : Nat}
    {channel : CompletionChannel Work Completion}
    (open_ : pool.channels[reactorId]? = some channel) (completion : Returned Work Completion) :
    Orders { pool with
      channels := pool.channels.set reactorId
        { channel with completions := channel.completions ++ [completion] }
      pushed := pool.pushed ++ [(reactorId, completion)] } := by
  intro reactor stored found
  dsimp only at found ⊢
  rw [List.getElem?_set] at found
  rw [List.filter_append]
  split_ifs at found with same
  · cases found
    subst same
    rw [orders reactorId channel open_, List.map_append, List.append_assoc]
    simp
  · rw [orders reactor stored found]
    simp [same]

theorem Orders.popped (orders : Orders pool) {reactorId : Nat}
    {channel : CompletionChannel Work Completion} {completion : Returned Work Completion}
    {completions : List (Returned Work Completion)}
    (open_ : pool.channels[reactorId]? = some channel)
    (queued : channel.completions = completion :: completions) :
    Orders { pool with
      channels := pool.channels.set reactorId { channel with completions := completions }
      popped := pool.popped ++ [(reactorId, completion)] } := by
  intro reactor stored found
  dsimp only at found ⊢
  rw [List.getElem?_set] at found
  rw [List.filter_append]
  split_ifs at found with same
  · cases found
    subst same
    rw [orders reactorId channel open_, queued]
    simp
  · rw [orders reactor stored found]
    simp [same]

theorem change_orders {after : WorkerPool Work Completion} (orders : Orders pool)
    (change : Change pool after) : Orders after := by
  cases change with
  | pushed worker completion channel here open_ => exact orders.pushed open_ completion
  | written worker reactorId channel here open_ => exact orders.set_counter open_ _
  | consumed reactor channel here open_ => exact orders.set_counter open_ _
  | popped reactor completion completions channel here open_ queued =>
      exact orders.popped open_ queued
  | _ => exact orders

theorem create_orders (reactorCount workerCount : Nat) :
    Orders (create reactorCount workerCount : WorkerPool Work Completion) := by
  intro reactor channel found
  have fresh := List.eq_of_mem_replicate (List.mem_of_getElem? found)
  rw [fresh]
  rfl

end Orders

/-! ### Whole runs -/

section Counts

variable {pool : WorkerPool Work Completion} (custody : Custody pool)

include custody

/-- No two accepted jobs have one number. -/
theorem Custody.number_once {job : Job Work} (member : job ∈ pool.accepted) :
    pool.accepted.countP (fun other => other.number = job.number) = 1 := by
  have distinct : (pool.accepted.map Job.number).Nodup := by
    rw [custody.numbers]
    exact List.nodup_range
  have once := List.count_eq_one_of_mem distinct (List.mem_map_of_mem member)
  rw [List.count, List.countP_map] at once
  rw [← once]
  apply List.countP_congr
  intro other _
  simp

/-- A job waits to be run, or it was run, once. -/
theorem Custody.job_once {job : Job Work} (member : job ∈ pool.accepted) :
    (pool.jobs ++ pool.workers.flatMap WorkerPhase.job).countP
        (fun other => other.number = job.number) +
      pool.ran.countP (fun run => run.1.number = job.number) = 1 := by
  have whole := congrArg (Multiset.countP fun other => other.number = job.number) custody.jobs
  rw [Multiset.countP_add, Multiset.countP_add, held, Multiset.coe_countP, Multiset.coe_countP,
    Multiset.coe_countP, Multiset.coe_countP, custody.number_once member, List.countP_map] at whole
  rw [List.countP_append]
  exact whole

theorem Custody.ran_accepted {job : Job Work} {result : Option Completion}
    (member : (job, result) ∈ pool.ran) : job ∈ pool.accepted := by
  rw [← Multiset.mem_coe, ← custody.jobs]
  apply Multiset.mem_add.mpr
  exact .inr (Multiset.mem_coe.mpr (List.mem_map_of_mem member))

/-- A completion that was returned waits to be pushed, or was pushed, once. -/
theorem Custody.completion_once {job : Job Work} {completion : Completion}
    (member : (job, some completion) ∈ pool.ran) :
    (pool.workers.flatMap WorkerPhase.completion).countP
        (fun other => other.job.number = job.number) +
      pool.pushed.countP (fun entry => entry.2.job.number = job.number) = 1 := by
  have whole := congrArg (Multiset.countP fun other => other.job.number = job.number)
    custody.returned
  rw [Multiset.countP_add, held, Multiset.coe_countP, Multiset.coe_countP, Multiset.coe_countP,
    List.countP_map, List.countP_filterMap] at whole
  have atMost : pool.ran.countP (fun run => ((returnedBy run).map
      fun other => decide (other.job.number = job.number)).getD false) ≤
      pool.ran.countP fun run => run.1.number = job.number := by
    apply List.countP_mono_left
    intro run _ returned
    obtain ⟨other, result⟩ := run
    cases result with
    | none => cases returned
    | some value => exact returned
  have atLeast : 0 < pool.ran.countP (fun run => ((returnedBy run).map
      fun other => decide (other.job.number = job.number)).getD false) := by
    apply List.countP_pos_iff.mpr
    exact ⟨(job, some completion), member, decide_eq_true rfl⟩
  have once := custody.job_once (custody.ran_accepted member)
  have same : (pool.workers.flatMap WorkerPhase.completion).countP
        (fun other => other.job.number = job.number) +
      pool.pushed.countP (fun entry => entry.2.job.number = job.number) = _ := whole
  omega

/-- What was popped was pushed, on the same channel, and is popped no more often. -/
theorem Custody.popped_once (number : Nat) :
    pool.popped.countP (fun entry => entry.2.job.number = number) ≤
      pool.pushed.countP (fun entry => entry.2.job.number = number) := by
  have whole := congrArg (Multiset.countP fun other => other.job.number = number) custody.channels
  rw [Multiset.countP_add, Multiset.coe_countP, Multiset.coe_countP, List.countP_map,
    List.countP_map] at whole
  have part := Nat.le.intro whole
  exact part

theorem Custody.popped_pushed {entry : Nat × Returned Work Completion}
    (member : entry ∈ pool.popped) : entry ∈ pool.pushed := by
  have known : entry.2 ∈ pool.pushed.map Prod.snd := by
    rw [← Multiset.mem_coe, ← custody.channels]
    apply Multiset.mem_add.mpr
    exact .inl (Multiset.mem_coe.mpr (List.mem_map_of_mem member))
  obtain ⟨other, isPushed, same⟩ := List.mem_map.mp known
  have address : other = entry := by
    apply Prod.ext
    · rw [custody.pushed other isPushed, same, custody.popped entry member]
    · exact same
  rw [← address]
  exact isPushed

theorem Custody.pushed_returned {entry : Nat × Returned Work Completion}
    (member : entry ∈ pool.pushed) : (entry.2.job, some entry.2.completion) ∈ pool.ran := by
  have known : entry.2 ∈ (pool.ran.filterMap returnedBy : Multiset _) := by
    rw [← custody.returned]
    apply Multiset.mem_add.mpr
    exact .inr (Multiset.mem_coe.mpr (List.mem_map_of_mem member))
  obtain ⟨⟨job, result⟩, isRun, returned⟩ := List.mem_filterMap.mp (Multiset.mem_coe.mp known)
  obtain ⟨completion, isCompletion, same⟩ := Option.map_eq_some_iff.mp returned
  rw [← same]
  have isResult : result = some completion := isCompletion
  rw [← isResult]
  exact isRun

end Counts

/-- In every interleaving, with any number of workers and reactors: the queue keeps its
limit; every accepted job waits to be run or was run, once; every completion that was
returned waits to be pushed or was pushed, once, on the channel of the reactor its job
was submitted with, and is popped from it at most once; what was pushed on a channel is
what was popped from it and then what it holds, in order; and a reactor with completions
is inside `handleCompletions`, woken, or about to be woken. -/
theorem completions_are_not_lost (reactorCount workerCount : Nat)
    (steps : List (Step Work Completion)) :
    let pool := run step (create reactorCount workerCount) steps
    pool.jobs.length ≤ 4096 ∧
    (∀ job ∈ pool.accepted,
      (pool.jobs ++ pool.workers.flatMap WorkerPhase.job).countP
          (fun other => other.number = job.number) +
        pool.ran.countP (fun run => run.1.number = job.number) = 1) ∧
    (∀ job completion, (job, some completion) ∈ pool.ran →
      (pool.workers.flatMap WorkerPhase.completion).countP
          (fun other => other.job.number = job.number) +
        pool.pushed.countP (fun entry => entry.2.job.number = job.number) = 1 ∧
      pool.popped.countP (fun entry => entry.2.job.number = job.number) ≤ 1) ∧
    (∀ entry ∈ pool.pushed, entry.1 = entry.2.job.reactorId ∧
      (entry.2.job, some entry.2.completion) ∈ pool.ran) ∧
    (∀ entry ∈ pool.popped, entry ∈ pool.pushed) ∧
    (∀ reactor channel, pool.channels[reactor]? = some channel →
      (pool.pushed.filter fun entry => entry.1 = reactor) =
        (pool.popped.filter fun entry => entry.1 = reactor) ++
          channel.completions.map fun completion => (reactor, completion)) ∧
    ∀ reactor channel, pool.channels[reactor]? = some channel → channel.completions ≠ [] →
      pool.reactors[reactor]? = some .outside →
      0 < channel.counter ∨ .pushed reactor ∈ pool.workers := by
  intro pool
  have keeps : ∀ (pool : WorkerPool Work Completion) (next : Step Work Completion),
      Custody pool ∧ Orders pool ∧ Wakes pool →
      Custody (pool.step next) ∧ Orders (pool.step next) ∧ Wakes (pool.step next) := by
    rintro pool next ⟨custody, orders, wakes⟩
    have change := step_changes pool next
    exact ⟨change_custody custody change, change_orders orders change, change_wakes wakes change⟩
  have all : Custody pool ∧ Orders pool ∧ Wakes pool := run_invariant step keeps
    ⟨create_custody reactorCount workerCount, create_orders reactorCount workerCount,
      create_wakes reactorCount workerCount⟩ steps
  obtain ⟨custody, orders, wakes⟩ := all
  refine ⟨custody.size, fun job member => custody.job_once member, ?_, ?_, ?_, orders, wakes⟩
  · intro job completion member
    have once := custody.completion_once member
    have fewer := custody.popped_once job.number
    exact ⟨once, by omega⟩
  · intro entry member
    exact ⟨custody.pushed entry member, custody.pushed_returned member⟩
  · intro entry member
    exact custody.popped_pushed member

end WorkerPool

end Aorta.Worker
