import Aorta.Lb.HealthChecker
import Aorta.Library.FiniteMap
import Aorta.Library.Run

/-!
# Verdicts and rounds

`start` begins a round. Every backend of the pool then either fails at once or is
checked, and a check ends with one verdict. The verdicts are recorded beside the
checker and the pool, round by round; the pool is what the verdicts make of it.
-/

namespace Aorta.Lb.HealthChecker

open Aorta.Net Aorta.Library Aorta.Library.Ascii Aorta.Library.Run

set_option autoImplicit false

structure Verdict where
  backend : Nat
  healthy : Bool
deriving DecidableEq, Repr

/-- The failures of a backend since its last success; the newest verdict is first. -/
def failuresSince (index : Nat) : List Verdict → Nat
  | [] => 0
  | verdict :: verdicts =>
      if verdict.backend = index then
        if verdict.healthy then 0 else failuresSince index verdicts + 1
      else failuresSince index verdicts

def verdictsFor (index : Nat) (verdicts : List Verdict) : Nat :=
  verdicts.countP fun verdict => verdict.backend = index

section Verdicts

/-! What an operation decides, by its definition. -/

def finishVerdicts (checker : HealthChecker) (fd : Int) (healthy : Bool) : List Verdict :=
  match checker.checks.lookup fd with
  | none => []
  | some check => [⟨check.backendIndex, healthy⟩]

def eventVerdicts (checker : HealthChecker) (fd : Int) (events : EventMask)
    (answers : CheckAnswers) : List Verdict :=
  match checker.checks.lookup fd with
  | none => []
  | some check =>
      match advance events answers check with
      | .live _ => []
      | .verdict healthy => checker.finishVerdicts fd healthy

def expireVerdicts (checker : HealthChecker) (pool : BackendPool) : List Int → List Verdict
  | [] => []
  | fd :: expired =>
      let (next, nextPool) := checker.finishCheck pool fd false
      expireVerdicts next nextPool expired ++ checker.finishVerdicts fd false

/-- The socket that one turn of `start` leaves open, with the state and the deadline of its
check. -/
def opened (inUse : Int → Bool) (checker : HealthChecker) (answer : StartAnswer) :
    Option (Int × State × Int) :=
  match answer with
  | .connected fd true now =>
      if inUse fd || checker.handles fd then none
      else some (fd, .writing, now + responseTimeoutMs * millisecond)
  | .inProgress fd true now =>
      if inUse fd || checker.handles fd then none
      else some (fd, .connecting, now + connectTimeoutMs * millisecond)
  | _ => none

def turnVerdicts (inUse : Int → Bool) (checker : HealthChecker) (index : Nat)
    (answer : StartAnswer) : List Verdict :=
  if (opened inUse checker answer).isSome then [] else [⟨index, false⟩]

def turnsVerdicts (inUse : Int → Bool) :
    List (Backend × Nat) → List StartAnswer → HealthChecker × BackendPool → List Verdict
  | [], _, _ => []
  | (backend, index) :: backends, answers, (checker, pool) =>
      let answer := answers.headD .noSocket
      turnsVerdicts inUse backends answers.tail
          (startCheck inUse checker pool index backend answer) ++
        turnVerdicts inUse checker index answer

end Verdicts

section Checks

/-- The check is for the same backend and sends it the same request. -/
def Check.Same (next check : Check) : Prop :=
  next.backendIndex = check.backendIndex ∧ next.request = check.request

theorem handle_connect_same {socketError : Bool} {now : Int} {check next : Check}
    (live : handleConnect socketError now check = .live next) : next.Same check := by
  unfold handleConnect at live
  split_ifs at live
  cases live
  exact ⟨rfl, rfl⟩

theorem handle_write_same {now : Int} {sends : List SendResult} {check next : Check}
    (live : handleWrite now sends check = .live next) : next.Same check := by
  fun_induction handleWrite now sends check with
  | case1 => cases live; exact ⟨rfl, rfl⟩
  | case2 _ _ _ _ _ ih => exact ih live
  | case3 => cases live
  | case4 _ _ _ ih => exact ih live
  | case5 => cases live; exact ⟨rfl, rfl⟩
  | case6 => cases live
  | case7 => cases live; exact ⟨rfl, rfl⟩

theorem handle_read_same {recvs : List RecvResult} {check next : Check}
    (live : handleRead recvs check = .live next) : next.Same check := by
  fun_induction handleRead recvs check with
  | case1 => cases live; exact ⟨rfl, rfl⟩
  | case2 => cases live
  | case3 => cases live
  | case4 _ _ _ _ _ _ _ _ ih => exact ih live
  | case5 _ _ _ ih => exact ih live
  | case6 => cases live; exact ⟨rfl, rfl⟩
  | case7 => cases live
  | case8 => cases live

theorem and_then_live {progress : Progress} {next : Check → Progress} {last : Check}
    (live : progress.andThen next = .live last) :
    ∃ check, progress = .live check ∧ next check = .live last := by
  cases progress with
  | live check => exact ⟨check, rfl, live⟩
  | verdict healthy => cases live

theorem guarded_live {condition : Bool} {handle : Check → Progress} {check next : Check}
    (live : (if condition = true then handle check else Progress.live check) = .live next) :
    condition = false ∧ next = check ∨ condition = true ∧ handle check = .live next := by
  cases condition with
  | false =>
      cases live
      exact .inl ⟨rfl, rfl⟩
  | true => exact .inr ⟨rfl, live⟩

theorem advance_same {events : EventMask} {answers : CheckAnswers} {check last : Check}
    (live : advance events answers check = .live last) : last.Same check := by
  have guarded : ∀ {condition : Bool} {handle : Check → Progress} {check next : Check},
      (if condition = true then handle check else Progress.live check) = .live next →
      (handle check = .live next → next.Same check) → next.Same check := by
    intro condition handle check next live keeps
    rcases guarded_live live with ⟨-, rfl⟩ | ⟨-, handled⟩
    · exact ⟨rfl, rfl⟩
    · exact keeps handled
  obtain ⟨connected, connecting, afterConnect⟩ := and_then_live live
  obtain ⟨written, writing, afterWrite⟩ := and_then_live afterConnect
  obtain ⟨received, reading, afterRead⟩ := and_then_live afterWrite
  have connectSame := guarded connecting handle_connect_same
  have writeSame := guarded writing handle_write_same
  have readSame := guarded reading handle_read_same
  have lastSame : last = received := by
    split_ifs at afterRead
    cases afterRead
    rfl
  rw [lastSame]
  exact ⟨readSame.1.trans (writeSame.1.trans connectSame.1),
    readSame.2.trans (writeSame.2.trans connectSame.2)⟩

end Checks

/-- The rounds that were begun with their verdicts, the newest first. -/
structure Watch where
  checker : HealthChecker := {}
  pool : BackendPool
  rounds : List (List Verdict) := []

namespace Watch

/-- A verdict belongs to the newest round. -/
def record (verdict : Verdict) : List (List Verdict) → List (List Verdict)
  | [] => [[verdict]]
  | round :: rounds => (verdict :: round) :: rounds

def verdicts (watch : Watch) : List Verdict := watch.rounds.flatten

def after (watch : Watch) (result : HealthChecker × BackendPool) (new : List Verdict) : Watch :=
  { checker := result.1, pool := result.2, rounds := new.foldr record watch.rounds }

inductive Input where
  | start (inUse : Int → Bool) (answers : List StartAnswer)
  | event (fd : Int) (events : EventMask) (answers : CheckAnswers)
  | expire (expired : List Int)

/-- `start` begins a round where it does not return at once. -/
def step (watch : Watch) : Input → Watch
  | .start inUse answers =>
      let result := watch.checker.start inUse watch.pool answers
      if watch.checker.active then { watch with checker := result.1, pool := result.2 }
      else
        { watch with rounds := [] :: watch.rounds }.after result
          (turnsVerdicts inUse watch.pool.zipIdx answers (watch.checker, watch.pool))
  | .event fd events answers =>
      watch.after (watch.checker.handleEvent watch.pool fd events answers)
        (watch.checker.eventVerdicts fd events answers)
  | .expire expired =>
      watch.after (watch.checker.expire watch.pool expired)
        (watch.checker.expireVerdicts watch.pool expired)

def create (configured : List (Bytes × Nat)) : Watch :=
  { pool := configured.map fun entry => { host := entry.1, port := entry.2 } }

section Definitions

theorem opened_free {inUse : Int → Bool} {checker : HealthChecker} {answer : StartAnswer}
    {fd : Int} {state : State} {deadline : Int}
    (left : opened inUse checker answer = some (fd, state, deadline)) :
    inUse fd = false ∧ checker.handles fd = false := by
  rw [← Bool.or_eq_false_iff]
  unfold opened at left
  split at left
  · split_ifs at left with used
    cases left
    exact eq_false_of_ne_true used
  · split_ifs at left with used
    cases left
    exact eq_false_of_ne_true used
  · cases left

theorem opened_fresh {inUse : Int → Bool} {checker : HealthChecker} {answer : StartAnswer}
    {fd : Int} {state : State} {deadline : Int}
    (left : opened inUse checker answer = some (fd, state, deadline)) :
    checker.checks.lookup fd = none := by
  simpa [handles] using (opened_free left).2

theorem start_check_eq (inUse : Int → Bool) (checker : HealthChecker) (pool : BackendPool)
    (index : Nat) (backend : Backend) (answer : StartAnswer) :
    startCheck inUse checker pool index backend answer =
      match opened inUse checker answer with
      | none => (checker, pool.modify index Backend.countFailure)
      | some (fd, state, deadline) =>
          (⟨checker.checks.insert fd
            ⟨fd, index, state, healthRequest backend, 0, [], deadline⟩⟩, pool) := by
  unfold startCheck opened
  rcases answer with _ | _ | ⟨fd, _ | _⟩ | ⟨fd, _ | _⟩
  all_goals try rfl
  all_goals
    simp only
    split_ifs <;> rfl

end Definitions

/-- What the rounds say of a checker and its pool, when `begun` backends have had their
turn in the newest round. -/
structure Sound (count begun : Nat) (watch : Watch) : Prop where
  size : watch.pool.length = count
  health : ∀ index backend, watch.pool[index]? = some backend →
    backend.consecutiveFailures = failuresSince index watch.verdicts ∧
      backend.healthy = decide (backend.consecutiveFailures < 2)
  balanced : ∀ index,
    verdictsFor index (watch.rounds.headD []) +
        FiniteMap.count (fun check => check.backendIndex = index) watch.checker.checks =
      if index < begun then 1 else 0
  finished : ∀ round ∈ watch.rounds.tail, ∀ index,
    verdictsFor index round = if index < count then 1 else 0

section Invariant

variable {count begun : Nat} {watch : Watch}

theorem flatten_record (verdict : Verdict) (rounds : List (List Verdict)) :
    (record verdict rounds).flatten = verdict :: rounds.flatten := by
  cases rounds <;> rfl

theorem head_record (verdict : Verdict) (rounds : List (List Verdict)) :
    (record verdict rounds).headD [] = verdict :: rounds.headD [] := by
  cases rounds <;> rfl

theorem tail_record (verdict : Verdict) (rounds : List (List Verdict)) :
    (record verdict rounds).tail = rounds.tail := by
  cases rounds <;> rfl

theorem verdicts_for_cons (index : Nat) (verdict : Verdict) (verdicts : List Verdict) :
    verdictsFor index (verdict :: verdicts) =
      verdictsFor index verdicts + if verdict.backend = index then 1 else 0 := by
  simp [verdictsFor, List.countP_cons]

/-- What a verdict does to the backend it is about. -/
def judge (verdict : Verdict) (pool : BackendPool) : BackendPool :=
  pool.modify verdict.backend
    (if verdict.healthy then Backend.countSuccess else Backend.countFailure)

theorem judge_health {pool : BackendPool} {verdicts : List Verdict}
    (health : ∀ index backend, pool[index]? = some backend →
      backend.consecutiveFailures = failuresSince index verdicts ∧
        backend.healthy = decide (backend.consecutiveFailures < 2)) (verdict : Verdict) :
    ∀ index backend, (judge verdict pool)[index]? = some backend →
      backend.consecutiveFailures = failuresSince index (verdict :: verdicts) ∧
        backend.healthy = decide (backend.consecutiveFailures < 2) := by
  intro index backend found
  unfold judge at found
  rw [List.getElem?_modify] at found
  by_cases here : verdict.backend = index
  · obtain ⟨old, there, rfl⟩ := Option.map_eq_some_iff.mp found
    obtain ⟨failures, healthy⟩ := health index old there
    cases good : verdict.healthy with
    | true => simp [failuresSince, here, good, Backend.countSuccess]
    | false =>
        simp only [failuresSince, here, good, if_true, Bool.false_eq_true, if_false,
          Backend.countFailure, failures, true_and]
        rw [healthy, failures]
        split_ifs with many
        · exact (decide_eq_false (by omega)).symm
        · rw [decide_eq_true (by omega), decide_eq_true (by omega)]
  · have there : pool[index]? = some backend := by simpa [here] using found
    simpa [failuresSince, here] using health index backend there

theorem judge_length (pool : BackendPool) (verdict : Verdict) :
    (judge verdict pool).length = pool.length := List.length_modify _ _ _

variable {checker : HealthChecker} {pool : BackendPool} {rounds : List (List Verdict)}

theorem Sound.replaced (sound : Sound count begun ⟨checker, pool, rounds⟩) {fd : Int}
    {old new : Check} (found : checker.checks.lookup fd = some old)
    (same : new.backendIndex = old.backendIndex) :
    Sound count begun ⟨⟨checker.checks.insert fd new⟩, pool, rounds⟩ := by
  refine ⟨sound.size, sound.health, fun index => ?_, sound.finished⟩
  have before := sound.balanced index
  simp only at before ⊢
  rw [FiniteMap.count_replace _ found (by rw [same])]
  exact before

theorem Sound.ended (sound : Sound count begun ⟨checker, pool, rounds⟩) {fd : Int}
    {check : Check} (found : checker.checks.lookup fd = some check) (healthy : Bool) :
    Sound count begun
      ⟨⟨checker.checks.erase fd⟩, judge ⟨check.backendIndex, healthy⟩ pool,
        record ⟨check.backendIndex, healthy⟩ rounds⟩ := by
  refine ⟨(judge_length pool _).trans sound.size, ?_, fun index => ?_, ?_⟩
  · unfold verdicts
    rw [flatten_record]
    exact judge_health sound.health _
  · have before := sound.balanced index
    simp only at before ⊢
    rw [FiniteMap.count_erase_found _ found] at before
    rw [head_record, verdicts_for_cons, ← before]
    simp only [decide_eq_true_eq]
    omega
  · simp only [tail_record]
    exact sound.finished

theorem Sound.failed (sound : Sound count begun ⟨checker, pool, rounds⟩) :
    Sound count (begun + 1)
      ⟨checker, judge ⟨begun, false⟩ pool, record ⟨begun, false⟩ rounds⟩ := by
  refine ⟨(judge_length pool _).trans sound.size, ?_, fun index => ?_, ?_⟩
  · unfold verdicts
    rw [flatten_record]
    exact judge_health sound.health _
  · have before := sound.balanced index
    simp only at before ⊢
    rw [head_record, verdicts_for_cons]
    split_ifs at before ⊢ <;> simp only at * <;> omega
  · simp only [tail_record]
    exact sound.finished

theorem Sound.opened (sound : Sound count begun ⟨checker, pool, rounds⟩) {fd : Int}
    {check : Check} (fresh : checker.checks.lookup fd = none) (own : check.backendIndex = begun) :
    Sound count (begun + 1) ⟨⟨checker.checks.insert fd check⟩, pool, rounds⟩ := by
  refine ⟨sound.size, sound.health, fun index => ?_, sound.finished⟩
  have before := sound.balanced index
  simp only at before ⊢
  rw [FiniteMap.count_add _ fresh, own]
  simp only [decide_eq_true_eq]
  split_ifs at before ⊢ <;> omega

theorem finish_sound (sound : Sound count begun ⟨checker, pool, rounds⟩) (fd : Int)
    (healthy : Bool) :
    Sound count begun ((⟨checker, pool, rounds⟩ : Watch).after
      (checker.finishCheck pool fd healthy) (checker.finishVerdicts fd healthy)) := by
  unfold finishCheck finishVerdicts
  cases found : checker.checks.lookup fd with
  | none => exact sound
  | some check => exact sound.ended found healthy

theorem event_sound (sound : Sound count begun ⟨checker, pool, rounds⟩) (fd : Int)
    (events : EventMask) (answers : CheckAnswers) :
    Sound count begun ((⟨checker, pool, rounds⟩ : Watch).after
      (checker.handleEvent pool fd events answers)
      (checker.eventVerdicts fd events answers)) := by
  unfold handleEvent eventVerdicts
  cases found : checker.checks.lookup fd with
  | none => exact sound
  | some check =>
      simp only
      cases advanced : advance events answers check with
      | live next => exact sound.replaced found ((advance_same advanced).1)
      | verdict healthy => exact finish_sound sound fd healthy

theorem expire_sound (expired : List Int) (sound : Sound count begun ⟨checker, pool, rounds⟩) :
    Sound count begun ((⟨checker, pool, rounds⟩ : Watch).after
      (checker.expire pool expired) (checker.expireVerdicts pool expired)) := by
  induction expired generalizing checker pool rounds with
  | nil => exact sound
  | cons fd expired ih =>
      have first := ih (finish_sound sound fd false)
      unfold expireVerdicts Watch.after
      rw [List.foldr_append]
      exact first

theorem turn_sound (sound : Sound count begun ⟨checker, pool, rounds⟩) (inUse : Int → Bool)
    (backend : Backend) (answer : StartAnswer) :
    Sound count (begun + 1) ((⟨checker, pool, rounds⟩ : Watch).after
      (startCheck inUse checker pool begun backend answer)
      (turnVerdicts inUse checker begun answer)) := by
  rw [start_check_eq]
  unfold turnVerdicts
  cases left : opened inUse checker answer with
  | none => exact sound.failed
  | some entry => exact sound.opened (opened_fresh left) rfl

theorem turns_sound (inUse : Int → Bool) (backends : List Backend)
    (answers : List StartAnswer) (sound : Sound count begun ⟨checker, pool, rounds⟩) :
    Sound count (begun + backends.length) ((⟨checker, pool, rounds⟩ : Watch).after
      (startChecks inUse (backends.zipIdx begun) answers (checker, pool))
      (turnsVerdicts inUse (backends.zipIdx begun) answers (checker, pool))) := by
  induction backends generalizing begun checker pool rounds answers with
  | nil => exact sound
  | cons backend backends ih =>
      have rest := ih answers.tail (turn_sound sound inUse backend (answers.headD .noSocket))
      rw [List.zipIdx_cons, List.length_cons, ← Nat.add_assoc, Nat.add_right_comm]
      unfold startChecks turnsVerdicts Watch.after
      rw [List.foldr_append]
      exact rest

theorem inactive_count (inactive : checker.active = false) (index : Nat) :
    FiniteMap.count (fun check => check.backendIndex = index) checker.checks = 0 := by
  have empty : checker.checks.entries = [] := by simpa [active] using inactive
  unfold FiniteMap.count
  rw [empty]
  rfl

theorem begin_sound (sound : Sound count begun ⟨checker, pool, rounds⟩)
    (inactive : checker.active = false) (complete : rounds = [] ∨ begun = count) :
    Sound count 0 ⟨checker, pool, [] :: rounds⟩ := by
  refine ⟨sound.size, sound.health, fun index => ?_, ?_⟩
  · simp only
    rw [inactive_count inactive]
    rfl
  · intro round member index
    cases rounds with
    | nil => cases member
    | cons newest earlier =>
        rcases List.mem_cons.mp member with rfl | older
        · have whole := sound.balanced index
          simp only at whole
          rw [inactive_count inactive, complete.resolve_left (List.cons_ne_nil _ _)] at whole
          exact whole
        · exact sound.finished round older index

/-- Between the operations every backend has had its turn in the rounds begun. -/
def Between (count : Nat) (watch : Watch) : Prop :=
  ∃ begun, Sound count begun watch ∧ (watch.rounds = [] ∧ begun = 0 ∨ begun = count)

theorem Sound.unchecked (sound : Sound count 0 ⟨checker, pool, rounds⟩) (fd : Int) :
    checker.checks.lookup fd = none := by
  cases found : checker.checks.lookup fd with
  | none => rfl
  | some check =>
      have balanced := sound.balanced check.backendIndex
      simp only at balanced
      rw [FiniteMap.count_erase_found _ found] at balanced
      simp at balanced

theorem event_unchecked {fd : Int} (missing : checker.checks.lookup fd = none)
    (events : EventMask) (answers : CheckAnswers) :
    (⟨checker, pool, rounds⟩ : Watch).step (.event fd events answers) =
      ⟨checker, pool, rounds⟩ := by
  simp only [step, handleEvent, eventVerdicts, missing]
  rfl

theorem expire_unchecked (missing : ∀ fd, checker.checks.lookup fd = none)
    (expired : List Int) :
    (⟨checker, pool, rounds⟩ : Watch).step (.expire expired) = ⟨checker, pool, rounds⟩ := by
  induction expired with
  | nil => rfl
  | cons fd expired ih =>
      simp only [step, expire, expireVerdicts, List.foldl_cons, finishCheck, finishVerdicts,
        missing fd, List.append_nil] at ih ⊢
      exact ih

theorem start_active (active : watch.checker.active = true) (inUse : Int → Bool)
    (answers : List StartAnswer) : watch.step (.start inUse answers) = watch := by
  simp only [step, start, active, if_true]

theorem step_between (watch : Watch) (input : Input) (between : Between count watch) :
    Between count (watch.step input) := by
  obtain ⟨checker, pool, rounds⟩ := watch
  obtain ⟨begun, sound, turns⟩ := between
  cases input with
  | start inUse answers =>
      cases active : checker.active with
      | true =>
          rw [start_active active]
          exact ⟨begun, sound, turns⟩
      | false =>
          have complete : rounds = [] ∨ begun = count := turns.imp_left And.left
          have started :=
            turns_sound inUse pool answers (begin_sound sound active complete)
          refine ⟨count, ?_, .inr rfl⟩
          rw [Nat.zero_add, show pool.length = count from sound.size] at started
          simp only [step, start, active, Bool.false_eq_true, if_false]
          exact started
  | event fd events answers =>
      rcases turns with ⟨none, rfl⟩ | whole
      · rw [event_unchecked (sound.unchecked fd)]
        exact ⟨_, sound, .inl ⟨none, rfl⟩⟩
      · exact ⟨begun, event_sound sound fd events answers, .inr whole⟩
  | expire expired =>
      rcases turns with ⟨none, rfl⟩ | whole
      · rw [expire_unchecked sound.unchecked]
        exact ⟨_, sound, .inl ⟨none, rfl⟩⟩
      · exact ⟨begun, expire_sound expired sound, .inr whole⟩

theorem create_between (configured : List (Bytes × Nat)) :
    Between configured.length (create configured) := by
  have fresh : ∀ index backend, (create configured).pool[index]? = some backend →
      backend.consecutiveFailures = failuresSince index [] ∧
        backend.healthy = decide (backend.consecutiveFailures < 2) := by
    intro index backend found
    obtain ⟨entry, _, same⟩ := List.mem_map.mp (List.mem_of_getElem? found)
    rw [← same]
    exact ⟨rfl, rfl⟩
  exact ⟨0, ⟨List.length_map _, fresh, fun index => rfl, nofun⟩, .inl ⟨rfl, rfl⟩⟩

theorem Sound.distinct (sound : Sound count begun ⟨checker, pool, rounds⟩) {left right : Int}
    {first second : Check} (leftFound : checker.checks.lookup left = some first)
    (rightFound : checker.checks.lookup right = some second)
    (same : first.backendIndex = second.backendIndex) : left = right := by
  by_contra different
  have balanced := sound.balanced second.backendIndex
  have still : (checker.checks.erase left).lookup right = some second := by
    rw [AList.lookup_erase_ne (Ne.symm different)]
    exact rightFound
  simp only at balanced
  rw [FiniteMap.count_erase_found _ leftFound, FiniteMap.count_erase_found _ still] at balanced
  simp only [same, decide_true, if_true] at balanced
  split_ifs at balanced
  all_goals omega

/-- The rounds that are complete: all but the newest, and the newest when it has no live
check. -/
theorem Sound.complete (sound : Sound count count ⟨checker, pool, rounds⟩) {position : Nat}
    {round : List Verdict} (found : rounds[position]? = some round)
    (done : 0 < position ∨ checker.active = false) {index : Nat} (below : index < count) :
    verdictsFor index round = 1 := by
  cases rounds with
  | nil => cases found
  | cons newest earlier =>
      cases position with
      | zero =>
          have inactive := done.resolve_left (lt_irrefl 0)
          have whole := sound.balanced index
          simp only [inactive_count inactive, if_pos below, Nat.add_zero] at whole
          cases found
          exact whole
      | succ position =>
          have member : round ∈ earlier := List.mem_of_getElem? found
          rw [sound.finished round member index, if_pos below]

end Invariant

/-- Over every run of the three operations: the failures of a backend are those since
its last success, and it is healthy below two of them; no two live checks are for one
backend; every round gave each backend one verdict, the newest one when no check is live
any more; no round begins before that. -/
theorem health_follows_the_verdicts (configured : List (Bytes × Nat)) (inputs : List Input) :
    let watch := run step (create configured) inputs
    (∀ index backend, watch.pool[index]? = some backend →
      backend.consecutiveFailures = failuresSince index watch.verdicts ∧
        (backend.healthy = true ↔ backend.consecutiveFailures < 2)) ∧
      (∀ left right first second, watch.checker.checks.lookup left = some first →
        watch.checker.checks.lookup right = some second →
          first.backendIndex = second.backendIndex → left = right) ∧
      (∀ position round, watch.rounds[position]? = some round →
        (0 < position ∨ watch.checker.active = false) →
          ∀ index < configured.length, verdictsFor index round = 1) ∧
      ∀ inUse answers, watch.checker.active = true →
        watch.step (.start inUse answers) = watch := by
  intro watch
  obtain ⟨begun, sound, turns⟩ : Between configured.length watch :=
    run_invariant step step_between (create_between configured) inputs
  refine ⟨?_, ?_, ?_, ?_⟩
  · intro index backend found
    obtain ⟨failures, healthy⟩ := sound.health index backend found
    exact ⟨failures, by rw [healthy, decide_eq_true_iff]⟩
  · intro left right first second leftFound rightFound same
    exact sound.distinct leftFound rightFound same
  · intro position round found done index below
    rcases turns with ⟨none, -⟩ | rfl
    · rw [none] at found
      cases found
    · exact sound.complete found done below
  · intro inUse answers active
    exact start_active active inUse answers

end Watch

end Aorta.Lb.HealthChecker
