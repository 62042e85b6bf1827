import Aorta.Lb.HealthVerdicts

/-!
# The time of a check

Before the loop of a load balancer sleeps it asks `nextTimeoutMs` how long it may, and after
its events it lets `expire` end the checks that have run out of time. Clock readings are
arguments. A check has half a second to connect, half a second from then to send its request
and half a second from then to be answered: its deadline is set anew whenever it gets on.
-/

namespace Aorta.Lb

open Aorta.Library.Ascii Aorta.Library.Run Aorta.Net

set_option autoImplicit false

namespace HealthChecker

def nextTimeoutMs (checker : HealthChecker) (now : Int) : Int :=
  match checker.checks.entries.map fun entry => entry.2.deadline with
  | [] => -1
  | first :: rest =>
      let earliest := (first :: rest).foldl min first
      if earliest ≤ now then 0 else (earliest - now) / millisecond

/-- The descriptors that `expire` finds. -/
def expiredFds (checker : HealthChecker) (now : Int) : List Int :=
  (checker.checks.entries.filter fun entry => entry.2.deadline ≤ now).map Sigma.fst

def State.timeout : State → Int
  | .connecting => connectTimeoutMs * millisecond
  | .writing => responseTimeoutMs * millisecond
  | .reading => responseTimeoutMs * millisecond

/-- What the clock reads when the answer lets a check be made on a descriptor. -/
def StartAnswer.madeAt (fd : Int) : StartAnswer → Option Int
  | .connected other added now => if other = fd ∧ added then some now else none
  | .inProgress other added now => if other = fd ∧ added then some now else none
  | _ => none

def StartAnswer.readings : StartAnswer → List Int
  | .connected _ _ now => [now]
  | .inProgress _ _ now => [now]
  | _ => []

theorem made_at_reading {fd now : Int} {answer : StartAnswer}
    (made : answer.madeAt fd = some now) : now ∈ answer.readings := by
  cases answer with
  | noSocket => cases made
  | refused other => cases made
  | connected other added reading =>
      unfold StartAnswer.madeAt at made
      dsimp only at made
      split_ifs at made
      cases made
      exact List.mem_singleton_self _
  | inProgress other added reading =>
      unfold StartAnswer.madeAt at made
      dsimp only at made
      split_ifs at made
      cases made
      exact List.mem_singleton_self _

def CheckAnswers.readings (answers : CheckAnswers) : List Int :=
  [answers.connectedAt, answers.sentAt]

def CheckAnswers.reachedAt (answers : CheckAnswers) (state : State) : Int :=
  if state = .writing then answers.connectedAt else answers.sentAt

def stateOf (checker : HealthChecker) (fd : Int) : Option State :=
  (checker.checks.lookup fd).map Check.state

section Renewal

/-- An event leaves a live check in its state with its deadline, or in a later one, which it
has reached at that reading of the clock. -/
def Check.Renewed (answers : CheckAnswers) (check last : Check) : Prop :=
  last.state = check.state ∧ last.deadline = check.deadline ∨
    (last.state ≠ check.state ∧ check.state ≠ .reading ∧ last.state ≠ .connecting) ∧
      last.deadline = answers.reachedAt last.state + last.state.timeout

theorem handle_connect_renews {socketError : Bool} {now : Int} {check next : Check}
    (live : handleConnect socketError now check = .live next) :
    next.state = .writing ∧ next.deadline = now + responseTimeoutMs * millisecond := by
  unfold handleConnect at live
  split_ifs at live
  cases live
  exact ⟨rfl, rfl⟩

theorem handle_write_renews {now : Int} {sends : List SendResult} {check next : Check}
    (live : handleWrite now sends check = .live next) :
    next.state = check.state ∧ next.deadline = check.deadline ∨
      next.state = .reading ∧ next.deadline = now + responseTimeoutMs * millisecond := by
  fun_induction handleWrite now sends check with
  | case1 => cases live; exact .inl ⟨rfl, rfl⟩
  | case2 _ _ _ _ _ ih => exact ih live
  | case3 => cases live
  | case4 _ _ _ ih => exact ih live
  | case5 => cases live; exact .inl ⟨rfl, rfl⟩
  | case6 => cases live
  | case7 => cases live; exact .inr ⟨rfl, rfl⟩

theorem handle_read_renews {recvs : List RecvResult} {check next : Check}
    (live : handleRead recvs check = .live next) :
    next.state = check.state ∧ next.deadline = check.deadline := by
  fun_induction handleRead recvs check with
  | case1 => cases live; exact ⟨rfl, rfl⟩
  | case2 => cases live
  | case3 => cases live
  | case4 _ _ _ _ _ _ _ _ ih => exact ih live
  | case5 _ _ _ ih => exact ih live
  | case6 => cases live; exact ⟨rfl, rfl⟩
  | case7 => cases live
  | case8 => cases live

theorem advance_renews {events : EventMask} {answers : CheckAnswers} {check last : Check}
    (live : advance events answers check = .live last) : check.Renewed answers last := by
  obtain ⟨connected, connecting, afterConnect⟩ := and_then_live live
  obtain ⟨written, writing, afterWrite⟩ := and_then_live afterConnect
  obtain ⟨received, reading, afterRead⟩ := and_then_live afterWrite
  have same : last.state = written.state ∧ last.deadline = written.deadline := by
    have lastSame : last = received := by
      split_ifs at afterRead
      cases afterRead
      rfl
    rw [lastSame]
    rcases guarded_live reading with ⟨-, rfl⟩ | ⟨-, handled⟩
    · exact ⟨rfl, rfl⟩
    · exact handle_read_renews handled
  have wrote : written.state = connected.state ∧ written.deadline = connected.deadline ∨
      connected.state = .writing ∧ written.state = .reading ∧
        written.deadline = answers.sentAt + responseTimeoutMs * millisecond := by
    rcases guarded_live writing with ⟨-, rfl⟩ | ⟨guard, handled⟩
    · exact .inl ⟨rfl, rfl⟩
    · have before := of_decide_eq_true (Bool.and_eq_true_iff.mp guard).1
      exact (handle_write_renews handled).imp_right fun sent => ⟨before, sent⟩
  unfold Check.Renewed
  rw [same.1, same.2]
  rcases guarded_live connecting with ⟨-, rfl⟩ | ⟨guard, handled⟩
  · rcases wrote with ⟨state, deadline⟩ | ⟨before, state, deadline⟩
    · exact .inl ⟨state, deadline⟩
    · rw [state, before]
      exact .inr ⟨by decide, deadline⟩
  · have before := of_decide_eq_true (Bool.and_eq_true_iff.mp guard).1
    obtain ⟨isWriting, renewed⟩ := handle_connect_renews handled
    right
    rcases wrote with ⟨state, deadline⟩ | ⟨-, state, deadline⟩
    · rw [state, isWriting, before, deadline]
      exact ⟨by decide, renewed⟩
    · rw [state, before]
      exact ⟨by decide, deadline⟩

theorem handle_event_check {checker : HealthChecker} {pool : BackendPool} {fd : Int}
    {events : EventMask} {answers : CheckAnswers} {last : Check}
    (found : (checker.handleEvent pool fd events answers).1.checks.lookup fd = some last) :
    ∃ check, checker.checks.lookup fd = some check ∧ check.Renewed answers last := by
  unfold handleEvent at found
  cases before : checker.checks.lookup fd with
  | none =>
      rw [before] at found
      dsimp only at found
      rw [before] at found
      cases found
  | some check =>
      rw [before] at found
      dsimp only at found
      cases advanced : advance events answers check with
      | live next =>
          rw [advanced] at found
          dsimp only at found
          rw [AList.lookup_insert] at found
          cases found
          exact ⟨check, rfl, advance_renews advanced⟩
      | verdict healthy =>
          rw [advanced] at found
          unfold finishCheck at found
          rw [before] at found
          dsimp only at found
          rw [AList.lookup_erase] at found
          cases found

/-- A check that an answer has made is in its first state, reached when it was made. -/
def MadeAt (answers : List StartAnswer) (fd : Int) (check : Check) : Prop :=
  ∃ now, answers.findSome? (StartAnswer.madeAt fd) = some now ∧ check.state ≠ .reading ∧
    check.deadline = now + check.state.timeout

theorem opened_made {inUse : Int → Bool} {checker : HealthChecker} {answer : StartAnswer}
    {fd : Int} {state : State} {deadline : Int}
    (left : opened inUse checker answer = some (fd, state, deadline)) :
    (∃ now, answer.madeAt fd = some now ∧ state ≠ .reading ∧ deadline = now + state.timeout) ∧
      ∀ other, other ≠ fd → answer.madeAt other = none := by
  unfold opened at left
  split at left
  · split_ifs at left
    cases left
    exact ⟨⟨_, if_pos ⟨rfl, rfl⟩, by decide, rfl⟩, fun other differs =>
      if_neg fun both => differs both.1.symm⟩
  · split_ifs at left
    cases left
    exact ⟨⟨_, if_pos ⟨rfl, rfl⟩, by decide, rfl⟩, fun other differs =>
      if_neg fun both => differs both.1.symm⟩
  · cases left

theorem unopened_not_made {inUse : Int → Bool} {checker : HealthChecker} {answer : StartAnswer}
    (left : opened inUse checker answer = none) {fd : Int} (free : inUse fd = false)
    (unhandled : checker.handles fd = false) : answer.madeAt fd = none := by
  cases answer with
  | noSocket => rfl
  | refused other => rfl
  | connected other added now =>
      apply if_neg
      rintro ⟨rfl, rfl⟩
      simp [opened, free, unhandled] at left
  | inProgress other added now =>
      apply if_neg
      rintro ⟨rfl, rfl⟩
      simp [opened, free, unhandled] at left

theorem start_checks_made (inUse : Int → Bool) (backends : List (Backend × Nat))
    (answers : List StartAnswer) (checker : HealthChecker) (pool : BackendPool) {fd : Int}
    {check : Check}
    (found : (startChecks inUse backends answers (checker, pool)).1.checks.lookup fd =
      some check) :
    checker.checks.lookup fd = some check ∨
      checker.handles fd = false ∧ inUse fd = false ∧ MadeAt answers fd check := by
  induction backends generalizing answers checker pool with
  | nil => exact .inl found
  | cons entry backends ih =>
      cases answers with
      | nil => exact ih [] _ _ found
      | cons answer answers =>
          have rest := ih answers (startCheck inUse checker pool entry.2 entry.1 answer).1
            (startCheck inUse checker pool entry.2 entry.1 answer).2 found
          rw [Watch.start_check_eq] at rest
          cases left : opened inUse checker answer with
          | none =>
              rw [left] at rest
              refine rest.imp_right ?_
              rintro ⟨unhandled, free, now, first, made⟩
              refine ⟨unhandled, free, now, ?_, made⟩
              rw [List.findSome?_cons, unopened_not_made left free unhandled]
              exact first
          | some opening =>
              obtain ⟨fresh, state, deadline⟩ := opening
              obtain ⟨⟨now, here, made⟩, others⟩ := opened_made left
              have free := Watch.opened_free left
              rw [left] at rest
              dsimp only at rest
              by_cases same : fd = fresh
              · subst same
                rcases rest with before | ⟨unhandled, -⟩
                · rw [AList.lookup_insert] at before
                  cases before
                  refine .inr ⟨free.2, free.1, now, ?_, made⟩
                  rw [List.findSome?_cons, here]
                · unfold handles at unhandled
                  rw [AList.lookup_insert] at unhandled
                  cases unhandled
              · rcases rest with before | ⟨unhandled, isFree, later, first, made⟩
                · rw [AList.lookup_insert_ne same] at before
                  exact .inl before
                · unfold handles at unhandled
                  rw [AList.lookup_insert_ne same] at unhandled
                  refine .inr ⟨unhandled, isFree, later, ?_, made⟩
                  rw [List.findSome?_cons, others fd same]
                  exact first

end Renewal

/-- How long after it was made a check may get to a state. -/
def State.reachedWithin (delay : Nat) : State → Int
  | .connecting => 0
  | .writing => connectTimeoutMs * millisecond + delay
  | .reading => (connectTimeoutMs + responseTimeoutMs) * millisecond + 2 * delay

theorem Check.Renewed.within {answers : CheckAnswers} {check last : Check} {delay : Nat}
    {now reached made : Int} (renewed : check.Renewed answers last)
    (changed : last.state ≠ check.state) (before : answers.reachedAt last.state ≤ now)
    (close : now ≤ reached + check.state.timeout + delay)
    (within : reached ≤ made + check.state.reachedWithin delay) :
    answers.reachedAt last.state ≤ made + last.state.reachedWithin delay := by
  rcases renewed with ⟨same, -⟩ | ⟨⟨-, early, late⟩, -⟩
  · exact absurd same changed
  · generalize last.state = next at changed before late ⊢
    generalize check.state = old at changed close within early
    have bound : old.timeout + delay + old.reachedWithin delay ≤ next.reachedWithin delay := by
      cases old with
      | connecting =>
          cases next with
          | connecting => exact absurd rfl late
          | writing => simp only [State.timeout, State.reachedWithin]; omega
          | reading =>
              simp only [State.timeout, State.reachedWithin, connectTimeoutMs,
                responseTimeoutMs, millisecond]
              omega
      | writing =>
          cases next with
          | connecting => exact absurd rfl late
          | writing => exact absurd rfl changed
          | reading =>
              simp only [State.timeout, State.reachedWithin, connectTimeoutMs,
                responseTimeoutMs, millisecond]
              omega
      | reading => exact absurd rfl early
    omega

theorem timeout_nonneg (state : State) : 0 ≤ state.timeout := by
  cases state with
  | connecting => decide
  | writing => decide
  | reading => decide

theorem reached_within_nonneg (delay : Nat) (state : State) :
    0 ≤ state.reachedWithin delay := by
  cases state with
  | connecting => exact Int.le_refl 0
  | writing =>
      simp only [State.reachedWithin, connectTimeoutMs, millisecond]
      omega
  | reading =>
      simp only [State.reachedWithin, connectTimeoutMs, responseTimeoutMs, millisecond]
      omega

end HealthChecker

open HealthChecker HealthChecker.Watch

/-- `made` is what the clock read when the check of a descriptor was made, `reached` when the
check has got to the state it is in, `clock` the last reading of `expire`. -/
structure TimedChecker where
  watch : Watch
  made : Int → Int := fun _ => 0
  reached : Int → Int := fun _ => 0
  clock : Int := 0

/-- The time a check has to connect, to send its request and to be answered. -/
def lifetime : Int := (connectTimeoutMs + 2 * responseTimeoutMs) * millisecond

/-- What the loop handles between its sleep and `expire`: the health timer or an event of a
check. -/
inductive TimedEvent where
  | timer (inUse : Int → Bool) (answers : List StartAnswer)
  | check (fd : Int) (events : EventMask) (answers : CheckAnswers)

def TimedEvent.readings : TimedEvent → List Int
  | .timer _ answers => answers.flatMap StartAnswer.readings
  | .check _ _ answers => answers.readings

/-- A turn of the loop, from `nextTimeoutMs` to the next `expire`. -/
structure TimedTurn where
  timeoutAt : Int
  wakesAt : Int
  events : List TimedEvent
  expireAt : Int

namespace TimedChecker

variable (checks : TimedChecker)

def handles (fd : Int) : Bool := checks.watch.checker.handles fd

def check (fd : Int) : Option Check := checks.watch.checker.checks.lookup fd

/-- The timeout of `epoll.wait`. -/
def waitMs (now : Int) : Int :=
  let healthTimeout := checks.watch.checker.nextTimeoutMs now
  if healthTimeout ≥ 0 then min 1000 healthTimeout else 1000

def handle : TimedEvent → TimedChecker
  | .timer inUse answers =>
      let begun (times : Int → Int) (fd : Int) :=
        if checks.watch.checker.active then times fd
        else (answers.findSome? (StartAnswer.madeAt fd)).getD (times fd)
      { checks with
        watch := checks.watch.step (.start inUse answers)
        made := begun checks.made
        reached := begun checks.reached }
  | .check fd events answers =>
      let watch := checks.watch.step (.event fd events answers)
      { checks with
        watch := watch
        reached := fun other =>
          if watch.checker.stateOf other = checks.watch.checker.stateOf other then
            checks.reached other
          else (watch.checker.stateOf other).elim (checks.reached other) answers.reachedAt }

def expire (now : Int) : TimedChecker :=
  { checks with
    watch := checks.watch.step (.expire (checks.watch.checker.expiredFds now))
    clock := now }

def step (turn : TimedTurn) : TimedChecker :=
  (turn.events.foldl handle checks).expire turn.expireAt

/-- The loop wakes up in time and is done with its events in time, but for a delay. -/
structure Timely (delay : Nat) (checks : TimedChecker) (turn : TimedTurn) : Prop where
  onward : checks.clock ≤ turn.timeoutAt
  wakes : turn.expireAt ≤
    checks.clock + checks.waitMs turn.timeoutAt * millisecond + delay
  prompt : turn.expireAt ≤ turn.wakesAt + delay
  within : ∀ event ∈ turn.events, ∀ reading ∈ event.readings,
    turn.wakesAt ≤ reading ∧ reading ≤ turn.expireAt

section Waiting

variable {checks}

theorem foldl_min_le (deadlines : List Int) (first : Int) :
    deadlines.foldl min first ≤ first ∧
      ∀ deadline ∈ deadlines, deadlines.foldl min first ≤ deadline := by
  induction deadlines generalizing first with
  | nil => exact ⟨Int.le_refl _, fun _ member => absurd member List.not_mem_nil⟩
  | cons next deadlines ih =>
      obtain ⟨belowFirst, belowAll⟩ := ih (min first next)
      refine ⟨Int.le_trans belowFirst (Int.min_le_left _ _), ?_⟩
      intro deadline member
      rcases List.mem_cons.mp member with rfl | later
      · exact Int.le_trans belowFirst (Int.min_le_right _ _)
      · exact belowAll deadline later

theorem wait_le_deadline {fd : Int} {check : Check} (found : checks.check fd = some check)
    {now : Int} (ahead : checks.clock < check.deadline) (onward : checks.clock ≤ now) :
    checks.clock + checks.waitMs now * millisecond ≤ check.deadline := by
  have entry : (⟨fd, check⟩ : Sigma fun _ : Int => Check) ∈ checks.watch.checker.checks.entries :=
    AList.mem_lookup_iff.mp found
  have member := List.mem_map_of_mem (f := fun entry : Sigma fun _ : Int => Check =>
    entry.2.deadline) entry
  unfold waitMs nextTimeoutMs
  cases listed : checks.watch.checker.checks.entries.map fun entry => entry.2.deadline with
  | nil =>
      rw [listed] at member
      exact absurd member List.not_mem_nil
  | cons first rest =>
      rw [listed] at member
      have below := (foldl_min_le (first :: rest) first).2 _ member
      simp only at below ⊢
      generalize (first :: rest).foldl min first = earliest at below ⊢
      by_cases past : earliest ≤ now
      · have none : (if (0 : Int) ≥ 0 then min 1000 (0 : Int) else 1000) = 0 := rfl
        rw [if_pos past, none, Int.zero_mul, Int.add_zero]
        exact Int.le_of_lt ahead
      · have positive : 0 ≤ (earliest - now) / millisecond :=
          Int.ediv_nonneg (by omega) (by decide)
        have whole : (earliest - now) / millisecond * millisecond ≤ earliest - now :=
          Int.ediv_mul_le _ (by decide)
        rw [if_neg past, if_pos positive]
        generalize (earliest - now) / millisecond = span at whole ⊢
        have scaled : min 1000 span * millisecond ≤ span * millisecond :=
          Int.mul_le_mul_of_nonneg_right (Int.min_le_right _ _) (by decide)
        omega

end Waiting

section Expiry

variable {checks}

theorem mem_expired_fds {checker : HealthChecker} {now fd : Int} :
    fd ∈ checker.expiredFds now ↔
      ∃ check, checker.checks.lookup fd = some check ∧ check.deadline ≤ now := by
  unfold HealthChecker.expiredFds
  rw [List.mem_map]
  constructor
  · rintro ⟨entry, listed, rfl⟩
    obtain ⟨member, late⟩ := List.mem_filter.mp listed
    exact ⟨entry.2, AList.mem_lookup_iff.mpr member, of_decide_eq_true late⟩
  · rintro ⟨check, found, late⟩
    exact ⟨⟨fd, check⟩,
      List.mem_filter.mpr ⟨AList.mem_lookup_iff.mp found, decide_eq_true late⟩, rfl⟩

theorem expire_check_iff (now : Int) (fd : Int) (check : Check) :
    (checks.expire now).check fd = some check ↔
      checks.check fd = some check ∧ now < check.deadline := by
  have elsewhere : fd ∉ checks.watch.checker.expiredFds now →
      (checks.expire now).check fd = checks.check fd :=
    expire_elsewhere (checks.watch.checker.expiredFds now) checks.watch.checker checks.watch.pool
  have removed : fd ∈ checks.watch.checker.expiredFds now →
      (checks.expire now).check fd = none := by
    intro listed
    have gone : (checks.expire now).handles fd = false :=
      expire_removes _ checks.watch.checker checks.watch.pool listed
    exact Option.not_isSome_iff_eq_none.mp (Bool.eq_false_iff.mp gone)
  constructor
  · intro live
    have absent : fd ∉ checks.watch.checker.expiredFds now := by
      intro listed
      rw [removed listed] at live
      cases live
    rw [elsewhere absent] at live
    refine ⟨live, ?_⟩
    by_contra late
    exact absent (mem_expired_fds.mpr ⟨check, live, Int.not_lt.mp late⟩)
  · rintro ⟨live, ahead⟩
    rw [elsewhere ?_]
    · exact live
    · intro listed
      obtain ⟨other, found, late⟩ := mem_expired_fds.mp listed
      rw [show checks.watch.checker.checks.lookup fd = some check from live] at found
      cases found
      exact Int.not_le.mpr ahead late

theorem expire_judges {now : Int} {fd : Int} {check : Check}
    (found : checks.check fd = some check) (late : check.deadline ≤ now) :
    ⟨check.backendIndex, false⟩ ∈ (checks.expire now).watch.verdicts := by
  have listed : fd ∈ checks.watch.checker.expiredFds now :=
    mem_expired_fds.mpr ⟨check, found, late⟩
  have decided : verdictOn fd checks.watch (.expire (checks.watch.checker.expiredFds now)) =
      some ⟨check.backendIndex, false⟩ := by
    have here : checks.watch.checker.checks.lookup fd = some check := found
    simp only [verdictOn, if_pos listed, finishVerdicts, here]
    rfl
  exact verdict_recorded decided

end Expiry

/-- No check is overdue. -/
def Ahead (checks : TimedChecker) : Prop :=
  ∀ fd check, checks.check fd = some check → checks.clock < check.deadline

/-- No check is overdue by more than the delay. -/
def Close (delay : Nat) (now : Int) (checks : TimedChecker) : Prop :=
  ∀ fd check, checks.check fd = some check → now ≤ check.deadline + delay

/-- The deadline of a check is from when it has got to its state, which is not too long after
it was made. -/
def Steady (delay : Nat) (checks : TimedChecker) : Prop :=
  ∀ fd check, checks.check fd = some check →
    check.deadline = checks.reached fd + check.state.timeout ∧
      checks.reached fd ≤ checks.made fd + check.state.reachedWithin delay

/-- What holds of the checks in a turn, up to any of its events and when it ends. -/
structure InTime (delay : Nat) (checks : TimedChecker) (turn : TimedTurn) : Prop where
  dated : ∀ before after, turn.events = before ++ after → ∀ fd check,
    (before.foldl handle checks).check fd = some check →
    check.deadline = (before.foldl handle checks).reached fd + check.state.timeout
  close : ∀ before after, turn.events = before ++ after → ∀ fd check,
    (before.foldl handle checks).check fd = some check →
    turn.expireAt ≤ check.deadline + delay
  young : ∀ before after, turn.events = before ++ after → ∀ fd check,
    (before.foldl handle checks).check fd = some check →
    turn.expireAt ≤ (before.foldl handle checks).made fd + lifetime + 3 * delay
  ended : ∀ fd check, (checks.step turn).check fd = some check ↔
    (turn.events.foldl handle checks).check fd = some check ∧ turn.expireAt < check.deadline
  judged : ∀ fd check, (turn.events.foldl handle checks).check fd = some check →
    check.deadline ≤ turn.expireAt →
    ⟨check.backendIndex, false⟩ ∈ (checks.step turn).watch.verdicts

section Turns

variable {delay : Nat} {now : Int} {checks : TimedChecker} {turn : TimedTurn}

theorem Timely.close (timely : checks.Timely delay turn) (ahead : checks.Ahead) :
    checks.Close delay turn.expireAt := by
  intro fd check found
  have within := wait_le_deadline found (ahead fd check found) timely.onward
  exact Int.le_trans timely.wakes (Int.add_le_add_right within delay)

theorem Steady.timer (steady : checks.Steady delay) (close : checks.Close delay now) {wakes : Int}
    (prompt : now ≤ wakes + delay) (inUse : Int → Bool) (answers : List StartAnswer)
    (within : ∀ reading ∈ (TimedEvent.timer inUse answers).readings, wakes ≤ reading) :
    (checks.handle (.timer inUse answers)).Steady delay ∧
      (checks.handle (.timer inUse answers)).Close delay now := by
  by_cases active : checks.watch.checker.active = true
  · have still : ∀ fd check, (checks.handle (.timer inUse answers)).check fd = some check →
        checks.check fd = some check := by
      intro fd check found
      have same : checks.watch.step (.start inUse answers) = checks.watch :=
        start_active active inUse answers
      unfold TimedChecker.check TimedChecker.handle at found
      simp only [same] at found
      exact found
    refine ⟨?_, fun fd check found => close fd check (still fd check found)⟩
    intro fd check found
    have here := steady fd check (still fd check found)
    unfold TimedChecker.handle
    simp only [if_pos active]
    exact here
  · have made : ∀ fd check, (checks.handle (.timer inUse answers)).check fd = some check →
        MadeAt answers fd check := by
      intro fd check found
      have started : (checks.watch.checker.start inUse checks.watch.pool answers).1.checks.lookup
          fd = some check := by
        unfold TimedChecker.check TimedChecker.handle HealthChecker.Watch.step at found
        simp only [if_neg active] at found
        exact found
      unfold HealthChecker.start at started
      rw [if_neg active] at started
      rcases start_checks_made inUse _ answers _ _ started with before | ⟨-, -, made⟩
      · exact absurd (active_of_found before) active
      · exact made
    have times : ∀ fd now, answers.findSome? (StartAnswer.madeAt fd) = some now →
        (checks.handle (.timer inUse answers)).reached fd = now ∧
          (checks.handle (.timer inUse answers)).made fd = now := by
      intro fd now first
      unfold TimedChecker.handle
      simp only [if_neg active, first, Option.getD_some]
      exact ⟨trivial, trivial⟩
    constructor
    · intro fd check found
      obtain ⟨now, first, -, deadline⟩ := made fd check found
      obtain ⟨reached, isMade⟩ := times fd now first
      rw [reached, isMade]
      refine ⟨deadline, ?_⟩
      have nonneg := reached_within_nonneg delay check.state
      omega
    · intro fd check found
      obtain ⟨reading, first, -, deadline⟩ := made fd check found
      have listed : reading ∈ (TimedEvent.timer inUse answers).readings := by
        obtain ⟨answer, member, isMade⟩ := List.exists_of_findSome?_eq_some first
        exact List.mem_flatMap.mpr ⟨answer, member, made_at_reading isMade⟩
      have later := within reading listed
      have nonneg := timeout_nonneg check.state
      omega

theorem Steady.event (steady : checks.Steady delay) (close : checks.Close delay now) {wakes : Int}
    (prompt : now ≤ wakes + delay) (other : Int) (events : EventMask) (answers : CheckAnswers)
    (within : ∀ reading ∈ answers.readings, wakes ≤ reading ∧ reading ≤ now) :
    (checks.handle (.check other events answers)).Steady delay ∧
      (checks.handle (.check other events answers)).Close delay now := by
  have judged : ∀ fd last, (checks.handle (.check other events answers)).check fd = some last →
      (last.deadline = (checks.handle (.check other events answers)).reached fd +
          last.state.timeout ∧
        (checks.handle (.check other events answers)).reached fd ≤
          checks.made fd + last.state.reachedWithin delay) ∧
        now ≤ last.deadline + delay := by
    intro fd last found
    have after : (checks.watch.step (.event other events answers)).checker.stateOf fd =
        some last.state := by
      unfold HealthChecker.stateOf
      rw [show (checks.watch.step (.event other events answers)).checker.checks.lookup fd =
        some last from found]
      rfl
    have unchanged : ∀ check, checks.check fd = some check → last.state = check.state →
        (checks.handle (.check other events answers)).reached fd = checks.reached fd := by
      intro check before same
      have stays : checks.watch.checker.stateOf fd = some last.state := by
        unfold HealthChecker.stateOf
        rw [show checks.watch.checker.checks.lookup fd = some check from before, same]
        rfl
      unfold TimedChecker.handle
      simp only [after, stays, if_true]
    by_cases same : fd = other
    · subst same
      obtain ⟨check, before, renewed⟩ := handle_event_check found
      obtain ⟨dated, grown⟩ := steady fd check before
      have inTime := close fd check before
      rcases id renewed with ⟨state, deadline⟩ | ⟨⟨changed, -, -⟩, deadline⟩
      · rw [unchanged check before state, state, deadline]
        exact ⟨⟨dated, grown⟩, inTime⟩
      · have reached : (checks.handle (.check fd events answers)).reached fd =
            answers.reachedAt last.state := by
          have differs : checks.watch.checker.stateOf fd ≠ some last.state := by
            unfold HealthChecker.stateOf
            rw [show checks.watch.checker.checks.lookup fd = some check from before]
            intro equal
            exact changed (Option.some.inj equal).symm
          unfold TimedChecker.handle
          simp only [after, if_neg differs.symm, Option.elim_some]
        have reading : answers.reachedAt last.state ∈ answers.readings := by
          unfold CheckAnswers.reachedAt CheckAnswers.readings
          split_ifs
          · exact List.mem_cons_self
          · exact List.mem_cons_of_mem _ (List.mem_singleton_self _)
        obtain ⟨later, sooner⟩ := within _ reading
        have nonneg := timeout_nonneg last.state
        rw [reached]
        refine ⟨⟨deadline, ?_⟩, by omega⟩
        exact renewed.within changed sooner (dated ▸ inTime) grown
    · have before : checks.check fd = some last := by
        rw [← found]
        exact (event_elsewhere checks.watch.checker checks.watch.pool events answers
          (Ne.symm same)).symm
      rw [unchanged last before rfl]
      exact ⟨steady fd last before, close fd last before⟩
  exact ⟨fun fd last found => (judged fd last found).1, fun fd last found => (judged fd last found).2⟩

theorem Steady.handle_all (steady : checks.Steady delay) (close : checks.Close delay now)
    {wakes : Int} (prompt : now ≤ wakes + delay) (events : List TimedEvent)
    (within : ∀ event ∈ events, ∀ reading ∈ event.readings, wakes ≤ reading ∧ reading ≤ now) :
    (events.foldl TimedChecker.handle checks).Steady delay ∧
      (events.foldl TimedChecker.handle checks).Close delay now := by
  induction events generalizing checks with
  | nil => exact ⟨steady, close⟩
  | cons event events ih =>
      obtain ⟨first, others⟩ := List.forall_mem_cons.mp within
      have handled : (checks.handle event).Steady delay ∧ (checks.handle event).Close delay now := by
        cases event with
        | timer inUse answers =>
            exact steady.timer close prompt inUse answers fun reading member =>
              (first reading member).1
        | check fd flags answers => exact steady.event close prompt fd flags answers first
      exact ih handled.1 handled.2 others

theorem step_ahead (checks : TimedChecker) (turn : TimedTurn) : (checks.step turn).Ahead :=
  fun fd check found => ((expire_check_iff turn.expireAt fd check).mp found).2

theorem Timely.steady (timely : checks.Timely delay turn) (ahead : checks.Ahead)
    (steady : checks.Steady delay) : (checks.step turn).Steady delay := by
  intro fd check found
  have before := ((expire_check_iff turn.expireAt fd check).mp found).1
  exact (steady.handle_all (timely.close ahead) timely.prompt turn.events timely.within).1 fd check
    before

end Turns

theorem lifetime_covers (delay : Nat) (state : State) :
    state.reachedWithin delay + state.timeout ≤ lifetime + 2 * delay := by
  cases state with
  | connecting =>
      simp only [State.reachedWithin, State.timeout, lifetime, connectTimeoutMs,
        responseTimeoutMs, millisecond]
      omega
  | writing =>
      simp only [State.reachedWithin, State.timeout, lifetime, connectTimeoutMs,
        responseTimeoutMs, millisecond]
      omega
  | reading =>
      simp only [State.reachedWithin, State.timeout, lifetime, connectTimeoutMs,
        responseTimeoutMs, millisecond]
      omega

theorem Timely.in_time {delay : Nat} {checks : TimedChecker} {turn : TimedTurn}
    (timely : checks.Timely delay turn) (ahead : checks.Ahead) (steady : checks.Steady delay) :
    checks.InTime delay turn := by
  have kept : ∀ before after, turn.events = before ++ after →
      (before.foldl TimedChecker.handle checks).Steady delay ∧
        (before.foldl TimedChecker.handle checks).Close delay turn.expireAt := by
    intro before after split
    refine steady.handle_all (timely.close ahead) timely.prompt before ?_
    intro event member
    refine timely.within event ?_
    rw [split]
    exact List.mem_append_left _ member
  constructor
  · intro before after split fd check found
    exact ((kept before after split).1 fd check found).1
  · intro before after split
    exact (kept before after split).2
  · intro before after split fd check found
    obtain ⟨dated, grown⟩ := (kept before after split).1 fd check found
    have late := (kept before after split).2 fd check found
    have covered := lifetime_covers delay check.state
    omega
  · exact fun fd check => expire_check_iff turn.expireAt fd check
  · exact fun fd check found late => expire_judges found late

/-- Whatever the events of its turns, as long as the loop is late by no more than `delay`: the
deadline of a check is its timeout after it has got to its state, no check is overdue by more
than the delay when its time is checked, and what is overdue then ends with a verdict. So no
check is older than `lifetime` and three delays, nor does the health timer find one. -/
theorem checks_end_in_time {delay : Nat} {start : TimedChecker}
    (idle : start.watch.checker.active = false) {turns : List TimedTurn}
    (timely : Throughout step (Timely delay) start turns) :
    Throughout step (InTime delay) start turns := by
  have none : ∀ fd check, start.check fd ≠ some check := by
    intro fd check found
    have active : start.watch.checker.active = true := active_of_found found
    rw [idle] at active
    cases active
  have settled : start.Ahead ∧ start.Steady delay :=
    ⟨fun fd check found => absurd found (none fd check),
      fun fd check found => absurd found (none fd check)⟩
  have keeps : ∀ checks turn, Ahead checks ∧ Steady delay checks → Timely delay checks turn →
      Ahead (checks.step turn) ∧ Steady delay (checks.step turn) :=
    fun checks turn both timely => ⟨step_ahead checks turn, timely.steady both.1 both.2⟩
  exact throughout_of_throughout step keeps
    (fun checks turn both timely => timely.in_time both.1 both.2) settled turns timely

/-- A backend takes the connection and the request, four tenths of a second late each, and says
nothing. -/
def silentTurns : List TimedTurn :=
  [⟨0, 400 * millisecond, [.timer (fun _ => false) [.connected 7 true (400 * millisecond)]],
      401 * millisecond⟩,
    ⟨402 * millisecond, 800 * millisecond,
      [.check 7 { output := true }
        { sends := [.sent 64], connectedAt := 800 * millisecond, sentAt := 800 * millisecond }],
      801 * millisecond⟩,
    ⟨802 * millisecond, 1300 * millisecond, [], 1301 * millisecond⟩]

theorem silent_backend_fails_in_time :
    let start : TimedChecker := { watch := Watch.create [(ascii "web", 8080)] }
    Throughout step (InTime 10000000) start silentTurns ∧
      (run step start (silentTurns.take 2)).watch.verdicts = [] ∧
      (run step start silentTurns).watch.verdicts = [⟨0, false⟩] := by
  intro start
  refine ⟨checks_end_in_time rfl ⟨⟨by decide, by decide, by decide, by decide⟩,
    ⟨by decide, by decide, by decide, by decide⟩,
    ⟨by decide, by decide, by decide, by decide⟩, trivial⟩, by decide, by decide⟩

end TimedChecker

end Aorta.Lb
