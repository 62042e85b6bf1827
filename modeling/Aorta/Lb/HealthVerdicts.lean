import Aorta.Lb.HealthRounds

/-!
# What a reply is judged by

Once its request is sent, a check reads the reply in whatever pieces the kernel hands
out, beside the events of the other checks. What it decides is a matter of the reply
alone: whether the words of a good status line are anywhere in what is read of it.
-/

namespace Aorta.Lb.HealthChecker

open Aorta.Net Aorta.Library.Ascii Aorta.Library.Search Aorta.Library.Run
open Aorta.Http.HttpParser (crlf)

set_option autoImplicit false

abbrev statusLine : Bytes := ascii "HTTP/1.1 200 OK"

/-- The verdict on a reply: no more than `maxResponseSize` bytes of it are read. -/
def judged (stream : Bytes) : Bool :=
  (firstOccurrence statusLine (stream.take maxResponseSize)).isSome

/-- What `recv` answers in one readable event. Of the reply `stream`, `count` bytes were
read before the event and `last` are read after it. -/
inductive Reads (stream : Bytes) (ended : Bool) : Nat → List RecvResult → Nat → Prop where
  | received {count size last : Nat} {recvs : List RecvResult} (positive : 0 < size)
      (asked : size ≤ min 1024 (maxResponseSize - count))
      (there : count + size ≤ stream.length)
      (rest : Reads stream ended (count + size) recvs last) :
      Reads stream ended count (.received (substr stream count size) :: recvs) last
  | interrupted {count last : Nat} {recvs : List RecvResult}
      (rest : Reads stream ended count recvs last) :
      Reads stream ended count (.interrupted :: recvs) last
  | wouldBlock (count : Nat) : Reads stream ended count [.wouldBlock] count
  | closed {count : Nat} (isEnded : ended = true) (all : count = stream.length) :
      Reads stream ended count [.received []] count
  | full {count : Nat} (enough : maxResponseSize ≤ count) : Reads stream ended count [] count

/-- An event of a check that reads. A hang-up or an error comes with it only when the
rest of the reply is there to be read. -/
structure Delivers (stream : Bytes) (ended : Bool) (count : Nat) (events : EventMask)
    (answers : CheckAnswers) (last : Nat) : Prop where
  reads : if events.input then Reads stream ended count answers.recvs last else last = count
  closing : (events.error || events.hangup) = true → min stream.length maxResponseSize ≤ last

/-- An input that neither is an event of the check of `fd` nor ends its time. -/
def Elsewhere (fd : Int) : Watch.Input → Prop
  | .start _ _ => True
  | .event other _ _ => other ≠ fd
  | .expire expired => fd ∉ expired

/-- The reply is delivered to the check of `fd` from its byte `count` to its byte `last`,
with whatever else happens meanwhile. -/
inductive Delivery (fd : Int) (stream : Bytes) (ended : Bool) :
    Nat → List Watch.Input → Nat → Prop where
  | nothing (count : Nat) : Delivery fd stream ended count [] count
  | event {count middle last : Nat} {events : EventMask} {answers : CheckAnswers}
      {inputs : List Watch.Input} (first : Delivers stream ended count events answers middle)
      (rest : Delivery fd stream ended middle inputs last) :
      Delivery fd stream ended count (.event fd events answers :: inputs) last
  | other {count last : Nat} {input : Watch.Input} {inputs : List Watch.Input}
      (elsewhere : Elsewhere fd input) (rest : Delivery fd stream ended count inputs last) :
      Delivery fd stream ended count (input :: inputs) last

namespace Watch

/-- The verdict that an input brings for the check of `fd`. -/
def verdictOn (fd : Int) (watch : Watch) : Input → Option Verdict
  | .start _ _ => none
  | .event other events answers =>
      if other = fd then (watch.checker.eventVerdicts fd events answers).head? else none
  | .expire expired =>
      if fd ∈ expired then (watch.checker.finishVerdicts fd false).head? else none

/-- The verdict that ends the check of `fd`. -/
def firstVerdict (fd : Int) : Watch → List Input → Option Verdict
  | _, [] => none
  | watch, input :: inputs =>
      match watch.verdictOn fd input with
      | some verdict => some verdict
      | none => firstVerdict fd (watch.step input) inputs

/-- The check of `fd` gets the verdict at one of the inputs, no verdict before it, and is gone
after it. -/
def EndsWith (fd : Int) (watch : Watch) (inputs : List Input) (verdict : Verdict) : Prop :=
  ∃ first input rest, inputs = first ++ input :: rest ∧ firstVerdict fd watch first = none ∧
    verdictOn fd (run step watch first) input = some verdict ∧
    (run step watch (first ++ [input])).checker.handles fd = false

end Watch

section Reading

variable {stream : Bytes} {ended : Bool} {count last : Nat} {check : Check}

/-- The first `count` bytes of the reply are read and have not decided it. -/
structure Unjudged (stream : Bytes) (count : Nat) : Prop where
  inside : count ≤ stream.length
  room : count ≤ maxResponseSize
  quiet : firstOccurrence statusLine (stream.take count) = none

theorem Unjudged.length (unjudged : Unjudged stream count) :
    (stream.take count).length = count := by
  rw [List.length_take]
  exact Nat.min_eq_left unjudged.inside

theorem Unjudged.judged_false (unjudged : Unjudged stream count)
    (whole : min stream.length maxResponseSize ≤ count) : judged stream = false := by
  obtain ⟨inside, room, quiet⟩ := unjudged
  have same : stream.take maxResponseSize = stream.take count := by
    rcases Nat.le_total stream.length maxResponseSize with short | long
    · rw [List.take_of_length_le short, List.take_of_length_le (by omega)]
    · rw [show count = maxResponseSize by omega]
  unfold judged
  rw [same, quiet]
  rfl

theorem judged_of_found (room : count ≤ maxResponseSize)
    (found : (firstOccurrence statusLine (stream.take count)).isSome) : judged stream = true := by
  obtain ⟨offset, first⟩ := Option.isSome_iff_exists.mp found
  have split : stream.take maxResponseSize =
      stream.take count ++ (stream.drop count).take (maxResponseSize - count) := by
    rw [← List.take_add, Nat.add_sub_cancel' room]
  unfold judged
  rw [split, first_occurrence_append _ first]
  rfl

theorem handle_read_full {recvs : List RecvResult}
    (full : maxResponseSize ≤ check.response.length) :
    handleRead recvs check = .verdict false := by
  unfold handleRead
  rw [if_neg (by omega)]

theorem handle_read_judges {recvs : List RecvResult} (reads : Reads stream ended count recvs last)
    (sofar : check.response = stream.take count) (unjudged : Unjudged stream count) :
    handleRead recvs check = .verdict (judged stream) ∨
      handleRead recvs check = .live { check with response := stream.take last } ∧
        Unjudged stream last := by
  have length : check.response.length = count := by rw [sofar, unjudged.length]
  -- what is full is judged whatever `recv` would answer
  by_cases full : maxResponseSize ≤ count
  · left
    rw [handle_read_full (by omega), unjudged.judged_false (by omega)]
  have hungry : check.response.length < maxResponseSize := by omega
  induction reads generalizing check with
  | @received count size last recvs positive asked there rest ih =>
      have exact : (substr stream count size).length = size := by
        simp only [substr, List.length_take, List.length_drop]
        omega
      have whole : (substr stream count size).take
          (min 1024 (maxResponseSize - check.response.length)) = substr stream count size :=
        List.take_of_length_le (by omega)
      have nonempty : (substr stream count size).isEmpty = false := by
        rw [List.isEmpty_eq_false_iff, ← List.length_pos_iff]
        omega
      have grown : check.response ++ substr stream count size = stream.take (count + size) := by
        rw [sofar, List.take_add]
        rfl
      unfold handleRead
      simp only [if_pos hungry, whole, nonempty, Bool.false_eq_true, if_false, grown, find_zero]
      by_cases found : (firstOccurrence statusLine (stream.take (count + size))).isSome = true
      · left
        rw [if_pos found, judged_of_found (by omega) found]
      · rw [if_neg found]
        have next : Unjudged stream (count + size) :=
          ⟨there, by omega, Option.not_isSome_iff_eq_none.mp found⟩
        by_cases enough : maxResponseSize ≤ count + size
        · left
          rw [handle_read_full (by simp only [next.length]; omega),
            next.judged_false (by omega)]
        · exact ih rfl next next.length enough (by simp only [next.length]; omega)
  | interrupted rest ih =>
      unfold handleRead
      simp only [if_pos hungry]
      exact ih sofar unjudged length full hungry
  | wouldBlock count =>
      right
      unfold handleRead
      rw [if_pos hungry, ← sofar]
      exact ⟨rfl, unjudged⟩
  | closed isEnded all =>
      left
      unfold handleRead
      rw [if_pos hungry, unjudged.judged_false (by omega)]
      simp only [List.take_nil, List.isEmpty_nil, if_true]
  | full enough => omega

theorem advance_reading (reading : check.state = .reading) (events : EventMask)
    (answers : CheckAnswers) :
    advance events answers check =
      (if events.input then handleRead answers.recvs check
        else Progress.live check).andThen fun check =>
      if events.error || events.hangup then .verdict false else .live check := by
  simp [advance, Progress.andThen, reading]

theorem advance_judges {events : EventMask} {answers : CheckAnswers}
    (delivers : Delivers stream ended count events answers last)
    (reading : check.state = .reading) (sofar : check.response = stream.take count)
    (unjudged : Unjudged stream count) :
    advance events answers check = .verdict (judged stream) ∨
      advance events answers check = .live { check with response := stream.take last } ∧
        Unjudged stream last := by
  have afterwards (next : Check) (left : Unjudged stream last) :
      (if events.error || events.hangup then Progress.verdict false else .live next) =
          .verdict (judged stream) ∨
        (if events.error || events.hangup then Progress.verdict false else .live next) =
          .live next := by
    by_cases closing : (events.error || events.hangup) = true
    · left
      rw [if_pos closing, left.judged_false (delivers.closing closing)]
    · right
      rw [if_neg closing]
  have reads := delivers.reads
  rw [advance_reading reading]
  cases readable : events.input with
  | false =>
      rw [readable, if_neg Bool.false_ne_true] at reads
      subst reads
      rw [if_neg Bool.false_ne_true, ← sofar]
      exact (afterwards check unjudged).imp_right fun live => ⟨live, unjudged⟩
  | true =>
      rw [readable, if_pos rfl] at reads
      rw [if_pos rfl]
      rcases handle_read_judges reads sofar unjudged with decided | ⟨live, left⟩
      · rw [decided]
        exact .inl rfl
      · rw [live]
        exact (afterwards _ left).imp_right fun live => ⟨live, left⟩

end Reading

namespace Watch

variable {fd : Int} {index : Nat} {stream : Bytes} {ended : Bool} {count last : Nat}
  {watch : Watch}

/-- The check of `fd` is for the backend `index` and has read `count` bytes of the reply. -/
def Awaits (fd : Int) (index : Nat) (stream : Bytes) (count : Nat) (watch : Watch) : Prop :=
  ∃ check, watch.checker.checks.lookup fd = some check ∧ check.backendIndex = index ∧
    check.state = .reading ∧ check.response = stream.take count ∧ Unjudged stream count

theorem event_judges {events : EventMask} {answers : CheckAnswers}
    (awaits : Awaits fd index stream count watch)
    (delivers : Delivers stream ended count events answers last) :
    watch.verdictOn fd (.event fd events answers) = some ⟨index, judged stream⟩ ∨
      watch.verdictOn fd (.event fd events answers) = none ∧
        Awaits fd index stream last (watch.step (.event fd events answers)) := by
  obtain ⟨check, found, own, reading, sofar, unjudged⟩ := awaits
  simp only [verdictOn, if_true, eventVerdicts, step, Watch.after, handleEvent, found]
  rcases advance_judges delivers reading sofar unjudged with decided | ⟨live, left⟩
  · left
    simp only [decided, finishVerdicts, found, own, List.head?_cons]
  · right
    rw [live]
    exact ⟨rfl, _, AList.lookup_insert _, own, reading, rfl, left⟩

theorem finish_elsewhere {other : Int} (checker : HealthChecker) (pool : BackendPool)
    (healthy : Bool) (different : other ≠ fd) :
    (checker.finishCheck pool other healthy).1.checks.lookup fd = checker.checks.lookup fd := by
  unfold finishCheck
  cases checker.checks.lookup other with
  | none => rfl
  | some check => exact AList.lookup_erase_ne different.symm

theorem event_elsewhere {other : Int} (checker : HealthChecker) (pool : BackendPool)
    (events : EventMask) (answers : CheckAnswers) (different : other ≠ fd) :
    (checker.handleEvent pool other events answers).1.checks.lookup fd =
      checker.checks.lookup fd := by
  unfold handleEvent
  cases checker.checks.lookup other with
  | none => rfl
  | some check =>
      simp only
      cases advance events answers check with
      | live next => exact AList.lookup_insert_ne different.symm
      | verdict healthy => exact finish_elsewhere checker pool healthy different

theorem expire_elsewhere (expired : List Int) (checker : HealthChecker) (pool : BackendPool)
    (absent : fd ∉ expired) :
    (checker.expire pool expired).1.checks.lookup fd = checker.checks.lookup fd := by
  unfold expire
  induction expired generalizing checker pool with
  | nil => rfl
  | cons other expired ih =>
      simp only [List.mem_cons, not_or] at absent
      rw [List.foldl_cons, ih _ _ absent.2]
      exact finish_elsewhere checker pool false (Ne.symm absent.1)

theorem active_of_found {checker : HealthChecker} {check : Check}
    (found : checker.checks.lookup fd = some check) : checker.active = true := by
  cases active : checker.active with
  | true => rfl
  | false =>
      have empty : checker.checks.entries = [] := by
        simpa [HealthChecker.active] using active
      unfold AList.lookup at found
      rw [empty] at found
      cases found

theorem other_awaits {input : Input} (awaits : Awaits fd index stream count watch)
    (elsewhere : Elsewhere fd input) :
    watch.verdictOn fd input = none ∧ Awaits fd index stream count (watch.step input) := by
  obtain ⟨check, found, rest⟩ := awaits
  cases input with
  | start inUse answers =>
      rw [start_active (active_of_found found)]
      exact ⟨rfl, check, found, rest⟩
  | event other events answers =>
      refine ⟨if_neg elsewhere, check, ?_, rest⟩
      rw [← found]
      exact event_elsewhere watch.checker watch.pool events answers elsewhere
  | expire expired =>
      refine ⟨if_neg elsewhere, check, ?_, rest⟩
      rw [← found]
      exact expire_elsewhere expired watch.checker watch.pool elsewhere

/-- While the reply is delivered the check is judged by it, or awaits what follows. -/
theorem delivery_judges {inputs : List Input}
    (delivery : Delivery fd stream ended count inputs last)
    (awaits : Awaits fd index stream count watch) :
    firstVerdict fd watch inputs = some ⟨index, judged stream⟩ ∨
      firstVerdict fd watch inputs = none ∧
        Awaits fd index stream last (run step watch inputs) := by
  induction delivery generalizing watch with
  | nothing count => exact .inr ⟨rfl, awaits⟩
  | event first rest ih =>
      unfold firstVerdict
      rcases event_judges awaits first with decided | ⟨undecided, next⟩
      · rw [decided]
        exact .inl rfl
      · rw [undecided]
        exact ih next
  | other elsewhere rest ih =>
      obtain ⟨undecided, next⟩ := other_awaits awaits elsewhere
      unfold firstVerdict
      rw [undecided]
      exact ih next

theorem first_verdict_append (first second : List Input) :
    firstVerdict fd watch (first ++ second) =
      (firstVerdict fd watch first).or (firstVerdict fd (run step watch first) second) := by
  induction first generalizing watch with
  | nil => rfl
  | cons input first ih =>
      rw [List.cons_append, firstVerdict, firstVerdict, run_cons]
      cases watch.verdictOn fd input with
      | none => exact ih
      | some verdict => rfl

theorem expiry_judges {expired : List Int} (awaits : Awaits fd index stream count watch)
    (whole : min stream.length maxResponseSize ≤ count) (late : fd ∈ expired) :
    firstVerdict fd watch [.expire expired] = some ⟨index, judged stream⟩ := by
  obtain ⟨check, found, own, _, _, unjudged⟩ := awaits
  rw [unjudged.judged_false whole]
  simp only [firstVerdict, verdictOn, if_pos late, finishVerdicts, found, own, List.head?_cons]

section Recorded

/-! The verdict that ends a check is on record. -/

theorem after_verdicts (result : HealthChecker × BackendPool) (new : List Verdict) :
    (watch.after result new).verdicts = new ++ watch.verdicts := by
  unfold Watch.after verdicts
  induction new with
  | nil => rfl
  | cons verdict new ih =>
      simp only at ih
      simp only [List.foldr_cons, flatten_record, ih, List.cons_append]

theorem step_remembers {verdict : Verdict} (input : Input) (member : verdict ∈ watch.verdicts) :
    verdict ∈ (watch.step input).verdicts := by
  cases input with
  | start inUse answers =>
      unfold step
      split_ifs
      · exact member
      · rw [after_verdicts]
        exact List.mem_append_right _ member
  | event other events answers =>
      unfold step
      rw [after_verdicts]
      exact List.mem_append_right _ member
  | expire expired =>
      unfold step
      rw [after_verdicts]
      exact List.mem_append_right _ member

theorem run_remembers {verdict : Verdict} (inputs : List Input)
    (member : verdict ∈ watch.verdicts) : verdict ∈ (run step watch inputs).verdicts := by
  induction inputs generalizing watch with
  | nil => exact member
  | cons input inputs ih => exact ih (step_remembers input member)

theorem expired_recorded {verdict : Verdict} (expired : List Int) (checker : HealthChecker)
    (pool : BackendPool) (late : fd ∈ expired)
    (verdicts : (checker.finishVerdicts fd false).head? = some verdict) :
    verdict ∈ checker.expireVerdicts pool expired := by
  induction expired generalizing checker pool with
  | nil => cases late
  | cons other expired ih =>
      unfold expireVerdicts
      by_cases same : other = fd
      · subst same
        exact List.mem_append_right _ (List.mem_of_mem_head? verdicts)
      · apply List.mem_append_left
        apply ih
        · exact (List.mem_cons.mp late).resolve_left (Ne.symm same)
        · unfold finishVerdicts at verdicts ⊢
          rwa [← finish_elsewhere checker pool false same] at verdicts

theorem verdict_recorded {input : Input} {verdict : Verdict}
    (decided : watch.verdictOn fd input = some verdict) :
    verdict ∈ (watch.step input).verdicts := by
  cases input with
  | start inUse answers => cases decided
  | event other events answers =>
      simp only [verdictOn] at decided
      split_ifs at decided with same
      subst same
      unfold step
      rw [after_verdicts]
      exact List.mem_append_left _ (List.mem_of_mem_head? decided)
  | expire expired =>
      simp only [verdictOn] at decided
      split_ifs at decided with late
      unfold step
      rw [after_verdicts]
      exact List.mem_append_left _
        (expired_recorded expired watch.checker watch.pool late decided)

theorem first_verdict_recorded {inputs : List Input} {verdict : Verdict}
    (decided : firstVerdict fd watch inputs = some verdict) :
    verdict ∈ (run step watch inputs).verdicts := by
  induction inputs generalizing watch with
  | nil => cases decided
  | cons input inputs ih =>
      unfold firstVerdict at decided
      rw [run_cons]
      cases now : watch.verdictOn fd input with
      | none =>
          rw [now] at decided
          exact ih decided
      | some earlier =>
          rw [now] at decided
          cases decided
          exact run_remembers inputs (verdict_recorded now)

end Recorded

section Ended

/-! The verdict of a check is its last word. -/

theorem finish_removes (checker : HealthChecker) (pool : BackendPool) (fd : Int)
    (healthy : Bool) : (checker.finishCheck pool fd healthy).1.handles fd = false := by
  unfold HealthChecker.finishCheck HealthChecker.handles
  cases found : checker.checks.lookup fd with
  | none => simp [found]
  | some check => simp

theorem event_ends {events : EventMask} {answers : CheckAnswers} {verdict : Verdict}
    (checker : HealthChecker) (pool : BackendPool)
    (decided : (checker.eventVerdicts fd events answers).head? = some verdict) :
    (checker.handleEvent pool fd events answers).1.handles fd = false := by
  unfold eventVerdicts at decided
  unfold HealthChecker.handleEvent
  cases found : checker.checks.lookup fd with
  | none =>
      rw [found] at decided
      cases decided
  | some check =>
      rw [found] at decided
      dsimp only at decided ⊢
      cases progress : advance events answers check with
      | live next =>
          rw [progress] at decided
          cases decided
      | verdict healthy => exact finish_removes checker pool fd healthy

theorem expire_removes (listed : List Int) (checker : HealthChecker) (pool : BackendPool)
    (late : fd ∈ listed) : (checker.expire pool listed).1.handles fd = false := by
  unfold HealthChecker.expire
  induction listed generalizing checker pool with
  | nil => cases late
  | cons other listed ih =>
      rw [List.foldl_cons]
      rcases List.mem_cons.mp late with rfl | later
      · apply eq_false_of_ne_true
        intro still
        have before : (checker.finishCheck pool fd false).1.handles fd = true :=
          expire_handles listed still
        rw [finish_removes] at before
        cases before
      · exact ih _ _ later

theorem verdict_on_ends {input : Input} {verdict : Verdict}
    (decided : watch.verdictOn fd input = some verdict) :
    (watch.step input).checker.handles fd = false := by
  cases input with
  | start inUse answers => cases decided
  | event other events answers =>
      simp only [verdictOn] at decided
      split_ifs at decided with same
      subst same
      exact event_ends watch.checker watch.pool decided
  | expire expired =>
      simp only [verdictOn] at decided
      split_ifs at decided with late
      exact expire_removes expired watch.checker watch.pool late

theorem first_verdict_ends {inputs : List Input} {verdict : Verdict}
    (decided : firstVerdict fd watch inputs = some verdict) :
    EndsWith fd watch inputs verdict := by
  induction inputs generalizing watch with
  | nil => cases decided
  | cons input inputs ih =>
      unfold firstVerdict at decided
      cases now : watch.verdictOn fd input with
      | some earlier =>
          rw [now] at decided
          cases decided
          exact ⟨[], input, inputs, rfl, rfl, now, verdict_on_ends now⟩
      | none =>
          rw [now] at decided
          obtain ⟨first, deciding, rest, split, quiet, judges, gone⟩ := ih decided
          refine ⟨input :: first, deciding, rest, ?_, ?_, judges, gone⟩
          · rw [split, List.cons_append]
          · unfold firstVerdict
            rw [now]
            exact quiet

end Ended

end Watch

theorem judged_iff (stream : Bytes) :
    judged stream = true ↔ statusLine <:+: stream.take maxResponseSize := by
  unfold judged
  constructor
  · intro found
    obtain ⟨offset, first⟩ := Option.isSome_iff_exists.mp found
    obtain ⟨rest, split, -⟩ := first_occurrence_split (by decide) first
    exact ⟨_, rest, split.symm⟩
  · intro occurs
    by_contra missing
    exact first_occurrence_none_not_infix (Option.not_isSome_iff_eq_none.mp missing) occurs

theorem status_line_read {stream : Bytes} (starts : statusLine <+: stream) :
    statusLine <:+: stream.take maxResponseSize := by
  apply List.IsPrefix.isInfix
  rw [List.prefix_take_iff]
  exact ⟨starts, by decide⟩

open Watch

/-- A check reads the reply `stream` in any pieces, before its time is up and beside the
events of other checks. Its one verdict is then on record for its backend, and depends on
the stream alone; it says whether the stream starts with a good status line just when
that line is at the start or nowhere in the bytes that are read. -/
theorem verdict_tells_the_status_line_iff {watch : Watch} {fd : Int} {check : Check}
    {stream : Bytes} {ended : Bool} {inputs : List Watch.Input} {last : Nat}
    {expired : List Int} (found : watch.checker.checks.lookup fd = some check)
    (reading : check.state = .reading) (fresh : check.response = [])
    (delivery : Delivery fd stream ended 0 inputs last)
    (whole : min stream.length maxResponseSize ≤ last) (late : fd ∈ expired) :
    ∃ verdict, firstVerdict fd watch (inputs ++ [.expire expired]) = some verdict ∧
      verdict ∈ (run step watch (inputs ++ [.expire expired])).verdicts ∧
      verdict.backend = check.backendIndex ∧ verdict.healthy = judged stream ∧
      ((verdict.healthy = true ↔ statusLine <+: stream) ↔
        statusLine <+: stream ∨ ¬ statusLine <:+: stream.take maxResponseSize) := by
  have awaits : Awaits fd check.backendIndex stream 0 watch :=
    ⟨check, found, rfl, reading, fresh, Nat.zero_le _, Nat.zero_le _, rfl⟩
  have decided : firstVerdict fd watch (inputs ++ [.expire expired]) =
      some ⟨check.backendIndex, judged stream⟩ := by
    rw [first_verdict_append]
    rcases delivery_judges delivery awaits with now | ⟨undecided, next⟩
    · rw [now]
      rfl
    · rw [undecided, expiry_judges next whole late]
      rfl
  refine ⟨_, decided, first_verdict_recorded decided, rfl, rfl, ?_⟩
  simp only [judged_iff]
  constructor
  · intro same
    by_cases occurs : statusLine <:+: stream.take maxResponseSize
    · exact .inl (same.mp occurs)
    · exact .inr occurs
  · rintro (starts | absent)
    · exact ⟨fun _ => starts, fun _ => status_line_read starts⟩
    · exact ⟨fun occurs => absurd occurs absent, status_line_read⟩

def probed : Watch :=
  run step (create [(ascii "b", 80)])
    [.start (fun _ => false) [.inProgress 7 true 0], .event 7 { output := true } {},
      .event 7 { output := true } { sends := [.sent 64] }]

def probe : Check :=
  ⟨7, 0, .reading, healthRequest { host := ascii "b", port := 80 }, 52, [],
    responseTimeoutMs * millisecond⟩

/-- The reply of a backend that is well, in two pieces. -/
theorem good_reply_in_pieces :
    ∃ verdict, firstVerdict 7 probed
          ([.event 7 { input := true }
              { recvs := [.received (substr statusLine 0 9), .interrupted, .wouldBlock] },
            .event 7 { input := true } { recvs := [.received (substr statusLine 9 6),
              .wouldBlock] }] ++ [.expire [7]]) = some verdict ∧
        verdict ∈ (run step probed
          ([.event 7 { input := true }
              { recvs := [.received (substr statusLine 0 9), .interrupted, .wouldBlock] },
            .event 7 { input := true } { recvs := [.received (substr statusLine 9 6),
              .wouldBlock] }] ++ [.expire [7]])).verdicts ∧
        verdict.backend = probe.backendIndex ∧ verdict.healthy = judged statusLine ∧
        ((verdict.healthy = true ↔ statusLine <+: statusLine) ↔
          statusLine <+: statusLine ∨ ¬ statusLine <:+: statusLine.take maxResponseSize) := by
  have found : probed.checker.checks.lookup 7 = some probe := by decide
  have first : Delivers statusLine false 0 { input := true }
      { recvs := [.received (substr statusLine 0 9), .interrupted, .wouldBlock] } 9 :=
    ⟨.received (by decide) (by decide) (by decide) (.interrupted (.wouldBlock 9)), nofun⟩
  have second : Delivers statusLine false 9 { input := true }
      { recvs := [.received (substr statusLine 9 6), .wouldBlock] } 15 :=
    ⟨.received (by decide) (by decide) (by decide) (.wouldBlock 15), nofun⟩
  exact verdict_tells_the_status_line_iff found rfl rfl (.event first (.event second (.nothing 15)))
    (by decide) (List.mem_singleton_self 7)

/-- A backend that is not well, and names the good status line in its reply. -/
def badReply : Bytes :=
  ascii "HTTP/1.1 503 Service Unavailable" ++ crlf ++ crlf ++ statusLine

/-- It passes for a healthy one. -/
theorem bad_reply_is_healthy :
    let answers : CheckAnswers :=
      { recvs := [.received (substr badReply 0 badReply.length), .received []] }
    probed.checker.checks.lookup 7 = some probe ∧
      Delivery 7 badReply true 0 [.event 7 { input := true } answers] badReply.length ∧
      ¬ statusLine <+: badReply ∧
      firstVerdict 7 probed [.event 7 { input := true } answers, .expire [7]] =
        some ⟨0, true⟩ := by
  have delivers : Delivers badReply true 0 { input := true }
      { recvs := [.received (substr badReply 0 badReply.length), .received []] }
      badReply.length :=
    ⟨.received (by decide) (by decide) (by decide) (.closed rfl (by decide)), nofun⟩
  exact ⟨by decide, .event delivers (.nothing _), by decide, by decide⟩

end Aorta.Lb.HealthChecker
