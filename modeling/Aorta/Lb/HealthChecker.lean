import Aorta.Library.Search
import Aorta.Lb.BackendPool
import Aorta.Net.Connection
import Aorta.Net.Epoll

/-!
# `HealthChecker`

One request to each backend a round. What the clock reads where a deadline is set is
part of the kernel's answers, and which checks have expired is an argument of `expire`. As
everywhere in the load balancer, the
kernel never hands out a descriptor that is in use: such an answer of `socket` is
no answer, and the call fails.
-/

namespace Aorta.Lb

open Aorta.Library.Ascii Aorta.Library.Search Aorta.Net
open Aorta.Http.HttpParser (crlf)

set_option autoImplicit false

namespace HealthChecker

inductive State where
  | connecting
  | writing
  | reading
deriving DecidableEq, Repr

structure Check where
  fd : Int
  backendIndex : Nat
  state : State
  request : Bytes
  writeOffset : Nat := 0
  response : Bytes := []
  deadline : Int
deriving DecidableEq, Repr

/-- What comes of handling a check: it goes on, or the backend gets a verdict. -/
inductive Progress where
  | live (check : Check)
  | verdict (healthy : Bool)
deriving DecidableEq, Repr

/-- What the kernel answers while one check is started: no address or no socket,
or what `connect` answers on the new socket, and whether `epoll.add` succeeds; `now` is what
the clock reads, once `connect` has answered or, where it goes on, before it is called. -/
inductive StartAnswer where
  | noSocket
  | refused (fd : Int)
  | connected (fd : Int) (added : Bool) (now : Int)
  | inProgress (fd : Int) (added : Bool) (now : Int)
deriving DecidableEq, Repr

/-- What the kernel answers while an event of a check is handled, and what the clock reads
when the check has connected and when it has sent its request. -/
structure CheckAnswers where
  socketError : Bool := false
  sends : List SendResult := []
  recvs : List RecvResult := []
  connectedAt : Int := 0
  sentAt : Int := 0

def connectTimeoutMs : Int := 500

def responseTimeoutMs : Int := 500

/-- The clock counts nanoseconds. -/
def millisecond : Int := 1000000

def maxResponseSize : Nat := 4096

def healthRequest (backend : Backend) : Bytes :=
  ascii "GET /health HTTP/1.1" ++ crlf ++ ascii "Host: " ++ backend.host ++ crlf ++
    ascii "Connection: close" ++ crlf ++ crlf

def handleConnect (socketError : Bool) (now : Int) (check : Check) : Progress :=
  if socketError then .verdict false
  else
    .live { check with
      state := .writing
      deadline := now + responseTimeoutMs * millisecond }

def handleWrite (now : Int) (sends : List SendResult) (check : Check) : Progress :=
  if check.writeOffset < check.request.length then
    match sends with
    | [] => .live check
    | .sent count :: rest =>
        if count > 0 then
          handleWrite now rest { check with
            writeOffset := check.writeOffset +
              min count (check.request.length - check.writeOffset) }
        else .verdict false
    | .interrupted :: rest => handleWrite now rest check
    | .wouldBlock :: _ => .live check
    | .failed :: _ => .verdict false
  else
    .live { check with
      state := .reading
      deadline := now + responseTimeoutMs * millisecond }

def handleRead (recvs : List RecvResult) (check : Check) : Progress :=
  if check.response.length < maxResponseSize then
    match recvs with
    | [] => .live check
    | .received bytes :: rest =>
        let bytes := bytes.take (min 1024 (maxResponseSize - check.response.length))
        if bytes.isEmpty then .verdict false
        else
          let check := { check with response := check.response ++ bytes }
          if (find check.response (ascii "HTTP/1.1 200 OK") 0).isSome then .verdict true
          else handleRead rest check
    | .interrupted :: rest => handleRead rest check
    | .wouldBlock :: _ => .live check
    | .failed :: _ => .verdict false
  else .verdict false

def Progress.andThen (progress : Progress) (next : Check → Progress) : Progress :=
  match progress with
  | .live check => next check
  | .verdict healthy => .verdict healthy

/-- Connect, write and read as far as the events allow; an error or a hang-up fails
the check only if it is still live then. -/
def advance (events : EventMask) (answers : CheckAnswers) (check : Check) : Progress :=
  (if check.state = .connecting && events.output then
      handleConnect answers.socketError answers.connectedAt check
    else Progress.live check).andThen fun check =>
  (if check.state = .writing && events.output then
      handleWrite answers.sentAt answers.sends check
    else Progress.live check).andThen fun check =>
  (if check.state = .reading && events.input then handleRead answers.recvs check
    else Progress.live check).andThen fun check =>
  if events.error || events.hangup then .verdict false else .live check

end HealthChecker

open HealthChecker

/-- The checks that are live, by descriptor. -/
structure HealthChecker where
  checks : Table Check := ∅
deriving DecidableEq

namespace HealthChecker

def handles (checker : HealthChecker) (fd : Int) : Bool := (checker.checks.lookup fd).isSome

def active (checker : HealthChecker) : Bool := !checker.checks.entries.isEmpty

/-- `finishCheck` and `failCheck`. -/
def finishCheck (checker : HealthChecker) (pool : BackendPool) (fd : Int) (healthy : Bool) :
    HealthChecker × BackendPool :=
  match checker.checks.lookup fd with
  | none => (checker, pool)
  | some check =>
      (⟨checker.checks.erase fd⟩,
        pool.modify check.backendIndex
          (if healthy then Backend.countSuccess else Backend.countFailure))

def handleEvent (checker : HealthChecker) (pool : BackendPool) (fd : Int) (events : EventMask)
    (answers : CheckAnswers) : HealthChecker × BackendPool :=
  match checker.checks.lookup fd with
  | none => (checker, pool)
  | some check =>
      match advance events answers check with
      | .live check => (⟨checker.checks.insert fd check⟩, pool)
      | .verdict healthy => checker.finishCheck pool fd healthy

def expire (checker : HealthChecker) (pool : BackendPool) (expired : List Int) :
    HealthChecker × BackendPool :=
  expired.foldl (fun state fd => state.1.finishCheck state.2 fd false) (checker, pool)

/-- One backend's turn of `start`; `inUse` are the descriptors of the load balancer. -/
def startCheck (inUse : Int → Bool) (checker : HealthChecker) (pool : BackendPool) (index : Nat)
    (backend : Backend) (answer : StartAnswer) : HealthChecker × BackendPool :=
  let opened : Option (Int × State × Int) :=
    match answer with
    | .connected fd true now => some (fd, .writing, now + responseTimeoutMs * millisecond)
    | .inProgress fd true now => some (fd, .connecting, now + connectTimeoutMs * millisecond)
    | _ => none
  match opened with
  | none => (checker, pool.modify index Backend.countFailure)
  | some (fd, state, deadline) =>
      if inUse fd || checker.handles fd then
        (checker, pool.modify index Backend.countFailure)
      else
        (⟨checker.checks.insert fd
          ⟨fd, index, state, healthRequest backend, 0, [], deadline⟩⟩, pool)

def startChecks (inUse : Int → Bool) :
    List (Backend × Nat) → List StartAnswer → HealthChecker × BackendPool →
      HealthChecker × BackendPool
  | [], _, state => state
  | (backend, index) :: backends, answers, (checker, pool) =>
      startChecks inUse backends answers.tail
        (startCheck inUse checker pool index backend (answers.headD .noSocket))

def start (inUse : Int → Bool) (checker : HealthChecker) (pool : BackendPool)
    (answers : List StartAnswer) : HealthChecker × BackendPool :=
  if checker.active then (checker, pool)
  else startChecks inUse pool.zipIdx answers (checker, pool)

def cancelAll (_ : HealthChecker) : HealthChecker := {}

section Counts

theorem count_success_connections (backend : Backend) :
    backend.countSuccess.connectionCount = backend.connectionCount := rfl

theorem count_failure_connections (backend : Backend) :
    backend.countFailure.connectionCount = backend.connectionCount := rfl

theorem finish_check_counts (checker : HealthChecker) (pool : BackendPool) (fd : Int)
    (healthy : Bool) : SameCounts (checker.finishCheck pool fd healthy).2 pool := by
  unfold finishCheck
  cases checker.checks.lookup fd with
  | none => exact .refl pool
  | some check =>
      apply SameCounts.modify
      intro backend
      cases healthy with
      | false => exact count_failure_connections backend
      | true => exact count_success_connections backend

theorem handle_event_counts (checker : HealthChecker) (pool : BackendPool) (fd : Int)
    (events : EventMask) (answers : CheckAnswers) :
    SameCounts (checker.handleEvent pool fd events answers).2 pool := by
  unfold handleEvent
  cases checker.checks.lookup fd with
  | none => exact .refl pool
  | some check =>
      simp only
      cases advance events answers check with
      | live check => exact .refl pool
      | verdict healthy => exact finish_check_counts checker pool fd healthy

theorem expire_counts (expired : List Int) (checker : HealthChecker) (pool : BackendPool) :
    SameCounts (checker.expire pool expired).2 pool := by
  unfold expire
  induction expired generalizing checker pool with
  | nil => exact .refl pool
  | cons fd expired ih => exact (ih _ _).trans (finish_check_counts checker pool fd false)

theorem start_check_counts (inUse : Int → Bool) (checker : HealthChecker) (pool : BackendPool)
    (index : Nat) (backend : Backend) (answer : StartAnswer) :
    SameCounts (startCheck inUse checker pool index backend answer).2 pool := by
  have failed : SameCounts (pool.modify index Backend.countFailure) pool :=
    .modify pool index count_failure_connections
  unfold startCheck
  simp only
  split
  · exact failed
  · split_ifs
    · exact failed
    · exact .refl pool

theorem start_checks_counts (inUse : Int → Bool) (backends : List (Backend × Nat))
    (answers : List StartAnswer) (state : HealthChecker × BackendPool) :
    SameCounts (startChecks inUse backends answers state).2 state.2 := by
  induction backends generalizing answers state with
  | nil => exact .refl state.2
  | cons entry backends ih =>
      exact (ih answers.tail _).trans
        (start_check_counts inUse state.1 state.2 entry.2 entry.1 _)

theorem start_counts (inUse : Int → Bool) (checker : HealthChecker) (pool : BackendPool)
    (answers : List StartAnswer) : SameCounts (checker.start inUse pool answers).2 pool := by
  unfold start
  split_ifs
  · exact .refl pool
  · exact start_checks_counts inUse pool.zipIdx answers (checker, pool)

end Counts

section Handles

variable {fd : Int}

theorem handles_insert {checker : HealthChecker} {other : Int} {check : Check}
    (handled : (⟨checker.checks.insert other check⟩ : HealthChecker).handles fd = true) :
    fd = other ∨ checker.handles fd = true := by
  unfold handles at handled ⊢
  by_cases same : fd = other
  · exact .inl same
  · rw [AList.lookup_insert_ne same] at handled
    exact .inr handled

theorem finish_check_handles {checker : HealthChecker} {pool : BackendPool} {other : Int}
    {healthy : Bool} (handled : (checker.finishCheck pool other healthy).1.handles fd = true) :
    checker.handles fd = true := by
  unfold finishCheck at handled
  cases found : checker.checks.lookup other with
  | none =>
      rw [found] at handled
      exact handled
  | some check =>
      rw [found] at handled
      unfold handles at handled ⊢
      by_cases same : fd = other
      · subst same
        simp [found]
      · simp only [AList.lookup_erase_ne same] at handled
        exact handled

theorem handle_event_handles {checker : HealthChecker} {pool : BackendPool} {other : Int}
    {events : EventMask} {answers : CheckAnswers}
    (handled : (checker.handleEvent pool other events answers).1.handles fd = true) :
    checker.handles fd = true := by
  unfold handleEvent at handled
  cases found : checker.checks.lookup other with
  | none =>
      rw [found] at handled
      exact handled
  | some check =>
      rw [found] at handled
      simp only at handled
      cases advanced : advance events answers check with
      | live check =>
          rw [advanced] at handled
          rcases handles_insert handled with rfl | before
          · simp [handles, found]
          · exact before
      | verdict healthy =>
          rw [advanced] at handled
          exact finish_check_handles handled

theorem expire_handles (expired : List Int) {checker : HealthChecker} {pool : BackendPool}
    (handled : (checker.expire pool expired).1.handles fd = true) :
    checker.handles fd = true := by
  unfold expire at handled
  induction expired generalizing checker pool with
  | nil => exact handled
  | cons other expired ih => exact finish_check_handles (ih handled)

theorem start_check_handles {inUse : Int → Bool} {checker : HealthChecker} {pool : BackendPool}
    {index : Nat} {backend : Backend} {answer : StartAnswer}
    (handled : (startCheck inUse checker pool index backend answer).1.handles fd = true) :
    checker.handles fd = true ∨ inUse fd = false := by
  unfold startCheck at handled
  simp only at handled
  split at handled
  · exact .inl handled
  · split_ifs at handled with used
    · exact .inl handled
    · rcases handles_insert handled with rfl | before
      · exact .inr (Bool.or_eq_false_iff.mp (Bool.eq_false_iff.mpr used)).1
      · exact .inl before

theorem start_checks_handles {inUse : Int → Bool} (backends : List (Backend × Nat))
    (answers : List StartAnswer) {state : HealthChecker × BackendPool}
    (handled : (startChecks inUse backends answers state).1.handles fd = true) :
    state.1.handles fd = true ∨ inUse fd = false := by
  induction backends generalizing answers state with
  | nil => exact .inl handled
  | cons entry backends ih =>
      rcases ih answers.tail handled with earlier | free
      · exact start_check_handles earlier
      · exact .inr free

theorem start_handles {inUse : Int → Bool} {checker : HealthChecker} {pool : BackendPool}
    {answers : List StartAnswer}
    (handled : (checker.start inUse pool answers).1.handles fd = true) :
    checker.handles fd = true ∨ inUse fd = false := by
  unfold start at handled
  split_ifs at handled
  · exact .inl handled
  · exact start_checks_handles _ answers handled

end Handles

end HealthChecker

end Aorta.Lb
