import Aorta.Lb.HealthVerdicts
import Aorta.Lb.ProxiedConversations

/-!
# Probed servers

A health check and the server it is for. The server answers the request of the check with a
good status line, so the verdict tells whether that line has come through in time.
-/

namespace Aorta.Lb

open Aorta.Library.Ascii Aorta.Library.Decimal Aorta.Library.Run Aorta.Library.Search
open Aorta.Http Aorta.Net Aorta.Server
open Aorta.Http.HttpParser (crlf space)
open HealthChecker HealthChecker.Watch

set_option autoImplicit false

def healthMessage (host : Bytes) : Message where
  method := ascii "GET"
  target := ascii "/health"
  fields := [⟨ascii "Host", ascii " ", host⟩, ⟨ascii "Connection", ascii " ", ascii "close"⟩]
  framing := .empty

theorem health_message_encode (backend : Backend) :
    (healthMessage backend.host).encode = healthRequest backend := by
  have requestLine : ascii "GET" ++ space :: (ascii "/health" ++ space :: ascii "HTTP/1.1") =
      ascii "GET /health HTTP/1.1" := by decide
  have hostLine : ∀ host : Bytes, (⟨ascii "Host", ascii " ", host⟩ : Field).line =
      ascii "Host: " ++ host := by
    intro host
    unfold Field.line
    rfl
  have closeLine : (⟨ascii "Connection", ascii " ", ascii "close"⟩ : Field).line =
      ascii "Connection: close" := by decide
  rw [Message.encode_eq, Message.head, Message.headPieces]
  simp only [healthMessage, Message.requestLine, requestLine, fieldPieces, List.map_cons, hostLine,
    closeLine, Framing.pieces, healthRequest]
  simp [HttpParser.Piece.bytes]

theorem handle_health (handler : HttpHandler) (host : Bytes) :
    handler.handle (healthMessage host).request {} =
      .completed (HttpHandler.handleGetHealth {}) := by
  have noFile : HttpHandler.wantsFile (ascii "/health") = false := by decide
  unfold HttpHandler.handle
  rw [show (healthMessage host).request.target = ascii "/health" from rfl, noFile]
  rfl

/-- Whatever else it says, an answer to the request of a check starts with a good status
line. -/
theorem health_answer_starts {request : HttpRequest} :
    statusLine <+: (HttpHandler.finished request (HttpHandler.handleGetHealth {})).serialize := by
  have version : (HttpHandler.finished request (HttpHandler.handleGetHealth {})).version =
      ascii "HTTP/1.1" := by
    unfold HttpHandler.finished
    split_ifs <;> rfl
  have statusCode : (HttpHandler.finished request (HttpHandler.handleGetHealth {})).statusCode =
      200 := by
    unfold HttpHandler.finished
    split_ifs <;> rfl
  have reason : (HttpHandler.finished request (HttpHandler.handleGetHealth {})).reason =
      ascii "OK" := by
    unfold HttpHandler.finished
    split_ifs <;> rfl
  have line : statusLine =
      ascii "HTTP/1.1" ++ ascii " " ++ decimal 200 ++ ascii " " ++ ascii "OK" := by decide
  unfold HttpResponse.serialize
  rw [version, statusCode, reason, line]
  exact ((List.prefix_append _ _).trans (List.prefix_append _ _)).trans
    ((List.prefix_append _ _).trans (List.prefix_append _ _))

section Requests

/-! A check asks its own backend, whatever has happened to it and to the others. -/

def Asks (hosts : List Bytes) (check : Check) : Prop :=
  ∃ host, hosts[check.backendIndex]? = some host ∧ check.request = (healthMessage host).encode

/-- Every check asks the backend it is for. -/
structure Asking (hosts : List Bytes) (state : HealthChecker × BackendPool) : Prop where
  pool : state.2.map Backend.host = hosts
  checks : ∀ fd check, state.1.checks.lookup fd = some check → Asks hosts check

variable {hosts : List Bytes} {checker : HealthChecker} {pool : BackendPool}

theorem modify_hosts (pool : BackendPool) (index : Nat) {change : Backend → Backend}
    (same : ∀ backend, (change backend).host = backend.host) :
    (pool.modify index change).map Backend.host = pool.map Backend.host := by
  apply List.ext_getElem?
  intro position
  rw [List.getElem?_map, List.getElem?_map, List.getElem?_modify]
  cases pool[position]? with
  | none => rfl
  | some backend =>
      by_cases here : index = position
      · simp only [if_pos here, Option.map_eq_map, Option.map_some, same]
      · simp only [if_neg here, Option.map_eq_map, Option.map_some]

theorem count_success_host (backend : Backend) : backend.countSuccess.host = backend.host := by
  rfl

theorem count_failure_host (backend : Backend) : backend.countFailure.host = backend.host := by
  rfl

theorem finish_asking (asking : Asking hosts (checker, pool)) (fd : Int) (healthy : Bool) :
    Asking hosts (checker.finishCheck pool fd healthy) := by
  unfold finishCheck
  cases checker.checks.lookup fd with
  | none => exact asking
  | some check =>
      constructor
      · have same : ∀ backend : Backend,
            ((if healthy then Backend.countSuccess else Backend.countFailure) backend).host =
              backend.host := by
          intro backend
          cases healthy with
          | true => exact count_success_host backend
          | false => exact count_failure_host backend
        exact (modify_hosts pool _ same).trans asking.pool
      · intro other otherCheck found
        dsimp only at found
        by_cases equal : other = fd
        · rw [equal, AList.lookup_erase] at found
          cases found
        · rw [AList.lookup_erase_ne equal] at found
          exact asking.checks other otherCheck found

theorem event_asking (asking : Asking hosts (checker, pool)) (fd : Int) (events : EventMask)
    (answers : CheckAnswers) : Asking hosts (checker.handleEvent pool fd events answers) := by
  unfold handleEvent
  cases found : checker.checks.lookup fd with
  | none => exact asking
  | some check =>
      dsimp only
      cases advanced : advance events answers check with
      | verdict healthy => exact finish_asking asking fd healthy
      | live next =>
          refine ⟨asking.pool, ?_⟩
          intro other otherCheck here
          dsimp only at here
          by_cases equal : other = fd
          · rw [equal, AList.lookup_insert] at here
            cases here
            obtain ⟨host, own, request⟩ := asking.checks fd check found
            refine ⟨host, ?_, (advance_same advanced).2.trans request⟩
            rw [(advance_same advanced).1]
            exact own
          · rw [AList.lookup_insert_ne equal] at here
            exact asking.checks other otherCheck here

theorem expire_asking (expired : List Int) (asking : Asking hosts (checker, pool)) :
    Asking hosts (checker.expire pool expired) := by
  induction expired generalizing checker pool with
  | nil => exact asking
  | cons fd expired ih => exact ih (finish_asking asking fd false)

theorem start_check_asking (asking : Asking hosts (checker, pool)) (inUse : Int → Bool)
    {index : Nat} {backend : Backend} (own : hosts[index]? = some backend.host)
    (answer : StartAnswer) :
    Asking hosts (startCheck inUse checker pool index backend answer) := by
  rw [start_check_eq]
  cases opened inUse checker answer with
  | none => exact ⟨(modify_hosts pool _ count_failure_host).trans asking.pool, asking.checks⟩
  | some entry =>
      refine ⟨asking.pool, ?_⟩
      intro other check found
      dsimp only at found
      by_cases equal : other = entry.1
      · rw [equal, AList.lookup_insert] at found
        cases found
        exact ⟨backend.host, own, (health_message_encode backend).symm⟩
      · rw [AList.lookup_insert_ne equal] at found
        exact asking.checks other check found

theorem start_checks_asking (inUse : Int → Bool) (backends : List (Backend × Nat))
    (own : ∀ entry ∈ backends, hosts[entry.2]? = some entry.1.host) (answers : List StartAnswer)
    (asking : Asking hosts (checker, pool)) :
    Asking hosts (startChecks inUse backends answers (checker, pool)) := by
  induction backends generalizing checker pool answers with
  | nil => exact asking
  | cons entry backends ih =>
      obtain ⟨first, others⟩ := List.forall_mem_cons.mp own
      exact ih others answers.tail (start_check_asking asking inUse first _)

theorem step_asking {watch : Watch} (asking : Asking hosts (watch.checker, watch.pool))
    (input : Watch.Input) :
    Asking hosts ((watch.step input).checker, (watch.step input).pool) := by
  cases input with
  | event fd events answers => exact event_asking asking fd events answers
  | expire expired => exact expire_asking expired asking
  | start inUse answers =>
      have started : Asking hosts (watch.checker.start inUse watch.pool answers) := by
        unfold HealthChecker.start
        split_ifs
        · exact asking
        · apply start_checks_asking inUse _ _ answers asking
          intro entry member
          have here := List.mem_zipIdx_iff_getElem?.mp member
          rw [← asking.pool]
          change (watch.pool.map Backend.host)[entry.2]? = some entry.1.host
          rw [List.getElem?_map, here]
          rfl
      unfold Watch.step
      dsimp only
      split_ifs
      · exact started
      · exact started

theorem run_asking (configured : List (Bytes × Nat)) (inputs : List Watch.Input) :
    let watch := run step (create configured) inputs
    Asking (configured.map Prod.fst) (watch.checker, watch.pool) := by
  refine @run_invariant _ _ step
    (fun watch => Asking (configured.map Prod.fst) (watch.checker, watch.pool)) ?_ _ ?_ inputs
  · intro watch input asking
    exact step_asking asking input
  · constructor
    · exact List.map_map
    · intro fd check found
      cases found

end Requests

section Verdict

variable {endpoint : Endpoint} {host : Bytes}

theorem health_is_announced (valid : (healthMessage host).Valid)
    (asked : endpoint.heard.received <+: (healthMessage host).encode) :
    endpoint.announcedBytes = [] ∨
      ∃ whole, endpoint.announcedBytes <+: whole ∧ statusLine <+: whole := by
  have alone : ∀ message ∈ [healthMessage host], message.Valid :=
    List.forall_mem_singleton.mpr valid
  have begins := endpoint.requests_begin alone (by
    rw [List.flatMap_singleton]
    exact asked)
  have replied := endpoint.replied
  have announced := spelled_begins endpoint.files replied.announced_begins
  have first : ∀ {request : Nat × HttpRequest} {requests : List (Nat × HttpRequest)}
      {reply : Reply} (replies : List Reply), request :: requests = endpoint.heard.requests →
      Server.Answered (Session.answering endpoint.handlers) (Responds endpoint.outcomes) request
        reply →
      statusLine <+: spelled endpoint.files ((reply :: replies).flatMap Reply.due) := by
    intro request requests reply replies isFirst answered
    have same : request.2 = (healthMessage host).request := by
      rw [← isFirst, List.map_cons] at begins
      exact (List.cons_prefix_cons.mp begins).1
    obtain ⟨response, settles, isReply⟩ := answered.settles
    have completed : response = HttpHandler.handleGetHealth {} := by
      rcases settles with completed | ⟨⟨operation, pending⟩, -⟩
      · rw [same, handle_health] at completed
        cases completed
        rfl
      · rw [same, handle_health] at pending
        cases pending
    rw [List.flatMap_cons, Reply.due, spelled_append, spelled_append, spelled_memory, isReply,
      completed]
    exact (health_answer_starts.trans (List.prefix_append _ _)).trans (List.prefix_append _ _)
  change endpoint.announcedBytes <+: _ at announced
  generalize endpoint.said.replies = replies at replied announced
  generalize endpoint.heard.requests = requests at replied first
  cases replied with
  | nothing requests => exact .inl (List.prefix_nil.mp announced)
  | broken answered unopened rest => exact .inr ⟨_, announced, first [] rfl answered⟩
  | next answered whole rest => exact .inr ⟨_, announced, first _ rfl answered⟩

theorem health_is_judged (valid : (healthMessage host).Valid)
    (asked : endpoint.heard.received <+: (healthMessage host).encode) {stream : Bytes}
    (told : stream <+: endpoint.sentBytes) :
    judged stream = decide (statusLine.length ≤ stream.length) := by
  have announced := told.trans endpoint.owes
  rw [Bool.eq_iff_iff, judged_iff, decide_eq_true_iff]
  constructor
  · intro occurs
    exact occurs.length_le.trans (List.length_take_le' _ _)
  · intro long
    rcases health_is_announced valid asked with nothing | ⟨whole, inside, starts⟩
    · rw [nothing] at announced
      rw [List.prefix_nil.mp announced] at long
      cases (show ¬ statusLine.length ≤ 0 by decide) long
    · exact status_line_read
        (List.prefix_of_prefix_length_le starts (announced.trans inside) long)

end Verdict

/-- At any time of any run, a check that has sent its request reads what a server has sent to
which at most this request has come. The one verdict of the check is on record for the backend
it asked, and is good if and only if the status line has come through before its time is up
and before the stream ends. -/
theorem probed_server_is_judged_by_delivery (configured : List (Bytes × Nat))
    (valid : ∀ entry ∈ configured, (healthMessage entry.1).Valid) (before : List Watch.Input)
    {fd : Int} {check : Check} {endpoint : Endpoint} {stream : Bytes} {ended : Bool}
    {inputs : List Watch.Input} {last : Nat} {expired : List Int}
    (found : (run step (create configured) before).checker.checks.lookup fd = some check)
    (reading : check.state = .reading) (fresh : check.response = [])
    (asked : endpoint.heard.received <+: check.request) (told : stream <+: endpoint.sentBytes)
    (delivery : Delivery fd stream ended 0 inputs last)
    (whole : min stream.length maxResponseSize ≤ last) (late : fd ∈ expired) :
    let verdict : Verdict := ⟨check.backendIndex, decide (statusLine.length ≤ stream.length)⟩
    check.backendIndex < configured.length ∧
      firstVerdict fd (run step (create configured) before) (inputs ++ [.expire expired]) =
        some verdict ∧
      verdict ∈
        (run step (create configured) (before ++ (inputs ++ [.expire expired]))).verdicts ∧
      EndsWith fd (run step (create configured) before) (inputs ++ [.expire expired])
        verdict := by
  intro verdict
  obtain ⟨host, own, request⟩ := (run_asking configured before).checks fd check found
  have isHost : host ∈ configured.map Prod.fst := List.mem_of_getElem? own
  obtain ⟨entry, listed, same⟩ := List.mem_map.mp isHost
  subst same
  rw [request] at asked
  have well : judged stream = decide (statusLine.length ≤ stream.length) :=
    health_is_judged (valid entry listed) asked told
  have awaits : Awaits fd check.backendIndex stream 0 (run step (create configured) before) :=
    ⟨check, found, rfl, reading, fresh, Nat.zero_le _, Nat.zero_le _, rfl⟩
  have decided : firstVerdict fd (run step (create configured) before)
      (inputs ++ [.expire expired]) = some ⟨check.backendIndex, judged stream⟩ := by
    rw [first_verdict_append]
    rcases delivery_judges delivery awaits with now | ⟨undecided, next⟩
    · rw [now]
      rfl
    · rw [undecided, expiry_judges next whole late]
      rfl
  rw [well] at decided
  refine ⟨?_, decided, ?_, first_verdict_ends decided⟩
  · have inside := (List.getElem?_eq_some_iff.mp own).1
    rwa [List.length_map] at inside
  · rw [run_append]
    exact first_verdict_recorded decided

section Example

/-- The only backend is connected to, and its request is sent. -/
def probeInputs : List Watch.Input :=
  [.start (fun _ => false) [.inProgress 7 true 0], .event 7 { output := true } {},
    .event 7 { output := true } { sends := [.sent 64] }]

def sentProbe : Check :=
  ⟨7, 0, .reading, healthRequest { host := ascii "b", port := 80 }, 52, [],
    responseTimeoutMs * millisecond⟩

def probedServerInputs : List Reactor.Input :=
  [.accept [.client 9 true true true],
    .client 9 { input := true }
      { recvs := [.received (healthMessage (ascii "b")).encode],
        inline := { sends := [.sent 1000] } }]

def probedServer : Endpoint where
  handlers := LoadBalancer.plainHandler
  id := 0
  inputs := probedServerInputs
  fd := 9
  files := fun _ => 0
  outcomes := LoadBalancer.noOutcomes
  may := ⟨trivial, trivial, trivial⟩
  whole := by decide

set_option maxRecDepth 20000 in
theorem good_server_is_judged_good :
    firstVerdict 7 (run step (create [(ascii "b", 80)]) probeInputs)
        ([.event 7 { input := true } { recvs := [.received statusLine, .wouldBlock] }] ++
          [.expire [7]]) = some ⟨0, true⟩ := by
  have found : (run step (create [(ascii "b", 80)]) probeInputs).checker.checks.lookup 7 =
      some sentProbe := by decide
  have delivers : Delivers statusLine false 0 { input := true }
      { recvs := [.received (substr statusLine 0 15), .wouldBlock] } 15 :=
    ⟨.received (by decide) (by decide) (by decide) (.wouldBlock 15), by decide⟩
  have asked : probedServer.heard.received <+: sentProbe.request := by decide
  have told : statusLine <+: probedServer.sentBytes := by decide
  have judged := probed_server_is_judged_by_delivery [(ascii "b", 80)] (by decide) probeInputs
    found rfl rfl asked told (.event delivers (.nothing 15)) (by decide)
    (List.mem_singleton_self 7)
  exact judged.2.1

end Example

end Aorta.Lb
