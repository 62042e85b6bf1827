import Aorta.Server.Arrears
import Aorta.Server.Delivery
import Aorta.Server.Splitting

/-!
# Responses owed when a stream ends

A client that has sent its last request may close its sending side at once. What
the reactor then owes on the connection is in two places: responses in the output
queue, and requests whose job is outstanding.

The end of a stream is noticed by `recv` and by `EPOLLRDHUP`, and each way checks
half of what is owed. `handleClient` removes the connection when `recv` answers 0,
with whatever is in the output queue; `EPOLLRDHUP` waits for the queue to drain but
does not look at `redis_pending`.
-/

namespace Aorta.Net.Connection

open Aorta.Http

set_option autoImplicit false

/-- Reading from the connection finds the end of the stream with a response owed: one
is still in the queue, or the bytes in front of the end have completed a request. -/
def endsOwing : Nat → List RecvResult → Connection → Bool
  | 0, _, _ => false
  | fuel + 1, recvs, connection =>
      match connection.read recvs with
      | (.disconnected, connection, _) => connection.hasPendingOutput
      | (.dataReceived, connection, recvs) =>
          match connection.parseRequest with
          | (.needMoreData, connection) =>
              if connection.closeAfterWrite then false
              else endsOwing fuel recvs connection.consumeParsedBytes
          | (.complete, _) => recvs.contains (.received [])
          | _ => false
      | _ => false

/-- `recv` is asked for at least one byte, so only an end of the stream disconnects. -/
theorem receive_takes (connection : Connection) {bytesToRead : Nat} (some : 0 < bytesToRead)
    (recvs : List RecvResult) :
    ((receive connection bytesToRead recvs).1 = .disconnected → .received [] ∈ recvs) ∧
      (receive connection bytesToRead recvs).2.2 ⊆ recvs := by
  induction recvs with
  | nil => exact ⟨fun ends => (by cases ends), List.Subset.refl _⟩
  | cons recv recvs ih =>
      cases recv with
      | interrupted =>
          exact ⟨fun ends => List.mem_cons_of_mem _ (ih.1 ends),
            fun _ member => List.mem_cons_of_mem _ (ih.2 member)⟩
      | wouldBlock => exact ⟨fun ends => (by cases ends), List.subset_cons_self _ _⟩
      | failed => exact ⟨fun ends => (by cases ends), List.subset_cons_self _ _⟩
      | received bytes =>
          unfold receive
          simp only
          split_ifs with taken
          · exact ⟨by simp, List.subset_cons_self _ _⟩
          · have none : bytes = [] := by
              rw [List.length_take] at taken
              exact List.eq_nil_of_length_eq_zero (by omega)
            rw [none]
            exact ⟨fun _ => List.mem_cons_self, List.subset_cons_self _ _⟩

theorem read_takes (connection : Connection) (recvs : List RecvResult) :
    ((connection.read recvs).1 = .disconnected → .received [] ∈ recvs) ∧
      (connection.read recvs).2.2 ⊆ recvs := by
  unfold read
  split_ifs with full
  · exact ⟨nofun, List.Subset.refl _⟩
  · apply receive_takes
    omega

end Aorta.Net.Connection

namespace Aorta.Server

open Aorta.Library.Ascii Aorta.Library.Run Aorta.Http Aorta.Net
open Aorta.Http.HttpParser (ParseResult)

set_option autoImplicit false

namespace Session

variable (handle : Nat → HttpRequest → HandleResult) (openFile : Bytes → Option Int)

/-- A session that may dispatch requests and owes no answer. -/
def Balanced (next : Nat) (others : Int → Option (Nat × Bool)) (fd : Int) (session : Session) :
    Prop :=
  session.Ready next others fd ∧
    Arrears next (Function.update others fd (some (session.state.generation, false)))
      session.shared.outstanding session.shared.history

/-- How a session may be left: with its state put back, or with its descriptor closed. -/
def LeftBalanced (next : Nat) (others : Int → Option (Nat × Bool)) (fd : Int)
    (outcome : Served × Session) : Prop :=
  Left next others fd outcome ∧
    Arrears next
      (Function.update others fd
        (if outcome.1 = .failed then none
          else some (outcome.2.state.generation, outcome.2.state.redisPending)))
      outcome.2.shared.outstanding outcome.2.shared.history

variable {next : Nat} {others : Int → Option (Nat × Bool)} {fd : Int} {session : Session}

theorem closed_slot (slot : Option (Nat × Bool)) {other : Int} {found : Nat × Bool}
    (closed : Function.update others fd none other = some found) :
    Function.update others fd slot other = some found := by
  by_cases here : other = fd
  · rw [here, Function.update_self] at closed
    cases closed
  · rwa [Function.update_of_ne here] at closed ⊢

theorem Balanced.failed (balanced : session.Balanced next others fd) :
    LeftBalanced next others fd session.fail := by
  refine ⟨balanced.1.left .failed session.connection, ?_⟩
  exact balanced.2.narrow fun _ _ => closed_slot _

theorem Balanced.waiting (balanced : session.Balanced next others fd) :
    LeftBalanced next others fd (.waiting, session) := by
  refine ⟨balanced.1.left .waiting session.connection, ?_⟩
  simp only [reduceCtorEq, if_false, balanced.1.2.2]
  exact balanced.2

theorem Balanced.disconnected (balanced : session.Balanced next others fd)
    (empty : session.connection.outputQueue = []) :
    LeftBalanced next others fd session.disconnect := by
  have slot : Function.update others fd (some (session.state.generation, false)) fd =
    some (session.state.generation, false) := Function.update_self ..
  refine ⟨⟨balanced.1.1.ended _, balanced.1.2.1, fun _ => balanced.1.2.2⟩, ?_⟩
  have ended := (balanced.2.ended slot).narrow fun _ _ => closed_slot _
  simp only [disconnect, Shared.endStream, empty, balanced.1.2.1]
  exact ended

theorem dispatch_left_balanced (balanced : session.Balanced next others fd) :
    LeftBalanced next others fd (session.dispatch handle openFile) := by
  have left := dispatch_left handle openFile balanced.1
  obtain ⟨⟨keeps, sameFd, idle⟩, arrears⟩ := balanced
  unfold Keeps at keeps
  subst sameFd
  rw [idle] at keeps
  have slot : Function.update others session.fd (some (session.state.generation, false))
      session.fd = some (session.state.generation, false) := Function.update_self ..
  have dispatches := dispatch_dispatches openFile handle session
  generalize session.dispatch handle openFile = outcome at dispatches left ⊢
  refine ⟨left, ?_⟩
  cases dispatches with
  | pending closeAfterWrite =>
      have submitted :=
        arrears.submit keeps slot session.connection.getRequest closeAfterWrite
      rw [Function.update_idem, Shared.outstanding, List.append_assoc] at submitted
      exact submitted
  | refused after =>
      have refused := arrears.refuse keeps slot session.connection.getRequest
      rw [Function.update_idem] at refused
      exact refused
  | fileRefused after =>
      exact (arrears.serve keeps slot session.connection.getRequest).narrow
        fun _ _ => closed_slot _
  | answered after =>
      have goesOn : (session.responded after).finish.1 ≠ .failed := by
        rcases (session.responded after).finish_served with served | served <;>
          rw [served] <;> simp
      rw [if_neg goesOn]
      simp only [finish, refreshDeadline, ConnectionState.refreshDeadline, responded, dispatched,
        idle]
      exact arrears.serve keeps slot session.connection.getRequest

theorem dispatch_balanced (balanced : session.Balanced next others fd) :
    Goes (Balanced next others fd) (LeftBalanced next others fd)
      (session.dispatch handle openFile) := by
  have left := dispatch_left_balanced handle openFile balanced
  constructor
  · intro waits
    have idle := left.1.2.2 (by rw [waits]; exact nofun)
    have arrears := left.2
    rw [waits, if_neg nofun, idle] at arrears
    exact ⟨⟨left.1.1, left.1.2.1, idle⟩, arrears⟩
  · intro _
    exact left

/-- One read that completes no request and does not end the stream leaves the rest of
the answers to the same connection. -/
theorem serve_all_unowed {recvs : List RecvResult} {fuel : Nat} {after : Session}
    (unowed : (match session.connection.parseRequest with
      | (.needMoreData, connection) =>
          if connection.closeAfterWrite then false
          else connection.consumeParsedBytes.endsOwing fuel recvs
      | (.complete, _) => recvs.contains (.received [])
      | _ => false) = false)
    (served : serveAll handle openFile session = (.waiting, after))
    (stays : after.connection.shouldCloseAfterWrite = false) :
    after.connection.endsOwing fuel recvs = false ∨ .received [] ∉ recvs := by
  unfold serveAll serve at served
  cases parsed : session.connection.parseRequest with
  | mk result rest =>
      simp only [parsed] at unowed served
      cases result with
      | needMoreData =>
          obtain rfl := (Prod.mk.inj served).2
          have plain : rest.closeAfterWrite = false :=
            (rest.consume_parsed_bytes_output.2.2).symm.trans stays
          simp only [plain, Bool.false_eq_true, if_false] at unowed
          exact .inl unowed
      | complete =>
          apply Or.inr
          intro member
          rw [List.contains_iff_mem.mpr member] at unowed
          cases unowed
      | badRequest => cases served
      | requestLineTooLarge => cases served
      | headersTooLarge => cases served
      | tooManyHeaders => cases served
      | bodyTooLarge => cases served
      | unsupportedTransferEncoding => cases served
      | unsupportedVersion => cases served

theorem read_loop_left_balanced (fuel : Nat) (recvs : List RecvResult)
    (balanced : session.Balanced next others fd)
    (unowed : session.connection.endsOwing fuel recvs = false ∨ .received [] ∉ recvs) :
    LeftBalanced next others fd (session.readLoop handle openFile fuel recvs) := by
  induction fuel generalizing session recvs with
  | zero => exact balanced.waiting
  | succ fuel ih =>
      have takes := session.connection.read_takes recvs
      unfold Connection.endsOwing at unowed
      apply read_loop_succ openFile handle _ _ _ _ fuel recvs balanced
      · intro session balanced
        exact balanced.waiting
      · intro ends
        cases reads : session.connection.read recvs with
        | mk answer rest =>
            rw [reads] at ends takes unowed
            cases ends
            apply Balanced.disconnected
              (show Balanced next others fd { session with connection := rest.1 } from balanced)
            rcases unowed with empty | endless
            · simpa [Connection.hasPendingOutput] using empty
            · exact absurd (takes.1 rfl) endless
      · intro after balanced received served stays
        cases reads : session.connection.read recvs with
        | mk answer rest =>
            rw [reads] at received served takes unowed
            cases received
            apply ih rest.2 balanced
            rcases unowed with unowed | endless
            · exact serve_all_unowed handle openFile unowed served stays
            · exact .inr fun member => endless (takes.2 member)
      · intro session connection balanced _
        exact balanced
      · intro session balanced
        exact balanced
      · intro session balanced
        exact balanced.failed
      · intro session balanced
        exact dispatch_balanced handle openFile balanced

end Session

namespace Reactor

variable (handle : Nat → HttpRequest → HandleResult) {reactor : Reactor}

/-- Nothing is owed but what an outstanding job will answer, and no stream has ended
with something owed. -/
def Balanced (reactor : Reactor) : Prop :=
  reactor.Keeps ∧ Arrears reactor.nextConnectionGeneration (slots reactor.connectionStates)
    reactor.shared.outstanding reactor.shared.history

theorem Quiet.balanced {before after : Reactor} (quiet : Quiet before after)
    (balanced : before.Balanced) : after.Balanced := by
  refine ⟨quiet.keeps balanced.1, ?_⟩
  unfold Shared.outstanding
  rw [quiet.next, quiet.jobs, quiet.completions, quiet.history]
  exact balanced.2.narrow quiet.slots

theorem put_balanced {session : Session}
    (keeps : session.Keeps reactor.nextConnectionGeneration (slots reactor.connectionStates))
    (arrears : Arrears reactor.nextConnectionGeneration
      (Function.update (slots reactor.connectionStates) session.fd
        (some (session.state.generation, session.state.redisPending)))
      session.shared.outstanding session.shared.history) : (reactor.put session).Balanced := by
  refine ⟨put_keeps keeps, ?_⟩
  unfold put
  simp only
  rw [slots_insert]
  exact arrears

theorem put_removed_arrears {session : Session}
    (arrears : Arrears reactor.nextConnectionGeneration
      (Function.update (slots reactor.connectionStates) session.fd none)
      session.shared.outstanding session.shared.history) :
    let removed := (reactor.put session).removeConnection session.fd
    Arrears removed.nextConnectionGeneration (slots removed.connectionStates)
      removed.shared.outstanding removed.shared.history := by
  unfold removeConnection put
  simp only [AList.lookup_insert]
  rw [slots_erase, slots_insert, Function.update_idem]
  exact arrears

theorem accept_client_balanced (balanced : reactor.Balanced) (fd : Int) :
    (reactor.acceptClient fd).Balanced := by
  refine ⟨accept_client_keeps balanced.1 fd, ?_⟩
  unfold acceptClient
  simp only
  rw [slots_insert]
  exact balanced.2.accept fd

theorem handle_client_balanced (balanced : reactor.Balanced) (fd : Int) (answers : ClientAnswers)
    (unowed : ∀ connection state, reactor.connections.lookup fd = some connection →
      reactor.connectionStates.lookup fd = some state → state.redisPending = false →
      connection.endsOwing (answers.recvs.length + 1) answers.recvs = false) :
    (reactor.handleClient handle fd answers).Balanced := by
  have reads := handle_client_reads handle reactor fd answers
  generalize reactor.handleClient handle fd answers = outcome at reads ⊢
  cases reads with
  | idle => exact balanced
  | unknown => exact (remove_connection_quiet reactor fd).balanced balanced
  | served connection state served session after found foundState idle loops leaves =>
      have balanced : Session.Balanced reactor.nextConnectionGeneration
          (slots reactor.connectionStates) fd ⟨fd, connection, state, reactor.shared⟩ := by
        have same : Function.update (slots reactor.connectionStates) fd
            (some (state.generation, state.redisPending)) = slots reactor.connectionStates := by
          rw [← slots_insert, slots_same foundState state rfl rfl]
        refine ⟨⟨?_, rfl, idle⟩, ?_⟩
        · unfold Session.Keeps
          rw [same]
          exact balanced.1
        · rw [← idle, same]
          exact balanced.2
      have left := Session.read_loop_left_balanced handle answers.openFile
        (answers.recvs.length + 1) answers.recvs balanced
        (.inl (unowed connection state found foundState idle))
      rw [loops] at left
      obtain ⟨⟨keeps, sameFd, -⟩, arrears⟩ := left
      subst sameFd
      cases leaves with
      | failed =>
          exact ⟨(remove_connection_quiet _ session.fd).keeps (put_keeps keeps),
            put_removed_arrears arrears⟩
      | paused =>
          exact (update_events_quiet _ session.fd _ _).balanced (put_balanced keeps arrears)
      | written served goesOn =>
          rw [if_neg goesOn.1] at arrears
          exact (handle_write_quiet _ session.fd _).balanced (put_balanced keeps arrears)
      | stored served goesOn =>
          rw [if_neg goesOn.1] at arrears
          exact put_balanced keeps arrears

theorem disconnect_balanced (balanced : reactor.Balanced) {fd : Int} {connection : Connection}
    (empty : connection.outputQueue = [])
    (idle : ∀ state, reactor.connectionStates.lookup fd = some state →
      state.redisPending = false) : (reactor.disconnect fd connection).Balanced := by
  unfold disconnect
  cases foundState : reactor.connectionStates.lookup fd with
  | none => exact (remove_connection_quiet reactor fd).balanced balanced
  | some state =>
      have slot : slots reactor.connectionStates fd = some (state.generation, false) := by
        simp [slots, foundState, idle state foundState]
      apply (remove_connection_quiet _ fd).balanced
      rw [empty]
      exact ⟨balanced.1.ended _, balanced.2.ended slot⟩

theorem complete_async_response_balanced {callback : Callback}
    (ledger : Ledger reactor.nextConnectionGeneration (slots reactor.connectionStates)
      (callback :: reactor.shared.outstanding) reactor.shared.serial reactor.shared.history)
    (arrears : Arrears reactor.nextConnectionGeneration (slots reactor.connectionStates)
      (callback :: reactor.shared.outstanding) reactor.shared.history)
    (response : HttpResponse) (answers : WriteAnswers) :
    (reactor.completeAsyncResponse callback response answers).Balanced := by
  have keeps := complete_async_response_keeps ledger response answers
  have taken := arrears.fewer fun other member => List.mem_cons_of_mem callback member
  have completes := reactor.complete_async_response_completes callback response answers
  generalize reactor.completeAsyncResponse callback response answers = outcome at completes keeps ⊢
  cases completes with
  | dropped => exact ⟨keeps, taken⟩
  | refused connection state after found foundState same =>
      refine ⟨keeps, put_removed_arrears (taken.narrow fun other slot found => ?_)⟩
      have still := Session.closed_slot (slots reactor.connectionStates callback.fd) found
      rwa [Function.update_eq_self] at still
  | queued connection state after found foundState same =>
      have completed := ledger.complete (waiting_slot foundState same)
      have answered := arrears.complete
      unfold Callback.entry at completed answered
      rw [← same] at completed answered
      apply (handle_write_quiet _ callback.fd answers).balanced
      exact put_balanced completed answered

theorem pop_completion_balanced (balanced : reactor.Balanced) (answers : WriteAnswers) :
    (reactor.popCompletion answers).Balanced := by
  unfold popCompletion
  cases waiting : reactor.shared.completions with
  | nil => exact balanced
  | cons completion completions =>
      have ledger := balanced.1
      have arrears := balanced.2
      unfold Keeps at ledger
      unfold Shared.outstanding at ledger arrears
      rw [waiting] at ledger arrears
      exact complete_async_response_balanced ledger arrears _ answers

theorem finish_job_balanced (balanced : reactor.Balanced) (job : Nat)
    (response : Option HttpResponse) : (reactor.finishJob job response).Balanced := by
  refine ⟨finish_job_keeps balanced.1 job response, ?_⟩
  unfold finishJob
  cases found : reactor.shared.jobs[job]? with
  | none => exact balanced.2
  | some callback =>
      apply balanced.2.fewer
      intro other member
      have known : callback ∈ reactor.shared.jobs := List.mem_of_getElem? found
      simp only [Shared.outstanding, List.map_append, List.mem_append] at member ⊢
      rcases member with (waiting | published) | unfinished
      · exact .inl waiting
      · cases response with
        | none => cases published
        | some response =>
            rw [Option.map_some, Option.toList_some, List.map_singleton,
              List.mem_singleton] at published
            rw [published]
            exact .inr known
      · exact .inr (List.mem_of_mem_eraseIdx unfinished)

/-- The end of a stream is found in an event of the descriptor while a response is
owed on it: `recv` finds it behind a request or with output in the queue, or
`EPOLLRDHUP` reports it with an empty queue and a job outstanding. -/
def endsOwing (reactor : Reactor) : Input → Bool
  | .client fd events answers =>
      match reactor.connections.lookup fd, reactor.connectionStates.lookup fd with
      | some connection, some state =>
          (events.input && !state.redisPending &&
            connection.endsOwing (answers.recvs.length + 1) answers.recvs) ||
          (events.readHangup && !connection.hasPendingOutput && state.redisPending)
      | _, _ => false
  | _ => false

theorem read_balanced (balanced : reactor.Balanced) (fd : Int) (answers : ClientAnswers)
    (unowed : reactor.endsOwing (.client fd { input := true } answers) = false) :
    (reactor.step handle (.client fd { input := true } answers)).Balanced := by
  change (reactor.handleClient handle fd answers).Balanced
  apply handle_client_balanced handle balanced
  intro connection state found foundState idle
  simp only [endsOwing, found, foundState, idle, Bool.true_and, Bool.not_false, Bool.false_and,
    Bool.or_false] at unowed
  exact unowed

theorem write_balanced (balanced : reactor.Balanced) (fd : Int) (answers : ClientAnswers) :
    (reactor.step handle (.client fd { output := true } answers)).Balanced := by
  change (reactor.handleWrite fd answers.write).Balanced
  exact (handle_write_quiet reactor fd answers.write).balanced balanced

theorem read_hangup_balanced (balanced : reactor.Balanced) (fd : Int) (answers : ClientAnswers)
    (unowed : reactor.endsOwing (.client fd { readHangup := true } answers) = false) :
    (reactor.step handle (.client fd { readHangup := true } answers)).Balanced := by
  change (reactor.handleReadHangup fd).Balanced
  apply handle_read_hangup_invariant fd _ balanced
  intro connection found empty
  apply disconnect_balanced balanced empty
  intro state foundState
  have drained : connection.hasPendingOutput = false := by
    unfold Connection.hasPendingOutput
    rw [empty]
    rfl
  simp only [endsOwing, found, foundState, drained, Bool.true_and, Bool.not_false,
    Bool.false_and, Bool.false_or] at unowed
  exact unowed

theorem simple_balanced (reactor : Reactor) (input : Input) (simple : input.Simple)
    (balanced : reactor.Balanced) (unowed : reactor.endsOwing input = false) :
    (reactor.step handle input).Balanced := by
  cases simple with
  | error fd answers =>
      apply (remove_connection_quiet _ fd).balanced
      exact balanced
  | hangup fd answers => exact (remove_connection_quiet reactor fd).balanced balanced
  | input fd answers => exact read_balanced handle balanced fd answers unowed
  | output fd answers => exact write_balanced handle balanced fd answers
  | readHangup fd answers => exact read_hangup_balanced handle balanced fd answers unowed
  | accept answers =>
      apply handle_accept_invariant _ answers balanced
      intro reactor fd balanced
      exact accept_client_balanced balanced fd
  | timer expired =>
      apply handle_timer_invariant _ expired balanced
      intro reactor fd balanced
      exact (remove_connection_quiet reactor fd).balanced balanced
  | completions answers =>
      apply drain_completions_invariant _ _ answers balanced
      intro reactor answers balanced
      exact pop_completion_balanced balanced answers
  | worker job response => exact finish_job_balanced balanced job response

/-- A connection that the end of its stream removes has nothing in its queue and no
request without a response, as long as no stream ends while a response is owed. -/
theorem ended_streams_are_answered (id : Int) (inputs : List Input)
    (unowed : Throughout (step handle) (fun reactor input => reactor.endsOwing input = false)
      { id := id } (inputs.flatMap Input.split)) :
    ∀ ending ∈ (run (step handle) { id := id } inputs).shared.history.endings,
      ending.unsent = [] ∧ ending.unanswered = [] := by
  have start : Balanced { id := id } := ⟨Ledger.start 0, Arrears.start 0⟩
  have balanced := run_simple_invariant handle (simple_balanced handle) start inputs unowed
  exact balanced.2.clean

def helloRequest : Bytes := ascii "GET /hello HTTP/1.1\r\nHost: a\r\n\r\n"

def patientClient : List Input :=
  [.accept [.client 7 true true true],
    .client 7 { input := true }
      { recvs := [.received helloRequest], inline := { sends := [.sent 1000] } },
    .client 7 { input := true, readHangup := true } { recvs := [.received []] }]

theorem patient_client_is_answered :
    let history := (run (step fun _ _ => .completed {}) { id := 0 } patientClient).shared.history
    history.endings.length = 1 ∧
      ∀ ending ∈ history.endings, ending.unsent = [] ∧ ending.unanswered = [] :=
  ⟨by decide, ended_streams_are_answered (fun _ _ => .completed {}) 0 patientClient (by decide)⟩

def halfClosingClient (recvs : List RecvResult) : List Input :=
  [.accept [.client 7 true true true],
    .client 7 { input := true, readHangup := true } { recvs := recvs }]

/-- A response that is queued goes with the connection as soon as `recv` finds the end
of the stream, and a request with an outstanding job as soon as `EPOLLRDHUP` does. -/
theorem half_closing_client_is_not_answered :
    (¬ ∀ ending ∈ (run (step fun _ _ => .completed {}) { id := 0 }
        (halfClosingClient [.received helloRequest, .received []])).shared.history.endings,
      ending.unsent = [] ∧ ending.unanswered = []) ∧
    ¬ ∀ ending ∈ (run (step fun _ _ => .pending) { id := 0 }
        (halfClosingClient [.received helloRequest])).shared.history.endings,
      ending.unsent = [] ∧ ending.unanswered = [] := by
  decide

end Reactor

end Aorta.Server
