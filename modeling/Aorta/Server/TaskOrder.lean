import Aorta.Http.PublicDirectory
import Aorta.Server.Delivery
import Aorta.Server.TaskService

/-!
# The task service is linearizable

Each job is executed on Redis at one moment between the dispatch of its request and the
response to it, and at most once. So all answers can be explained by one order of the
operations on the map of tasks, and this order keeps the order of requests of which one was
answered before the other was dispatched.
-/

namespace Aorta.Server

open Aorta.Library.Ascii Aorta.Http Aorta.Library.Linearization Aorta.Library.Run Aorta.Net
  Aorta.Redis Aorta.Tasks

set_option autoImplicit false

namespace Session

variable (handle : Nat → HttpRequest → HandleResult) (openFile : Bytes → Option Int)

/-- Nothing was submitted or completed since. -/
structure Alongside (before session : Session) : Prop where
  fd : session.fd = before.fd
  generation : session.state.generation = before.state.generation
  jobs : session.shared.jobs = before.shared.jobs
  completions : session.shared.completions = before.shared.completions
  serial : before.shared.serial ≤ session.shared.serial

theorem Alongside.refl (session : Session) : Alongside session session :=
  ⟨rfl, rfl, rfl, rfl, Nat.le_refl _⟩

theorem Alongside.input {before session : Session} (alongside : Alongside before session)
    (connection : Connection) : Alongside before { session with connection := connection } :=
  ⟨alongside.fd, alongside.generation, alongside.jobs, alongside.completions, alongside.serial⟩

theorem Alongside.received {before session : Session} (alongside : Alongside before session) :
    Alongside before session.received :=
  ⟨alongside.fd, alongside.generation, alongside.jobs, alongside.completions, alongside.serial⟩

/-- How the loops are left: with one job for one request, or without. -/
inductive Asks (before : Session) :
    Option (Nat × HttpRequest) → Served × Session → Prop
  | submitted (serial : Nat) (request : HttpRequest) (closeAfterWrite : Bool) (after : Session)
      (handled : handle serial request = .pending) (fresh : before.shared.serial ≤ serial)
      (passed : serial < after.shared.serial)
      (jobs : after.shared.jobs = before.shared.jobs ++
        [⟨before.fd, before.state.generation, closeAfterWrite, serial⟩])
      (completions : after.shared.completions = before.shared.completions) :
      Asks before (some (serial, request)) (.pending, after)
  | served (outcome : Served × Session) (left : outcome.1 ≠ .pending)
      (alongside : Alongside before outcome.2) : Asks before none outcome

variable {handle} in
theorem answered_alongside (session : Session) {response : HttpResponse}
    (completed : handle session.shared.serial session.connection.getRequest =
      .completed response) :
    (session.dispatch handle openFile).1 ≠ .pending ∧
      Alongside session (session.dispatch handle openFile).2 := by
  have later := Nat.le_succ session.shared.serial
  have answers := answer_answers openFile session.dispatched session.shared.serial
    (if session.closes then session.connection.setCloseAfterWrite true else session.connection)
    (session.reply response)
  rw [dispatch_completed completed]
  generalize session.dispatched.answer openFile _ _ _ = outcome at answers ⊢
  cases answers with
  | refused after => exact ⟨failed_not_pending, rfl, rfl, rfl, rfl, later⟩
  | fileRefused after filled => exact ⟨failed_not_pending, rfl, rfl, rfl, rfl, later⟩
  | answered after input kept filled =>
      exact ⟨finish_not_pending _, rfl, rfl, rfl, rfl, later⟩

theorem asked_append (first second : List (Nat × HttpRequest)) :
    asked handle (first ++ second) = (asked handle first).or (asked handle second) :=
  List.find?_append

theorem dispatch_asks {before session : Session} (alongside : Alongside before session) :
    Asks handle before (asked handle [numbered session]) (session.dispatch handle openFile) := by
  unfold asked numbered
  rw [List.find?_singleton]
  cases handled : handle session.shared.serial session.connection.getRequest with
  | pending =>
      have left : dispatch handle openFile session =
          (.pending, refreshDeadline { session with
            connection := session.connection.consumeParsedBytes.resetParser
            state := { session.state with requestInFlight := true, redisPending := true }
            shared := ((session.shared.dispatch session.fd session.state.generation
              session.connection.getRequest).announce
              (session.connection.getRequest.hasHeaderToken (ascii "Connection") (ascii "close"))
              ⟨session.shared.serial, session.fd, session.state.generation⟩).submit
              ⟨session.fd, session.state.generation,
                session.connection.getRequest.hasHeaderToken (ascii "Connection")
                  (ascii "close"), session.shared.serial⟩ }
            requestTimeoutSeconds) := by
        unfold dispatch
        simp only [handled]
      rw [left]
      simp only [decide_true, if_true]
      refine .submitted _ _ (session.connection.getRequest.hasHeaderToken (ascii "Connection")
        (ascii "close")) _ handled alongside.serial (Nat.lt_succ_self _) ?_ alongside.completions
      rw [← alongside.jobs, ← alongside.fd, ← alongside.generation]
      rfl
  | completed response =>
      obtain ⟨left, kept⟩ := answered_alongside openFile session handled
      simp only [reduceCtorEq, decide_false, Bool.false_eq_true, if_false]
      exact .served _ left ⟨kept.fd.trans alongside.fd, kept.generation.trans alongside.generation,
        kept.jobs.trans alongside.jobs, kept.completions.trans alongside.completions,
        Nat.le_trans alongside.serial kept.serial⟩

variable {handle openFile} in
/-- Where the loop goes on, the request is answered. -/
theorem Asks.goes_on {before after : Session} {ask : Option (Nat × HttpRequest)}
    (asks : Asks handle before ask (.waiting, after)) : ask = none ∧ Alongside before after := by
  cases asks with
  | served outcome left alongside => exact ⟨rfl, alongside⟩

theorem serve_asks {before : Session} (fuel : Nat) {session : Session}
    (alongside : Alongside before session) :
    Asks handle before (asked handle ((session.dispatches handle openFile fuel).map numbered))
      (session.serve handle openFile fuel) := by
  refine @serve_rounds handle openFile (fun session others outcome => Alongside before session →
    Asks handle before (asked handle (others.map numbered)) outcome) ?_ ?_ ?_ ?_ ?_ fuel session
    alongside
  · intro session alongside
    exact .served _ waiting_not_pending alongside
  · intro session connection _ alongside
    exact .served _ waiting_not_pending (alongside.input _)
  · intro session result connection _ _ _ alongside
    exact .served _ failed_not_pending ⟨alongside.fd, alongside.generation, alongside.jobs,
      alongside.completions, alongside.serial⟩
  · intro session connection served after _ dispatched _ alongside
    rw [← dispatched]
    exact dispatch_asks handle openFile (alongside.input connection)
  · intro session connection after others outcome _ dispatched rest alongside
    have asks := dispatch_asks handle openFile (alongside.input connection)
    rw [dispatched] at asks
    obtain ⟨answered, on⟩ := asks.goes_on
    rw [List.map_cons, ← List.singleton_append, asked_append, answered, Option.none_or]
    exact rest on

theorem read_loop_asks {before : Session} (fuel : Nat) (recvs : List RecvResult)
    {session : Session} (alongside : Alongside before session) :
    Asks handle before
      (asked handle (session.readLoopInbound handle openFile fuel recvs).requests)
      (session.readLoop handle openFile fuel recvs) := by
  have unserved : ∀ (session next : Session) result outcome,
      result ≠ Connection.ReadResult.dataReceived → outcome.1 ≠ Served.pending →
      Alongside before outcome.2 →
      Asks handle before
        (asked handle (inboundOf handle openFile [⟨session, result, next⟩]).requests) outcome := by
    intro session next result outcome other left alongside
    rw [inbound_of_silent handle openFile session next other]
    exact .served _ left alongside
  have asks : ∀ (session : Session) connection outcome, Alongside before session →
      serveAll handle openFile (received { session with connection := connection }) = outcome →
      Asks handle before (asked handle (Read.inbound handle openFile
        ⟨session, .dataReceived, { session with connection := connection }⟩).requests) outcome := by
    intro session connection outcome alongside serves
    rw [← serves]
    exact serve_asks handle openFile (connection.receiveBuffer.length + 2)
      (alongside.input connection).received
  refine @read_loop_rounds handle openFile (fun session reads outcome =>
    Alongside before session →
    Asks handle before (asked handle (inboundOf handle openFile reads).requests) outcome)
    ?_ ?_ ?_ ?_ ?_ ?_ fuel recvs session alongside
  · intro session alongside
    exact .served _ waiting_not_pending alongside
  · intro session recvs connection rest _ alongside
    exact unserved session _ _ _ (by decide) failed_not_pending ⟨alongside.fd,
      alongside.generation, alongside.jobs, alongside.completions, alongside.serial⟩
  · intro session recvs result connection rest _ bad alongside
    exact unserved session _ _ _ (by rcases bad with rfl | rfl <;> decide) failed_not_pending
      ⟨alongside.fd, alongside.generation, alongside.jobs, alongside.completions,
        alongside.serial⟩
  · intro session recvs connection rest _ alongside
    exact unserved session _ _ _ (by decide) waiting_not_pending (alongside.input connection)
  · intro session recvs connection rest served after _ serves _ alongside
    rw [inbound_of_single]
    exact asks session connection _ alongside serves
  · intro session recvs connection rest after others outcome _ serves _ later alongside
    obtain ⟨answered, on⟩ := (asks session connection _ alongside serves).goes_on
    change Asks handle before (asked handle (_ ++ _)) outcome
    rw [asked_append, answered, Option.none_or]
    exact later on

end Session

namespace Reactor

/-- Nothing is submitted; completions may have been taken. -/
structure Still (before after : Reactor) : Prop where
  jobs : after.shared.jobs = before.shared.jobs
  completions : ∀ entry ∈ after.shared.completions, entry ∈ before.shared.completions
  serial : after.shared.serial = before.shared.serial

theorem Still.refl (reactor : Reactor) : Still reactor reactor :=
  ⟨rfl, fun _ member => member, rfl⟩

theorem Still.trans {before middle after : Reactor} (first : Still before middle)
    (second : Still middle after) : Still before after :=
  ⟨second.jobs.trans first.jobs,
    fun entry member => first.completions entry (second.completions entry member),
    second.serial.trans first.serial⟩

theorem Quiet.still {before after : Reactor} (quiet : Quiet before after) :
    Still before after := by
  refine ⟨quiet.jobs, ?_, quiet.serial⟩
  rw [quiet.completions]
  exact fun _ member => member

theorem disconnect_still (reactor : Reactor) (fd : Int) (connection : Connection) :
    Still reactor (reactor.disconnect fd connection) := by
  unfold disconnect
  cases reactor.connectionStates.lookup fd with
  | none => exact (remove_connection_quiet reactor fd).still
  | some state =>
      have removed := (remove_connection_quiet { reactor with
        shared := reactor.shared.endStream fd state.generation connection.outputQueue } fd).still
      exact ⟨removed.jobs, removed.completions, removed.serial⟩

theorem handle_read_hangup_still (reactor : Reactor) (fd : Int) :
    Still reactor (reactor.handleReadHangup fd) := by
  apply handle_read_hangup_invariant fd
  · intro connection _ _
    exact disconnect_still reactor fd connection
  · exact .refl reactor

theorem complete_still (reactor : Reactor) (callback : Callback) (response : HttpResponse)
    (answers : WriteAnswers) :
    Still reactor (reactor.completeAsyncResponse callback response answers) := by
  have completes := reactor.complete_async_response_completes callback response answers
  generalize reactor.completeAsyncResponse callback response answers = after at completes ⊢
  cases completes with
  | dropped => exact .refl reactor
  | refused connection state after found foundState current pending =>
      have removed := (remove_connection_quiet (reactor.put ⟨callback.fd, after, state.completed,
        reactor.shared.incrementErrors⟩) callback.fd).still
      exact ⟨removed.jobs, removed.completions, removed.serial⟩
  | queued connection state after found foundState current pending input waiting =>
      have written := (handle_write_quiet (reactor.put ⟨callback.fd, after,
        state.answered reactor.shared.clock, reactor.shared.respond callback.serial callback.fd
          state.generation⟩) callback.fd answers).still
      exact ⟨written.jobs, written.completions, written.serial⟩

theorem pop_completion_still (reactor : Reactor) (answers : WriteAnswers) :
    Still reactor (reactor.popCompletion answers) := by
  unfold popCompletion
  cases waiting : reactor.shared.completions with
  | nil => exact .refl reactor
  | cons completion completions =>
      obtain ⟨callback, response⟩ := completion
      have completed := complete_still { reactor with
        shared := { reactor.shared with completions := completions } } callback response answers
      refine ⟨completed.jobs, ?_, completed.serial⟩
      intro entry member
      rw [waiting]
      exact List.mem_cons_of_mem _ (completed.completions entry member)

/-- What a reactor submits, it submits under a number of its own. -/
structure Submits (before after : Reactor) (asked : Option (Nat × Operation)) : Prop where
  jobs : ∃ callbacks : List Callback, after.shared.jobs = before.shared.jobs ++ callbacks ∧
    callbacks.map Callback.serial = asked.toList.map Prod.fst
  completions : ∀ entry ∈ after.shared.completions, entry ∈ before.shared.completions
  serial : before.shared.serial ≤ after.shared.serial
  fresh : ∀ serial operation, asked = some (serial, operation) →
    before.shared.serial ≤ serial ∧ serial < after.shared.serial

theorem Still.submits {before after : Reactor} (still : Still before after) :
    Submits before after none := by
  refine ⟨⟨[], ?_, rfl⟩, still.completions, still.serial.ge, ?_⟩
  · rw [still.jobs, List.append_nil]
  · intro serial operation same
    cases same

theorem Submits.still {before middle after : Reactor} {asked : Option (Nat × Operation)}
    (submits : Submits before middle asked) (still : Still middle after) :
    Submits before after asked := by
  obtain ⟨callbacks, jobs, serials⟩ := submits.jobs
  refine ⟨⟨callbacks, still.jobs.trans jobs, serials⟩, ?_, ?_, ?_⟩
  · intro entry member
    exact submits.completions entry (still.completions entry member)
  · rw [still.serial]
    exact submits.serial
  · intro serial operation same
    rw [still.serial]
    exact submits.fresh serial operation same

theorem asks_submits {handlers : Nat → HttpHandler} {reactor : Reactor} {fd : Int}
    {connection : Connection} {state : ConnectionState} {asked : Option (Nat × HttpRequest)}
    {outcome : Served × Session}
    (asks : Session.Asks (Session.answering handlers) ⟨fd, connection, state, reactor.shared⟩ asked
      outcome) :
    Submits reactor (reactor.put outcome.2) (asked.bind (operationOf handlers)) := by
  cases asks with
  | submitted serial request closeAfterWrite after handled fresh passed jobs completions =>
      have operation : ∃ operation, operationOf handlers (serial, request) =
          some (serial, operation) := by
        unfold Session.answering at handled
        unfold operationOf
        dsimp only
        cases answer : (handlers serial).handle request {} with
        | completed response =>
            rw [answer] at handled
            cases handled
        | pending operation => exact ⟨operation, rfl⟩
      obtain ⟨operation, same⟩ := operation
      rw [Option.bind_some, same]
      refine ⟨⟨_, jobs, rfl⟩, ?_, Nat.le_trans fresh (Nat.le_of_lt passed), ?_⟩
      · intro entry member
        change entry ∈ after.shared.completions at member
        rw [completions] at member
        exact member
      · intro other otherOperation equal
        cases equal
        exact ⟨fresh, passed⟩
  | served outcome left alongside =>
      refine ⟨⟨[], ?_, rfl⟩, ?_, alongside.serial, ?_⟩
      · rw [List.append_nil]
        exact alongside.jobs
      · intro entry member
        change entry ∈ outcome.2.shared.completions at member
        rw [alongside.completions] at member
        exact member
      · intro serial operation same
        cases same

theorem handle_client_submits (handlers : Nat → HttpHandler) (reactor : Reactor) (fd : Int)
    (answers : ClientAnswers) :
    Submits reactor (reactor.handleClient (Session.answering handlers) fd answers)
      (reactor.clientSubmits handlers fd answers) := by
  unfold clientSubmits clientInbound handleClient
  cases found : reactor.connections.lookup fd with
  | none => exact (Still.refl reactor).submits
  | some connection =>
      cases foundState : reactor.connectionStates.lookup fd with
      | none => exact (remove_connection_quiet reactor fd).still.submits
      | some state =>
          simp only
          by_cases pending : state.redisPending
          · rw [if_pos pending, if_pos pending]
            exact (Still.refl reactor).submits
          · rw [if_neg pending, if_neg pending]
            have asks := Session.read_loop_asks (Session.answering handlers)
              answers.openFile (answers.recvs.length + 1) answers.recvs
              (Session.Alongside.refl ⟨fd, connection, state, reactor.shared⟩)
            have submits := asks_submits asks
            cases loops : Session.readLoop (Session.answering handlers) answers.openFile
                (answers.recvs.length + 1) answers.recvs
                ⟨fd, connection, state, reactor.shared⟩ with
            | mk served session =>
                rw [loops] at submits
                have written : Submits reactor
                    (if session.connection.hasPendingOutput then
                      (reactor.put session).handleWrite fd answers.inline
                    else reactor.put session)
                    ((asked (Session.answering handlers)
                      (Session.readLoopInbound (Session.answering handlers) answers.openFile
                        (answers.recvs.length + 1) answers.recvs
                        ⟨fd, connection, state, reactor.shared⟩).requests).bind
                          (operationOf handlers)) := by
                  split_ifs
                  · exact submits.still (handle_write_quiet _ fd _).still
                  · exact submits
                cases served with
                | failed => exact submits.still (remove_connection_quiet _ fd).still
                | pending => exact submits.still (update_events_quiet _ fd _ _).still
                | waiting => exact written
                | closing => exact written

theorem handle_client_event_submits (handlers : Nat → HttpHandler) (reactor : Reactor) (fd : Int)
    (events : EventMask) (answers : ClientAnswers) :
    Submits reactor (reactor.handleClientEvent (Session.answering handlers) fd events answers)
      (reactor.submits handlers (.client fd events answers)) := by
  unfold handleClientEvent submits
  by_cases error : events.error
  · simp only [if_pos error]
    have removed := (remove_connection_quiet
      { reactor with shared := reactor.shared.incrementErrors } fd).still
    exact Still.submits ⟨removed.jobs, removed.completions, removed.serial⟩
  simp only [if_neg error]
  by_cases hangup : events.hangup
  · simp only [if_pos hangup]
    exact (remove_connection_quiet reactor fd).still.submits
  simp only [if_neg hangup]
  have read : Submits reactor
      (if events.input then reactor.handleClient (Session.answering handlers) fd answers
        else reactor)
      (if events.input then reactor.clientSubmits handlers fd answers else none) := by
    split_ifs
    · exact handle_client_submits handlers reactor fd answers
    · exact (Still.refl reactor).submits
  generalize (if events.input then reactor.handleClient (Session.answering handlers) fd answers
    else reactor) = afterRead at read ⊢
  have wrote : Still afterRead
      (if events.output then afterRead.handleWrite fd answers.write else afterRead) := by
    split_ifs
    · exact (handle_write_quiet afterRead fd answers.write).still
    · exact .refl afterRead
  generalize (if events.output then afterRead.handleWrite fd answers.write
    else afterRead) = afterWrite at wrote ⊢
  have written := read.still wrote
  by_cases ends : events.readHangup
  · simp only [if_pos ends]
    exact written.still (handle_read_hangup_still afterWrite fd)
  · simp only [if_neg ends]
    exact written

theorem step_submits (handlers : Nat → HttpHandler) (reactor : Reactor) (input : Input)
    (own : ∀ job response, input ≠ .worker job response) :
    Submits reactor (reactor.step (Session.answering handlers) input)
      (reactor.submits handlers input) := by
  cases input with
  | accept answers =>
      apply Still.submits
      apply handle_accept_invariant
      · intro middle fd still
        exact still.trans ⟨rfl, fun _ member => member, rfl⟩
      · exact .refl reactor
  | timer expired =>
      apply Still.submits
      apply handle_timer_invariant
      · intro middle fd still
        exact still.trans (remove_connection_quiet middle fd).still
      · exact .refl reactor
  | completions answers =>
      apply Still.submits
      apply drain_completions_invariant
      · intro middle answers still
        exact still.trans (pop_completion_still middle answers)
      · exact .refl reactor
  | client fd events answers => exact handle_client_event_submits handlers reactor fd events answers
  | worker job response => exact absurd rfl (own job response)

end Reactor

end Aorta.Server

namespace Aorta.Server.TaskService

open Aorta.Http Aorta.Library.Ascii Aorta.Library.Linearization Aorta.Library.Run Aorta.Redis
  Aorta.Tasks

set_option autoImplicit false

variable {State : Type} (server : RedisServer State) (service : TaskService State)

def entries : List (Operation × Outcome) :=
  service.log.map fun execution => (execution.call, execution.result)

/-- A job of a reactor stands for an operation that was asked for, and a completion for an
answer. -/
def Accounts (history : List (Event Ticket Operation Outcome)) (index : Nat)
    (reactor : Reactor) : Prop :=
  (∀ callback ∈ reactor.shared.jobs, ∃ operation,
    Event.asked ⟨index, callback.serial⟩ operation ∈ history) ∧
  ∀ completion ∈ reactor.shared.completions, ∃ outcome,
    Event.answered ⟨index, completion.1.serial⟩ outcome ∈ history ∧
      HttpHandler.respond outcome = some completion.2

structure Sound : Prop where
  recorded : Recorded service.history service.log
  explained : ∃ store, Store.Explains service.entries service.abandoned store ∧
    Represents (server.keys service.redis) store
  numbered : ∀ ticket operation, Event.asked ticket operation ∈ service.history →
    ∃ reactor, service.reactors[ticket.reactor]? = some reactor ∧
      ticket.serial < reactor.shared.serial
  finished : ∀ entry ∈ service.finished, ∃ operation,
    (⟨entry.1, operation, entry.2⟩ : Execution Ticket Operation Outcome) ∈ service.log
  logged : ∀ execution ∈ service.log, execution.ticket ∈ service.finished.map Prod.fst
  accounts : ∀ index reactor, service.reactors[index]? = some reactor →
    Accounts service.history index reactor

section Sound

variable {server service}

theorem create_sound (reactorCount : Nat) {start : State}
    (empty : ∀ key, server.keys start key = none) :
    Sound server (create reactorCount start) := by
  refine ⟨.nil, ⟨{}, .nil, ?_⟩, ?_, ?_, ?_, ?_⟩
  · change Represents (server.keys start) {}
    rw [funext empty]
    exact empty_represents
  · intro ticket operation member
    cases member
  · intro entry member
    cases member
  · intro execution member
    cases member
  · intro index reactor found
    simp only [create, List.getElem?_map, Option.map_eq_some_iff] at found
    obtain ⟨number, -, same⟩ := found
    rw [← same]
    constructor
    · intro callback member
      cases member
    · intro completion member
      cases member

theorem Accounts.later {history later : List (Event Ticket Operation Outcome)} {index : Nat}
    {reactor : Reactor} (accounts : Accounts history index reactor) :
    Accounts (history ++ later) index reactor := by
  constructor
  · intro callback member
    obtain ⟨operation, asked⟩ := accounts.1 callback member
    exact ⟨operation, List.mem_append_left _ asked⟩
  · intro completion member
    obtain ⟨outcome, answered, responds⟩ := accounts.2 completion member
    exact ⟨outcome, List.mem_append_left _ answered, responds⟩

theorem Sound.set_accounts (sound : Sound server service) {index : Nat} {after : Reactor}
    (later : List (Event Ticket Operation Outcome))
    (own : Accounts (service.history ++ later) index after) :
    ∀ other reactor, (service.reactors.set index after)[other]? = some reactor →
      Accounts (service.history ++ later) other reactor := by
  intro other reactor found
  rw [List.getElem?_set] at found
  split_ifs at found with same
  · cases found
    rw [← same]
    exact own
  · exact (sound.accounts other reactor found).later

theorem Sound.set_numbered (sound : Sound server service) {index : Nat} {before after : Reactor}
    (here : service.reactors[index]? = some before)
    (serial : before.shared.serial ≤ after.shared.serial) :
    ∀ ticket operation, Event.asked ticket operation ∈ service.history →
      ∃ reactor, (service.reactors.set index after)[ticket.reactor]? = some reactor ∧
        ticket.serial < reactor.shared.serial := by
  intro ticket operation asked
  obtain ⟨reactor, found, below⟩ := sound.numbered ticket operation asked
  rw [List.getElem?_set]
  by_cases same : index = ticket.reactor
  · have inside : ticket.reactor < service.reactors.length :=
      (List.getElem?_eq_some_iff.mp found).1
    rw [if_pos same, if_pos (same ▸ inside)]
    rw [← same, here] at found
    cases found
    exact ⟨after, rfl, Nat.lt_of_lt_of_le below serial⟩
  · rw [if_neg same]
    exact ⟨reactor, found, below⟩

theorem Sound.reacted (sound : Sound server service) {index : Nat} {before after : Reactor}
    {asked : Option (Nat × Operation)} (here : service.reactors[index]? = some before)
    (submits : Reactor.Submits before after asked) :
    Sound server { service with
      reactors := service.reactors.set index after
      history := service.history ++
        (asked.map fun submitted => Event.asked ⟨index, submitted.1⟩ submitted.2).toList } := by
  have own := sound.accounts index before here
  have numbered := sound.set_numbered here submits.serial
  have inside : index < service.reactors.length := (List.getElem?_eq_some_iff.mp here).1
  have added : ∀ serial operation, asked = some (serial, operation) →
      Event.asked ⟨index, serial⟩ operation ∈ service.history ++
        (asked.map fun submitted => Event.asked (Ticket.mk index submitted.1) submitted.2 :
          Option (Event Ticket Operation Outcome)).toList := by
    intro serial operation same
    rw [same]
    exact List.mem_append_right _ List.mem_cons_self
  refine ⟨?_, sound.explained, ?_, sound.finished, sound.logged, ?_⟩
  · cases asked with
    | none =>
        dsimp only [Option.map_none, Option.toList_none]
        rw [List.append_nil]
        exact sound.recorded
    | some submitted =>
        obtain ⟨serial, operation⟩ := submitted
        apply sound.recorded.asked
        intro other earlier
        obtain ⟨reactor, found, below⟩ := sound.numbered _ _ earlier
        rw [here] at found
        cases found
        have fresh := (submits.fresh serial operation rfl).1
        exact absurd below (Nat.not_lt_of_le fresh)
  · intro ticket operation member
    rcases List.mem_append.mp member with earlier | new
    · exact numbered ticket operation earlier
    · cases asked with
      | none => cases new
      | some submitted =>
          obtain ⟨serial, submittedOperation⟩ := submitted
          cases List.mem_singleton.mp new
          exact ⟨after, List.getElem?_set_self inside, (submits.fresh serial _ rfl).2⟩
  · apply sound.set_accounts
    constructor
    · intro callback member
      obtain ⟨callbacks, jobs, serials⟩ := submits.jobs
      rw [jobs] at member
      rcases List.mem_append.mp member with earlier | new
      · obtain ⟨operation, known⟩ := own.1 callback earlier
        exact ⟨operation, List.mem_append_left _ known⟩
      · have serial := List.mem_map_of_mem (f := Callback.serial) new
        rw [serials] at serial
        cases asked with
        | none => cases serial
        | some submitted =>
            rw [List.mem_singleton.mp serial]
            exact ⟨submitted.2, added submitted.1 submitted.2 rfl⟩
    · intro completion member
      obtain ⟨outcome, answered, responds⟩ := own.2 completion (submits.completions _ member)
      exact ⟨outcome, List.mem_append_left _ answered, responds⟩

theorem react_sound (handlers : Nat → Nat → HttpHandler) (sound : Sound server service)
    (index : Nat) (input : Reactor.Input) : Sound server (service.react handlers index input) := by
  unfold react
  cases here : service.reactors[index]? with
  | none => exact sound
  | some reactor =>
      have reacted : ∀ own : ∀ job response, input ≠ .worker job response, Sound server
          { service with
            reactors := service.reactors.set index
              (reactor.step (Session.answering (handlers index)) input)
            history := service.history ++ ((reactor.submits (handlers index) input).map
              fun submitted => Event.asked ⟨index, submitted.1⟩ submitted.2).toList } :=
        fun own => sound.reacted here (Reactor.step_submits (handlers index) reactor input own)
      cases input with
      | worker job response => exact sound
      | accept answers =>
          apply reacted
          intro job response same
          cases same
      | timer expired =>
          apply reacted
          intro job response same
          cases same
      | completions answers =>
          apply reacted
          intro job response same
          cases same
      | client fd events answers =>
          apply reacted
          intro job response same
          cases same

theorem asked_for_mem {history : List (Event Ticket Operation Outcome)} {ticket : Ticket}
    {operation : Operation} (asked : askedFor history ticket = some operation) :
    Event.asked ticket operation ∈ history := by
  unfold askedFor at asked
  obtain ⟨event, member, found⟩ := List.exists_of_findSome?_eq_some asked
  cases event with
  | answered other outcome => cases found
  | asked other otherOperation =>
      dsimp only at found
      split_ifs at found with same
      cases found
      rw [← same]
      exact member

theorem Sound.executed (sound : Sound server service) {ticket : Ticket} {operation : Operation}
    (asked : Event.asked ticket operation ∈ service.history)
    (once : ticket ∉ service.finished.map Prod.fst) (reached : Bool) {outcome : Outcome}
    {redis : State}
    (performed : perform server reached service.redis operation = (outcome, redis)) :
    Sound server { service with
      redis := redis
      finished := service.finished ++ [(ticket, outcome)]
      abandoned := if reached then service.abandoned else service.abandoned ++ [operation]
      log := service.log ++ [⟨ticket, operation, outcome⟩] } := by
  obtain ⟨store, explains, represents⟩ := sound.explained
  obtain ⟨given, after, next, given_performed, still, performs⟩ :=
    perform_performs server represents reached operation
  rw [performed] at given_performed
  cases given_performed
  have entries : (service.log ++ [(⟨ticket, operation, outcome⟩ :
      Execution Ticket Operation Outcome)]).map (fun execution =>
        (execution.call, execution.result)) = service.entries ++ [(operation, outcome)] :=
    List.map_append
  refine ⟨?_, ⟨next, ?_, still⟩, sound.numbered, ?_, ?_, sound.accounts⟩
  · apply sound.recorded.executed ticket operation outcome asked
    intro executed
    obtain ⟨execution, member, same⟩ := List.mem_map.mp executed
    rw [← same] at once
    exact once (sound.logged execution member)
  · unfold TaskService.entries
    rw [entries]
    cases reached with
    | true => exact .executed explains operation outcome performs
    | false => exact .failed explains operation outcome performs
  · intro entry member
    rcases List.mem_append.mp member with earlier | new
    · obtain ⟨done, listed⟩ := sound.finished entry earlier
      exact ⟨done, List.mem_append_left _ listed⟩
    · rw [List.mem_singleton.mp new]
      exact ⟨operation, List.mem_append_right _ List.mem_cons_self⟩
  · intro execution member
    rw [List.map_append]
    rcases List.mem_append.mp member with earlier | new
    · exact List.mem_append_left _ (sound.logged execution earlier)
    · rw [List.mem_singleton.mp new]
      exact List.mem_append_right _ List.mem_cons_self

theorem execute_sound (sound : Sound server service) (index job : Nat) (reached : Bool) :
    Sound server (service.execute server index job reached) := by
  unfold execute
  cases service.outstanding index job with
  | none => exact sound
  | some callback =>
      dsimp only
      by_cases once : (⟨index, callback.serial⟩ : Ticket) ∈ service.finished.map Prod.fst
      · rw [if_pos once]
        exact sound
      · rw [if_neg once]
        cases asked : askedFor service.history ⟨index, callback.serial⟩ with
        | none => exact sound
        | some operation =>
            cases performed : perform server reached service.redis operation with
            | mk outcome redis =>
                have executed := sound.executed (asked_for_mem asked) once reached performed
                simp only [performed]
                exact executed

theorem execute_late_sound (sound : Sound server service) (index : Nat) :
    Sound server (service.executeLate server index) := by
  unfold executeLate
  cases found : service.abandoned[index]? with
  | none => exact sound
  | some operation =>
      obtain ⟨store, explains, represents⟩ := sound.explained
      obtain ⟨outcome, after, next, performed, still, performs⟩ :=
        perform_performs server represents true operation
      refine ⟨sound.recorded, ⟨next, .late explains index operation found outcome performs, ?_⟩,
        sound.numbered, sound.finished, sound.logged, sound.accounts⟩
      dsimp only
      rw [performed]
      exact still

theorem finish_job_accounts {history : List (Event Ticket Operation Outcome)} {index : Nat}
    {reactor : Reactor} (accounts : Accounts history index reactor) (job : Nat)
    (response : Option HttpResponse)
    (responds : ∀ callback given, reactor.shared.jobs[job]? = some callback →
      response = some given → ∃ outcome,
        Event.answered ⟨index, callback.serial⟩ outcome ∈ history ∧
          HttpHandler.respond outcome = some given) :
    Accounts history index (reactor.finishJob job response) := by
  unfold Reactor.finishJob
  cases found : reactor.shared.jobs[job]? with
  | none => exact accounts
  | some callback =>
      constructor
      · intro other member
        exact accounts.1 other (List.mem_of_mem_eraseIdx member)
      · intro completion member
        rcases List.mem_append.mp member with earlier | new
        · exact accounts.2 completion earlier
        · cases response with
          | none => cases new
          | some given =>
              rw [List.mem_singleton.mp new]
              exact responds callback given found rfl

theorem finish_job_serial (reactor : Reactor) (job : Nat) (response : Option HttpResponse) :
    (reactor.finishJob job response).shared.serial = reactor.shared.serial := by
  unfold Reactor.finishJob
  cases reactor.shared.jobs[job]? with
  | none => rfl
  | some callback => rfl

theorem throw_sound (sound : Sound server service) (index job : Nat) :
    Sound server (service.throw index job) := by
  unfold throw
  cases here : service.reactors[index]? with
  | none => exact sound
  | some reactor =>
      refine ⟨sound.recorded, sound.explained,
        sound.set_numbered here (finish_job_serial reactor job none).ge, sound.finished,
        sound.logged, ?_⟩
      have own : Accounts (service.history ++ []) index (reactor.finishJob job none) := by
        rw [List.append_nil]
        apply finish_job_accounts (sound.accounts index reactor here)
        intro callback given _ same
        cases same
      have all := sound.set_accounts [] own
      rw [List.append_nil] at all
      exact all

theorem publish_sound (sound : Sound server service) (index job : Nat) :
    Sound server (service.publish index job) := by
  unfold publish outstanding
  cases here : service.reactors[index]? with
  | none => exact sound
  | some reactor =>
      dsimp only [Option.bind_some]
      cases listed : reactor.shared.jobs[job]? with
      | none => exact sound
      | some callback =>
          dsimp only
          cases found : service.finished.find? fun entry => entry.1 = ⟨index, callback.serial⟩ with
          | none => exact sound
          | some entry =>
              obtain ⟨ticket, outcome⟩ := entry
              have same : ticket = ⟨index, callback.serial⟩ := by
                have is_found := List.find?_some found
                exact of_decide_eq_true is_found
              subst same
              obtain ⟨operation, done⟩ := sound.finished _ (List.mem_of_find?_eq_some found)
              have answered : Event.answered ⟨index, callback.serial⟩ outcome ∈
                  service.history ++ [Event.answered (Ticket.mk index callback.serial) outcome] :=
                List.mem_append_right _ List.mem_cons_self
              refine ⟨sound.recorded.answered _ done, sound.explained, ?_, sound.finished,
                sound.logged, ?_⟩
              · intro ticket other member
                rcases List.mem_append.mp member with earlier | new
                · exact sound.set_numbered here (finish_job_serial reactor job _).ge ticket other
                    earlier
                · cases List.mem_singleton.mp new
              · apply sound.set_accounts
                apply finish_job_accounts (sound.accounts index reactor here).later
                intro other given at_job responds
                rw [listed] at at_job
                cases at_job
                exact ⟨outcome, answered, responds⟩

theorem step_sound (handlers : Nat → Nat → HttpHandler) (next : Step)
    (sound : Sound server service) : Sound server (service.step server handlers next) := by
  cases next with
  | react index input => exact react_sound handlers sound index input
  | execute index job reached => exact execute_sound sound index job reached
  | executeLate index => exact execute_late_sound sound index
  | publish index job => exact publish_sound sound index job
  | throw index job => exact throw_sound sound index job

end Sound

/-- Whatever the order of the threads and whatever calls fail, the operations on tasks are
linearizable, and every response is made of the outcome of its own request's operation. -/
theorem task_service_is_linearizable (handlers : Nat → Nat → HttpHandler) (reactorCount : Nat)
    (start : State) (empty : ∀ key, server.keys start key = none) (steps : List Step) :
    let service := run (step server handlers) (create reactorCount start) steps
    Linearizes (fun entries => ∃ store, Store.Explains entries service.abandoned store ∧
        Represents (server.keys service.redis) store) service.history service.log ∧
      ∀ index reactor, service.reactors[index]? = some reactor →
        (∀ callback ∈ reactor.shared.jobs, ∃ operation,
          Event.asked ⟨index, callback.serial⟩ operation ∈ service.history) ∧
        ∀ completion ∈ reactor.shared.completions, ∃ outcome,
          Event.answered ⟨index, completion.1.serial⟩ outcome ∈ service.history ∧
            HttpHandler.respond outcome = some completion.2 := by
  intro service
  have sound : Sound server service :=
    run_invariant (step server handlers) (fun _ next sound => step_sound handlers next sound)
      (create_sound reactorCount empty) steps
  exact ⟨sound.recorded.linearizes sound.explained, sound.accounts⟩

def taskHandlers (_ _ : Nat) : HttpHandler :=
  HttpHandler.create (fun _ => none) (some fun _ => true) []

/-- One client creates a task while another lists them; the list is answered first. -/
def postAndList : List Step :=
  [.react 0 (.accept [.client 5 true true true, .client 6 true true true]),
    .react 0 (.client 5 { input := true } { recvs := [.received (ascii
      "POST /tasks HTTP/1.1\r\nHost: a\r\nContent-Length: 10\r\n\r\ntitle=milk"), .wouldBlock] }),
    .react 0 (.client 6 { input := true } { recvs := [.received (ascii
      "GET /tasks HTTP/1.1\r\nHost: a\r\n\r\n"), .wouldBlock] }),
    .execute 0 0 true, .execute 0 1 true, .publish 0 1, .publish 0 0]

theorem posted_task_is_listed :
    let server := MemoryServer.memoryServer
    let service := run (step server taskHandlers) (create 1 fun _ => none) postAndList
    service.log = [⟨⟨0, 0⟩, .create (ascii "milk"), .created true ⟨1, ascii "milk", false⟩⟩,
      ⟨⟨0, 1⟩, .getAll, .listed true [⟨1, ascii "milk", false⟩]⟩] ∧
    Linearizes (fun entries => ∃ store, Store.Explains entries service.abandoned store ∧
      Represents (server.keys service.redis) store) service.history service.log := by
  intro server service
  have linearizable := task_service_is_linearizable server taskHandlers 1 (fun _ => none)
    (fun _ => rfl) postAndList
  exact ⟨by decide, linearizable.1⟩

end Aorta.Server.TaskService
