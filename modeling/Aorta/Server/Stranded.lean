import Aorta.Http.HttpGrammar
import Aorta.Net.Fragmentation
import Aorta.Server.Delivery

/-!
# Complete requests in receive buffers

Between two events no connection that could serve a request holds one: the loops
of `handleClient` only stop at a parser that asks for more. The exception is the
completion of a job. While the job was outstanding the loops were left with
requests still in the buffer, and `completeAsyncResponse` clears `redis_pending`
without running the parser again.
-/

namespace Aorta.Net.Connection

open Aorta.Library.Resume Aorta.Http Aorta.Http.HttpParser

set_option autoImplicit false

/-- The parser answers `Complete` on the receive buffer. -/
def holdsRequest (connection : Connection) : Bool := connection.parseRequest.1 = .complete

theorem holds_request_same_input {left right : Connection} (same : left.SameInput right) :
    left.holdsRequest = right.holdsRequest := by
  unfold holdsRequest parseRequest
  rw [same.1, same.2.1]

theorem hungry_holds_no_request {connection after : Connection}
    (rewound : connection.parser.cursor = 0)
    (hungry : connection.parseRequest = (.needMoreData, after)) :
    after.consumeParsedBytes.holdsRequest = false := by
  have parsed := parse_at_start connection.parser rewound connection.receiveBuffer
  have resumed := reader.run_resumes connection.parser connection.receiveBuffer []
  rw [List.append_nil, List.append_nil] at resumed
  unfold parseRequest at hungry
  rw [parsed] at hungry
  obtain ⟨answer, rfl⟩ := Prod.mk.inj hungry
  have again := (resumed answer).answer_eq
  rw [answer, Reading.delay_answer] at again
  generalize reader.run connection.parser connection.receiveBuffer = reading at again
  have rewinds : (consumeParsedBytes { connection with
      parser := reading.state.setCursor reading.used }).parser = reading.state.setCursor 0 := by
    rw [consume_parsed_bytes_rewinds]
    rfl
  unfold holdsRequest parseRequest
  rw [rewinds, parse_at_start _ rfl, run_set_cursor, consume_parsed_bytes_buffer,
    set_cursor_cursor, ← again]
  rfl

/-- A complete request has at least one byte. -/
theorem fresh_complete_takes {connection after : Connection} (fresh : connection.parser = {})
    (complete : connection.parseRequest = (.complete, after)) :
    (after.receiveBuffer.drop after.parser.cursor).length <
      connection.receiveBuffer.length := by
  unfold parseRequest at complete
  rw [fresh] at complete
  cases parsed : ({} : HttpParser).parse connection.receiveBuffer with
  | mk result final =>
      rw [parsed] at complete
      obtain ⟨rfl, rfl⟩ := Prod.mk.inj complete
      obtain ⟨message, tail, -, buffer, -, consumed⟩ := message_of_complete parsed
      have positive := message.encode_positive
      unfold HttpParser.getConsumedBytes at consumed
      simp only [consumed, List.length_drop]
      rw [buffer, List.length_append]
      omega

end Aorta.Net.Connection

namespace Aorta.Server

open Aorta.Library.Ascii Aorta.Library.Run Aorta.Http Aorta.Net
open Aorta.Http.HttpParser (ParseResult)

set_option autoImplicit false

/-- Nothing is left to serve: the parser is rewound, and a request is only held
while a job is outstanding or the connection is about to close. -/
structure Settled (connection : Connection) (state : ConnectionState) : Prop where
  rewound : connection.parser.cursor = 0
  served : state.redisPending = false → connection.closeAfterWrite = false →
    connection.holdsRequest = false

namespace Settled

theorem same_input {connection after : Connection} {state : ConnectionState}
    (settled : Settled connection state) (same : after.SameInput connection) :
    Settled after state := by
  constructor
  · rw [same.1]
    exact settled.rewound
  · rw [same.2.2, Connection.holds_request_same_input same]
    exact settled.served

end Settled

namespace Session

variable (handle : Nat → HttpRequest → HandleResult) (openFile : Bytes → Option Int)

/-- A session is left settled, or its connection is going to be removed. -/
def LeftSettled (fd : Int) (outcome : Served × Session) : Prop :=
  outcome.2.fd = fd ∧ (outcome.1 ≠ .failed → Settled outcome.2.connection outcome.2.state)

/-- What a request leaves behind: the bytes behind it and a fresh parser. -/
structure Took (fd : Int) (connection : Connection) (outcome : Served × Session) : Prop where
  sameFd : outcome.2.fd = fd
  fresh : outcome.1 ≠ .failed → outcome.2.connection.parser = {}
  buffer : outcome.1 ≠ .failed → outcome.2.connection.receiveBuffer =
    connection.receiveBuffer.drop connection.parser.cursor
  pending : outcome.1 = .pending → outcome.2.state.redisPending = true
  closing : outcome.1 = .closing → outcome.2.connection.closeAfterWrite = true

theorem finish_took (session : Session) : Took session.fd session.connection session.finish where
  sameFd := rfl
  fresh := fun _ => rfl
  buffer := fun _ => session.connection.consume_parsed_bytes_buffer
  pending := by
    unfold finish
    simp only
    split_ifs <;> simp
  closing := by
    unfold finish
    simp only
    split_ifs with closes
    · exact fun _ => closes
    · simp

theorem fail_took {fd : Int} (connection : Connection) (session : Session)
    (same : session.fd = fd) : Took fd connection session.fail where
  sameFd := same
  fresh := fun goesOn => absurd rfl goesOn
  buffer := fun goesOn => absurd rfl goesOn
  pending := by simp [fail]
  closing := by simp [fail]

theorem dispatch_took (session : Session) :
    Took session.fd session.connection (session.dispatch handle openFile) := by
  have dispatches := dispatch_dispatches openFile handle session
  generalize session.dispatch handle openFile = outcome at dispatches ⊢
  cases dispatches with
  | pending closeAfterWrite =>
      refine ⟨rfl, fun _ => rfl, fun _ => ?_, fun _ => rfl, by simp⟩
      exact session.connection.consume_parsed_bytes_buffer
  | refused after => exact fail_took session.connection _ rfl
  | fileRefused after => exact fail_took session.connection _ rfl
  | answered after parser buffer =>
      have took := finish_took (session.responded after)
      refine ⟨took.sameFd, took.fresh, ?_, took.pending, took.closing⟩
      intro goesOn
      rw [took.buffer goesOn]
      change after.receiveBuffer.drop after.parser.cursor = _
      rw [parser, buffer]

theorem fail_left (session : Session) : LeftSettled session.fd session.fail :=
  ⟨rfl, fun goesOn => absurd rfl goesOn⟩

/-- The request behind a pending one or before a closing one may stay. -/
theorem Took.left {fd : Int} {connection : Connection} {outcome : Served × Session}
    (took : Took fd connection outcome) (stops : outcome.1 ≠ .waiting) :
    LeftSettled fd outcome := by
  refine ⟨took.sameFd, fun goesOn => ⟨?_, ?_⟩⟩
  · rw [took.fresh goesOn]
  · intro idle open'
    cases served : outcome.1 with
    | waiting => exact absurd served stops
    | failed => exact absurd served goesOn
    | pending =>
        rw [took.pending served] at idle
        cases idle
    | closing =>
        rw [took.closing served] at open'
        cases open'

theorem serve_succ_left (fuel : Nat) (session : Session)
    (rewound : session.connection.parser.cursor = 0)
    (goesOn : ∀ connection after,
      session.connection.parseRequest = (.complete, connection) →
      dispatch handle openFile { session with connection := connection } = (.waiting, after) →
      LeftSettled session.fd (after.serve handle openFile fuel)) :
    LeftSettled session.fd (session.serve handle openFile (fuel + 1)) := by
  unfold serve
  cases parsed : session.connection.parseRequest with
  | mk result connection =>
      simp only
      cases result with
      | needMoreData =>
          refine ⟨rfl, fun _ => ⟨?_, fun _ _ => ?_⟩⟩
          · rw [Connection.consume_parsed_bytes_rewinds]
          · exact Connection.hungry_holds_no_request rewound parsed
      | complete =>
          have took := dispatch_took handle openFile { session with connection := connection }
          simp only
          cases dispatched : dispatch handle openFile
              { session with connection := connection } with
          | mk served after =>
              rw [dispatched] at took
              cases served with
              | waiting => exact goesOn connection after parsed dispatched
              | closing => exact took.left (by simp)
              | pending => exact took.left (by simp)
              | failed => exact took.left (by simp)
      | badRequest => exact fail_left _
      | requestLineTooLarge => exact fail_left _
      | headersTooLarge => exact fail_left _
      | tooManyHeaders => exact fail_left _
      | bodyTooLarge => exact fail_left _
      | unsupportedTransferEncoding => exact fail_left _
      | unsupportedVersion => exact fail_left _

/-- From a fresh parser every round takes bytes, so the buffer's length is enough
fuel. -/
theorem serve_left_settled (fuel : Nat) (session : Session)
    (fresh : session.connection.parser = {})
    (enough : session.connection.receiveBuffer.length < fuel) :
    LeftSettled session.fd (session.serve handle openFile fuel) := by
  induction fuel generalizing session with
  | zero => omega
  | succ fuel ih =>
      apply serve_succ_left
      · rw [fresh]
      · intro connection after parsed dispatched
        have took := dispatch_took handle openFile { session with connection := connection }
        rw [dispatched] at took
        have takes := Connection.fresh_complete_takes fresh parsed
        have shorter : after.connection.receiveBuffer.length < fuel := by
          rw [took.buffer (by simp)]
          exact Nat.lt_of_lt_of_le takes (Nat.le_of_lt_succ enough)
        have rest := ih after (took.fresh (by simp)) shorter
        rwa [took.sameFd] at rest

theorem serve_all_left_settled (session : Session)
    (rewound : session.connection.parser.cursor = 0) :
    LeftSettled session.fd (session.serveAll handle openFile) := by
  unfold serveAll
  apply serve_succ_left handle openFile _ session rewound
  intro connection after parsed dispatched
  have took := dispatch_took handle openFile { session with connection := connection }
  rw [dispatched] at took
  have same : connection.receiveBuffer = session.connection.receiveBuffer := by
    unfold Connection.parseRequest at parsed
    rw [← (Prod.mk.inj parsed).2]
  have rest := serve_left_settled handle openFile _ after (took.fresh (by simp))
    (show _ < session.connection.receiveBuffer.length + 1 by
      rw [took.buffer (by simp), List.length_drop, same]
      omega)
  rwa [took.sameFd] at rest

theorem read_input (connection : Connection) (recvs : List RecvResult) :
    (connection.read recvs).2.1.parser = connection.parser ∧
      ((connection.read recvs).1 ≠ .dataReceived →
        (connection.read recvs).2.1 = connection) := by
  unfold Connection.read
  split_ifs
  · exact ⟨rfl, fun _ => rfl⟩
  · simp only
    induction recvs with
    | nil => exact ⟨rfl, fun _ => rfl⟩
    | cons recv recvs ih =>
        cases recv with
        | interrupted => exact ih
        | wouldBlock => exact ⟨rfl, fun _ => rfl⟩
        | failed => exact ⟨rfl, fun _ => rfl⟩
        | received bytes =>
            unfold Connection.receive
            simp only
            split_ifs
            · exact ⟨rfl, fun other => absurd rfl other⟩
            · exact ⟨rfl, fun _ => rfl⟩

theorem read_loop_left_settled (fuel : Nat) (recvs : List RecvResult) (session : Session)
    (settled : Settled session.connection session.state) :
    LeftSettled session.fd (session.readLoop handle openFile fuel recvs) := by
  have serves : ∀ (session : Session) recvs connection rest outcome,
      Settled session.connection session.state →
      session.connection.read recvs = (.dataReceived, connection, rest) →
      serveAll handle openFile (received { session with connection := connection }) = outcome →
      LeftSettled session.fd outcome := by
    intro session recvs connection rest outcome settled answered served
    have parser := (read_input session.connection recvs).1
    rw [answered] at parser
    rw [← served]
    apply serve_all_left_settled handle openFile
    change connection.parser.cursor = 0
    rw [parser]
    exact settled.rewound
  refine @read_loop_rounds handle openFile (fun session _ outcome =>
    Settled session.connection session.state → LeftSettled session.fd outcome)
    ?_ ?_ ?_ ?_ ?_ ?_ fuel recvs session settled
  · exact fun session settled => ⟨rfl, fun _ => settled⟩
  · exact fun session recvs connection rest _ _ => ⟨rfl, fun goesOn => absurd rfl goesOn⟩
  · exact fun session recvs result connection rest _ _ _ => fail_left _
  · intro session recvs connection rest answered settled
    have unchanged := (read_input session.connection recvs).2
    rw [answered] at unchanged
    rw [show connection = _ from unchanged nofun]
    exact ⟨rfl, fun _ => settled⟩
  · intro session recvs connection rest served after answered outcome _ settled
    exact serves session recvs connection rest _ settled answered outcome
  · intro session recvs connection rest after others outcome answered served _ later settled
    have left := serves session recvs connection rest _ settled answered served
    have again := later (left.2 (show Served.waiting ≠ .failed by decide))
    rwa [left.1] at again

end Session

namespace Reactor

variable (handle : Nat → HttpRequest → HandleResult)

def AllSettled (reactor : Reactor) : Prop :=
  ∀ fd connection state, reactor.connections.lookup fd = some connection →
    reactor.connectionStates.lookup fd = some state → Settled connection state

/-- A complete request has arrived behind the one whose job is outstanding, and the
completion will not close the connection. -/
def holdsBack (reactor : Reactor) (callback : Callback) : Bool :=
  match reactor.connections.lookup callback.fd, reactor.connectionStates.lookup callback.fd with
  | some connection, some state =>
      isGenerationCurrent state callback.generation && state.redisPending &&
        !callback.closeAfterWrite && !connection.closeAfterWrite && connection.holdsRequest
  | _, _ => false

def NothingHeldBack (reactor : Reactor) (callbacks : List Callback) : Prop :=
  ∀ callback ∈ callbacks, reactor.holdsBack callback = false

instance (reactor : Reactor) (callbacks : List Callback) :
    Decidable (reactor.NothingHeldBack callbacks) :=
  inferInstanceAs (Decidable (∀ callback ∈ callbacks, reactor.holdsBack callback = false))

/-- Every open connection was open before, and neither its input nor its pending
job has changed. -/
def Descends (before after : Reactor) : Prop :=
  ∀ fd connection state, after.connections.lookup fd = some connection →
    after.connectionStates.lookup fd = some state →
    ∃ oldConnection oldState, before.connections.lookup fd = some oldConnection ∧
      before.connectionStates.lookup fd = some oldState ∧
      connection.SameInput oldConnection ∧ state.generation = oldState.generation ∧
      state.redisPending = oldState.redisPending

namespace Descends

variable {before middle after : Reactor}

theorem refl (reactor : Reactor) : Descends reactor reactor := by
  intro fd connection state found foundState
  exact ⟨connection, state, found, foundState, .rfl, rfl, rfl⟩

theorem trans (first : Descends before middle) (second : Descends middle after) :
    Descends before after := by
  intro fd connection state found foundState
  obtain ⟨between, stateBetween, foundBetween, foundStateBetween, input, generation, pending⟩ :=
    second fd connection state found foundState
  obtain ⟨old, oldState, foundOld, foundOldState, oldInput, oldGeneration, oldPending⟩ :=
    first fd between stateBetween foundBetween foundStateBetween
  exact ⟨old, oldState, foundOld, foundOldState, input.trans oldInput,
    generation.trans oldGeneration, pending.trans oldPending⟩

theorem settled (descends : Descends before after) (settled : before.AllSettled) :
    after.AllSettled := by
  intro fd connection state found foundState
  obtain ⟨old, oldState, foundOld, foundOldState, input, -, pending⟩ :=
    descends fd connection state found foundState
  have oldSettled := (settled fd old oldState foundOld foundOldState).same_input input
  exact ⟨oldSettled.rewound, pending ▸ oldSettled.served⟩

theorem nothing_held_back (descends : Descends before after) {callbacks : List Callback}
    (nothing : before.NothingHeldBack callbacks) : after.NothingHeldBack callbacks := by
  intro callback member
  have free := nothing callback member
  unfold holdsBack at free ⊢
  cases found : after.connections.lookup callback.fd with
  | none => rfl
  | some connection =>
      cases foundState : after.connectionStates.lookup callback.fd with
      | none => rfl
      | some state =>
          obtain ⟨old, oldState, foundOld, foundOldState, input, generation, pending⟩ :=
            descends callback.fd connection state found foundState
          rw [foundOld, foundOldState] at free
          simp only at free ⊢
          unfold isGenerationCurrent at free ⊢
          rw [generation, pending, input.2.2, Connection.holds_request_same_input input]
          exact free

end Descends

section Handlers

variable (reactor : Reactor)

theorem remove_connection_descends (fd : Int) :
    Descends reactor (reactor.removeConnection fd) := by
  unfold removeConnection
  cases reactor.connections.lookup fd with
  | none => exact .refl reactor
  | some removed =>
      intro other connection state found foundState
      simp only at found foundState
      by_cases same : other = fd
      · subst same
        rw [AList.lookup_erase] at found
        cases found
      · rw [AList.lookup_erase_ne same] at found foundState
        exact ⟨connection, state, found, foundState, .rfl, rfl, rfl⟩

theorem disconnect_descends (fd : Int) (connection : Connection) :
    Descends reactor (reactor.disconnect fd connection) := by
  unfold disconnect
  cases reactor.connectionStates.lookup fd with
  | none => exact remove_connection_descends reactor fd
  | some state => exact remove_connection_descends { reactor with shared := _ } fd

theorem put_removed_descends (session : Session) :
    Descends reactor ((reactor.put session).removeConnection session.fd) := by
  intro other connection state found foundState
  unfold removeConnection put at found foundState
  simp only [AList.lookup_insert] at found foundState
  by_cases same : other = session.fd
  · subst same
    rw [AList.lookup_erase] at found
    cases found
  · rw [AList.lookup_erase_ne same, AList.lookup_insert_ne same] at found foundState
    exact ⟨connection, state, found, foundState, .rfl, rfl, rfl⟩

theorem update_events_descends (fd : Int) (events : EventMask) (modified : Bool) :
    Descends reactor (reactor.updateEvents fd events modified) := by
  unfold updateEvents
  cases before : reactor.connectionStates.lookup fd with
  | none => exact .refl reactor
  | some old =>
      simp only
      split_ifs
      · exact .refl reactor
      · exact remove_connection_descends
          { reactor with shared := reactor.shared.incrementErrors } fd
      · intro other connection state found foundState
        simp only at found foundState
        by_cases same : other = fd
        · subst same
          rw [AList.lookup_insert] at foundState
          cases foundState
          exact ⟨connection, old, found, before, .rfl, rfl, rfl⟩
        · rw [AList.lookup_insert_ne same] at foundState
          exact ⟨connection, state, found, foundState, .rfl, rfl, rfl⟩

theorem replace_connection_descends {fd : Int} {old connection : Connection}
    (before : reactor.connections.lookup fd = some old) (input : connection.SameInput old)
    (shared : Shared) :
    Descends reactor { reactor with
      connections := reactor.connections.insert fd connection
      shared := shared } := by
  intro other found state isFound foundState
  simp only at isFound foundState
  by_cases same : other = fd
  · subst same
    rw [AList.lookup_insert] at isFound
    cases isFound
    exact ⟨old, state, before, foundState, input, rfl, rfl⟩
  · rw [AList.lookup_insert_ne same] at isFound
    exact ⟨found, state, isFound, foundState, .rfl, rfl, rfl⟩

theorem handle_write_descends (fd : Int) (answers : WriteAnswers) :
    Descends reactor (reactor.handleWrite fd answers) := by
  have writes := reactor.handle_write_writes fd answers
  generalize reactor.handleWrite fd answers = outcome at writes ⊢
  cases writes with
  | idle => exact .refl reactor
  | failed connection after found input =>
      exact (replace_connection_descends reactor found input
        reactor.shared.incrementErrors).trans (remove_connection_descends _ fd)
  | blocked connection after found input =>
      exact (replace_connection_descends reactor found input reactor.shared).trans
        (update_events_descends _ fd _ _)
  | closed connection after found input =>
      exact (replace_connection_descends reactor found input
        reactor.shared.incrementResponses).trans (remove_connection_descends _ fd)
  | flushed connection after found input =>
      exact (replace_connection_descends reactor found input
        reactor.shared.incrementResponses).trans (update_events_descends _ fd _ _)

end Handlers

section Hold

variable {reactor : Reactor} {property : Connection → ConnectionState → Prop}

/-- Every open connection and its state have the property. -/
def AllHold (property : Connection → ConnectionState → Prop) (reactor : Reactor) : Prop :=
  ∀ fd connection state, reactor.connections.lookup fd = some connection →
    reactor.connectionStates.lookup fd = some state → property connection state

theorem put_holds (all : reactor.AllHold property) {session : Session}
    (holds : property session.connection session.state) :
    (reactor.put session).AllHold property := by
  intro fd connection state found foundState
  unfold put at found foundState
  simp only at found foundState
  by_cases same : fd = session.fd
  · subst same
    rw [AList.lookup_insert] at found foundState
    cases found
    cases foundState
    exact holds
  · rw [AList.lookup_insert_ne same] at found foundState
    exact all fd connection state found foundState

theorem accept_client_holds (all : reactor.AllHold property) (fd : Int)
    (fresh : property { fd := fd, reactorId := reactor.id }
      (.accepted reactor.shared.clock (reactor.nextConnectionGeneration + 1))) :
    (reactor.acceptClient fd).AllHold property := by
  intro other connection state found foundState
  unfold acceptClient at found foundState
  simp only at found foundState
  by_cases same : other = fd
  · subst same
    rw [AList.lookup_insert] at found foundState
    cases found
    cases foundState
    exact fresh
  · rw [AList.lookup_insert_ne same] at found foundState
    exact all other connection state found foundState

end Hold

section Settled

variable {reactor : Reactor}

theorem handle_client_settled (settled : reactor.AllSettled) (fd : Int)
    (answers : ClientAnswers) : (reactor.handleClient handle fd answers).AllSettled := by
  have reads := handle_client_reads handle reactor fd answers
  generalize reactor.handleClient handle fd answers = outcome at reads ⊢
  cases reads with
  | idle => exact settled
  | unknown => exact (remove_connection_descends reactor fd).settled settled
  | served connection state served session after found foundState idle loops leaves =>
      have left := Session.read_loop_left_settled handle answers.openFile
        (answers.recvs.length + 1) answers.recvs ⟨fd, connection, state, reactor.shared⟩
        (settled fd connection state found foundState)
      rw [loops] at left
      obtain ⟨sameFd, settles⟩ := left
      cases leaves with
      | failed =>
          have removed := put_removed_descends reactor session
          rw [sameFd] at removed
          exact removed.settled settled
      | paused =>
          have put := put_holds settled (settles nofun)
          exact (update_events_descends _ fd _ _).settled put
      | written served goesOn =>
          have put := put_holds settled (settles goesOn.1)
          exact (handle_write_descends _ fd _).settled put
      | stored served goesOn => exact put_holds settled (settles goesOn.1)

theorem handle_client_event_settled (settled : reactor.AllSettled) (fd : Int)
    (events : EventMask) (answers : ClientAnswers) :
    (reactor.handleClientEvent handle fd events answers).AllSettled := by
  apply handle_client_event_invariant handle fd events answers _ _ _ _ _ settled
  · intro reactor settled
    exact settled
  · intro reactor settled
    exact (remove_connection_descends reactor fd).settled settled
  · intro reactor settled
    exact handle_client_settled handle settled fd answers
  · intro reactor settled
    exact (handle_write_descends reactor fd answers.write).settled settled
  · intro reactor connection settled
    exact (disconnect_descends reactor fd connection).settled settled

end Settled

section Completions

variable {reactor : Reactor}

theorem put_nothing_held_back {session : Session} (idle : session.state.redisPending = false)
    {callbacks : List Callback} (nothing : reactor.NothingHeldBack callbacks) :
    (reactor.put session).NothingHeldBack callbacks := by
  intro callback member
  have free := nothing callback member
  unfold holdsBack put at *
  simp only
  by_cases same : callback.fd = session.fd
  · rw [same, AList.lookup_insert, AList.lookup_insert]
    simp [idle]
  · rw [AList.lookup_insert_ne same, AList.lookup_insert_ne same]
    exact free

/-- A completion leaves a settled reactor if it held nothing back. -/
theorem complete_async_response_settled (settled : reactor.AllSettled) (callback : Callback)
    {callbacks : List Callback} (nothing : reactor.NothingHeldBack (callback :: callbacks))
    (waiting : reactor.shared.completions.map Prod.fst = callbacks)
    (response : HttpResponse) (answers : WriteAnswers) :
    let after := reactor.completeAsyncResponse callback response answers
    after.AllSettled ∧ after.NothingHeldBack (after.shared.completions.map Prod.fst) := by
  intro after
  have others : reactor.NothingHeldBack callbacks :=
    fun other member => nothing other (List.mem_cons_of_mem _ member)
  have free := nothing callback (by simp)
  have completes := reactor.complete_async_response_completes callback response answers
  change Completes reactor callback answers after at completes
  generalize after = outcome at completes ⊢
  cases completes with
  | dropped => exact ⟨settled, waiting ▸ others⟩
  | refused connection state refusedConnection found foundState current =>
      have removed := put_removed_descends reactor ⟨callback.fd, refusedConnection,
        state.completed, reactor.shared.incrementErrors⟩
      rw [(remove_connection_quiet _ callback.fd).completions]
      exact ⟨removed.settled settled, removed.nothing_held_back (waiting ▸ others)⟩
  | queued connection state answered found foundState current pending input =>
      have before := settled callback.fd connection state found foundState
      have answeredSettled : Settled answered (state.answered reactor.shared.clock) := by
        unfold holdsBack at free
        rw [found, foundState] at free
        simp only [isGenerationCurrent, current, beq_self_eq_true, pending, Bool.true_and] at free
        cases closes : callback.closeAfterWrite with
        | true =>
            rw [closes] at input
            refine ⟨by rw [input.1]; exact before.rewound, fun _ stays => ?_⟩
            rw [input.2.2] at stays
            cases stays
        | false =>
            rw [closes] at input free
            refine ⟨by rw [input.1]; exact before.rewound, fun _ stays => ?_⟩
            rw [Connection.holds_request_same_input input]
            rw [input.2.2] at stays
            simp only [Bool.false_eq_true, if_false] at stays ⊢
            simpa [stays] using free
      have written := handle_write_descends (reactor.put ⟨callback.fd, answered,
        state.answered reactor.shared.clock,
        reactor.shared.respond callback.serial callback.fd state.generation⟩) callback.fd answers
      rw [(handle_write_quiet _ callback.fd answers).completions]
      constructor
      · apply written.settled
        exact put_holds settled answeredSettled
      · apply written.nothing_held_back
        exact put_nothing_held_back rfl (waiting ▸ others)

theorem pop_completion_settled (settled : reactor.AllSettled)
    (nothing : reactor.NothingHeldBack (reactor.shared.completions.map Prod.fst))
    (answers : WriteAnswers) :
    let after := reactor.popCompletion answers
    after.AllSettled ∧ after.NothingHeldBack (after.shared.completions.map Prod.fst) := by
  unfold popCompletion
  cases waiting : reactor.shared.completions with
  | nil => exact ⟨settled, nothing⟩
  | cons completion completions =>
      rw [waiting] at nothing
      have rest : AllSettled { reactor with
        shared := { reactor.shared with completions := completions } } := settled
      exact complete_async_response_settled rest completion.1 nothing rfl completion.2 answers

theorem drain_completions_settled (rounds : Nat) (answers : List WriteAnswers)
    (settled : reactor.AllSettled)
    (nothing : reactor.NothingHeldBack (reactor.shared.completions.map Prod.fst)) :
    (drainCompletions rounds answers reactor).AllSettled := by
  induction rounds generalizing reactor answers with
  | zero => exact settled
  | succ rounds ih =>
      obtain ⟨settles, leaves⟩ := pop_completion_settled settled nothing (answers.headD {})
      exact ih answers.tail settles leaves

end Completions

/-- No completion that is about to be delivered holds a request back. -/
def NothingBehind (reactor : Reactor) : Input → Prop
  | .completions _ => reactor.NothingHeldBack (reactor.shared.completions.map Prod.fst)
  | _ => True

theorem step_settled (reactor : Reactor) (input : Input) (settled : reactor.AllSettled)
    (nothing : reactor.NothingBehind input) : (reactor.step handle input).AllSettled := by
  cases input with
  | accept answers =>
      apply handle_accept_invariant _ answers settled
      intro reactor fd settled
      exact accept_client_holds settled fd ⟨rfl, fun _ _ => rfl⟩
  | timer expired =>
      apply handle_timer_invariant _ expired settled
      intro reactor fd settled
      exact (remove_connection_descends reactor fd).settled settled
  | completions answers => exact drain_completions_settled _ answers settled nothing
  | client fd events answers => exact handle_client_event_settled handle settled fd events answers
  | worker job response =>
      change (reactor.finishJob job response).AllSettled
      unfold finishJob
      cases reactor.shared.jobs[job]? with
      | none => exact settled
      | some callback => exact settled

/-- Between two events no connection that is open, waits for no job and is not about
to close holds a complete request, as long as no request was received behind one
whose job is completed. -/
theorem no_request_is_stranded (id : Int) (inputs : List Input)
    (nothing : Throughout (step handle) NothingBehind { id := id } inputs) :
    let reactor := run (step handle) { id := id } inputs
    ∀ fd connection state, reactor.connections.lookup fd = some connection →
      reactor.connectionStates.lookup fd = some state → state.redisPending = false →
      connection.closeAfterWrite = false →
      (connection.parser.parse connection.receiveBuffer).1 ≠ .complete := by
  intro reactor fd connection state found foundState idle stays complete
  have start : AllSettled { id := id } := by
    intro fd connection state found
    cases found
  have settled := run_invariant_throughout (step handle) (step_settled handle) start inputs nothing
  have served := (settled fd connection state found foundState).served idle stays
  have holds : connection.holdsRequest = true := decide_eq_true complete
  rw [holds] at served
  cases served

/-- Task requests leave a job behind, other requests are answered at once. -/
def tasksPending (_ : Nat) (request : HttpRequest) : HandleResult :=
  if request.target = ascii "/tasks" then .pending
  else .completed (({} : HttpResponse).setBody (ascii "hello")).setContentLength

def getTarget (target : String) : Bytes :=
  ascii "GET " ++ ascii target ++ ascii " HTTP/1.1" ++ HttpParser.crlf ++ ascii "Host: a" ++
    HttpParser.crlf ++ HttpParser.crlf

/-- A client sends the bytes at once; then its job, if it has left one, is completed. -/
def receiveAndComplete (bytes : Bytes) : List Input :=
  [.accept [.client 7 true true true], .client 7 { input := true } { recvs := [.received bytes] },
    .worker 0 (some ({} : HttpResponse).setContentLength), .completions [{ sends := [.sent 64] }]]

theorem answered_task_request_strands_nothing :
    let reactor := run (step tasksPending) { id := 0 } (receiveAndComplete (getTarget "/tasks"))
    ∀ fd connection state, reactor.connections.lookup fd = some connection →
      reactor.connectionStates.lookup fd = some state → state.redisPending = false →
      connection.closeAfterWrite = false →
      (connection.parser.parse connection.receiveBuffer).1 ≠ .complete :=
  no_request_is_stranded tasksPending 0 (receiveAndComplete (getTarget "/tasks"))
    ⟨trivial, trivial, trivial,
      show NothingHeldBack _ _ by decide, trivial⟩

/-- The second request came in one read with the first. It is complete, its
connection is open and idle, and nothing will ever dispatch it unless more bytes
arrive. -/
theorem pipelined_request_behind_task_request_is_stranded :
    let reactor := run (step tasksPending) { id := 0 }
      (receiveAndComplete (getTarget "/tasks" ++ getTarget "/hello"))
    ∃ connection state, reactor.connections.lookup 7 = some connection ∧
      reactor.connectionStates.lookup 7 = some state ∧ state.redisPending = false ∧
      connection.closeAfterWrite = false ∧
      (connection.parser.parse connection.receiveBuffer).1 = .complete :=
  ⟨{ fd := 7, reactorId := 0, receiveBuffer := getTarget "/hello" },
    { deadline := keepAliveTimeoutSeconds * second, generation := 1 }, by decide⟩

end Reactor

end Aorta.Server
