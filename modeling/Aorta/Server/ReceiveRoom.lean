import Aorta.Server.Reads
import Aorta.Server.Stranded

/-!
# Room in the receive buffer

`Connection::read` asks for no more bytes than fit the buffer, so it is full only if
nothing has been taken out of it since a read filled it up. A parser that asks for more
leaves at most an unfinished line. A request that is served takes at least one byte with
it, also where the loops of `handleClient` are left with the requests behind it still in
the buffer.
-/

namespace Aorta.Net.Connection

open Aorta.Http Aorta.Http.HttpParser

set_option autoImplicit false

/-- There is room for a byte: nothing is left but an unfinished line, or the bytes behind
a request that was served. -/
def HasRoom (connection : Connection) : Prop :=
  connection.parser.cursor = 0 ∧
    (connection.receiveBuffer.length ≤ maxHeaderLineSize ∨
      connection.parser = {} ∧ connection.receiveBuffer.length < maxReceiveBuffer)

/-- A connection that had room, once a read has put bytes into its buffer. -/
def WasRead (connection : Connection) : Prop :=
  connection.parser.cursor = 0 ∧
    (connection.receiveBuffer.length ≤ maxHeaderLineSize + 4096 ∨
      connection.parser = {} ∧ connection.receiveBuffer.length ≤ maxReceiveBuffer)

variable {connection : Connection}

theorem HasRoom.not_full (room : connection.HasRoom) :
    connection.receiveBuffer.length < maxReceiveBuffer := by
  rcases room.2 with short | ⟨-, below⟩
  · unfold maxHeaderLineSize at short
    unfold maxReceiveBuffer
    omega
  · exact below

theorem HasRoom.wasRead (room : connection.HasRoom) : connection.WasRead :=
  ⟨room.1, room.2.imp (fun short => Nat.le_add_right_of_le short)
    fun behind => ⟨behind.1, Nat.le_of_lt behind.2⟩⟩

theorem receive_room (connection : Connection) (bytesToRead : Nat) (recvs : List RecvResult) :
    (connection.receive bytesToRead recvs).2.1.parser = connection.parser ∧
      (connection.receive bytesToRead recvs).2.1.receiveBuffer.length ≤
        connection.receiveBuffer.length + bytesToRead ∧
      (connection.receive bytesToRead recvs).1 ≠ .bufferFull := by
  induction recvs with
  | nil => exact ⟨rfl, Nat.le_add_right _ _, fun full => by cases full⟩
  | cons recv recvs ih =>
      cases recv with
      | interrupted => exact ih
      | wouldBlock => exact ⟨rfl, Nat.le_add_right _ _, fun full => by cases full⟩
      | failed => exact ⟨rfl, Nat.le_add_right _ _, fun full => by cases full⟩
      | received bytes =>
          unfold receive
          simp only
          split_ifs
          · refine ⟨rfl, ?_, by simp⟩
            rw [List.length_append, List.length_take]
            omega
          · exact ⟨rfl, Nat.le_add_right _ _, by simp⟩

theorem HasRoom.read (room : connection.HasRoom) (recvs : List RecvResult) :
    (connection.read recvs).1 ≠ .bufferFull ∧ (connection.read recvs).2.1.WasRead := by
  have below := room.not_full
  obtain ⟨parser, buffer, notFull⟩ := receive_room connection
    (min (maxReceiveBuffer - connection.receiveBuffer.length) 4096) recvs
  unfold Connection.read
  rw [if_neg (Nat.not_le_of_lt below)]
  refine ⟨notFull, ?_, ?_⟩
  · rw [parser]
    exact room.1
  · rw [parser]
    apply room.2.imp
    · intro short
      exact Nat.le_trans buffer (by omega)
    · intro behind
      exact ⟨behind.1, Nat.le_trans buffer (by omega)⟩

theorem WasRead.served {after : Connection} (wasRead : connection.WasRead)
    (complete : connection.parseRequest = (.complete, after)) :
    (after.receiveBuffer.drop after.parser.cursor).length < maxReceiveBuffer := by
  rcases wasRead.2 with short | ⟨fresh, fits⟩
  · have same : after.receiveBuffer = connection.receiveBuffer := by
      unfold parseRequest at complete
      rw [← (Prod.mk.inj complete).2]
    rw [List.length_drop, same]
    unfold maxHeaderLineSize at short
    unfold maxReceiveBuffer
    omega
  · exact Nat.lt_of_lt_of_le (fresh_complete_takes fresh complete) fits

end Aorta.Net.Connection

namespace Aorta.Server

open Aorta.Library.Ascii Aorta.Library.Run Aorta.Http Aorta.Net
open Aorta.Http.HttpParser (ParseResult)

set_option autoImplicit false

namespace Session

variable (handle : Nat → HttpRequest → HandleResult) (openFile : Bytes → Option Int)

/-- The outer loop comes to a read that answers `BufferFull`. -/
def fillsBuffer (fuel : Nat) (recvs : List RecvResult) (session : Session) : Bool :=
  (session.reads handle openFile fuel recvs).any fun read => read.result = .bufferFull

/-- The connection has room when the loops are left, or is going to be removed. -/
def LeftRoom (fd : Int) (outcome : Served × Session) : Prop :=
  outcome.2.fd = fd ∧ (outcome.1 ≠ .failed → outcome.2.connection.HasRoom)

theorem fail_room (session : Session) : LeftRoom session.fd session.fail :=
  ⟨rfl, fun goesOn => absurd rfl goesOn⟩

theorem Took.room {connection : Connection} {fd : Int} {outcome : Served × Session}
    (took : Took fd connection outcome)
    (takes : (connection.receiveBuffer.drop connection.parser.cursor).length <
      Connection.maxReceiveBuffer) : LeftRoom fd outcome := by
  refine ⟨took.sameFd, fun goesOn => ⟨?_, .inr ⟨took.fresh goesOn, ?_⟩⟩⟩
  · rw [took.fresh goesOn]
  · rw [took.buffer goesOn]
    exact takes

theorem serve_succ_room (fuel : Nat) {session : Session}
    (wasRead : session.connection.WasRead)
    (goesOn : ∀ after : Session, after.connection.HasRoom →
      LeftRoom after.fd (after.serve handle openFile fuel)) :
    LeftRoom session.fd (session.serve handle openFile (fuel + 1)) := by
  unfold serve
  cases parsed : session.connection.parseRequest with
  | mk result connection =>
      simp only
      cases result with
      | needMoreData =>
          refine ⟨rfl, fun _ => ⟨?_, .inl ?_⟩⟩
          · rw [Connection.consume_parsed_bytes_rewinds]
          · exact Connection.hungry_rest wasRead.1 parsed
      | complete =>
          have took := dispatch_took handle openFile { session with connection := connection }
          have room := took.room (wasRead.served parsed)
          simp only
          cases dispatched : dispatch handle openFile
              { session with connection := connection } with
          | mk served after =>
              rw [dispatched] at room
              cases served with
              | waiting =>
                  have rest := goesOn after (room.2 (by simp))
                  rwa [room.1] at rest
              | closing => exact room
              | pending => exact room
              | failed => exact room
      | badRequest => exact fail_room _
      | requestLineTooLarge => exact fail_room _
      | headersTooLarge => exact fail_room _
      | tooManyHeaders => exact fail_room _
      | bodyTooLarge => exact fail_room _
      | unsupportedTransferEncoding => exact fail_room _
      | unsupportedVersion => exact fail_room _

theorem serve_room (fuel : Nat) {session : Session} (room : session.connection.HasRoom) :
    LeftRoom session.fd (session.serve handle openFile fuel) := by
  induction fuel generalizing session with
  | zero => exact ⟨rfl, fun _ => room⟩
  | succ fuel ih => exact serve_succ_room handle openFile fuel room.wasRead fun _ => ih

/-- No read of the loops finds the buffer full. -/
theorem read_loop_room (fuel : Nat) (recvs : List RecvResult) (session : Session)
    (room : session.connection.HasRoom) :
    fillsBuffer handle openFile fuel recvs session = false ∧
      LeftRoom session.fd (session.readLoop handle openFile fuel recvs) := by
  have serves : ∀ (session : Session) recvs connection rest outcome,
      session.connection.HasRoom →
      session.connection.read recvs = (.dataReceived, connection, rest) →
      serveAll handle openFile (received { session with connection := connection }) = outcome →
      LeftRoom session.fd outcome := by
    intro session recvs connection rest outcome room answered served
    have wasRead := (room.read recvs).2
    rw [answered] at wasRead
    rw [← served]
    exact serve_succ_room handle openFile _ wasRead fun _ => serve_room handle openFile _
  refine @read_loop_rounds handle openFile (fun session reads outcome =>
    session.connection.HasRoom →
    (reads.any fun read => read.result = .bufferFull) = false ∧ LeftRoom session.fd outcome)
    ?_ ?_ ?_ ?_ ?_ ?_ fuel recvs session room
  · exact fun session room => ⟨rfl, rfl, fun _ => room⟩
  · exact fun session recvs connection rest _ _ => ⟨rfl, rfl, fun goesOn => absurd rfl goesOn⟩
  · intro session recvs result connection rest answered bad room
    have notFull := (room.read recvs).1
    rw [answered] at notFull
    rcases bad with rfl | rfl
    · exact ⟨rfl, fail_room _⟩
    · exact absurd rfl notFull
  · intro session recvs connection rest answered room
    have unchanged := (read_input session.connection recvs).2
    rw [answered] at unchanged
    rw [show connection = _ from unchanged nofun]
    exact ⟨rfl, rfl, fun _ => room⟩
  · intro session recvs connection rest served after answered outcome _ room
    exact ⟨rfl, serves session recvs connection rest _ room answered outcome⟩
  · intro session recvs connection rest after others outcome answered served _ later room
    have left := serves session recvs connection rest _ room answered served
    have again := later (left.2 (show Served.waiting ≠ .failed by decide))
    rw [left.1] at again
    exact again

end Session

namespace Reactor

variable (handle : Nat → HttpRequest → HandleResult) {reactor : Reactor}

/-- Every connection has room in its receive buffer. -/
def AllRoom (reactor : Reactor) : Prop :=
  ∀ fd connection state, reactor.connections.lookup fd = some connection →
    reactor.connectionStates.lookup fd = some state → connection.HasRoom

theorem Descends.room {before after : Reactor} (descends : Descends before after)
    (room : before.AllRoom) : after.AllRoom := by
  intro fd connection state found foundState
  obtain ⟨old, oldState, foundOld, foundOldState, input, _, _⟩ :=
    descends fd connection state found foundState
  have oldRoom := room fd old oldState foundOld foundOldState
  unfold Connection.HasRoom at oldRoom ⊢
  rw [input.1, input.2.1]
  exact oldRoom

theorem handle_client_room (room : reactor.AllRoom) (fd : Int) (answers : ClientAnswers) :
    (reactor.handleClient handle fd answers).AllRoom := by
  have reads := handle_client_reads handle reactor fd answers
  generalize reactor.handleClient handle fd answers = outcome at reads ⊢
  cases reads with
  | idle => exact room
  | unknown => exact (remove_connection_descends reactor fd).room room
  | served connection state served session after found foundState idle loops leaves =>
      obtain ⟨_, left⟩ := Session.read_loop_room handle answers.openFile
        (answers.recvs.length + 1) answers.recvs ⟨fd, connection, state, reactor.shared⟩
        (room fd connection state found foundState)
      rw [loops] at left
      obtain ⟨sameFd, leavesRoom⟩ := left
      cases leaves with
      | failed =>
          have removed := put_removed_descends reactor session
          rw [sameFd] at removed
          exact removed.room room
      | paused =>
          exact (update_events_descends _ fd _ _).room (put_holds room (leavesRoom nofun))
      | written served goesOn =>
          exact (handle_write_descends _ fd _).room (put_holds room (leavesRoom goesOn.1))
      | stored served goesOn => exact put_holds room (leavesRoom goesOn.1)

theorem complete_async_response_room (room : reactor.AllRoom) (callback : Callback)
    (response : HttpResponse) (answers : WriteAnswers) :
    (reactor.completeAsyncResponse callback response answers).AllRoom := by
  have completes := reactor.complete_async_response_completes callback response answers
  generalize reactor.completeAsyncResponse callback response answers = outcome at completes ⊢
  cases completes with
  | dropped => exact room
  | refused connection state after =>
      have removed := put_removed_descends reactor ⟨callback.fd, after, state.completed,
        reactor.shared.incrementErrors⟩
      exact removed.room room
  | queued connection state after found foundState current pending input =>
      apply (handle_write_descends _ callback.fd answers).room
      apply put_holds room
      have before := room callback.fd connection state found foundState
      have parser : after.parser = connection.parser := by
        rw [input.1]
        split_ifs <;> rfl
      have buffer : after.receiveBuffer = connection.receiveBuffer := by
        rw [input.2.1]
        split_ifs <;> rfl
      unfold Connection.HasRoom at before ⊢
      simp only [parser, buffer]
      exact before

theorem step_room (reactor : Reactor) (input : Input) (room : reactor.AllRoom) :
    (reactor.step handle input).AllRoom := by
  cases input with
  | accept answers =>
      apply handle_accept_invariant _ answers room
      intro reactor fd room
      exact accept_client_holds room fd ⟨rfl, .inl (Nat.zero_le _)⟩
  | timer expired =>
      apply handle_timer_invariant _ expired room
      intro reactor fd room
      exact (remove_connection_descends reactor fd).room room
  | completions answers =>
      apply drain_completions_invariant _ _ answers room
      intro reactor answers room
      unfold popCompletion
      cases reactor.shared.completions with
      | nil => exact room
      | cons completion completions =>
          apply complete_async_response_room
          exact room
  | client fd events answers =>
      apply handle_client_event_invariant handle fd events answers _ _ _ _ _ room
      · intro reactor room
        exact room
      · intro reactor room
        exact (remove_connection_descends reactor fd).room room
      · intro reactor room
        exact handle_client_room handle room fd answers
      · intro reactor room
        exact (handle_write_descends reactor fd answers.write).room room
      · intro reactor connection room
        exact (disconnect_descends reactor fd connection).room room
  | worker job response =>
      change (reactor.finishJob job response).AllRoom
      unfold finishJob
      cases reactor.shared.jobs[job]? with
      | none => exact room
      | some callback => exact room

/-- Handling the input comes to a read that answers `BufferFull`. -/
def fillsBuffer (reactor : Reactor) : Input → Bool
  | .client fd events answers =>
      match reactor.connections.lookup fd, reactor.connectionStates.lookup fd with
      | some connection, some state =>
          !events.error && !events.hangup && events.input && !state.redisPending &&
            Session.fillsBuffer handle answers.openFile (answers.recvs.length + 1)
              answers.recvs ⟨fd, connection, state, reactor.shared⟩
      | _, _ => false
  | _ => false

theorem room_not_filled (room : reactor.AllRoom) (input : Input) :
    reactor.fillsBuffer handle input = false := by
  cases input with
  | client fd events answers =>
      simp only [fillsBuffer]
      cases found : reactor.connections.lookup fd with
      | none => rfl
      | some connection =>
          cases foundState : reactor.connectionStates.lookup fd with
          | none => rfl
          | some state =>
              obtain ⟨notFull, _⟩ := Session.read_loop_room handle answers.openFile
                (answers.recvs.length + 1) answers.recvs
                ⟨fd, connection, state, reactor.shared⟩ (room fd connection state found foundState)
              simp only [notFull, Bool.and_false]
  | accept answers => rfl
  | timer expired => rfl
  | completions answers => rfl
  | worker job response => rfl

/-- Whatever the clients send, in whatever fragments, and whenever the workers are done, no
read finds its receive buffer full. -/
theorem receive_buffer_never_fills (id : Int) (inputs : List Input) :
    Throughout (step handle) (fun reactor input => reactor.fillsBuffer handle input = false)
      { id := id } inputs := by
  apply throughout_of_invariant (step handle) (step_room handle)
  · intro reactor input room
    exact room_not_filled handle room input
  · exact fun _ _ _ found => nomatch found

end Reactor

end Aorta.Server
