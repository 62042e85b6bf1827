import Aorta.Net.Output
import Aorta.Server.Reads

/-!
# What the reactor's handlers can do

The cases in which the handlers that queue responses end, each with the whole
state they leave behind. Invariants are proved from these cases.
-/

namespace Aorta.Server

open Aorta.Library.Ascii Aorta.Http Aorta.Net

set_option autoImplicit false

namespace Session

variable (openFile : Bytes → Option Int)

/-- What queueing a response can do to a session. -/
inductive Answers (session : Session) (serial : Nat) (connection : Connection) :
    Served × Session → Prop
  | refused (after : Connection) :
      Answers session serial connection (fail { session with connection := after })
  | fileRefused (after : Connection) (filled : after.outputQueue ≠ []) :
      Answers session serial connection (fail { session with
        connection := after
        shared := session.shared.respond serial session.fd session.state.generation })
  | answered (after : Connection) (input : after.SameInput connection)
      (kept : connection.outputQueue <+: after.outputQueue) (filled : after.outputQueue ≠ []) :
      Answers session serial connection (finish { session with
        connection := after
        shared := session.shared.respond serial session.fd session.state.generation })

theorem answer_answers (session : Session) (serial : Nat) (connection : Connection)
    (response : HttpResponse) :
    Answers session serial connection (session.answer openFile serial connection response) := by
  have first := connection.queue_response_input response.serialize
  have queue := connection.queue_response_queue response.serialize
  unfold answer
  cases queued : connection.queueResponse response.serialize with
  | mk accepted afterResponse =>
      rw [queued] at first queue
      cases accepted with
      | false => exact .refused afterResponse
      | true =>
          have kept : connection.outputQueue <+: afterResponse.outputQueue := ⟨_, queue.symm⟩
          have filled : afterResponse.outputQueue ≠ [] := by
            rw [queue]
            exact List.append_ne_nil_of_right_ne_nil _ (List.cons_ne_nil _ _)
          cases sendsFile response with
          | false =>
              simp only [Bool.not_true, Bool.false_eq_true, if_false]
              exact .answered afterResponse first kept filled
          | true =>
              have second := afterResponse.queue_file_input openFile response.filePath
                response.fileSize
              have fileQueue := afterResponse.queue_file_queue openFile response.filePath
                response.fileSize
              cases queuedFile : afterResponse.queueFile openFile response.filePath
                  response.fileSize with
              | mk accepted afterFile =>
                  rw [queuedFile] at second fileQueue
                  have longer : afterResponse.outputQueue <+: afterFile.outputQueue := by
                    rw [fileQueue]
                    split_ifs
                    · exact List.prefix_append _ _
                    · exact List.prefix_refl _
                  have fileFilled : afterFile.outputQueue ≠ [] := fun empty =>
                    filled (List.prefix_nil.mp (empty ▸ longer))
                  cases accepted with
                  | false =>
                      simp only [Bool.not_true, Bool.false_eq_true, if_false, if_true,
                        queuedFile, Bool.not_false]
                      exact .fileRefused afterFile fileFilled
                  | true =>
                      simp only [Bool.not_true, Bool.false_eq_true, if_false, if_true,
                        queuedFile]
                      exact .answered afterFile (second.trans first) (kept.trans longer)
                        fileFilled

theorem finish_served (session : Session) :
    session.finish.1 = .waiting ∨ session.finish.1 = .closing := by
  unfold finish
  simp only
  split_ifs
  · exact .inr rfl
  · exact .inl rfl

theorem finish_output (session : Session) :
    session.finish.2.connection.SameOutput session.connection :=
  session.connection.consume_parsed_bytes_output

theorem waiting_not_pending : Served.waiting ≠ .pending := by decide

theorem closing_not_pending : Served.closing ≠ .pending := by decide

theorem failed_not_pending : Served.failed ≠ .pending := by decide

theorem finish_not_pending (session : Session) : session.finish.1 ≠ .pending := by
  rcases session.finish_served with waits | closes
  · rw [waits]
    exact waiting_not_pending
  · rw [closes]
    exact closing_not_pending

/-- The request asks for its connection to be closed. -/
def closes (session : Session) : Bool :=
  session.connection.getRequest.hasHeaderToken (ascii "Connection") (ascii "close")

def dispatched (session : Session) : Session :=
  { session with
    state := { session.state with requestInFlight := false }
    shared := (session.shared.dispatch session.fd session.state.generation
      session.connection.getRequest).announce session.closes
        ⟨session.shared.serial, session.fd, session.state.generation⟩ }

def responded (session : Session) (connection : Connection) : Session :=
  { session.dispatched with
    connection := connection
    shared := session.dispatched.shared.respond session.shared.serial session.fd
      session.state.generation }

/-- What dispatching a request can do to a session. -/
inductive Dispatches (session : Session) : Served × Session → Prop
  | pending (closeAfterWrite : Bool) (announced : closeAfterWrite = session.closes) :
      Dispatches session (.pending, refreshDeadline { session with
        connection := session.connection.consumeParsedBytes.resetParser
        state := { session.state with requestInFlight := true, redisPending := true }
        shared := session.dispatched.shared.submit
          ⟨session.fd, session.state.generation, closeAfterWrite, session.shared.serial⟩ }
        requestTimeoutSeconds)
  | refused (after : Connection) :
      Dispatches session (fail { session.dispatched with connection := after })
  | fileRefused (after : Connection) (filled : after.outputQueue ≠ []) :
      Dispatches session (fail (session.responded after))
  | answered (after : Connection) (parser : after.parser = session.connection.parser)
      (buffer : after.receiveBuffer = session.connection.receiveBuffer)
      (kept : session.connection.outputQueue <+: after.outputQueue)
      (filled : after.outputQueue ≠ [])
      (marked : after.closeAfterWrite = (session.closes || session.connection.closeAfterWrite)) :
      Dispatches session (finish (session.responded after))

theorem dispatch_dispatches (handle : Nat → HttpRequest → HandleResult) (session : Session) :
    Dispatches session (session.dispatch handle openFile) := by
  unfold dispatch
  simp only
  cases handle session.shared.serial session.connection.getRequest with
  | pending => exact .pending _ rfl
  | completed response =>
      simp only [respond]
      have answers := answer_answers openFile session.dispatched session.shared.serial
        (if session.closes then session.connection.setCloseAfterWrite true else session.connection)
        (if session.closes then response.setConnection (ascii "close") else response)
      have same : ∀ {Field : Type} (field : Connection → Field),
          field (session.connection.setCloseAfterWrite true) = field session.connection →
          field (if session.closes then session.connection.setCloseAfterWrite true
            else session.connection) = field session.connection := by
        intro Field field unchanged
        split_ifs
        · exact unchanged
        · rfl
      have closing : (if session.closes then session.connection.setCloseAfterWrite true
          else session.connection).closeAfterWrite =
            (session.closes || session.connection.closeAfterWrite) := by
        cases session.closes <;> rfl
      change Dispatches session (answer openFile session.dispatched session.shared.serial
        (if session.closes then session.connection.setCloseAfterWrite true else session.connection)
        (if session.closes then response.setConnection (ascii "close") else response))
      generalize answer openFile _ _ _ _ = outcome at answers ⊢
      cases answers with
      | refused after => exact .refused after
      | fileRefused after filled => exact .fileRefused after filled
      | answered after input kept filled =>
          apply Dispatches.answered after
          · exact input.1.trans (same Connection.parser rfl)
          · exact input.2.1.trans (same Connection.receiveBuffer rfl)
          · rwa [same Connection.outputQueue rfl] at kept
          · exact filled
          · exact input.2.2.trans closing

/-- The loops go on in a session of one kind and are left with an outcome of another. -/
def Goes (ready : Session → Prop) (left : Served × Session → Prop)
    (outcome : Served × Session) : Prop :=
  (outcome.1 = .waiting → ready outcome.2) ∧ (outcome.1 ≠ .waiting → left outcome)

section Loops

variable (handle : Nat → HttpRequest → HandleResult) {ready : Session → Prop}
  {left : Served × Session → Prop}
  (input : ∀ session connection, ready session → connection.SameOutput session.connection →
    ready { session with connection := connection })
  (receives : ∀ session, ready session → ready session.received)
  (fails : ∀ session, ready session → left session.fail)
  (dispatches : ∀ session, ready session → Goes ready left (session.dispatch handle openFile))

section Inner

include input fails dispatches

theorem serve_rule (fuel : Nat) {session : Session} (holds : ready session) :
    Goes ready left (session.serve handle openFile fuel) := by
  have goes := @serve_rounds handle openFile
    (fun session _ outcome => ready session → Goes ready left outcome)
  refine goes ?_ ?_ ?_ ?_ ?_ fuel session holds
  · exact fun session holds => ⟨fun _ => holds, fun stops => absurd rfl stops⟩
  · intro session connection parsed holds
    have parses := input session _ holds session.connection.parse_request_output
    rw [parsed] at parses
    have consumed := input _ _ parses connection.consume_parsed_bytes_output
    exact ⟨fun _ => consumed, fun stops => absurd rfl stops⟩
  · intro session result connection parsed _ _ holds
    have parses := input session _ holds session.connection.parse_request_output
    rw [parsed] at parses
    exact ⟨fun waits => absurd waits nofun, fun _ => fails _ parses⟩
  · intro session connection served after parsed dispatched _ holds
    have parses := input session _ holds session.connection.parse_request_output
    rw [parsed] at parses
    rw [← dispatched]
    exact dispatches _ parses
  · intro session connection after others outcome parsed dispatched later holds
    have parses := input session _ holds session.connection.parse_request_output
    rw [parsed] at parses
    have goes := dispatches _ parses
    rw [dispatched] at goes
    exact later (goes.1 rfl)

end Inner

include input receives fails dispatches

/-- One round of the outer loop, with what has to hold of the rounds after it. -/
theorem read_loop_succ (fuel : Nat) (recvs : List RecvResult) {session : Session}
    (holds : ready session)
    (waits : ∀ session, ready session → left (.waiting, session))
    (disconnects : (session.connection.read recvs).1 = .disconnected →
      left (disconnect { session with connection := (session.connection.read recvs).2.1 }))
    (readsOn : ∀ after, ready after →
      (session.connection.read recvs).1 = .dataReceived →
      serveAll handle openFile (received
        { session with connection := (session.connection.read recvs).2.1 }) = (.waiting, after) →
      after.connection.shouldCloseAfterWrite = false →
      left (after.readLoop handle openFile fuel (session.connection.read recvs).2.2)) :
    left (session.readLoop handle openFile (fuel + 1) recvs) := by
  have reads := input session _ holds (session.connection.read_output recvs)
  unfold readLoop
  cases result : session.connection.read recvs with
  | mk answer rest =>
      rw [result] at reads disconnects readsOn
      simp only
      cases answer with
      | disconnected => exact disconnects rfl
      | error => exact fails _ reads
      | bufferFull => exact fails _ reads
      | wouldBlock => exact waits _ reads
      | dataReceived =>
          have goes := serve_rule openFile handle input fails dispatches
            (rest.1.receiveBuffer.length + 2) (receives _ reads)
          change Goes ready left (serveAll handle openFile _) at goes
          simp only
          cases outcome : serveAll handle openFile
              (received { session with connection := rest.1 }) with
          | mk served after =>
              rw [outcome] at goes
              cases served with
              | waiting =>
                  simp only
                  split_ifs with closes
                  · exact waits after (goes.1 rfl)
                  · exact readsOn after (goes.1 rfl) rfl outcome (Bool.eq_false_iff.mpr closes)
              | closing => exact goes.2 (by simp)
              | pending => exact goes.2 (by simp)
              | failed => exact goes.2 (by simp)

/-- What every dispatch keeps, the outer loop keeps. -/
theorem read_loop_rule (waits : ∀ session, ready session → left (.waiting, session))
    (disconnects : ∀ session, ready session → left session.disconnect)
    (fuel : Nat) (recvs : List RecvResult) {session : Session} (holds : ready session) :
    left (session.readLoop handle openFile fuel recvs) := by
  induction fuel generalizing session recvs with
  | zero => exact waits session holds
  | succ fuel ih =>
      apply read_loop_succ openFile handle input receives fails dispatches fuel recvs holds waits
      · intro _
        exact disconnects _ (input session _ holds (session.connection.read_output recvs))
      · intro after ready _ _ _
        exact ih _ ready

end Loops

end Session

namespace ConnectionState

def accepted (clock : Int) (generation : Nat) : ConnectionState where
  deadline := clock + requestTimeoutSeconds * second
  generation := generation

def completed (state : ConnectionState) : ConnectionState :=
  { state with requestInFlight := false, redisPending := false }

def answered (state : ConnectionState) (clock : Int) : ConnectionState :=
  state.completed.refreshDeadline clock keepAliveTimeoutSeconds

end ConnectionState

namespace Reactor

/-- What writing can do to a connection: nothing, or the connection has new output
buffers and is watched for other events, or it goes. -/
inductive Writes (reactor : Reactor) (fd : Int) (answers : WriteAnswers) : Reactor → Prop
  | idle (nothing : ∀ connection, reactor.connections.lookup fd = some connection →
        connection.outputQueue = []) :
      Writes reactor fd answers reactor
  | failed (connection after : Connection)
      (found : reactor.connections.lookup fd = some connection)
      (input : after.SameInput connection) (waiting : connection.outputQueue ≠ [])
      (unsent : after.outputQueue ≠ []) :
      Writes reactor fd answers (removeConnection { reactor with
        connections := reactor.connections.insert fd after
        shared := reactor.shared.incrementErrors } fd)
  | blocked (connection after : Connection)
      (found : reactor.connections.lookup fd = some connection)
      (input : after.SameInput connection) (waiting : connection.outputQueue ≠ [])
      (stalled : after.outputQueue ≠ []) :
      Writes reactor fd answers (updateEvents { reactor with
        connections := reactor.connections.insert fd after } fd
        { input := true, output := true, readHangup := true } answers.modified)
  | closed (connection after : Connection)
      (found : reactor.connections.lookup fd = some connection)
      (input : after.SameInput connection) (waiting : connection.outputQueue ≠ [])
      (drained : after.outputQueue = []) :
      Writes reactor fd answers (removeConnection { reactor with
        connections := reactor.connections.insert fd after
        shared := reactor.shared.incrementResponses } fd)
  | flushed (connection after : Connection)
      (found : reactor.connections.lookup fd = some connection)
      (input : after.SameInput connection) (waiting : connection.outputQueue ≠ [])
      (drained : after.outputQueue = []) :
      Writes reactor fd answers (updateEvents { reactor with
        connections := reactor.connections.insert fd after
        shared := reactor.shared.incrementResponses } fd
        { input := true, readHangup := true } answers.modified)

theorem handle_write_writes (reactor : Reactor) (fd : Int) (answers : WriteAnswers) :
    Writes reactor fd answers (reactor.handleWrite fd answers) := by
  unfold handleWrite
  cases found : reactor.connections.lookup fd with
  | none =>
      apply Writes.idle
      intro connection here
      rw [found] at here
      cases here
  | some connection =>
      have input := connection.write_input answers.sends
      have queue := connection.write_result_queue answers.sends
      simp only
      by_cases nothing : !connection.hasPendingOutput
      · rw [if_pos nothing]
        apply Writes.idle
        intro other here
        rw [found] at here
        cases here
        simpa [Connection.hasPendingOutput] using nothing
      · rw [if_neg nothing]
        have waiting : connection.outputQueue ≠ [] := by
          simpa [Connection.hasPendingOutput] using nothing
        cases written : connection.write answers.sends with
        | mk result rest =>
            rw [written] at input queue
            simp only at queue
            cases result with
            | error => exact .failed connection rest.1 found input waiting (queue.2 nofun)
            | wouldBlock => exact .blocked connection rest.1 found input waiting (queue.2 nofun)
            | complete =>
                simp only
                split_ifs
                · exact .closed connection rest.1 found input waiting (queue.1 rfl)
                · exact .flushed connection rest.1 found input waiting (queue.1 rfl)

/-- What becomes of a connection that the loops have left: it goes, is watched for its end
only, or has its output written if there is any. -/
inductive Leaves (reactor : Reactor) (session : Session) (fd : Int) (answers : ClientAnswers) :
    Served → Reactor → Prop
  | failed : Leaves reactor session fd answers .failed ((reactor.put session).removeConnection fd)
  | paused : Leaves reactor session fd answers .pending
      ((reactor.put session).updateEvents fd { readHangup := true } answers.paused)
  | written (served : Served) (goesOn : served ≠ .failed ∧ served ≠ .pending)
      (waiting : session.connection.hasPendingOutput = true) :
      Leaves reactor session fd answers served
        ((reactor.put session).handleWrite fd answers.inline)
  | stored (served : Served) (goesOn : served ≠ .failed ∧ served ≠ .pending)
      (nothing : session.connection.outputQueue = []) :
      Leaves reactor session fd answers served (reactor.put session)

/-- What reading can do: nothing, or the loops serve a connection that has no job
outstanding. -/
inductive Reads (handle : Nat → HttpRequest → HandleResult) (reactor : Reactor) (fd : Int)
    (answers : ClientAnswers) : Reactor → Prop
  | idle : Reads handle reactor fd answers reactor
  | unknown : Reads handle reactor fd answers (reactor.removeConnection fd)
  | served (connection : Connection) (state : ConnectionState) (served : Served)
      (session : Session) (after : Reactor)
      (found : reactor.connections.lookup fd = some connection)
      (foundState : reactor.connectionStates.lookup fd = some state)
      (idle : state.redisPending = false)
      (loops : Session.readLoop handle answers.openFile (answers.recvs.length + 1) answers.recvs
        ⟨fd, connection, state, reactor.shared⟩ = (served, session))
      (leaves : Leaves reactor session fd answers served after) :
      Reads handle reactor fd answers after

theorem handle_client_reads (handle : Nat → HttpRequest → HandleResult) (reactor : Reactor)
    (fd : Int) (answers : ClientAnswers) :
    Reads handle reactor fd answers (reactor.handleClient handle fd answers) := by
  unfold handleClient
  cases found : reactor.connections.lookup fd with
  | none => exact .idle
  | some connection =>
      cases foundState : reactor.connectionStates.lookup fd with
      | none => exact .unknown
      | some state =>
          simp only
          by_cases pending : state.redisPending
          · rw [if_pos pending]
            exact .idle
          · rw [if_neg pending]
            cases loops : Session.readLoop handle answers.openFile (answers.recvs.length + 1)
                answers.recvs ⟨fd, connection, state, reactor.shared⟩ with
            | mk served session =>
                have idle : state.redisPending = false := Bool.eq_false_iff.mpr pending
                apply Reads.served connection state served session _ found foundState idle loops
                have written : ∀ goesOn : served ≠ .failed ∧ served ≠ .pending,
                    Leaves reactor session fd answers served
                      (if session.connection.hasPendingOutput then
                        (reactor.put session).handleWrite fd answers.inline
                      else reactor.put session) := by
                  intro goesOn
                  split_ifs with waiting
                  · exact .written served goesOn waiting
                  · have empty : session.connection.outputQueue = [] := by
                      simpa [Connection.hasPendingOutput] using waiting
                    exact .stored served goesOn empty
                cases served with
                | failed => exact .failed
                | pending => exact .paused
                | waiting => exact written ⟨nofun, nofun⟩
                | closing => exact written ⟨nofun, nofun⟩

/-- What a completion can do: nothing, or it is for the current generation of a
connection that waits for it, and then the connection goes or has its response. -/
inductive Completes (reactor : Reactor) (callback : Callback) (answers : WriteAnswers) :
    Reactor → Prop
  | dropped : Completes reactor callback answers reactor
  | refused (connection : Connection) (state : ConnectionState) (after : Connection)
      (found : reactor.connections.lookup callback.fd = some connection)
      (foundState : reactor.connectionStates.lookup callback.fd = some state)
      (current : state.generation = callback.generation)
      (pending : state.redisPending = true) :
      Completes reactor callback answers ((reactor.put ⟨callback.fd, after, state.completed,
        reactor.shared.incrementErrors⟩).removeConnection callback.fd)
  | queued (connection : Connection) (state : ConnectionState) (after : Connection)
      (found : reactor.connections.lookup callback.fd = some connection)
      (foundState : reactor.connectionStates.lookup callback.fd = some state)
      (current : state.generation = callback.generation)
      (pending : state.redisPending = true)
      (input : after.SameInput (if callback.closeAfterWrite then
        connection.setCloseAfterWrite true else connection))
      (waiting : after.outputQueue ≠ []) :
      Completes reactor callback answers ((reactor.put ⟨callback.fd, after,
        state.answered reactor.shared.clock,
        reactor.shared.respond callback.serial callback.fd state.generation⟩).handleWrite
          callback.fd answers)

theorem complete_async_response_completes (reactor : Reactor) (callback : Callback)
    (response : HttpResponse) (answers : WriteAnswers) :
    Completes reactor callback answers
      (reactor.completeAsyncResponse callback response answers) := by
  unfold completeAsyncResponse
  cases found : reactor.connections.lookup callback.fd with
  | none => exact .dropped
  | some connection =>
      cases foundState : reactor.connectionStates.lookup callback.fd with
      | none => exact .dropped
      | some state =>
          simp only
          by_cases stale : !isGenerationCurrent state callback.generation
          · rw [if_pos stale]
            exact .dropped
          · rw [if_neg stale]
            have current : state.generation = callback.generation := by
              simpa [isGenerationCurrent] using stale
            by_cases idle : !state.redisPending
            · rw [if_pos idle]
              exact .dropped
            · rw [if_neg idle]
              have pending : state.redisPending = true := by simpa using idle
              generalize (if callback.closeAfterWrite then response.setConnection (ascii "close")
                else response) = response
              by_cases file : response.hasFile
              · rw [if_pos file]
                exact .refused connection state _ found foundState current pending
              · rw [if_neg file]
                by_cases full : !(Connection.queueResponse (if callback.closeAfterWrite then
                    connection.setCloseAfterWrite true else connection) response.serialize).1
                · rw [if_pos full]
                  exact .refused connection state _ found foundState current pending
                · rw [if_neg full]
                  apply Completes.queued connection state _ found foundState current pending
                    (Connection.queue_response_input _ _)
                  rw [Connection.queue_response_queue, if_pos (by simpa using full)]
                  exact List.append_ne_nil_of_right_ne_nil _ (List.cons_ne_nil _ _)

theorem remove_connection_find (reactor : Reactor) (fd other : Int) :
    (reactor.removeConnection fd).connections.lookup other =
      if other = fd then none else reactor.connections.lookup other := by
  unfold removeConnection
  cases found : reactor.connections.lookup fd with
  | none =>
      split_ifs with same
      · exact same ▸ found
      · rfl
  | some connection =>
      split_ifs with same
      · subst same
        exact AList.lookup_erase _ _
      · exact AList.lookup_erase_ne same

theorem handle_timer_find (expired : List Int) (reactor : Reactor) (fd : Int) :
    (reactor.handleTimer expired).connections.lookup fd =
      if fd ∈ expired then none else reactor.connections.lookup fd := by
  unfold handleTimer
  induction expired generalizing reactor with
  | nil => rfl
  | cons first expired ih =>
      rw [List.foldl_cons, ih, remove_connection_find]
      by_cases later : fd ∈ expired
      · rw [if_pos later, if_pos (List.mem_cons_of_mem _ later)]
      · rw [if_neg later]
        by_cases same : fd = first
        · rw [if_pos same, if_pos (same ▸ List.mem_cons_self)]
        · rw [if_neg same, if_neg]
          intro member
          rcases List.mem_cons.mp member with equal | inside
          · exact same equal
          · exact later inside

section Rules

variable (handle : Nat → HttpRequest → HandleResult) {invariant : Reactor → Prop} (fd : Int)

theorem handle_accept_invariant
    (accepts : ∀ reactor fd, invariant reactor → invariant (reactor.acceptClient fd))
    (answers : List AcceptAnswer) {reactor : Reactor} (holds : invariant reactor) :
    invariant (reactor.handleAccept answers) := by
  induction answers generalizing reactor with
  | nil => exact holds
  | cons answer answers ih =>
      cases answer with
      | interrupted => exact ih holds
      | client fd nonBlocking noDelay added =>
          unfold handleAccept
          split_ifs
          · exact ih holds
          · exact ih holds
          · exact ih holds
          · exact ih (accepts reactor fd holds)

theorem handle_timer_invariant
    (removes : ∀ reactor fd, invariant reactor → invariant (reactor.removeConnection fd))
    (expired : List Int) {reactor : Reactor} (holds : invariant reactor) :
    invariant (reactor.handleTimer expired) := by
  induction expired generalizing reactor with
  | nil => exact holds
  | cons fd expired ih => exact ih (removes reactor fd holds)

theorem drain_completions_invariant
    (pops : ∀ reactor answers, invariant reactor → invariant (reactor.popCompletion answers))
    (rounds : Nat) (answers : List WriteAnswers) {reactor : Reactor} (holds : invariant reactor) :
    invariant (drainCompletions rounds answers reactor) := by
  induction rounds generalizing reactor answers with
  | zero => exact holds
  | succ rounds ih => exact ih answers.tail (pops reactor _ holds)

theorem handle_read_hangup_invariant {reactor : Reactor}
    (disconnects : ∀ connection, reactor.connections.lookup fd = some connection →
      connection.outputQueue = [] → invariant (reactor.disconnect fd connection))
    (holds : invariant reactor) :
    invariant (reactor.handleReadHangup fd) := by
  unfold handleReadHangup
  cases found : reactor.connections.lookup fd with
  | none => exact holds
  | some connection =>
      simp only
      split_ifs with idle
      · apply disconnects connection found
        simpa [Connection.hasPendingOutput] using idle
      · exact holds

/-- The event of a client keeps what each of the handlers it may call keeps. -/
theorem handle_client_event_invariant (events : EventMask) (answers : ClientAnswers)
    (counts : ∀ reactor, invariant reactor →
      invariant { reactor with shared := reactor.shared.incrementErrors })
    (removes : ∀ reactor, invariant reactor → invariant (reactor.removeConnection fd))
    (reads : ∀ reactor, invariant reactor → invariant (reactor.handleClient handle fd answers))
    (writes : ∀ reactor, invariant reactor → invariant (reactor.handleWrite fd answers.write))
    (disconnects : ∀ reactor connection, invariant reactor →
      invariant (reactor.disconnect fd connection))
    {reactor : Reactor} (holds : invariant reactor) :
    invariant (reactor.handleClientEvent handle fd events answers) := by
  unfold handleClientEvent
  by_cases error : events.error
  · rw [if_pos error]
    exact removes _ (counts reactor holds)
  · rw [if_neg error]
    by_cases hangup : events.hangup
    · rw [if_pos hangup]
      exact removes reactor holds
    · rw [if_neg hangup]
      simp only
      have read : invariant (if events.input then reactor.handleClient handle fd answers
          else reactor) := by
        split_ifs
        · exact reads reactor holds
        · exact holds
      generalize (if events.input then reactor.handleClient handle fd answers
        else reactor) = afterRead at read ⊢
      have written : invariant (if events.output then afterRead.handleWrite fd answers.write
          else afterRead) := by
        split_ifs
        · exact writes afterRead read
        · exact read
      generalize (if events.output then afterRead.handleWrite fd answers.write
        else afterRead) = afterWrite at written ⊢
      split_ifs
      · exact handle_read_hangup_invariant fd
          (fun connection _ _ => disconnects afterWrite connection written) written
      · exact written

end Rules

end Reactor

end Aorta.Server
