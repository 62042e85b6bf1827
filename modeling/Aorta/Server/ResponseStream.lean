import Aorta.Server.RequestStream

/-!
# What a connection is answered

Beside the reactor, the responses that were put into the output queue of every connection
since it was accepted, and what was sent on its socket. As long as no file ends short, the
bytes sent and those still queued are the responses, one after the other.
-/

namespace Aorta.Net.Connection

open Aorta.Net

set_option autoImplicit false

theorem ends_short_of_zero {results : List SendResult} (never : .sent 0 ∉ results)
    (queue : List OutputBuffer) : endsShort results queue = false := by
  induction results generalizing queue with
  | nil => rfl
  | cons result results ih =>
      obtain ⟨differs, rest⟩ := not_or.mp (mt List.mem_cons.mpr never)
      unfold endsShort
      cases queue.dropWhile OutputBuffer.finished with
      | nil => rfl
      | cons output others =>
          cases result with
          | sent count =>
              dsimp only
              rw [if_neg]
              · exact ih rest _
              · intro zero
                exact differs (congrArg SendResult.sent zero.symm)
          | interrupted => exact ih rest queue
          | wouldBlock => rfl
          | failed => rfl

theorem write_nothing {connection : Connection} (empty : connection.outputQueue = [])
    (results : List SendResult) : (connection.write results).2.2 = [] := by
  unfold write writeLoop
  rw [empty]

end Aorta.Net.Connection

namespace Aorta.Server

open Aorta.Library.Ascii Aorta.Library.Run Aorta.Http Aorta.Net

set_option autoImplicit false

/-- A response in an output queue, with the descriptor of its file. -/
structure Reply where
  serial : Nat
  response : HttpResponse
  file : Option Int := none
deriving DecidableEq, Repr

/-- What was queued and sent on a connection. -/
structure Outbound where
  replies : List Reply := []
  sent : List Sent := []
deriving DecidableEq, Repr

namespace Reply

def entries (reply : Reply) : List OutputBuffer :=
  .memory reply.response.serialize 0 ::
    (reply.file.map fun fileFd => .file fileFd reply.response.fileSize 0).toList

def announced (reply : Reply) : List WireByte := reply.entries.flatMap OutputBuffer.announced

theorem entries_unsent (reply : Reply) :
    reply.entries.flatMap OutputBuffer.unsent = reply.announced := by
  apply List.flatMap_congr
  intro entry member
  have unread : entry.offset = 0 := by
    unfold entries at member
    rcases List.mem_cons.mp member with head | file
    · rw [head]
      rfl
    · obtain ⟨fileFd, -, same⟩ := Option.map_eq_some_iff.mp (Option.mem_toList.mp file)
      rw [← same]
      rfl
  unfold OutputBuffer.unsent
  rw [unread, List.drop_zero]

end Reply

namespace Outbound

def append (first second : Outbound) : Outbound :=
  ⟨first.replies ++ second.replies, first.sent ++ second.sent⟩

def announcedBytes (outbound : Outbound) : List WireByte :=
  outbound.replies.flatMap Reply.announced

def sentBytes (outbound : Outbound) : List WireByte := outbound.sent.flatMap Sent.wire

/-- What was announced is sent, or still in the queue of the connection. -/
def Accounts (outbound : Outbound) (connection : Connection) : Prop :=
  outbound.sentBytes ++ connection.unsent = outbound.announcedBytes

variable {outbound : Outbound} {connection after : Connection}

@[simp] theorem append_nothing (outbound : Outbound) : outbound.append {} = outbound := by
  unfold append
  rw [List.append_nil, List.append_nil]

theorem append_assoc (first second third : Outbound) :
    (first.append second).append third = first.append (second.append third) := by
  unfold append
  rw [List.append_assoc, List.append_assoc]

theorem Accounts.same_queue (accounts : outbound.Accounts connection)
    (same : after.outputQueue = connection.outputQueue) : outbound.Accounts after := by
  unfold Accounts Connection.unsent at accounts ⊢
  rwa [same]

theorem Accounts.queue (accounts : outbound.Accounts connection) {replies : List Reply}
    (queued : after.outputQueue = connection.outputQueue ++ replies.flatMap Reply.entries) :
    (outbound.append ⟨replies, []⟩).Accounts after := by
  have fresh : (replies.flatMap Reply.entries).flatMap OutputBuffer.unsent =
      replies.flatMap Reply.announced := by
    rw [List.flatMap_assoc]
    exact List.flatMap_congr fun reply _ => reply.entries_unsent
  unfold Accounts sentBytes announcedBytes Connection.unsent at accounts ⊢
  unfold append
  dsimp only
  rw [queued, List.append_nil, List.flatMap_append, fresh, List.flatMap_append, ← accounts,
    List.append_assoc]

theorem Accounts.write (accounts : outbound.Accounts connection) {results : List SendResult}
    (never : .sent 0 ∉ results) :
    (outbound.append ⟨[], (connection.write results).2.2⟩).Accounts
      (connection.write results).2.1 := by
  have conserves := connection.write_conserves results
    (Connection.ends_short_of_zero never connection.outputQueue)
  unfold Accounts sentBytes announcedBytes at accounts ⊢
  unfold append
  dsimp only
  rw [List.append_nil, List.flatMap_append, List.append_assoc, conserves, accounts]

theorem Accounts.sent_prefix (accounts : outbound.Accounts connection) :
    outbound.sentBytes <+: outbound.announcedBytes :=
  ⟨connection.unsent, accounts⟩

end Outbound

namespace Session

variable (handle : Nat → HttpRequest → HandleResult) (openFile : Bytes → Option Int)

/-- What `answer` puts into the queue. -/
def answerReplies (serial : Nat) (connection : Connection) (response : HttpResponse) :
    List Reply :=
  let (queued, connection) := connection.queueResponse response.serialize
  if !queued then []
  else if sendsFile response then
    let (queued, _) := connection.queueFile openFile response.filePath response.fileSize
    [⟨serial, response, if queued then openFile response.filePath else none⟩]
  else [⟨serial, response, none⟩]

/-- What `dispatch` puts into the queue. -/
def dispatchReplies (session : Session) : List Reply :=
  match handle session.shared.serial session.connection.getRequest with
  | .pending => []
  | .completed response =>
      answerReplies openFile session.shared.serial
        (if session.closes then session.connection.setCloseAfterWrite true
          else session.connection)
        (if session.closes then response.setConnection (ascii "close") else response)

/-- What is put into the queue after a read. -/
def Read.replies (read : Read) : List Reply :=
  (read.dispatches handle openFile).flatMap (dispatchReplies handle openFile)

/-- What the outer loop puts into the queue. -/
def readLoopReplies (fuel : Nat) (recvs : List RecvResult) (session : Session) : List Reply :=
  (session.reads handle openFile fuel recvs).flatMap (Read.replies handle openFile)

theorem Read.replies_nothing (before after : Session) {result : Connection.ReadResult}
    (other : result ≠ .dataReceived) :
    Read.replies handle openFile ⟨before, result, after⟩ = [] := by
  unfold Read.replies
  rw [Read.dispatches_nothing handle openFile before after other, List.flatMap_nil]

theorem answer_queue (session : Session) (serial : Nat) (connection : Connection)
    (response : HttpResponse) :
    (session.answer openFile serial connection response).2.connection.outputQueue =
      connection.outputQueue ++
        (answerReplies openFile serial connection response).flatMap Reply.entries := by
  have queue := connection.queue_response_queue response.serialize
  unfold answer answerReplies
  cases queued : connection.queueResponse response.serialize with
  | mk accepted afterResponse =>
      rw [queued] at queue
      cases accepted with
      | false =>
          simp only [Bool.not_false, if_true, List.flatMap_nil, List.append_nil]
          exact queue
      | true =>
          have plain : afterResponse.outputQueue =
              connection.outputQueue ++ [.memory response.serialize 0] := queue
          cases sendsFile response with
          | false =>
              simp only [Bool.not_true, Bool.false_eq_true, if_false, List.flatMap_cons,
                List.flatMap_nil, List.append_nil]
              rw [(finish_output _).1]
              exact plain
          | true =>
              have fileQueue := afterResponse.queue_file_queue openFile response.filePath
                response.fileSize
              cases queuedFile : afterResponse.queueFile openFile response.filePath
                  response.fileSize with
              | mk accepted afterFile =>
                  rw [queuedFile] at fileQueue
                  cases accepted with
                  | false =>
                      simp only [Bool.not_true, Bool.false_eq_true, if_false, if_true,
                        queuedFile, Bool.not_false, List.flatMap_cons, List.flatMap_nil,
                        List.append_nil]
                      exact (show afterFile.outputQueue = afterResponse.outputQueue from
                        fileQueue).trans plain
                  | true =>
                      simp only [Bool.not_true, Bool.false_eq_true, if_false, if_true,
                        queuedFile, List.flatMap_cons, List.flatMap_nil, List.append_nil]
                      rw [(finish_output _).1]
                      have longer : afterFile.outputQueue = afterResponse.outputQueue ++
                          ((openFile response.filePath).map fun fileFd =>
                            OutputBuffer.file fileFd response.fileSize 0).toList := fileQueue
                      rw [longer, plain, List.append_assoc]
                      rfl

theorem dispatch_queue (session : Session) :
    (session.dispatch handle openFile).2.connection.outputQueue =
      session.connection.outputQueue ++
        (session.dispatchReplies handle openFile).flatMap Reply.entries := by
  unfold dispatch dispatchReplies
  dsimp only
  cases handle session.shared.serial session.connection.getRequest with
  | pending =>
      dsimp only
      rw [List.flatMap_nil, List.append_nil]
      exact session.connection.consume_parsed_bytes_output.1
  | completed response =>
      dsimp only
      unfold respond
      rw [answer_queue]
      have same : (if session.closes then session.connection.setCloseAfterWrite true
          else session.connection).outputQueue = session.connection.outputQueue := by
        split_ifs <;> rfl
      change (if session.closes then session.connection.setCloseAfterWrite true
        else session.connection).outputQueue ++ _ = _
      rw [same]
      rfl

theorem serve_queue (fuel : Nat) (session : Session) :
    (session.serve handle openFile fuel).2.connection.outputQueue =
      session.connection.outputQueue ++
        ((session.dispatches handle openFile fuel).flatMap
          (dispatchReplies handle openFile)).flatMap Reply.entries := by
  have parse : ∀ (session : Session) result connection,
      session.connection.parseRequest = (result, connection) →
      connection.outputQueue = session.connection.outputQueue := by
    intro session result connection parsed
    have same := session.connection.parse_request_output.1
    rwa [parsed] at same
  have queued : ∀ (session : Session) connection served after,
      session.connection.parseRequest = (.complete, connection) →
      dispatch handle openFile { session with connection := connection } = (served, after) →
      after.connection.outputQueue = session.connection.outputQueue ++
        (dispatchReplies handle openFile { session with connection := connection }).flatMap
          Reply.entries := by
    intro session connection served after parsed outcome
    have queue := dispatch_queue handle openFile { session with connection := connection }
    rw [outcome] at queue
    exact queue.trans (congrArg (· ++ _) (parse session _ connection parsed))
  refine @serve_rounds handle openFile (fun session others outcome =>
    outcome.2.connection.outputQueue = session.connection.outputQueue ++
      (others.flatMap (dispatchReplies handle openFile)).flatMap Reply.entries)
    ?_ ?_ ?_ ?_ ?_ fuel session
  · exact fun session => (List.append_nil _).symm
  · intro session connection parsed
    rw [List.flatMap_nil, List.flatMap_nil, List.append_nil]
    exact connection.consume_parsed_bytes_output.1.trans (parse session _ connection parsed)
  · intro session result connection parsed _ _
    rw [List.flatMap_nil, List.flatMap_nil, List.append_nil]
    exact parse session result connection parsed
  · intro session connection served after parsed outcome _
    rw [List.flatMap_singleton]
    exact queued session connection served after parsed outcome
  · intro session connection after others outcome parsed waiting rest
    rw [rest, queued session connection .waiting after parsed waiting, List.flatMap_cons,
      List.flatMap_append, List.append_assoc]

theorem read_loop_queue (fuel : Nat) (recvs : List RecvResult) (session : Session) :
    (session.readLoop handle openFile fuel recvs).2.connection.outputQueue =
      session.connection.outputQueue ++
        (session.readLoopReplies handle openFile fuel recvs).flatMap Reply.entries := by
  have read : ∀ (session : Session) recvs result connection rest,
      session.connection.read recvs = (result, connection, rest) →
      connection.outputQueue = session.connection.outputQueue := by
    intro session recvs result connection rest answered
    have same := (session.connection.read_output recvs).1
    rwa [answered] at same
  have unanswered : ∀ (session : Session) recvs result connection rest,
      session.connection.read recvs = (result, connection, rest) → result ≠ .dataReceived →
      connection.outputQueue = session.connection.outputQueue ++
        (List.flatMap (Read.replies handle openFile)
          [⟨session, result, { session with connection := connection }⟩]).flatMap
            Reply.entries := by
    intro session recvs result connection rest answered other
    rw [List.flatMap_singleton, Read.replies_nothing handle openFile _ _ other, List.flatMap_nil,
      List.append_nil]
    exact read session recvs result connection rest answered
  have served : ∀ (session : Session) recvs connection rest served after,
      session.connection.read recvs = (.dataReceived, connection, rest) →
      serveAll handle openFile (received { session with connection := connection }) =
        (served, after) →
      after.connection.outputQueue = session.connection.outputQueue ++
        (Read.replies handle openFile
          ⟨session, .dataReceived, { session with connection := connection }⟩).flatMap
            Reply.entries := by
    intro session recvs connection rest served after answered serves
    have queue := serve_queue handle openFile (connection.receiveBuffer.length + 2)
      (received { session with connection := connection })
    change (serveAll handle openFile _).2.connection.outputQueue = _ at queue
    rw [serves] at queue
    exact queue.trans (congrArg (· ++ _) (read session recvs _ connection rest answered))
  refine @read_loop_rounds handle openFile (fun session reads outcome =>
    outcome.2.connection.outputQueue = session.connection.outputQueue ++
      (reads.flatMap (Read.replies handle openFile)).flatMap Reply.entries)
    ?_ ?_ ?_ ?_ ?_ ?_ fuel recvs session
  · exact fun session => (List.append_nil _).symm
  · intro session recvs connection rest answered
    exact unanswered session recvs _ connection rest answered (by decide)
  · intro session recvs result connection rest answered bad
    exact unanswered session recvs _ connection rest answered
      (by rcases bad with rfl | rfl <;> decide)
  · intro session recvs connection rest answered
    exact unanswered session recvs _ connection rest answered (by decide)
  · intro session recvs connection rest result after answered serves _
    rw [List.flatMap_singleton]
    exact served session recvs connection rest result after answered serves
  · intro session recvs connection rest after others outcome answered serves _ later
    rw [later, served session recvs connection rest .waiting after answered serves,
      List.flatMap_cons, List.flatMap_append, List.append_assoc]

end Session

namespace Reactor

/-- Whether the response of a completion is queued. -/
def completionQueued (reactor : Reactor) (callback : Callback) (response : HttpResponse) : Bool :=
  match reactor.connections.lookup callback.fd, reactor.connectionStates.lookup callback.fd with
  | some connection, some state =>
      let connection :=
        if callback.closeAfterWrite then connection.setCloseAfterWrite true else connection
      let response :=
        if callback.closeAfterWrite then response.setConnection (ascii "close") else response
      isGenerationCurrent state callback.generation && state.redisPending && !response.hasFile &&
        (connection.queueResponse response.serialize).1
  | _, _ => false

theorem queued_completes {reactor : Reactor} {callback : Callback} {response : HttpResponse}
    (answers : WriteAnswers) (queued : reactor.completionQueued callback response = true) :
    ∃ connection state, reactor.connections.lookup callback.fd = some connection ∧
      reactor.connectionStates.lookup callback.fd = some state ∧
      state.generation = callback.generation ∧ state.redisPending = true ∧
      let queuing :=
        if callback.closeAfterWrite then connection.setCloseAfterWrite true else connection
      let completed :=
        if callback.closeAfterWrite then response.setConnection (ascii "close") else response
      (queuing.queueResponse completed.serialize).1 = true ∧
        reactor.completeAsyncResponse callback response answers =
          (reactor.put ⟨callback.fd, (queuing.queueResponse completed.serialize).2,
            state.answered reactor.shared.clock, reactor.shared.respond callback.serial
              callback.fd state.generation⟩).handleWrite callback.fd answers := by
  unfold completionQueued at queued
  unfold completeAsyncResponse
  cases here : reactor.connections.lookup callback.fd with
  | none =>
      rw [here] at queued
      cases queued
  | some connection =>
      cases hereState : reactor.connectionStates.lookup callback.fd with
      | none =>
          rw [here, hereState] at queued
          cases queued
      | some state =>
          rw [here, hereState] at queued
          simp only [Bool.and_eq_true, Bool.not_eq_true'] at queued
          obtain ⟨⟨⟨current, waits⟩, plain⟩, accepts⟩ := queued
          refine ⟨connection, state, rfl, rfl, beq_iff_eq.mp current, waits, accepts, ?_⟩
          simp only [current, waits, plain, accepts, Bool.not_true, Bool.false_eq_true, if_false]
          rfl

theorem unqueued_completes {reactor : Reactor} {callback : Callback} {response : HttpResponse}
    (answers : WriteAnswers) (unqueued : reactor.completionQueued callback response = false) :
    reactor.completeAsyncResponse callback response answers = reactor ∨
      ∃ session : Session, session.fd = callback.fd ∧
        session.shared = reactor.shared.incrementErrors ∧
        reactor.completeAsyncResponse callback response answers =
          (reactor.put session).removeConnection callback.fd := by
  unfold completionQueued at unqueued
  unfold completeAsyncResponse
  cases here : reactor.connections.lookup callback.fd with
  | none => exact .inl rfl
  | some connection =>
      cases hereState : reactor.connectionStates.lookup callback.fd with
      | none => exact .inl rfl
      | some state =>
          rw [here, hereState] at unqueued
          dsimp only at unqueued ⊢
          by_cases stale : (!isGenerationCurrent state callback.generation) = true
          · rw [if_pos stale]
            exact .inl rfl
          rw [if_neg stale]
          by_cases idle : (!state.redisPending) = true
          · rw [if_pos idle]
            exact .inl rfl
          rw [if_neg idle]
          generalize (if callback.closeAfterWrite then connection.setCloseAfterWrite true
            else connection) = queuing at unqueued ⊢
          generalize (if callback.closeAfterWrite then response.setConnection (ascii "close")
            else response) = completed at unqueued ⊢
          by_cases file : completed.hasFile = true
          · rw [if_pos file]
            exact .inr ⟨_, rfl, rfl, rfl⟩
          rw [if_neg file]
          by_cases full : (!(queuing.queueResponse completed.serialize).1) = true
          · rw [if_pos full]
            exact .inr ⟨_, rfl, rfl, rfl⟩
          rw [Bool.not_eq_true, Bool.not_eq_false'] at stale idle full
          rw [Bool.not_eq_true] at file
          rw [stale, idle, file, full] at unqueued
          cases unqueued

variable (handle : Nat → HttpRequest → HandleResult)

/-- What `handleWrite` sends. -/
def writeSent (reactor : Reactor) (fd : Int) (answers : WriteAnswers) : List Sent :=
  match reactor.connections.lookup fd with
  | none => []
  | some connection => (connection.write answers.sends).2.2

/-- What `handleClient` queues and sends. -/
def clientOutbound (reactor : Reactor) (fd : Int) (answers : ClientAnswers) : Outbound :=
  match reactor.connections.lookup fd, reactor.connectionStates.lookup fd with
  | some connection, some state =>
      if state.redisPending then {}
      else
        let session : Session := ⟨fd, connection, state, reactor.shared⟩
        let (served, after) := session.readLoop handle answers.openFile
          (answers.recvs.length + 1) answers.recvs
        ⟨session.readLoopReplies handle answers.openFile (answers.recvs.length + 1) answers.recvs,
          match served with
          | .waiting | .closing => (reactor.put after).writeSent fd answers.inline
          | _ => []⟩
  | _, _ => {}

/-- The reply that a completion brings, and what is sent with it. -/
def completionOutbound (reactor : Reactor) (callback : Callback) (response : HttpResponse)
    (answers : WriteAnswers) : Outbound :=
  match reactor.connections.lookup callback.fd with
  | none => {}
  | some connection =>
      if reactor.completionQueued callback response then
        let connection :=
          if callback.closeAfterWrite then connection.setCloseAfterWrite true else connection
        let response :=
          if callback.closeAfterWrite then response.setConnection (ascii "close") else response
        ⟨[⟨callback.serial, response, none⟩],
          ((connection.queueResponse response.serialize).2.write answers.sends).2.2⟩
      else {}

/-- What the completions bring to a descriptor. -/
def drainOutbound : Nat → List WriteAnswers → Reactor → Int → Outbound
  | 0, _, _, _ => {}
  | rounds + 1, answers, reactor, fd =>
      let rest := drainOutbound rounds answers.tail (reactor.popCompletion (answers.headD {})) fd
      match reactor.shared.completions with
      | [] => rest
      | (callback, response) :: _ =>
          if callback.fd = fd then
            (reactor.completionOutbound callback response (answers.headD {})).append rest
          else rest

/-- What is queued and sent on a descriptor while an event is handled. -/
def outbound (reactor : Reactor) (input : Input) (fd : Int) : Outbound :=
  match input with
  | .completions answers =>
      drainOutbound reactor.shared.completions.length answers reactor fd
  | .client client events answers =>
      if fd ≠ client ∨ events.error ∨ events.hangup then {}
      else
        let read :=
          if events.input then reactor.clientOutbound handle client answers else {}
        let reading := if events.input then reactor.handleClient handle client answers else reactor
        read.append ⟨[], if events.output then reading.writeSent client answers.write else []⟩
  | _ => {}

/-- Every answer of the kernel to a `send` or a `sendfile`. -/
def Input.sends : Input → List SendResult
  | .completions answers => answers.flatMap WriteAnswers.sends
  | .client _ _ answers => answers.inline.sends ++ answers.write.sends
  | _ => []

/-- The queues of the connections that are still open have not changed. -/
def KeepsQueues (before after : Reactor) : Prop :=
  ∀ fd connection, after.connections.lookup fd = some connection →
    ∃ old, before.connections.lookup fd = some old ∧
      connection.outputQueue = old.outputQueue

theorem remove_connection_queues (reactor : Reactor) (fd : Int) :
    KeepsQueues reactor (reactor.removeConnection fd) := by
  intro other connection found
  rw [remove_connection_find] at found
  split_ifs at found
  exact ⟨connection, found, rfl⟩

theorem disconnect_queues (reactor : Reactor) (fd : Int) (connection : Connection) :
    KeepsQueues reactor (reactor.disconnect fd connection) := by
  unfold disconnect
  cases reactor.connectionStates.lookup fd with
  | none => exact remove_connection_queues reactor fd
  | some state => exact remove_connection_queues { reactor with shared := _ } fd

theorem update_events_queues (reactor : Reactor) (fd : Int) (events : EventMask)
    (modified : Bool) : KeepsQueues reactor (reactor.updateEvents fd events modified) := by
  have same : KeepsQueues reactor reactor := fun _ connection found => ⟨connection, found, rfl⟩
  unfold updateEvents
  cases reactor.connectionStates.lookup fd with
  | none => exact same
  | some state =>
      dsimp only
      split_ifs
      · exact same
      · exact remove_connection_queues
          { reactor with shared := reactor.shared.incrementErrors } fd
      · exact same

/-- Every open connection has queued what is announced on it and not yet sent. -/
def Owes (said : Int → Outbound) (reactor : Reactor) : Prop :=
  ∀ fd, (said fd).sentBytes <+: (said fd).announcedBytes ∧
    ∀ connection, reactor.connections.lookup fd = some connection →
      (said fd).Accounts connection

section Owes

variable {said : Int → Outbound} {reactor after : Reactor}

theorem Owes.queues (owes : reactor.Owes said) (keeps : KeepsQueues reactor after) :
    after.Owes said := by
  intro fd
  refine ⟨(owes fd).1, ?_⟩
  intro connection found
  obtain ⟨old, foundOld, same⟩ := keeps fd connection found
  exact ((owes fd).2 old foundOld).same_queue same

theorem Owes.congr {other : Int → Outbound} (owes : reactor.Owes said)
    (same : ∀ fd, other fd = said fd) : reactor.Owes other := by
  rwa [show other = said from funext same]

theorem Owes.replaced (owes : reactor.Owes said) {fd : Int} {connection : Connection}
    {outbound : Outbound}
    (find : ∀ other, after.connections.lookup other =
      if other = fd then some connection else reactor.connections.lookup other)
    (accounts : outbound.Accounts connection) :
    after.Owes fun other => if other = fd then outbound else said other := by
  intro other
  have here := find other
  dsimp only
  by_cases same : other = fd
  · rw [if_pos same] at here ⊢
    refine ⟨accounts.sent_prefix, ?_⟩
    intro found isFound
    rw [here] at isFound
    cases isFound
    exact accounts
  · rw [if_neg same] at here ⊢
    refine ⟨(owes other).1, ?_⟩
    rw [here]
    exact (owes other).2

theorem insert_find (connections : Table Connection) (fd : Int) (connection : Connection)
    (other : Int) :
    (connections.insert fd connection).lookup other =
      if other = fd then some connection else connections.lookup other := by
  split_ifs with same
  · rw [same, AList.lookup_insert]
  · rw [AList.lookup_insert_ne same]

theorem Owes.nothing (owes : reactor.Owes said) (fd : Int) :
    reactor.Owes fun other => if other = fd then (said fd).append {} else said other := by
  apply owes.congr
  intro other
  split_ifs with same
  · rw [Outbound.append_nothing, same]
  · rfl

theorem handle_write_owes (owes : reactor.Owes said) (fd : Int) (answers : WriteAnswers)
    (never : .sent 0 ∉ answers.sends) :
    (reactor.handleWrite fd answers).Owes fun other =>
      if other = fd then (said fd).append ⟨[], reactor.writeSent fd answers⟩
      else said other := by
  unfold writeSent handleWrite
  cases found : reactor.connections.lookup fd with
  | none => exact owes.nothing fd
  | some connection =>
      dsimp only
      by_cases idle : (!connection.hasPendingOutput) = true
      · rw [if_pos idle]
        have empty : connection.outputQueue = [] := by
          simpa [Connection.hasPendingOutput] using idle
        rw [Connection.write_nothing empty]
        exact owes.nothing fd
      · rw [if_neg idle]
        have accounts := ((owes fd).2 connection found).write never
        generalize connection.write answers.sends = outcome at accounts ⊢
        obtain ⟨result, written, sent⟩ := outcome
        dsimp only at accounts ⊢
        have stored : ∀ shared : Shared, Owes (fun other =>
            if other = fd then (said fd).append ⟨[], sent⟩ else said other)
            { reactor with
              connections := reactor.connections.insert fd written
              shared := shared } :=
          fun shared => owes.replaced (insert_find reactor.connections fd written) accounts
        cases result with
        | error => exact (stored _).queues (remove_connection_queues _ fd)
        | wouldBlock => exact (stored reactor.shared).queues (update_events_queues _ fd _ _)
        | complete =>
            dsimp only
            split_ifs
            · exact (stored _).queues (remove_connection_queues _ fd)
            · exact (stored _).queues (update_events_queues _ fd _ _)

variable (handle : Nat → HttpRequest → HandleResult)

theorem handle_client_owes (owes : reactor.Owes said) (fd : Int) (answers : ClientAnswers)
    (never : .sent 0 ∉ answers.inline.sends) :
    (reactor.handleClient handle fd answers).Owes fun other =>
      if other = fd then (said fd).append (reactor.clientOutbound handle fd answers)
      else said other := by
  unfold clientOutbound handleClient
  cases found : reactor.connections.lookup fd with
  | none => exact owes.nothing fd
  | some connection =>
      cases foundState : reactor.connectionStates.lookup fd with
      | none => exact (owes.nothing fd).queues (remove_connection_queues reactor fd)
      | some state =>
          dsimp only
          by_cases waits : state.redisPending
          · rw [if_pos waits, if_pos waits]
            exact owes.nothing fd
          · rw [if_neg waits, if_neg waits]
            have queue := Session.read_loop_queue handle answers.openFile
              (answers.recvs.length + 1) answers.recvs ⟨fd, connection, state, reactor.shared⟩
            have sameFd := (Session.read_loop_fetched handle answers.openFile
              (answers.recvs.length + 1) answers.recvs
              (show (Session.mk fd connection state reactor.shared).state.redisPending = false
                from Bool.eq_false_iff.mpr waits)).1
            generalize Session.readLoopReplies handle answers.openFile
              (answers.recvs.length + 1) answers.recvs
              ⟨fd, connection, state, reactor.shared⟩ = replies at queue ⊢
            generalize Session.readLoop handle answers.openFile (answers.recvs.length + 1)
              answers.recvs ⟨fd, connection, state, reactor.shared⟩ = outcome at queue sameFd ⊢
            obtain ⟨served, session⟩ := outcome
            dsimp only at queue sameFd ⊢
            have stored : (reactor.put session).Owes fun other =>
                if other = fd then (said fd).append ⟨replies, []⟩ else said other := by
              apply owes.replaced _ (((owes fd).2 connection found).queue queue)
              intro other
              unfold put
              dsimp only
              rw [sameFd]
              exact insert_find reactor.connections fd session.connection other
            have written : ((reactor.put session).handleWrite fd answers.inline).Owes fun other =>
                if other = fd then (said fd).append
                  ⟨replies, (reactor.put session).writeSent fd answers.inline⟩
                else said other := by
              apply (handle_write_owes stored fd answers.inline never).congr
              intro other
              by_cases same : other = fd
              · rw [if_pos same, if_pos same, if_pos rfl, Outbound.append_assoc]
                unfold Outbound.append
                dsimp only
                rw [List.append_nil, List.nil_append]
              · rw [if_neg same, if_neg same, if_neg same]
            have goesOn : (if session.connection.hasPendingOutput then
                (reactor.put session).handleWrite fd answers.inline else reactor.put session).Owes
                fun other => if other = fd then (said fd).append
                  ⟨replies, (reactor.put session).writeSent fd answers.inline⟩
                else said other := by
              split_ifs with some
              · exact written
              · have empty : session.connection.outputQueue = [] := by
                  simpa [Connection.hasPendingOutput] using some
                have nothing : (reactor.put session).writeSent fd answers.inline = [] := by
                  unfold writeSent put
                  dsimp only
                  rw [sameFd, AList.lookup_insert]
                  exact Connection.write_nothing empty _
                rw [nothing]
                exact stored
            cases served with
            | failed => exact stored.queues (remove_connection_queues _ fd)
            | pending => exact stored.queues (update_events_queues _ fd _ _)
            | waiting => exact goesOn
            | closing => exact goesOn

theorem complete_async_response_owes (owes : reactor.Owes said) (callback : Callback)
    (response : HttpResponse) (answers : WriteAnswers) (never : .sent 0 ∉ answers.sends) :
    (reactor.completeAsyncResponse callback response answers).Owes fun other =>
      if other = callback.fd then
        (said callback.fd).append (reactor.completionOutbound callback response answers)
      else said other := by
  unfold completionOutbound
  cases queued : reactor.completionQueued callback response with
  | false =>
      have silent : (reactor.completeAsyncResponse callback response answers).Owes said := by
        rcases unqueued_completes answers queued with same | ⟨session, sameFd, -, gone⟩
        · rwa [same]
        · rw [gone]
          apply owes.queues
          intro other connection found
          rw [remove_connection_find] at found
          split_ifs at found with same
          unfold put at found
          dsimp only at found
          rw [AList.lookup_insert_ne (sameFd.symm ▸ same)] at found
          exact ⟨connection, found, rfl⟩
      apply (silent.nothing callback.fd).congr
      intro other
      cases reactor.connections.lookup callback.fd with
      | none => rfl
      | some connection => rfl
  | true =>
      obtain ⟨connection, state, found, -, -, -, accepted, completes⟩ :=
        queued_completes answers queued
      rw [found, completes]
      dsimp only
      have sameQueue : (if callback.closeAfterWrite then connection.setCloseAfterWrite true
          else connection).outputQueue = connection.outputQueue := by
        split_ifs <;> rfl
      rw [if_pos rfl]
      generalize (if callback.closeAfterWrite then connection.setCloseAfterWrite true
        else connection) = queuing at accepted sameQueue ⊢
      generalize (if callback.closeAfterWrite then response.setConnection (ascii "close")
        else response) = completed at accepted ⊢
      have queue := queuing.queue_response_queue completed.serialize
      rw [if_pos accepted, sameQueue] at queue
      have accounts := ((owes callback.fd).2 connection found).queue
        (show (queuing.queueResponse completed.serialize).2.outputQueue =
          connection.outputQueue ++
            [(⟨callback.serial, completed, none⟩ : Reply)].flatMap Reply.entries from queue)
      have stored : (reactor.put ⟨callback.fd, (queuing.queueResponse completed.serialize).2,
          state.answered reactor.shared.clock, reactor.shared.respond callback.serial callback.fd
            state.generation⟩).Owes _ :=
        owes.replaced (insert_find reactor.connections callback.fd _) accounts
      apply (handle_write_owes stored callback.fd answers never).congr
      intro other
      by_cases same : other = callback.fd
      · rw [if_pos same, if_pos same, if_pos rfl, Outbound.append_assoc]
        unfold Outbound.append writeSent put
        dsimp only
        rw [AList.lookup_insert, List.append_nil, List.nil_append]
      · rw [if_neg same, if_neg same, if_neg same]

theorem drain_owes (rounds : Nat) (answers : List WriteAnswers)
    (never : .sent 0 ∉ answers.flatMap WriteAnswers.sends) (owes : reactor.Owes said) :
    (drainCompletions rounds answers reactor).Owes fun fd =>
      (said fd).append (drainOutbound rounds answers reactor fd) := by
  induction rounds generalizing answers reactor said with
  | zero =>
      apply owes.congr
      intro fd
      exact Outbound.append_nothing _
  | succ rounds ih =>
      have head : .sent 0 ∉ (answers.headD {}).sends := by
        cases answers with
        | nil => exact List.not_mem_nil
        | cons first answers =>
            intro member
            exact never (List.mem_append_left _ member)
      have tail : .sent 0 ∉ answers.tail.flatMap WriteAnswers.sends := by
        cases answers with
        | nil => exact never
        | cons first answers =>
            intro member
            exact never (List.mem_append_right _ member)
      unfold drainCompletions drainOutbound popCompletion
      cases reactor.shared.completions with
      | nil => exact ih answers.tail tail owes
      | cons entry completions =>
          obtain ⟨callback, response⟩ := entry
          dsimp only
          have popped : Owes said { reactor with
              shared := { reactor.shared with completions := completions } } := owes
          have completed := complete_async_response_owes popped callback response
            (answers.headD {}) head
          apply (ih answers.tail tail completed).congr
          intro fd
          by_cases same : callback.fd = fd
          · rw [if_pos same, if_pos same.symm, Outbound.append_assoc, same]
            rfl
          · rw [if_neg same, if_neg (Ne.symm same)]

theorem handle_client_event_owes (owes : reactor.Owes said) (fd : Int) (events : EventMask)
    (answers : ClientAnswers) (neverInline : .sent 0 ∉ answers.inline.sends)
    (neverWrite : .sent 0 ∉ answers.write.sends) :
    (reactor.handleClientEvent handle fd events answers).Owes fun other =>
      (said other).append (reactor.outbound handle (.client fd events answers) other) := by
  obtain ⟨input, output, readHangup, error, hangup⟩ := events
  have ended : (error ∨ hangup) → ∀ other, (said other).append (reactor.outbound handle
      (.client fd ⟨input, output, readHangup, error, hangup⟩ answers) other) = said other := by
    intro unspoken other
    unfold outbound
    dsimp only
    rw [if_pos (Or.inr unspoken), Outbound.append_nothing]
  unfold handleClientEvent
  dsimp only
  by_cases failed : error = true
  · rw [if_pos failed]
    have unchanged : Owes said { reactor with shared := reactor.shared.incrementErrors } := owes
    exact (unchanged.queues (remove_connection_queues _ fd)).congr (ended (.inl failed))
  · rw [if_neg failed]
    by_cases hung : hangup = true
    · rw [if_pos hung]
      exact (owes.queues (remove_connection_queues _ fd)).congr (ended (.inr hung))
    · rw [if_neg hung]
      have read : (if input = true then reactor.handleClient handle fd answers
          else reactor).Owes fun other => if other = fd then (said fd).append
            (if input = true then reactor.clientOutbound handle fd answers else {})
          else said other := by
        by_cases reads : input = true
        · rw [if_pos reads, if_pos reads]
          exact handle_client_owes handle owes fd answers neverInline
        · rw [if_neg reads, if_neg reads]
          exact owes.nothing fd
      have written : (if output = true then
          (if input = true then reactor.handleClient handle fd answers else reactor).handleWrite fd
            answers.write
          else (if input = true then reactor.handleClient handle fd answers else reactor)).Owes
          fun other => (said other).append (reactor.outbound handle
            (.client fd ⟨input, output, readHangup, error, hangup⟩ answers) other) := by
        unfold outbound
        dsimp only
        generalize (if input = true then reactor.handleClient handle fd answers else reactor) =
          reading at read ⊢
        have spoken : (if output = true then reading.handleWrite fd answers.write
            else reading).Owes fun other => if other = fd then
              ((said fd).append (if input = true then reactor.clientOutbound handle fd answers
                else {})).append
                ⟨[], if output = true then reading.writeSent fd answers.write else []⟩
              else said other := by
          by_cases writes : output = true
          · rw [if_pos writes, if_pos writes]
            apply (handle_write_owes read fd answers.write neverWrite).congr
            intro other
            by_cases same : other = fd
            · rw [if_pos same, if_pos same, if_pos rfl]
            · rw [if_neg same, if_neg same, if_neg same]
          · rw [if_neg writes, if_neg writes]
            apply read.congr
            intro other
            by_cases same : other = fd
            · rw [if_pos same, if_pos same]
              exact Outbound.append_nothing _
            · rw [if_neg same, if_neg same]
        apply spoken.congr
        intro other
        by_cases same : other = fd
        · rw [if_pos same, if_neg (by simp [same, failed, hung]), Outbound.append_assoc, same]
        · rw [if_neg same, if_pos (Or.inl same), Outbound.append_nothing]
      generalize (if output = true then
        (if input = true then reactor.handleClient handle fd answers else reactor).handleWrite fd
          answers.write
        else (if input = true then reactor.handleClient handle fd answers else reactor)) =
        writing at written ⊢
      split_ifs
      · apply handle_read_hangup_invariant fd _ written
        intro connection _ _
        exact written.queues (disconnect_queues writing fd connection)
      · exact written

end Owes

theorem handle_accept_owes {said : Int → Outbound} {reactor : Reactor} (owes : reactor.Owes said)
    (answers : List AcceptAnswer) :
    (reactor.handleAccept answers).Owes fun fd =>
      if fd ∈ acceptedFds answers then {} else said fd := by
  intro fd
  dsimp only
  have find := handle_accept_find answers reactor fd
  by_cases accepted : fd ∈ acceptedFds answers
  · rw [if_pos accepted] at find ⊢
    refine ⟨List.prefix_rfl, ?_⟩
    intro connection found
    rw [find] at found
    cases found
    rfl
  · rw [if_neg accepted] at find ⊢
    refine ⟨(owes fd).1, ?_⟩
    rw [find]
    exact (owes fd).2

theorem step_owes {said : Int → Outbound} {reactor : Reactor} (owes : reactor.Owes said)
    (input : Input) (never : .sent 0 ∉ input.sends) :
    (reactor.step handle input).Owes fun fd =>
      (if fd ∈ input.accepted then {} else said fd).append (reactor.outbound handle input fd) := by
  have silent : ∀ {after : Reactor}, KeepsQueues reactor after →
      after.Owes fun fd => (if fd ∈ ([] : List Int) then {} else said fd).append {} := by
    intro after keeps
    simpa only [List.not_mem_nil, if_false, Outbound.append_nothing] using owes.queues keeps
  cases input with
  | accept answers =>
      change (reactor.handleAccept answers).Owes fun fd =>
        (if fd ∈ acceptedFds answers then {} else said fd).append {}
      simpa only [Outbound.append_nothing] using handle_accept_owes owes answers
  | timer expired =>
      apply silent
      intro fd connection found
      change (reactor.handleTimer expired).connections.lookup fd = some connection at found
      rw [handle_timer_find] at found
      split_ifs at found
      exact ⟨connection, found, rfl⟩
  | completions answers =>
      change (drainCompletions reactor.shared.completions.length answers reactor).Owes fun fd =>
        (if fd ∈ ([] : List Int) then {} else said fd).append
          (drainOutbound reactor.shared.completions.length answers reactor fd)
      simpa only [List.not_mem_nil, if_false] using drain_owes _ answers never owes
  | client fd events answers =>
      change (reactor.handleClientEvent handle fd events answers).Owes fun other =>
        (if other ∈ ([] : List Int) then {} else said other).append
          (reactor.outbound handle (.client fd events answers) other)
      have neverInline : .sent 0 ∉ answers.inline.sends :=
        fun member => never (List.mem_append_left _ member)
      have neverWrite : .sent 0 ∉ answers.write.sends :=
        fun member => never (List.mem_append_right _ member)
      simpa only [List.not_mem_nil, if_false] using
        handle_client_event_owes handle owes fd events answers neverInline neverWrite
  | worker job response =>
      apply silent
      change KeepsQueues reactor (reactor.finishJob job response)
      have same : KeepsQueues reactor reactor := fun _ connection found => ⟨connection, found, rfl⟩
      unfold finishJob
      cases reactor.shared.jobs[job]? with
      | none => exact same
      | some callback => exact same

end Reactor

/-- A reactor with what came in and went out on each descriptor since it was accepted last. -/
structure TalkingReactor extends HeardReactor where
  said : Int → Outbound := fun _ => {}

namespace TalkingReactor

variable (handle : Nat → HttpRequest → HandleResult)

def step (talking : TalkingReactor) (input : Reactor.Input) : TalkingReactor where
  toHeardReactor := talking.toHeardReactor.step handle input
  said := fun fd => (if fd ∈ input.accepted then {} else talking.said fd).append
    (talking.reactor.outbound handle input fd)

def start (id : Int) : TalkingReactor := { toHeardReactor := HeardReactor.start id }

theorem run_heard (talking : TalkingReactor) (inputs : List Reactor.Input) :
    (run (step handle) talking inputs).toHeardReactor =
      run (HeardReactor.step handle) talking.toHeardReactor inputs := by
  induction inputs generalizing talking with
  | nil => rfl
  | cons input inputs ih => exact ih (talking.step handle input)

theorem run_owes (id : Int) (inputs : List Reactor.Input)
    (never : ∀ input ∈ inputs, .sent 0 ∉ input.sends) :
    let talking := run (step handle) (start id) inputs
    talking.reactor.Owes talking.said := by
  refine @run_invariant_throughout _ _ (step handle)
    (fun talking => talking.reactor.Owes talking.said)
    (fun _ input => .sent 0 ∉ input.sends) ?_ _ ?_ inputs ?_
  · intro talking input owes whole
    exact Reactor.step_owes handle owes input whole
  · intro fd
    refine ⟨List.prefix_rfl, ?_⟩
    intro connection found
    cases found
  · exact throughout_of_forall (step handle) never (start id)

end TalkingReactor

end Aorta.Server
