import Aorta.Http.HttpRequest
import Aorta.Http.HttpResponse
import Aorta.Library.Run
import Aorta.Net.Connection
import Aorta.Net.Epoll

/-!
# `Reactor`

One reactor thread with its share of the worker pool. Everything the outside
decides is an argument: what the kernel answers to each call, which connections
have expired when the timer fires, which outstanding job a worker finishes next
and with what response, and, as `handle`, what `HttpHandler::handle` answers to
each dispatched request, which also depends on files, metrics and the room in the
job queue.

Requests are numbered in the order of their dispatch. The numbers, the `history`, the
`closing` requests, the `notes` and the `removals` are no part of the program; they only
record when a request was dispatched and when its response went into an output queue, on
which connection generation, which requests ask for their connection to be closed, what
happened on a connection and at which reading of the clock, and what a connection still
owed when it was removed. `epoll` is the interest list of the kernel. The `clock` is read
once for each event, where the source reads it again for each deadline; latencies are left
out, and the 64-bit generation counter is a natural number.
-/

namespace Aorta.Server

open Aorta.Library.Ascii Aorta.Http Aorta.Net
open Aorta.Http.HttpParser (ParseResult)

set_option autoImplicit false

def requestTimeoutSeconds : Int := 10

def keepAliveTimeoutSeconds : Int := 30

/-- The clock counts nanoseconds. -/
def second : Int := 1000000000

structure ConnectionState where
  deadline : Int
  generation : Nat
  requestInFlight : Bool := false
  redisPending : Bool := false
  currentEvents : EventMask := { input := true, readHangup := true }
deriving DecidableEq, Repr

def ConnectionState.refreshDeadline (state : ConnectionState) (clock timeoutSeconds : Int) :
    ConnectionState :=
  { state with deadline := clock + timeoutSeconds * second }

/-- What the response callback of a request has captured. -/
structure Callback where
  fd : Int
  generation : Nat
  closeAfterWrite : Bool
  serial : Nat
deriving DecidableEq, Repr

inductive HandleResult where
  | completed (response : HttpResponse)
  | pending
deriving DecidableEq, Repr

structure Metrics where
  requestsTotal : Nat := 0
  responsesTotal : Nat := 0
  activeConnections : Nat := 0
  errorsTotal : Nat := 0
deriving DecidableEq, Repr

/-- One line of the history: a request and the connection generation it concerns. -/
structure Entry where
  serial : Nat
  fd : Int
  generation : Nat
deriving DecidableEq, Repr

/-- A connection removed by the end of its stream, with the entries of its output
queue and the requests dispatched on it whose response had not been queued. -/
structure Ending where
  fd : Int
  generation : Nat
  unsent : List OutputBuffer
  unanswered : List Entry
deriving DecidableEq, Repr

structure History where
  dispatched : List Entry := []
  requests : List (Entry × HttpRequest) := []
  queued : List Entry := []
  endings : List Ending := []
deriving DecidableEq, Repr

def History.dispatch (history : History) (entry : Entry) (request : HttpRequest) : History :=
  { history with
    dispatched := history.dispatched ++ [entry]
    requests := history.requests ++ [(entry, request)] }

def History.unanswered (history : History) (generation : Nat) : List Entry :=
  history.dispatched.filter fun entry =>
    entry.generation = generation ∧ entry ∉ history.queued

/-- What gives a connection time: it was accepted, bytes have come in, a job was left to
the workers, or a response was queued. -/
inductive Activity where
  | accepted
  | received
  | submitted
  | answered
deriving DecidableEq, Repr

structure Note where
  generation : Nat
  activity : Activity
  reading : Int
deriving DecidableEq, Repr

/-- What all connections of a reactor share. `jobs` are the jobs that no worker
has finished yet, `completions` the channel the workers publish to. -/
structure Shared where
  clock : Int := 0
  metrics : Metrics := {}
  jobs : List Callback := []
  completions : List (Callback × HttpResponse) := []
  serial : Nat := 0
  history : History := {}
  closing : List Entry := []
  notes : List Note := []
deriving DecidableEq, Repr

/-- A connection that was removed: the entries of its output queue, whether a job was
outstanding on it, the requests dispatched on it whose response had not been queued, and
what `active_connections` was. -/
structure Removal where
  fd : Int
  unsent : List OutputBuffer
  pending : Bool
  unanswered : List Entry
  active : Nat
deriving DecidableEq, Repr

structure Reactor where
  id : Int
  nextConnectionGeneration : Nat := 0
  connections : Table Connection := ∅
  connectionStates : Table ConnectionState := ∅
  epoll : Table EventMask := ∅
  shared : Shared := {}
  removals : List Removal := []
deriving DecidableEq

/-- What the kernel answers to the calls of one `handleWrite`: to each `send`, and
to `epoll_ctl(MOD)` if it is called. -/
structure WriteAnswers where
  sends : List SendResult := []
  modified : Bool := true

/-- What the kernel answers while the events of one connection are handled. -/
structure ClientAnswers where
  recvs : List RecvResult := []
  openFile : Bytes → Option Int := fun _ => none
  paused : Bool := true
  inline : WriteAnswers := {}
  write : WriteAnswers := {}

/-- One `accept`; the three flags are the answers to `setNonBlocking`, `setNoDelay`
and `epoll.add`. When no answer is left, `accept` would block. -/
inductive AcceptAnswer where
  | interrupted
  | client (fd : Int) (nonBlocking noDelay added : Bool)
deriving DecidableEq, Repr

namespace Shared

def incrementErrors (shared : Shared) : Shared :=
  { shared with metrics := { shared.metrics with
    errorsTotal := shared.metrics.errorsTotal + 1 } }

def incrementResponses (shared : Shared) : Shared :=
  { shared with metrics := { shared.metrics with
    responsesTotal := shared.metrics.responsesTotal + 1 } }

def incrementActiveConnections (shared : Shared) : Shared :=
  { shared with metrics := { shared.metrics with
    activeConnections := shared.metrics.activeConnections + 1 } }

def decrementActiveConnections (shared : Shared) : Shared :=
  { shared with metrics := { shared.metrics with
    activeConnections := shared.metrics.activeConnections - 1 } }

/-- Something has happened on a connection. -/
def note (shared : Shared) (generation : Nat) (activity : Activity) : Shared :=
  { shared with notes := shared.notes ++ [⟨generation, activity, shared.clock⟩] }

section Note

variable (shared : Shared) (generation : Nat) (activity : Activity)

@[simp] theorem note_metrics : (shared.note generation activity).metrics = shared.metrics := rfl

@[simp] theorem note_jobs : (shared.note generation activity).jobs = shared.jobs := rfl

@[simp] theorem note_completions :
    (shared.note generation activity).completions = shared.completions := rfl

@[simp] theorem note_serial : (shared.note generation activity).serial = shared.serial := rfl

@[simp] theorem note_closing : (shared.note generation activity).closing = shared.closing := rfl

end Note

/-- `metrics.incrementRequests()`, and the request gets its number. -/
def dispatch (shared : Shared) (fd : Int) (generation : Nat) (request : HttpRequest) : Shared :=
  { shared with
    metrics := { shared.metrics with requestsTotal := shared.metrics.requestsTotal + 1 }
    serial := shared.serial + 1
    history := shared.history.dispatch ⟨shared.serial, fd, generation⟩ request }

/-- The dispatched request asks for its connection to be closed. -/
def announce (shared : Shared) (closes : Bool) (entry : Entry) : Shared :=
  { shared with closing := if closes then shared.closing ++ [entry] else shared.closing }

/-- A response has been put into an output queue. -/
def respond (shared : Shared) (serial : Nat) (fd : Int) (generation : Nat) : Shared :=
  note { shared with history := { shared.history with
    queued := shared.history.queued ++ [⟨serial, fd, generation⟩] } } generation .answered

def submit (shared : Shared) (job : Callback) : Shared :=
  note { shared with jobs := shared.jobs ++ [job] } job.generation .submitted

/-- The end of the stream is about to remove a connection. -/
def endStream (shared : Shared) (fd : Int) (generation : Nat) (unsent : List OutputBuffer) :
    Shared :=
  { shared with history := { shared.history with
    endings := shared.history.endings ++
      [⟨fd, generation, unsent, shared.history.unanswered generation⟩] } }

end Shared

/-- What `handleClient` works on: one connection, its state, and what is shared. -/
structure Session where
  fd : Int
  connection : Connection
  state : ConnectionState
  shared : Shared

/-- How the loops of `handleClient` are left: with nothing more to serve for now, to write
out and close, with a job outstanding, or with the connection to be removed. -/
inductive Served where
  | waiting
  | closing
  | pending
  | failed
deriving DecidableEq, Repr

namespace Session

variable (handle : Nat → HttpRequest → HandleResult) (openFile : Bytes → Option Int)

/-- A file is only sent up to a size. -/
def sendsFile (response : HttpResponse) : Bool :=
  response.hasFile && response.fileSize > 0 && response.fileSize ≤ 16 * 1024 * 1024

def refreshDeadline (session : Session) (timeoutSeconds : Int) : Session :=
  { session with
    state := session.state.refreshDeadline session.shared.clock timeoutSeconds }

@[simp] theorem refresh_deadline_connection (session : Session) (timeoutSeconds : Int) :
    (session.refreshDeadline timeoutSeconds).connection = session.connection := rfl

@[simp] theorem refresh_deadline_shared (session : Session) (timeoutSeconds : Int) :
    (session.refreshDeadline timeoutSeconds).shared = session.shared := rfl

@[simp] theorem refresh_deadline_pending (session : Session) (timeoutSeconds : Int) :
    (session.refreshDeadline timeoutSeconds).state.redisPending =
      session.state.redisPending := rfl

def received (session : Session) : Session :=
  refreshDeadline { session with
    shared := session.shared.note session.state.generation .received } requestTimeoutSeconds

/-- The request is done: its bytes are dropped and the parser starts afresh. -/
def finish (session : Session) : Served × Session :=
  let connection := session.connection.consumeParsedBytes.resetParser
  (if connection.shouldCloseAfterWrite then .closing else .waiting,
    refreshDeadline { session with connection := connection } keepAliveTimeoutSeconds)

def fail (session : Session) : Served × Session :=
  (.failed, { session with shared := session.shared.incrementErrors })

def disconnect (session : Session) : Served × Session :=
  let shared := session.shared.endStream session.fd session.state.generation
    session.connection.outputQueue
  (.failed, { session with shared := shared })

/-- Queue the response and its file. -/
def answer (session : Session) (serial : Nat) (connection : Connection)
    (response : HttpResponse) : Served × Session :=
  let (queued, connection) := connection.queueResponse response.serialize
  if !queued then fail { session with connection := connection }
  else
    let shared := session.shared.respond serial session.fd session.state.generation
    if sendsFile response then
      let (queued, connection) :=
        connection.queueFile openFile response.filePath response.fileSize
      if !queued then fail { session with connection := connection, shared := shared }
      else finish { session with connection := connection, shared := shared }
    else finish { session with connection := connection, shared := shared }

/-- The answer to a request that needs no job. -/
def respond (session : Session) (closeAfterWrite : Bool) (serial : Nat)
    (response : HttpResponse) : Served × Session :=
  answer openFile
    { session with state := { session.state with requestInFlight := false } } serial
    (if closeAfterWrite then session.connection.setCloseAfterWrite true else session.connection)
    (if closeAfterWrite then response.setConnection (ascii "close") else response)

/-- A complete request: `handle` answers at once or leaves a job behind. -/
def dispatch (session : Session) : Served × Session :=
  let request := session.connection.getRequest
  let serial := session.shared.serial
  let closeAfterWrite := request.hasHeaderToken (ascii "Connection") (ascii "close")
  let session := { session with
    state := { session.state with requestInFlight := true }
    shared := (session.shared.dispatch session.fd session.state.generation request).announce
      closeAfterWrite ⟨serial, session.fd, session.state.generation⟩ }
  match handle serial request with
  | .pending =>
      (.pending, refreshDeadline { session with
        connection := session.connection.consumeParsedBytes.resetParser
        state := { session.state with redisPending := true }
        shared := session.shared.submit
          ⟨session.fd, session.state.generation, closeAfterWrite, serial⟩ }
        requestTimeoutSeconds)
  | .completed response => session.respond openFile closeAfterWrite serial response

/-- The inner loop: requests are served until the parser asks for more. -/
def serve : Nat → Session → Served × Session
  | 0, session => (.waiting, session)
  | fuel + 1, session =>
      let (result, connection) := session.connection.parseRequest
      let session := { session with connection := connection }
      match result with
      | .needMoreData =>
          (.waiting, { session with connection := session.connection.consumeParsedBytes })
      | .complete =>
          match session.dispatch handle openFile with
          | (.waiting, session) => serve fuel session
          | (served, session) => (served, session)
      | _ => fail session

/-- Every served request but the first takes bytes from the receive buffer. -/
def serveAll (session : Session) : Served × Session :=
  serve handle openFile (session.connection.receiveBuffer.length + 2) session

/-- The outer loop: read until it would block, or once on a connection to be closed. -/
def readLoop : Nat → List RecvResult → Session → Served × Session
  | 0, _, session => (.waiting, session)
  | fuel + 1, recvs, session =>
      let (result, connection, recvs) := session.connection.read recvs
      let session := { session with connection := connection }
      match result with
      | .disconnected => disconnect session
      | .error => fail session
      | .bufferFull => fail session
      | .wouldBlock => (.waiting, session)
      | .dataReceived =>
          match session.received.serveAll handle openFile with
          | (.waiting, session) =>
              if session.connection.shouldCloseAfterWrite then (.waiting, session)
              else readLoop fuel recvs session
          | (served, session) => (served, session)

end Session

namespace Reactor

variable (handle : Nat → HttpRequest → HandleResult)

/-- The record of a connection that is about to be removed. -/
def removal (reactor : Reactor) (fd : Int) (connection : Connection) : Removal where
  fd := fd
  unsent := connection.outputQueue
  pending := (reactor.connectionStates.lookup fd).elim false ConnectionState.redisPending
  unanswered := (reactor.connectionStates.lookup fd).elim [] fun state =>
    reactor.shared.history.unanswered state.generation
  active := reactor.shared.metrics.activeConnections

def removeConnection (reactor : Reactor) (fd : Int) : Reactor :=
  match reactor.connections.lookup fd with
  | none => reactor
  | some connection =>
      { reactor with
        connections := reactor.connections.erase fd
        connectionStates := reactor.connectionStates.erase fd
        epoll := reactor.epoll.erase fd
        shared := reactor.shared.decrementActiveConnections
        removals := reactor.removals ++ [reactor.removal fd connection] }

def acceptClient (reactor : Reactor) (fd : Int) : Reactor :=
  let generation := reactor.nextConnectionGeneration + 1
  { reactor with
    nextConnectionGeneration := generation
    connections := reactor.connections.insert fd { fd := fd, reactorId := reactor.id }
    connectionStates := reactor.connectionStates.insert fd
      { deadline := reactor.shared.clock + requestTimeoutSeconds * second
        generation := generation }
    epoll := reactor.epoll.insert fd { input := true, readHangup := true }
    shared := reactor.shared.incrementActiveConnections.note generation .accepted }

def handleAccept (reactor : Reactor) : List AcceptAnswer → Reactor
  | [] => reactor
  | .interrupted :: answers => handleAccept reactor answers
  | .client fd nonBlocking noDelay added :: answers =>
      if !nonBlocking then handleAccept reactor answers
      else if !noDelay then handleAccept reactor answers
      else if !added then handleAccept reactor answers
      else handleAccept (reactor.acceptClient fd) answers

def updateEvents (reactor : Reactor) (fd : Int) (events : EventMask) (modified : Bool) :
    Reactor :=
  match reactor.connectionStates.lookup fd with
  | none => reactor
  | some state =>
      if state.currentEvents = events then reactor
      else if !modified then
        removeConnection { reactor with shared := reactor.shared.incrementErrors } fd
      else
        { reactor with
          connectionStates :=
            reactor.connectionStates.insert fd { state with currentEvents := events }
          epoll := reactor.epoll.insert fd events }

def handleWrite (reactor : Reactor) (fd : Int) (answers : WriteAnswers) : Reactor :=
  match reactor.connections.lookup fd with
  | none => reactor
  | some connection =>
      if !connection.hasPendingOutput then reactor
      else
        let (result, connection, _) := connection.write answers.sends
        let reactor :=
          { reactor with connections := reactor.connections.insert fd connection }
        match result with
        | .error =>
            removeConnection { reactor with shared := reactor.shared.incrementErrors } fd
        | .wouldBlock =>
            reactor.updateEvents fd { input := true, output := true, readHangup := true }
              answers.modified
        | .complete =>
            let reactor := { reactor with shared := reactor.shared.incrementResponses }
            if connection.shouldCloseAfterWrite then reactor.removeConnection fd
            else reactor.updateEvents fd { input := true, readHangup := true } answers.modified

/-- The connection and its state as `handleClient` has left them. -/
def put (reactor : Reactor) (session : Session) : Reactor :=
  { reactor with
    connections := reactor.connections.insert session.fd session.connection
    connectionStates := reactor.connectionStates.insert session.fd session.state
    shared := session.shared }

def handleClient (reactor : Reactor) (fd : Int) (answers : ClientAnswers) : Reactor :=
  match reactor.connections.lookup fd with
  | none => reactor
  | some connection =>
      match reactor.connectionStates.lookup fd with
      | none => reactor.removeConnection fd
      | some state =>
          if state.redisPending then reactor
          else
            let (served, session) :=
              Session.readLoop handle answers.openFile (answers.recvs.length + 1) answers.recvs
                ⟨fd, connection, state, reactor.shared⟩
            let reactor := reactor.put session
            match served with
            | .failed => reactor.removeConnection fd
            | .pending => reactor.updateEvents fd { readHangup := true } answers.paused
            | .waiting | .closing =>
                if session.connection.hasPendingOutput then reactor.handleWrite fd answers.inline
                else reactor

def isGenerationCurrent (state : ConnectionState) (generation : Nat) : Bool :=
  state.generation == generation

def completeAsyncResponse (reactor : Reactor) (callback : Callback) (response : HttpResponse)
    (answers : WriteAnswers) : Reactor :=
  match reactor.connections.lookup callback.fd with
  | none => reactor
  | some connection =>
      match reactor.connectionStates.lookup callback.fd with
      | none => reactor
      | some state =>
          if !isGenerationCurrent state callback.generation then reactor
          else if !state.redisPending then reactor
          else
            let state := { state with requestInFlight := false, redisPending := false }
            let connection :=
              if callback.closeAfterWrite then connection.setCloseAfterWrite true
              else connection
            let response :=
              if callback.closeAfterWrite then response.setConnection (ascii "close")
              else response
            if response.hasFile then
              (reactor.put ⟨callback.fd, connection, state,
                reactor.shared.incrementErrors⟩).removeConnection callback.fd
            else
              let (queued, connection) := connection.queueResponse response.serialize
              if !queued then
                (reactor.put ⟨callback.fd, connection, state,
                  reactor.shared.incrementErrors⟩).removeConnection callback.fd
              else
                (reactor.put ⟨callback.fd, connection,
                  state.refreshDeadline reactor.shared.clock keepAliveTimeoutSeconds,
                  reactor.shared.respond callback.serial callback.fd
                    state.generation⟩).handleWrite callback.fd answers

/-- `popCompletion`, with the kernel's answers for the response it brings. -/
def popCompletion (reactor : Reactor) (answers : WriteAnswers) : Reactor :=
  match reactor.shared.completions with
  | [] => reactor
  | (callback, response) :: completions =>
      ({ reactor with
        shared := { reactor.shared with completions := completions } }).completeAsyncResponse
          callback response answers

/-- The channel is drained; the kernel would take no byte where no answer is left. -/
def drainCompletions : Nat → List WriteAnswers → Reactor → Reactor
  | 0, _, reactor => reactor
  | rounds + 1, answers, reactor =>
      drainCompletions rounds answers.tail (reactor.popCompletion (answers.headD {}))

def handleCompletions (reactor : Reactor) (answers : List WriteAnswers) : Reactor :=
  drainCompletions reactor.shared.completions.length answers reactor

/-- `removeExpiredConnections`, for the descriptors whose deadline has passed. -/
def handleTimer (reactor : Reactor) (expired : List Int) : Reactor :=
  expired.foldl removeConnection reactor

def disconnect (reactor : Reactor) (fd : Int) (connection : Connection) : Reactor :=
  match reactor.connectionStates.lookup fd with
  | none => reactor.removeConnection fd
  | some state =>
      let shared := reactor.shared.endStream fd state.generation connection.outputQueue
      removeConnection { reactor with shared := shared } fd

def handleReadHangup (reactor : Reactor) (fd : Int) : Reactor :=
  match reactor.connections.lookup fd with
  | none => reactor
  | some connection =>
      if !connection.hasPendingOutput then reactor.disconnect fd connection else reactor

/-- `handleEvent` for the descriptor of a client. -/
def handleClientEvent (reactor : Reactor) (fd : Int) (events : EventMask)
    (answers : ClientAnswers) : Reactor :=
  if events.error then
    removeConnection { reactor with shared := reactor.shared.incrementErrors } fd
  else if events.hangup then reactor.removeConnection fd
  else
    let reactor := if events.input then reactor.handleClient handle fd answers else reactor
    let reactor := if events.output then reactor.handleWrite fd answers.write else reactor
    if events.readHangup then reactor.handleReadHangup fd else reactor

/-- What can happen next: an epoll event, or a worker finishing one of the
outstanding jobs, with a response or, after an exception, without. -/
inductive Input where
  | accept (answers : List AcceptAnswer)
  | timer (expired : List Int)
  | completions (answers : List WriteAnswers)
  | client (fd : Int) (events : EventMask) (answers : ClientAnswers)
  | worker (job : Nat) (response : Option HttpResponse)

/-- `publishCompletion` of a finished job. -/
def finishJob (reactor : Reactor) (job : Nat) (response : Option HttpResponse) : Reactor :=
  match reactor.shared.jobs[job]? with
  | none => reactor
  | some callback =>
      { reactor with shared := { reactor.shared with
        jobs := reactor.shared.jobs.eraseIdx job
        completions := reactor.shared.completions ++
          (response.map fun response => (callback, response)).toList } }

def step (reactor : Reactor) : Input → Reactor
  | .accept answers => reactor.handleAccept answers
  | .timer expired => reactor.handleTimer expired
  | .completions answers => reactor.handleCompletions answers
  | .client fd events answers => reactor.handleClientEvent handle fd events answers
  | .worker job response => reactor.finishJob job response

end Reactor

end Aorta.Server
