import Aorta.Lb.ConsistentHash
import Aorta.Lb.HealthChecker
import Aorta.Lb.LbMetrics
import Aorta.Lb.Relay

/-!
# `LoadBalancer`

One reactor of the load balancer. What the kernel answers is an argument of each
event, in the order of the calls; an answer that is not there means that the call
would block or fails. The kernel never hands out a descriptor that is in use: such
an answer of `accept4` or `socket` is no answer.

`closed` and `dialled` are no part of the program. The one records the pairs that
`closeConnection` has closed, as they were, and why; the other the backends that were
dialled for the client of a descriptor since it was accepted, in order.
-/

namespace Aorta.Lb

open Aorta.Library.Ascii Aorta.Library.Decimal Aorta.Net
open Aorta.Http.HttpParser (crlf)
open HealthChecker (StartAnswer CheckAnswers)

set_option autoImplicit false

inductive RoutingMode where
  | roundRobin
  | consistentHash
deriving DecidableEq, Repr

/-- Why a pair is closed. -/
inductive CloseReason where
  | clientFailed
  | backendFailed
  | clientHangup
  | backendHangup
  | overflow
  | noBackend
  | noRequest
  | metrics
  | finished
deriving DecidableEq, Repr

structure LoadBalancer where
  routingMode : RoutingMode := .roundRobin
  nextBackendIndex : Nat := 0
  backendPool : BackendPool
  ring : Ring
  healthChecker : HealthChecker := {}
  listenFd : Int
  healthTimerFd : Int
  connections : Table ConnectionPair := ∅
  backendToClient : Table Int := ∅
  closed : List (ConnectionPair × CloseReason) := []
  dialled : Int → List Nat := fun _ => []

/-- One `accept4`, with the text of the client's address and the answer of
`epoll.add`. -/
inductive AcceptAnswer where
  | interrupted
  | client (fd : Int) (clientIp : Bytes) (added : Bool)
deriving DecidableEq, Repr

/-- What becomes of one address of a backend: no socket or no connection, a
connection, or one that is in progress. -/
inductive SocketAnswer where
  | unusable
  | connected (fd : Int)
  | inProgress (fd : Int)
deriving DecidableEq, Repr

/-- The answers to one `connectToBackend`, address by address, and to `epoll.add`. -/
structure Dial where
  sockets : List SocketAnswer := []
  added : Bool := true
deriving DecidableEq, Repr

/-- What the kernel answers while one event is handled: `peek`, `dials` and `recvs`
to `EPOLLIN`, `drains` to `EPOLLRDHUP` and `EPOLLHUP`. -/
structure EventAnswers where
  accepts : List AcceptAnswer := []
  starts : List StartAnswer := []
  check : CheckAnswers := {}
  peek : RecvResult := .wouldBlock
  dials : List Dial := []
  recvs : List RecvResult := []
  drains : List RecvResult := []
  socketError : Bool := false
  backendSends : List SendResult := []
  clientSends : List SendResult := []
  backendModified : Bool := true
  clientModified : Bool := true

namespace LoadBalancer

def maxConnections : Nat := 100000

/-- A descriptor the kernel cannot hand out. -/
def inUse (lb : LoadBalancer) (fd : Int) : Bool :=
  fd < 0 || fd = lb.listenFd || fd = lb.healthTimerFd || lb.healthChecker.handles fd ||
    (lb.connections.lookup fd).isSome || (lb.backendToClient.lookup fd).isSome

def setPair (lb : LoadBalancer) (clientFd : Int) (pair : ConnectionPair) : LoadBalancer :=
  { lb with connections := lb.connections.insert clientFd pair }

def modifyBackend (lb : LoadBalancer) (index : Nat) (change : Backend → Backend) :
    LoadBalancer :=
  { lb with backendPool := lb.backendPool.modify index change }

def recordDial (lb : LoadBalancer) (clientFd : Int) (index : Nat) : LoadBalancer :=
  { lb with dialled := Function.update lb.dialled clientFd (lb.dialled clientFd ++ [index]) }

def acceptClient (lb : LoadBalancer) (fd : Int) (clientIp : Bytes) : LoadBalancer :=
  { lb.setPair fd
      { clientFd := fd
        clientIp := clientIp
        currentClientEvents :=
          { input := true, readHangup := true, error := true, hangup := true } } with
    dialled := Function.update lb.dialled fd [] }

def handleAccept (lb : LoadBalancer) : List AcceptAnswer → LoadBalancer
  | [] => lb
  | .interrupted :: answers => handleAccept lb answers
  | .client fd clientIp added :: answers =>
      if lb.inUse fd then handleAccept lb answers
      else if lb.connections.entries.length ≥ maxConnections then handleAccept lb answers
      else if !added then handleAccept lb answers
      else handleAccept (lb.acceptClient fd clientIp) answers

section Selection

/-- The loop of `selectRoundRobinBackend`: the index and the next index. -/
def roundRobin (pool : BackendPool) : Nat → Nat → Nat × Nat
  | 0, next => (pool.length, next)
  | attempts + 1, next =>
      let index := next % pool.length
      let next := (next + 1) % pool.length
      if pool.isHealthy index then (index, next) else roundRobin pool attempts next

def selectRoundRobinBackend (lb : LoadBalancer) : Nat × LoadBalancer :=
  if lb.backendPool.length = 0 then (0, lb)
  else
    let (index, next) := roundRobin lb.backendPool lb.backendPool.length lb.nextBackendIndex
    (index, { lb with nextBackendIndex := next })

def selectBackend (lb : LoadBalancer) (clientIp : Bytes) : Option Nat × LoadBalancer :=
  if !lb.backendPool.hasHealthyBackend then (none, lb)
  else
    match lb.routingMode with
    | .roundRobin =>
        let (index, lb) := lb.selectRoundRobinBackend
        (if index ≥ lb.backendPool.length then none else some index, lb)
    | .consistentHash => (ConsistentHash.getBackend lb.ring clientIp lb.backendPool, lb)

end Selection

/-- The first address that yields a connection, with `connecting`. -/
def connectToBackend (lb : LoadBalancer) : List SocketAnswer → Option (Int × Bool)
  | [] => none
  | .unusable :: answers => connectToBackend lb answers
  | .connected fd :: answers =>
      if lb.inUse fd then connectToBackend lb answers else some (fd, false)
  | .inProgress fd :: answers =>
      if lb.inUse fd then connectToBackend lb answers else some (fd, true)

/-- The events a new backend socket is watched for. -/
def dialEvents (connecting : Bool) : EventMask :=
  { input := !connecting, output := connecting, readHangup := true, error := true,
    hangup := true }

/-- Dial the backend of an index for a pair; `detach` is what is undone when
`epoll.add` fails. -/
def tryBackend (lb : LoadBalancer) (clientFd : Int) (index : Nat) (dial : Dial)
    (detach : ConnectionPair → ConnectionPair) : Bool × LoadBalancer :=
  match lb.connections.lookup clientFd with
  | none => (false, lb)
  | some pair =>
      let lb := lb.recordDial clientFd index
      match lb.connectToBackend dial.sockets with
      | none => (false, lb.modifyBackend index Backend.countFailedConnection)
      | some (fd, connecting) =>
          let pair := { pair with
            backendFd := fd
            backendIndex := index
            backendConnecting := connecting }
          let lb := lb.modifyBackend index Backend.takeConnection
          if !dial.added then
            (false, (lb.modifyBackend index Backend.releaseConnection).setPair clientFd
              (detach pair))
          else
            (true, { lb.setPair clientFd
                ({ pair with currentBackendEvents := dialEvents connecting }.record
                  [.opened fd index]) with
              backendToClient := lb.backendToClient.insert fd clientFd })

section Connect

/-- The index of the next attempt; none ends the loop. -/
def nextCandidate (lb : LoadBalancer) (initial : Nat) (first : Bool) (attempted : List Nat) :
    Option Nat × LoadBalancer :=
  if first then (some initial, lb)
  else
    match lb.routingMode with
    | .roundRobin =>
        let (next, lb) := lb.selectRoundRobinBackend
        (if next ≥ lb.backendPool.length then none else some next, lb)
    | .consistentHash =>
        ((List.range lb.backendPool.length).find? fun candidate =>
          !attempted.contains candidate && lb.backendPool.isHealthy candidate, lb)

def dropBackend (pair : ConnectionPair) : ConnectionPair := { pair with backendFd := -1 }

def connectLoop (clientFd : Int) (initial : Nat) :
    Nat → Bool → List Nat → List Dial → LoadBalancer → Bool × LoadBalancer
  | 0, _, _, _, lb => (false, lb)
  | attempts + 1, first, attempted, dials, lb =>
      match lb.nextCandidate initial first attempted with
      | (none, lb) => (false, lb)
      | (some index, lb) =>
          if index ≥ lb.backendPool.length then
            connectLoop clientFd initial attempts false attempted dials lb
          else if attempted.contains index then
            connectLoop clientFd initial attempts false attempted dials lb
          else if !lb.backendPool.isHealthy index then
            connectLoop clientFd initial attempts false (index :: attempted) dials lb
          else
            match lb.tryBackend clientFd index (dials.headD {}) dropBackend with
            | (true, lb) => (true, lb)
            | (false, lb) =>
                connectLoop clientFd initial attempts false (index :: attempted) dials.tail lb

def connectClientToBackend (lb : LoadBalancer) (clientFd : Int) (dials : List Dial) :
    Bool × LoadBalancer :=
  if !lb.backendPool.hasHealthyBackend then (false, lb)
  else
    match lb.connections.lookup clientFd with
    | none => (false, lb)
    | some pair =>
        match lb.selectBackend pair.clientIp with
        | (none, lb) => (false, lb)
        | (some initial, lb) =>
            connectLoop clientFd initial lb.backendPool.length true [] dials lb

end Connect

def closeConnection (lb : LoadBalancer) (clientFd : Int) (reason : CloseReason) :
    LoadBalancer :=
  match lb.connections.lookup clientFd with
  | none => lb
  | some pair =>
      if pair.closing then lb
      else
        let lb :=
          if pair.backendFd ≠ -1 then
            { lb.modifyBackend pair.backendIndex Backend.releaseConnection with
              backendToClient := lb.backendToClient.erase pair.backendFd }
          else lb
        { lb with
          connections := lb.connections.erase clientFd
          closed := lb.closed ++ [(pair, reason)] }

section Failover

def resetBackend (pair : ConnectionPair) : ConnectionPair :=
  { pair with backendFd := -1, backendConnecting := false, currentBackendEvents := {} }

/-- The failed backend's socket is given up. -/
def dropFailedBackend (lb : LoadBalancer) (clientFd : Int) (pair : ConnectionPair)
    (failedBackendIndex : Nat) : LoadBalancer :=
  if pair.backendFd ≠ -1 then
    { (lb.modifyBackend failedBackendIndex fun backend =>
        backend.releaseConnection.countFailedConnection).setPair clientFd (resetBackend pair) with
      backendToClient := lb.backendToClient.erase pair.backendFd }
  else lb

def failoverLoop (clientFd : Int) (failedBackendIndex : Nat) :
    List Nat → List Dial → LoadBalancer → Bool × LoadBalancer
  | [], _, lb => (false, lb)
  | index :: indices, dials, lb =>
      if index = failedBackendIndex then failoverLoop clientFd failedBackendIndex indices dials lb
      else if !lb.backendPool.isHealthy index then
        failoverLoop clientFd failedBackendIndex indices dials lb
      else
        match lb.tryBackend clientFd index (dials.headD {}) resetBackend with
        | (true, lb) => (true, lb.modifyBackend index Backend.countFailover)
        | (false, lb) => failoverLoop clientFd failedBackendIndex indices dials.tail lb

/-- The indices from the one behind the failed backend round to it. -/
def failoverOrder (count failedBackendIndex : Nat) : List Nat :=
  (List.range count).map fun attempt => ((failedBackendIndex + 1) % count + attempt) % count

def failoverConnection (lb : LoadBalancer) (clientFd : Int) (failedBackendIndex : Nat)
    (dials : List Dial) : LoadBalancer :=
  match lb.connections.lookup clientFd with
  | none => lb
  | some pair =>
      let lb := lb.dropFailedBackend clientFd pair failedBackendIndex
      if lb.backendPool.length = 0 then lb.closeConnection clientFd .noBackend
      else
        match failoverLoop clientFd failedBackendIndex
            (failoverOrder lb.backendPool.length failedBackendIndex) dials lb with
        | (true, lb) => lb
        | (false, lb) => lb.closeConnection clientFd .noBackend

end Failover

/-- A step of the event loop that goes on, or is left by `continue`. -/
inductive Flow where
  | next (lb : LoadBalancer)
  | stop (lb : LoadBalancer)

namespace Flow

def state : Flow → LoadBalancer
  | .next lb => lb
  | .stop lb => lb

def andThen (flow : Flow) (phase : LoadBalancer → Flow) : Flow :=
  match flow with
  | .next lb => phase lb
  | .stop lb => .stop lb

theorem next_and_then (lb : LoadBalancer) (phase : LoadBalancer → Flow) :
    (Flow.next lb).andThen phase = phase lb := rfl

theorem stop_and_then (lb : LoadBalancer) (phase : LoadBalancer → Flow) :
    (Flow.stop lb).andThen phase = .stop lb := rfl

end Flow

section Relay

/-- `closeConnection` of the pair a socket belongs to. -/
def closeSocket (lb : LoadBalancer) (fd : Int) (reason : CloseReason) : LoadBalancer :=
  match lb.backendToClient.lookup fd with
  | some clientFd => lb.closeConnection clientFd reason
  | none => lb.closeConnection fd reason

def closeFailedSocket (lb : LoadBalancer) (fd : Int) (reason : CloseReason) : LoadBalancer :=
  match lb.backendToClient.lookup fd with
  | some clientFd =>
      match lb.connections.lookup clientFd with
      | none => lb
      | some pair => lb.closeConnection pair.clientFd reason
  | none => lb.closeConnection fd reason

/-- The end of a stream is noted with the pair the socket belongs to. -/
def noteEnd (lb : LoadBalancer) (fd : Int) : LoadBalancer :=
  match lb.backendToClient.lookup fd with
  | some clientFd =>
      match lb.connections.lookup clientFd with
      | none => lb
      | some pair => lb.setPair clientFd (pair.endRead .backend)
  | none =>
      match lb.connections.lookup fd with
      | none => lb
      | some pair => lb.setPair fd (pair.endRead .client)

def failedReason : Side → CloseReason
  | .client => .clientFailed
  | .backend => .backendFailed

/-- `forwardData` of one of the sockets of a pair. -/
def forwardData (lb : LoadBalancer) (clientFd : Int) (side : Side) (drain : Bool)
    (recvs : List RecvResult) : Flow :=
  match lb.connections.lookup clientFd with
  | none => .stop lb
  | some pair =>
      let (result, after) := pair.forward drain recvs side
      let lb := lb.setPair clientFd after
      match result with
      | .forwarded => .next lb
      | .ended => .next (lb.noteEnd (pair.socket side))
      | .overflowed => .stop (lb.closeSocket (pair.socket side) .overflow)
      | .failed => .stop (lb.closeFailedSocket (pair.socket side) (failedReason side))

/-- `flushData` towards one of the sockets of a pair. -/
def flushData (lb : LoadBalancer) (clientFd : Int) (side : Side) (sends : List SendResult) :
    LoadBalancer :=
  match lb.connections.lookup clientFd with
  | none => lb
  | some pair =>
      let (good, after) := pair.flush sends side
      let lb := lb.setPair clientFd after
      if good then lb else lb.closeSocket (pair.socket side) (failedReason side)

end Relay

section Events

variable (clientFd : Int) (isBackendFd : Bool) (flags : EventMask) (answers : EventAnswers)

def metricsPrefix : Bytes := ascii "GET /metrics "

/-- What the peeked bytes decide: wait for more, serve the metrics, or dial. -/
def admitClient (pair : ConnectionPair) (lb : LoadBalancer) : Flow :=
  let dial : LoadBalancer → Flow := fun lb =>
    match lb.connectClientToBackend clientFd answers.dials with
    | (true, lb) => .next lb
    | (false, lb) => .stop (lb.closeConnection clientFd .noBackend)
  match answers.peek with
  | .received bytes =>
      let request := bytes.take 1024
      if request.length > 0 && request.length < metricsPrefix.length &&
          metricsPrefix.take request.length = request then .stop lb
      else if metricsPrefix.isPrefixOf request then
        .next (lb.setPair clientFd { pair with metricsConnection := true })
      else dial lb
  | .failed => .stop (lb.closeConnection clientFd .clientFailed)
  | _ => dial lb

def metricsResponse (body : Bytes) : Bytes :=
  ascii "HTTP/1.1 200 OK" ++ crlf ++ ascii "Content-Type: text/plain; charset=utf-8" ++ crlf ++
    ascii "Content-Length: " ++ decimal body.length ++ crlf ++ ascii "Connection: close" ++
    crlf ++ crlf ++ body

def metricsEvents : EventMask :=
  { output := true, error := true, hangup := true, readHangup := true }

/-- The request of a metrics connection is read and answered. -/
def serveMetrics (pair : ConnectionPair) (lb : LoadBalancer) : Flow :=
  match answers.recvs.headD .wouldBlock with
  | .received bytes =>
      let request := bytes.take 4095
      if request.isEmpty then .stop (lb.closeConnection clientFd .metrics)
      else if metricsPrefix.isPrefixOf request then
        let body := LbMetrics.render lb.backendPool lb.connections.entries.length
        .stop (lb.setPair clientFd ({ pair with
          backendToClient := ⟨metricsResponse body, 0⟩
          clientReadClosed := true
          currentClientEvents :=
            if answers.clientModified then metricsEvents
            else pair.currentClientEvents }.record [.read .client request]))
      else .stop (lb.closeConnection clientFd .metrics)
  | _ => .stop (lb.closeConnection clientFd .metrics)

/-- `EPOLLIN` of a client that may not have been admitted yet. -/
def readClient (lb : LoadBalancer) : Flow :=
  match lb.connections.lookup clientFd with
  | none => .stop lb
  | some pair =>
      let admitted :=
        if !pair.metricsConnection && pair.backendFd = -1 then
          admitClient clientFd answers pair lb
        else .next lb
      admitted.andThen fun lb =>
        match lb.connections.lookup clientFd with
        | none => .stop lb
        | some pair =>
            if pair.metricsConnection then serveMetrics clientFd answers pair lb
            else lb.forwardData clientFd .client false answers.recvs

def readPhase (lb : LoadBalancer) : Flow :=
  if flags.input then
    if isBackendFd then lb.forwardData clientFd .backend false answers.recvs
    else readClient clientFd answers lb
  else .next lb

/-- `EPOLLRDHUP` and `EPOLLHUP`: what is left on the socket is read. -/
def drainPhase (lb : LoadBalancer) : Flow :=
  match lb.connections.lookup clientFd with
  | none => .stop lb
  | some pair =>
      if flags.readHangup || flags.hangup then
        if isBackendFd then lb.forwardData clientFd .backend true answers.drains
        else if !pair.metricsConnection then
          lb.forwardData clientFd .client true answers.drains
        else .next lb
      else .next lb

/-- `EPOLLOUT` of a backend that is being connected. -/
def connectPhase (lb : LoadBalancer) : Flow :=
  match lb.connections.lookup clientFd with
  | none => .stop lb
  | some pair =>
      if isBackendFd && pair.backendConnecting && flags.output then
        if answers.socketError then
          .stop (lb.failoverConnection clientFd pair.backendIndex answers.dials)
        else .next (lb.setPair clientFd { pair with backendConnecting := false })
      else .next lb

def flushBackendPhase (lb : LoadBalancer) : Flow :=
  match lb.connections.lookup clientFd with
  | none => .stop lb
  | some pair =>
      if pair.backendFd ≠ -1 && !pair.backendConnecting && pair.clientToBackend.hasUnsent then
        .next (lb.flushData clientFd .backend answers.backendSends)
      else .next lb

def flushClientPhase (lb : LoadBalancer) : Flow :=
  match lb.connections.lookup clientFd with
  | none => .stop lb
  | some pair =>
      if pair.backendToClient.hasUnsent then
        .next (lb.flushData clientFd .client answers.clientSends)
      else .next lb

def clearBuffers (pair : ConnectionPair) : ConnectionPair :=
  { pair with
    clientToBackend := pair.clientToBackend.clearSent
    backendToClient := pair.backendToClient.clearSent }

def shutdownBackend (pair : ConnectionPair) : ConnectionPair :=
  if pair.clientReadClosed && !pair.backendWriteClosed && pair.clientToBackend.bytes.isEmpty &&
      pair.backendFd ≠ -1 && !pair.backendConnecting then
    { pair with backendWriteClosed := true }.record [.shutdown .backend]
  else pair

def shutdownClient (pair : ConnectionPair) : ConnectionPair :=
  if pair.backendReadClosed && !pair.clientWriteClosed && pair.backendToClient.bytes.isEmpty then
    { pair with clientWriteClosed := true }.record [.shutdown .client]
  else pair

/-- The events both sockets are to be watched for. -/
def updateInterest (pair : ConnectionPair) : ConnectionPair :=
  let backendEvents : EventMask :=
    { input := !pair.backendReadClosed
      output := pair.backendConnecting || pair.clientToBackend.hasUnsent
      readHangup := true, error := true, hangup := true }
  let clientEvents : EventMask :=
    { input := !pair.clientReadClosed
      output := pair.backendToClient.hasUnsent
      readHangup := true, error := true, hangup := true }
  { pair with
    currentBackendEvents :=
      if pair.backendFd ≠ -1 && answers.backendModified then backendEvents
      else pair.currentBackendEvents
    currentClientEvents :=
      if answers.clientModified then clientEvents else pair.currentClientEvents }

/-- Half-closes, the end of the pair, and the events it waits for. -/
def settlePhase (lb : LoadBalancer) : Flow :=
  match lb.connections.lookup clientFd with
  | none => .stop lb
  | some pair =>
      let pair := clearBuffers pair
      if pair.clientReadClosed && pair.backendFd = -1 && pair.clientToBackend.bytes.isEmpty &&
          !pair.metricsConnection then
        .stop ((lb.setPair clientFd pair).closeConnection clientFd .noRequest)
      else
        let pair := shutdownClient (shutdownBackend pair)
        if pair.metricsConnection && pair.backendToClient.bytes.isEmpty then
          .stop ((lb.setPair clientFd pair).closeConnection clientFd .metrics)
        else if pair.clientReadClosed && pair.backendReadClosed &&
            pair.clientToBackend.bytes.isEmpty && pair.backendToClient.bytes.isEmpty then
          .stop ((lb.setPair clientFd pair).closeConnection clientFd .finished)
        else .next (lb.setPair clientFd (updateInterest answers pair))

/-- A failed socket of a pair: a backend that is being connected is replaced. -/
def handleFailure (pair : ConnectionPair) (lb : LoadBalancer) (client backend : CloseReason) :
    LoadBalancer :=
  if isBackendFd && pair.backendConnecting then
    lb.failoverConnection pair.clientFd pair.backendIndex answers.dials
  else lb.closeConnection pair.clientFd (if isBackendFd then backend else client)

def relayEvent (lb : LoadBalancer) : LoadBalancer :=
  ((((((readPhase clientFd isBackendFd flags answers lb).andThen
    (drainPhase clientFd isBackendFd flags answers)).andThen
    (connectPhase clientFd isBackendFd flags answers)).andThen
    (flushBackendPhase clientFd answers)).andThen
    (flushClientPhase clientFd answers)).andThen
    (settlePhase clientFd answers)).state

end Events

/-- The event of a socket that belongs to a pair, or to nothing any more. -/
def handlePairEvent (lb : LoadBalancer) (fd : Int) (flags : EventMask)
    (answers : EventAnswers) : LoadBalancer :=
  let isBackendFd := (lb.backendToClient.lookup fd).isSome
  let clientFd := (lb.backendToClient.lookup fd).getD fd
  match lb.connections.lookup clientFd with
  | none => lb
  | some pair =>
      if flags.error then
        handleFailure isBackendFd answers pair lb .clientFailed .backendFailed
      else if flags.hangup && !flags.input then
        handleFailure isBackendFd answers pair lb .clientHangup .backendHangup
      else relayEvent clientFd isBackendFd flags answers lb

def withHealth (lb : LoadBalancer) (state : HealthChecker × BackendPool) : LoadBalancer :=
  { lb with healthChecker := state.1, backendPool := state.2 }

def handleEvent (lb : LoadBalancer) (fd : Int) (flags : EventMask) (answers : EventAnswers) :
    LoadBalancer :=
  if fd = lb.listenFd then lb.handleAccept answers.accepts
  else if fd = lb.healthTimerFd then
    lb.withHealth (lb.healthChecker.start lb.inUse lb.backendPool answers.starts)
  else if lb.healthChecker.handles fd then
    lb.withHealth (lb.healthChecker.handleEvent lb.backendPool fd flags answers.check)
  else lb.handlePairEvent fd flags answers

def closeAllConnections (lb : LoadBalancer) : LoadBalancer :=
  { lb with
    backendPool := lb.connections.entries.foldl
      (fun pool entry =>
        if entry.2.backendFd ≠ -1 then
          pool.modify entry.2.backendIndex Backend.releaseConnection
        else pool) lb.backendPool
    connections := ∅
    backendToClient := ∅ }

/-- A load balancer of the configured hosts and ports, before any client. -/
def create (routingMode : RoutingMode) (configured : List (Bytes × Nat))
    (listenFd healthTimerFd : Int) : LoadBalancer :=
  let pool : BackendPool := configured.map fun entry => { host := entry.1, port := entry.2 }
  { routingMode := routingMode
    backendPool := pool
    ring := ConsistentHash.build pool
    listenFd := listenFd
    healthTimerFd := healthTimerFd }

/-- What can happen next: checks expire before a wait, an event is delivered, or the
loop is left. -/
inductive Input where
  | expire (expired : List Int)
  | event (fd : Int) (flags : EventMask) (answers : EventAnswers)
  | stop

def step (lb : LoadBalancer) : Input → LoadBalancer
  | .expire expired => lb.withHealth (lb.healthChecker.expire lb.backendPool expired)
  | .event fd flags answers => lb.handleEvent fd flags answers
  | .stop => { lb.closeAllConnections with healthChecker := lb.healthChecker.cancelAll }

end LoadBalancer

end Aorta.Lb
