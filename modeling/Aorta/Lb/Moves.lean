import Mathlib.Logic.Relation
import Aorta.Lb.LoadBalancer

/-!
# What an event can do

Handling an event is a sequence of moves, each of which changes one pair or the
bookkeeping around it. Every invariant of the load balancer is proved move by move.
-/

namespace Aorta.Lb

open Relation Aorta.Library.Ascii Aorta.Net

set_option autoImplicit false

/-- What can happen while an event is handled: clients are accepted, the backend of
the pair sends bytes, ends its stream or fails, the client hangs up, bytes are sent and
half-closes issued, the backend is given up, or backends are dialled. -/
structure May where
  accepts : Prop
  dials : Prop
  data : Prop
  ends : Prop
  trouble : Prop
  hangup : Prop
  writes : Prop
  detaches : Prop
  /-- How many bytes there are to read from a socket, those read earlier included. -/
  budget : Side → Nat

/-- What a move can do to a pair whose sockets stay the same. -/
inductive PairMove (may : May) (pair : ConnectionPair) : ConnectionPair → Prop
  | read (side : Side) (bytes : Bytes)
      (fits : (pair.incoming side).bytes.length - (pair.incoming side).offset + bytes.length ≤
        RelayBuffer.maxBufferSize)
      (within : (readFrom side pair.trace).length + bytes.length ≤ may.budget side)
      (client : side = .client → pair.metricsConnection = false)
      (backend : side = .backend → may.data ∧ pair.backendFd ≠ -1) :
      PairMove may pair
        ((pair.setIncoming side ((pair.incoming side).append bytes)).record [.read side bytes])
  | ended (side : Side) (backend : side = .backend → may.ends ∧ pair.backendFd ≠ -1) :
      PairMove may pair (pair.endRead side)
  | sent (writes : may.writes) (side : Side) (count : Nat)
      (within : count ≤ (pair.incoming side.other).unsent.length)
      (backend : side = .backend → pair.backendFd ≠ -1 ∧ pair.backendConnecting = false) :
      PairMove may pair
        ((pair.setIncoming side.other ((pair.incoming side.other).advance count)).record
          [.sent side ((pair.incoming side.other).unsent.take count)])
  | clear : PairMove may pair (LoadBalancer.clearBuffers pair)
  | shutBackend (writes : may.writes) (ended : pair.clientReadClosed = true)
      (once : pair.backendWriteClosed = false)
      (nothing : pair.clientToBackend.unsent = [])
      (attached : pair.backendFd ≠ -1) (connected : pair.backendConnecting = false) :
      PairMove may pair
        ({ pair with backendWriteClosed := true }.record [.shutdown .backend])
  | shutClient (writes : may.writes) (ended : pair.backendReadClosed = true)
      (once : pair.clientWriteClosed = false) (nothing : pair.backendToClient.unsent = []) :
      PairMove may pair ({ pair with clientWriteClosed := true }.record [.shutdown .client])
  | connected : PairMove may pair { pair with backendConnecting := false }
  | watched (client backend : EventMask) :
      PairMove may pair
        { pair with currentClientEvents := client, currentBackendEvents := backend }
  | redialled (detached : pair.backendFd = -1) (index : Nat) (connecting : Bool)
      (events : EventMask) :
      PairMove may pair
        { pair with
          backendIndex := index
          backendConnecting := connecting
          currentBackendEvents := events }
  | admitted (detached : pair.backendFd = -1) (unopened : pair.Unopened) :
      PairMove may pair { pair with metricsConnection := true }
  | answered (metrics : pair.metricsConnection = true) (response : RelayBuffer)
      (request : Bytes) (events : EventMask)
      (within : (readFrom .client pair.trace).length + request.length ≤ may.budget .client) :
      PairMove may pair
        ({ pair with
          backendToClient := response
          clientReadClosed := true
          currentClientEvents := events }.record [.read .client request])

/-- Which pairs are closed for which reason. -/
def Justified (may : May) (pair : ConnectionPair) : CloseReason → Prop
  | .clientFailed => True
  | .overflow => True
  | .clientHangup => may.hangup
  | .backendFailed => may.trouble
  | .backendHangup => may.trouble
  | .noBackend => pair.backendFd = -1
  | .noRequest => pair.backendFd = -1
  | .metrics => pair.metricsConnection = true
  | .finished => pair.backendToClient.unsent = []

/-- The pair `handleAccept` stores for a new client. -/
def acceptedPair (fd : Int) (clientIp : Bytes) : ConnectionPair :=
  { clientFd := fd
    clientIp := clientIp
    currentClientEvents := { input := true, readHangup := true, error := true, hangup := true } }

theorem accept_client_lookup (lb : LoadBalancer) (fd : Int) (clientIp : Bytes) :
    (lb.acceptClient fd clientIp).connections.lookup fd = some (acceptedPair fd clientIp) :=
  AList.lookup_insert _

theorem accept_client_others (lb : LoadBalancer) {fd other : Int} (clientIp : Bytes)
    (differs : other ≠ fd) :
    (lb.acceptClient fd clientIp).connections.lookup other = lb.connections.lookup other :=
  AList.lookup_insert_ne differs

/-- The pair with a new backend socket. -/
def attachedPair (pair : ConnectionPair) (fd : Int) (index : Nat) (connecting : Bool) :
    ConnectionPair :=
  { pair with
    backendFd := fd
    backendIndex := index
    backendConnecting := connecting
    currentBackendEvents := LoadBalancer.dialEvents connecting }.record [.opened fd index]

/-- The listener and the timer stay, and a new health check has a descriptor that was
free. -/
structure SameWatch (before after : LoadBalancer) : Prop where
  listener : after.listenFd = before.listenFd
  timer : after.healthTimerFd = before.healthTimerFd
  checks : ∀ fd, after.healthChecker.handles fd = true →
    before.healthChecker.handles fd = true ∨ before.inUse fd = false

/-- What a move can do to the load balancer, for the pair of one client. -/
inductive Move (may : May) (clientFd : Int) (lb : LoadBalancer) : LoadBalancer → Prop
  | counted (after : LoadBalancer) (connections : after.connections = lb.connections)
      (backends : after.backendToClient = lb.backendToClient) (closed : after.closed = lb.closed)
      (counts : SameCounts after.backendPool lb.backendPool) (watch : SameWatch lb after)
      (dialled : after.dialled = lb.dialled)
      (pool : after.backendPool = lb.backendPool ∨ may.accepts ∨
        may.dials ∧ clientFd ∈ lb.connections) :
      Move may clientFd lb after
  | dialled (dials : may.dials) (pair : ConnectionPair) (index : Nat)
      (found : lb.connections.lookup clientFd = some pair) (detached : pair.backendFd = -1)
      (plain : pair.metricsConnection = false) :
      Move may clientFd lb (lb.recordDial clientFd index)
  | accepted (accepts : may.accepts) (fd : Int) (clientIp : Bytes) (free : lb.inUse fd = false) :
      Move may clientFd lb (lb.acceptClient fd clientIp)
  | touched (pair after : ConnectionPair) (found : lb.connections.lookup clientFd = some pair)
      (moves : ReflTransGen (PairMove may) pair after) :
      Move may clientFd lb (lb.setPair clientFd after)
  | attached (pair : ConnectionPair) (fd : Int) (index : Nat) (connecting : Bool)
      (found : lb.connections.lookup clientFd = some pair) (detached : pair.backendFd = -1)
      (plain : pair.metricsConnection = false) (free : lb.inUse fd = false)
      (dials : may.dials) :
      Move may clientFd lb
        { (lb.modifyBackend index Backend.takeConnection).setPair clientFd
            (attachedPair pair fd index connecting) with
          backendToClient := lb.backendToClient.insert fd clientFd }
  | detached (pair : ConnectionPair) (found : lb.connections.lookup clientFd = some pair)
      (attached : pair.backendFd ≠ -1) (connecting : pair.backendConnecting = true)
      (detaches : may.detaches) (trouble : may.trouble) :
      Move may clientFd lb (lb.dropFailedBackend clientFd pair pair.backendIndex)
  | closed (pair : ConnectionPair) (reason : CloseReason)
      (found : lb.connections.lookup clientFd = some pair)
      (justified : Justified may pair reason) :
      Move may clientFd lb (lb.closeConnection clientFd reason)

/-- A sequence of moves. -/
abbrev Moves (may : May) (clientFd : Int) : LoadBalancer → LoadBalancer → Prop :=
  ReflTransGen (Move may clientFd)

theorem LoadBalancer.close_connection_cases (lb : LoadBalancer) {clientFd : Int}
    {pair : ConnectionPair} (reason : CloseReason)
    (found : lb.connections.lookup clientFd = some pair) :
    lb.closeConnection clientFd reason = lb ∨
      (lb.closeConnection clientFd reason).connections = lb.connections.erase clientFd ∧
      (lb.closeConnection clientFd reason).closed = lb.closed ++ [(pair, reason)] := by
  unfold LoadBalancer.closeConnection
  simp only [found]
  by_cases closing : pair.closing
  · rw [if_pos closing]
    exact .inl rfl
  · rw [if_neg closing]
    right
    split_ifs
    · exact ⟨rfl, rfl⟩
    · exact ⟨rfl, rfl⟩

theorem move_others {may : May} {clientFd : Int} {lb after : LoadBalancer}
    (none_accepted : ¬ may.accepts) (move : Move may clientFd lb after) {other : Int}
    (differs : other ≠ clientFd) :
    after.connections.lookup other = lb.connections.lookup other := by
  cases move with
  | counted after connections backends closed counts => rw [connections]
  | dialled dials pair index found detached plain => rfl
  | accepted accepts fd clientIp free => exact absurd accepts none_accepted
  | touched pair after found moves => exact AList.lookup_insert_ne differs
  | attached pair fd index connecting found detached plain free =>
      exact AList.lookup_insert_ne differs
  | detached pair found attached connecting detaches trouble =>
      unfold LoadBalancer.dropFailedBackend
      rw [if_pos attached]
      exact AList.lookup_insert_ne differs
  | closed pair reason found justified =>
      rcases lb.close_connection_cases reason found with same | ⟨connections, -⟩
      · rw [same]
      · rw [connections]
        exact AList.lookup_erase_ne differs

theorem moves_others {may : May} {clientFd : Int} {lb after : LoadBalancer}
    (none_accepted : ¬ may.accepts) (moves : Moves may clientFd lb after) {other : Int}
    (differs : other ≠ clientFd) :
    after.connections.lookup other = lb.connections.lookup other := by
  induction moves with
  | refl => rfl
  | tail _ move ih => exact (move_others none_accepted move differs).trans ih

/-! ### The loops on one buffer -/

def received : RecvResult → Nat
  | .received bytes => bytes.length
  | _ => 0

def hasBytes : RecvResult → Bool
  | .received bytes => !bytes.isEmpty
  | _ => false

def GivesData (recvs : List RecvResult) : Prop :=
  ∃ bytes, RecvResult.received bytes ∈ recvs ∧ bytes ≠ []

def arriving (recvs : List RecvResult) : Nat := (recvs.map received).sum

def Fails (sends : List SendResult) : Prop := .failed ∈ sends ∨ .sent 0 ∈ sends

instance (recvs : List RecvResult) : Decidable (GivesData recvs) :=
  decidable_of_iff (∃ recv ∈ recvs, hasBytes recv = true) (by
    constructor
    · intro gives
      obtain ⟨recv, member, isData⟩ := gives
      cases recv with
      | received bytes => exact ⟨bytes, member, by simpa [hasBytes] using isData⟩
      | interrupted => cases isData
      | wouldBlock => cases isData
      | failed => cases isData
    · intro gives
      obtain ⟨bytes, member, nonempty⟩ := gives
      exact ⟨_, member, by simpa [hasBytes] using nonempty⟩)

instance (sends : List SendResult) : Decidable (Fails sends) :=
  inferInstanceAs (Decidable (_ ∨ _))

namespace ConnectionPair

@[simp] theorem incoming_set_incoming (pair : ConnectionPair) (side : Side)
    (buffer : RelayBuffer) : (pair.setIncoming side buffer).incoming side = buffer := by
  cases side <;> rfl

@[simp] theorem incoming_record (pair : ConnectionPair) (wires : List Wire) (side : Side) :
    (pair.record wires).incoming side = pair.incoming side := by
  cases side <;> rfl

@[simp] theorem set_incoming_same (pair : ConnectionPair) (side : Side) :
    pair.setIncoming side (pair.incoming side) = pair := by
  cases side <;> rfl

@[simp] theorem record_nil (pair : ConnectionPair) : pair.record [] = pair := by
  simp [record]

theorem record_set_incoming_record (pair : ConnectionPair) (side : Side)
    (first second : RelayBuffer) (wire : Wire) (wires : List Wire) :
    (((pair.setIncoming side first).record [wire]).setIncoming side second).record wires =
      (pair.setIncoming side second).record (wire :: wires) := by
  cases side <;> simp [record, setIncoming]

theorem read_from_piece (pair : ConnectionPair) (side : Side) (buffer : RelayBuffer)
    (bytes : Bytes) :
    readFrom side ((pair.setIncoming side buffer).record [.read side bytes]).trace =
      readFrom side pair.trace ++ bytes := by
  have trace : ((pair.setIncoming side buffer).record [.read side bytes]).trace =
      pair.trace ++ [.read side bytes] := by
    cases side <;> rfl
  rw [trace, read_from_snoc, Wire.readBytes, if_pos rfl]

theorem forward_moves (may : May) (side : Side) (drain : Bool) (recvs : List RecvResult)
    (pair : ConnectionPair) (client : side = .client → pair.metricsConnection = false)
    (backend : side = .backend → pair.backendFd ≠ -1)
    (data : side = .backend → GivesData recvs → may.data)
    (within : (readFrom side pair.trace).length + arriving recvs ≤ may.budget side) :
    ReflTransGen (PairMove may) pair (pair.forward drain recvs side).2 := by
  unfold forward
  induction recvs generalizing pair with
  | nil => simp [forwardLoop, ReflTransGen.refl]
  | cons recv recvs ih =>
      have later : side = .backend → GivesData recvs → may.data := by
        intro isBackend gives
        obtain ⟨bytes, member, nonempty⟩ := gives
        exact data isBackend ⟨bytes, List.mem_cons_of_mem _ member, nonempty⟩
      cases recv with
      | wouldBlock => simp [forwardLoop, ReflTransGen.refl]
      | failed => simp [forwardLoop, ReflTransGen.refl]
      | interrupted =>
          cases drain with
          | false => simp [forwardLoop, ReflTransGen.refl]
          | true =>
              have same : arriving (.interrupted :: recvs) = arriving recvs := by
                simp [arriving, received]
              rw [same] at within
              exact ih pair client backend later within
      | received bytes =>
          unfold forwardLoop
          simp only
          by_cases empty : (bytes.take (64 * 1024)).isEmpty
          · simp [empty, ReflTransGen.refl]
          · have nonempty : bytes ≠ [] := by
              intro same
              exact empty (by rw [same]; rfl)
            have taken : (bytes.take (64 * 1024)).length ≤ bytes.length := by
              rw [List.length_take]
              exact Nat.min_le_right _ _
            have total : arriving (.received bytes :: recvs) = bytes.length + arriving recvs := by
              simp [arriving, received]
            rw [total] at within
            rw [if_neg empty]
            by_cases full : (pair.incoming side).bytes.length - (pair.incoming side).offset +
                (bytes.take (64 * 1024)).length > RelayBuffer.maxBufferSize
            · rw [if_pos full]
              simp [ReflTransGen.refl]
            rw [if_neg full]
            have piece : PairMove may pair ((pair.setIncoming side
                ((pair.incoming side).append (bytes.take (64 * 1024)))).record
                  [.read side (bytes.take (64 * 1024))]) :=
              .read side _ (Nat.not_lt.mp full) (by omega) client fun isBackend =>
                ⟨data isBackend ⟨bytes, by simp, nonempty⟩, backend isBackend⟩
            cases drain with
            | false => exact .single piece
            | true =>
                apply ReflTransGen.head piece
                have rest := ih ((pair.setIncoming side
                  ((pair.incoming side).append (bytes.take (64 * 1024)))).record
                    [.read side (bytes.take (64 * 1024))])
                  (by cases side <;> exact client) (by cases side <;> exact backend) later
                  (by rw [read_from_piece, List.length_append]; omega)
                simp only [incoming_record, incoming_set_incoming,
                  record_set_incoming_record] at rest
                exact rest

/-- The end of the stream and the failure of the socket were answers of `recv`. -/
theorem forward_result (side : Side) (drain : Bool) (recvs : List RecvResult)
    (pair : ConnectionPair) :
    ((pair.forward drain recvs side).1 = .ended → .received [] ∈ recvs) ∧
      ((pair.forward drain recvs side).1 = .failed → .failed ∈ recvs) := by
  unfold forward
  simp only
  generalize pair.incoming side = buffer
  induction recvs generalizing buffer with
  | nil => simp [forwardLoop]
  | cons recv recvs ih =>
      cases recv with
      | wouldBlock => simp [forwardLoop]
      | failed => simp [forwardLoop]
      | interrupted =>
          cases drain with
          | false => simp [forwardLoop]
          | true =>
              simp only [List.mem_cons, reduceCtorEq, false_or]
              exact ih buffer
      | received bytes =>
          unfold forwardLoop
          simp only
          split_ifs with empty full drains
          · have nothing : bytes = [] := by simpa using empty
            simp [nothing]
          · simp
          · have rest := ih (buffer.append (bytes.take (64 * 1024)))
            exact ⟨fun ended => List.mem_cons_of_mem _ (rest.1 ended),
              fun failed => List.mem_cons_of_mem _ (rest.2 failed)⟩
          · simp

theorem flush_moves {may : May} (writes : may.writes) (side : Side) (sends : List SendResult)
    (pair : ConnectionPair)
    (backend : side = .backend → pair.backendFd ≠ -1 ∧ pair.backendConnecting = false) :
    ReflTransGen (PairMove may) pair (pair.flush sends side).2 := by
  unfold flush
  induction sends generalizing pair with
  | nil => simp [flushLoop, ReflTransGen.refl]
  | cons result sends ih =>
      unfold flushLoop
      by_cases unsent : (pair.incoming side.other).hasUnsent
      · simp only [unsent, if_true]
        cases result with
        | wouldBlock => simp [ReflTransGen.refl]
        | failed => simp [ReflTransGen.refl]
        | interrupted => exact ih pair backend
        | sent count =>
            simp only
            by_cases positive : min count ((pair.incoming side.other).bytes.length -
                (pair.incoming side.other).offset) > 0
            · rw [if_pos positive]
              generalize counted : min count ((pair.incoming side.other).bytes.length -
                (pair.incoming side.other).offset) = sent
              have within : sent ≤ (pair.incoming side.other).unsent.length := by
                unfold RelayBuffer.unsent
                rw [List.length_drop]
                omega
              apply ReflTransGen.head (PairMove.sent writes side sent within backend)
              have rest := ih ((pair.setIncoming side.other
                ((pair.incoming side.other).advance sent)).record
                  [.sent side ((pair.incoming side.other).unsent.take sent)])
                (by cases side <;> exact backend)
              simp only [incoming_record, incoming_set_incoming,
                record_set_incoming_record] at rest
              exact rest
            · simp [positive, ReflTransGen.refl]
      · simp [unsent, ReflTransGen.refl]

theorem flush_fails (side : Side) (sends : List SendResult) (pair : ConnectionPair)
    (bad : (pair.flush sends side).1 = false) : Fails sends := by
  unfold flush at bad
  simp only at bad
  generalize pair.incoming side.other = buffer at bad
  induction sends generalizing buffer with
  | nil => simp [flushLoop] at bad
  | cons result sends ih =>
      have later : Fails sends → Fails (result :: sends) := by
        intro fails
        exact fails.imp (List.mem_cons_of_mem _) (List.mem_cons_of_mem _)
      unfold flushLoop at bad
      by_cases unsent : buffer.hasUnsent
      · simp only [unsent, if_true] at bad
        cases result with
        | wouldBlock => simp at bad
        | failed => exact .inl (by simp)
        | interrupted => exact later (ih buffer bad)
        | sent count =>
            simp only at bad
            split_ifs at bad with positive
            · exact later (ih _ bad)
            · have nothing : count = 0 := by
                unfold RelayBuffer.hasUnsent at unsent
                have some := of_decide_eq_true unsent
                omega
              exact .inr (by simp [nothing])
      · simp [unsent] at bad

end ConnectionPair

end Aorta.Lb
