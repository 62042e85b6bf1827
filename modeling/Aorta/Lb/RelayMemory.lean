import Aorta.Lb.SingleBackend

/-!
# How much a pair stores

`forwardData` holds only the unsent part of a buffer against the limit, and the sent
part is dropped only when there is nothing unsent. The string stays within the limit as
long as nothing is read behind a sent part with which it would outgrow it.
-/

namespace Aorta.Lb

open Relation Aorta.Library.Ascii Aorta.Library.Run Aorta.Net

set_option autoImplicit false

namespace RelayBuffer

def Fits (buffer : RelayBuffer) : Prop := buffer.bytes.length ≤ maxBufferSize

/-- The buffer has no sent part that would have to be kept, or room for so much more
behind it. -/
def HasRoom (buffer : RelayBuffer) (more : Nat) : Prop :=
  buffer.offset = 0 ∨ buffer.offset = buffer.bytes.length ∨
    buffer.bytes.length + more ≤ maxBufferSize

instance (buffer : RelayBuffer) (more : Nat) : Decidable (buffer.HasRoom more) :=
  inferInstanceAs (Decidable (_ ∨ _ ∨ _))

theorem HasRoom.less {buffer : RelayBuffer} {more less : Nat} (room : buffer.HasRoom more)
    (fewer : less ≤ more) : buffer.HasRoom less := by
  rcases room with fresh | sent | roomy
  · exact .inl fresh
  · exact .inr (.inl sent)
  · exact .inr (.inr (by omega))

theorem clear_sent_length (buffer : RelayBuffer) :
    buffer.clearSent.bytes.length ≤ buffer.bytes.length := by
  unfold clearSent
  split_ifs
  · exact Nat.zero_le _
  · exact Nat.le_refl _

theorem clear_sent_has_room {buffer : RelayBuffer} {more : Nat} (room : buffer.HasRoom more) :
    buffer.clearSent.HasRoom more := by
  unfold clearSent
  split_ifs
  · exact .inl rfl
  · exact room

theorem append_fits {buffer : RelayBuffer} {bytes : Bytes} {more : Nat}
    (enough : buffer.bytes.length - buffer.offset + bytes.length ≤ maxBufferSize)
    (room : buffer.HasRoom more) (part : bytes.length ≤ more) :
    (buffer.append bytes).Fits ∧ (buffer.append bytes).HasRoom (more - bytes.length) := by
  unfold Fits HasRoom append clearSent
  by_cases sent : buffer.offset = buffer.bytes.length
  · simp only [if_pos sent, List.nil_append]
    exact ⟨by omega, .inl trivial⟩
  · simp only [if_neg sent, List.length_append]
    rcases room with fresh | same | roomy
    · exact ⟨by omega, .inl fresh⟩
    · exact absurd same sent
    · exact ⟨by omega, .inr (.inr (by omega))⟩

end RelayBuffer

/-- Both strings of a pair are within the limit, but for the answer to a request for
metrics. -/
structure Bounded (pair : ConnectionPair) : Prop where
  toBackend : pair.clientToBackend.Fits
  toClient : pair.metricsConnection = false → pair.backendToClient.Fits

/-- What is left to read has room. -/
structure Roomy (may : May) (pair : ConnectionPair) : Prop where
  toBackend : pair.clientToBackend.HasRoom
    (may.budget .client - (readFrom .client pair.trace).length)
  toClient : pair.metricsConnection = false → pair.backendToClient.HasRoom
    (may.budget .backend - (readFrom .backend pair.trace).length)

theorem Bounded.roomy {may : May} {pair : ConnectionPair} (bounded : Bounded pair)
    (nothing : ∀ side, may.budget side = 0) : Roomy may pair := by
  constructor
  · rw [nothing, Nat.zero_sub]
    exact .inr (.inr bounded.toBackend)
  · intro plain
    rw [nothing, Nat.zero_sub]
    exact .inr (.inr (bounded.toClient plain))

section Moves

variable {may : May} {pair after : ConnectionPair}

theorem Roomy.same (roomy : Roomy may pair)
    (read : ∀ side, readFrom side after.trace = readFrom side pair.trace)
    (toBackend : after.clientToBackend = pair.clientToBackend)
    (toClient : after.backendToClient = pair.backendToClient)
    (metrics : after.metricsConnection = false → pair.metricsConnection = false) :
    Roomy may after := by
  constructor
  · rw [read, toBackend]
    exact roomy.toBackend
  · intro plain
    rw [read, toClient]
    exact roomy.toClient (metrics plain)

theorem read_from_record (pair : ConnectionPair) (side : Side) (wire : Wire) :
    readFrom side (pair.record [wire]).trace = readFrom side pair.trace ++ wire.readBytes side :=
  read_from_snoc side pair.trace wire

theorem bounded_moved (bounded : Bounded pair) (roomy : Roomy may pair)
    (apart : may.writes → ∀ side, may.budget side = 0) (move : PairMove may pair after) :
    Bounded after ∧ Roomy may after := by
  have silent : ∀ (pair : ConnectionPair) (wire : Wire), (∀ side, wire.readBytes side = []) →
      ∀ side, readFrom side (pair.record [wire]).trace = readFrom side pair.trace := by
    intro pair wire nothing side
    rw [read_from_record, nothing, List.append_nil]
  cases move with
  | read side bytes fits within client backend =>
      cases side with
      | client =>
          have part : bytes.length ≤
              may.budget .client - (readFrom .client pair.trace).length := by omega
          obtain ⟨fit, room⟩ := RelayBuffer.append_fits fits roomy.toBackend part
          refine ⟨⟨fit, bounded.toClient⟩, ?_, fun plain => ?_⟩
          · rw [read_from_record, Wire.readBytes, if_pos rfl, List.length_append, Nat.sub_add_eq]
            exact room
          · rw [read_from_record, Wire.readBytes, if_neg (by simp), List.append_nil]
            exact roomy.toClient plain
      | backend =>
          have part : bytes.length ≤
              may.budget .backend - (readFrom .backend pair.trace).length := by omega
          refine ⟨⟨bounded.toBackend, fun plain => ?_⟩, ?_, fun plain => ?_⟩
          · exact (RelayBuffer.append_fits fits (roomy.toClient plain) part).1
          · rw [read_from_record, Wire.readBytes, if_neg (by simp), List.append_nil]
            exact roomy.toBackend
          · rw [read_from_record, Wire.readBytes, if_pos rfl, List.length_append, Nat.sub_add_eq]
            exact (RelayBuffer.append_fits fits (roomy.toClient plain) part).2
  | ended side backend =>
      cases side with
      | client =>
          exact ⟨⟨bounded.toBackend, bounded.toClient⟩,
            roomy.same (silent _ _ fun _ => rfl) rfl rfl id⟩
      | backend =>
          exact ⟨⟨bounded.toBackend, bounded.toClient⟩,
            roomy.same (silent _ _ fun _ => rfl) rfl rfl id⟩
  | sent writes side count within backend =>
      -- Sending makes a sent part, but there is nothing more to read in that stage.
      cases side with
      | client =>
          have still : Bounded ((pair.setIncoming .backend
              (pair.backendToClient.advance count)).record [.sent .client
                (pair.backendToClient.unsent.take count)]) :=
            ⟨bounded.toBackend, bounded.toClient⟩
          exact ⟨still, still.roomy (apart writes)⟩
      | backend =>
          have still : Bounded ((pair.setIncoming .client
              (pair.clientToBackend.advance count)).record [.sent .backend
                (pair.clientToBackend.unsent.take count)]) :=
            ⟨bounded.toBackend, bounded.toClient⟩
          exact ⟨still, still.roomy (apart writes)⟩
  | clear =>
      refine ⟨⟨?_, fun plain => ?_⟩, ?_, fun plain => ?_⟩
      · exact (RelayBuffer.clear_sent_length _).trans bounded.toBackend
      · exact (RelayBuffer.clear_sent_length _).trans (bounded.toClient plain)
      · exact RelayBuffer.clear_sent_has_room roomy.toBackend
      · exact RelayBuffer.clear_sent_has_room (roomy.toClient plain)
  | shutBackend writes ended once nothing attached connected =>
      exact ⟨⟨bounded.toBackend, bounded.toClient⟩,
        roomy.same (silent _ _ fun _ => rfl) rfl rfl id⟩
  | shutClient writes ended once nothing =>
      exact ⟨⟨bounded.toBackend, bounded.toClient⟩,
        roomy.same (silent _ _ fun _ => rfl) rfl rfl id⟩
  | connected => exact ⟨⟨bounded.toBackend, bounded.toClient⟩, ⟨roomy.toBackend, roomy.toClient⟩⟩
  | watched client backend =>
      exact ⟨⟨bounded.toBackend, bounded.toClient⟩, ⟨roomy.toBackend, roomy.toClient⟩⟩
  | redialled detached index connecting events =>
      exact ⟨⟨bounded.toBackend, bounded.toClient⟩, ⟨roomy.toBackend, roomy.toClient⟩⟩
  | admitted detached unopened => exact ⟨⟨bounded.toBackend, by simp⟩, ⟨roomy.toBackend, by simp⟩⟩
  | answered metrics response request events within =>
      have isMetrics : ∀ {conclusion : Prop}, pair.metricsConnection = false → conclusion := by
        intro conclusion plain
        rw [metrics] at plain
        cases plain
      refine ⟨⟨bounded.toBackend, fun plain => isMetrics plain⟩, ?_, fun plain => isMetrics plain⟩
      rw [read_from_record, List.length_append, Nat.sub_add_eq]
      exact RelayBuffer.HasRoom.less roomy.toBackend (Nat.sub_le _ _)

end Moves

theorem bounded_staged {may : May} (apart : may.writes → ∀ side, may.budget side = 0)
    (idle : may.accepts → ∀ side, may.budget side = 0) :
    Staged may Bounded (Roomy may) fun _ _ => True where
  accepted := by
    intro accepts fd clientIp
    have bounded : Bounded (acceptedPair fd clientIp) := ⟨Nat.zero_le _, fun _ => Nat.zero_le _⟩
    exact ⟨bounded, bounded.roomy (idle accepts)⟩
  moved := by
    intro pair after move bounded roomy
    exact bounded_moved bounded roomy apart move
  attached := by
    intro pair fd index connecting _ _ _ bounded roomy
    refine ⟨⟨bounded.toBackend, bounded.toClient⟩, roomy.same (fun side => ?_) rfl rfl id⟩
    rw [attachedPair, read_from_record]
    exact List.append_nil _
  detached := by
    intro pair _ _ _ _ bounded roomy
    exact ⟨⟨bounded.toBackend, bounded.toClient⟩, ⟨roomy.toBackend, roomy.toClient⟩⟩
  closed := by
    intro pair reason _ _ _
    trivial

namespace LoadBalancer

/-- The buffer that takes what the socket of the event sends has no sent part that is
kept, or room for all that arrives. -/
def FindsRoom (isBackendFd : Bool) (answers : EventAnswers) (pair : ConnectionPair) : Prop :=
  (isBackendFd = true → pair.metricsConnection = false) →
    (pair.incoming (eventSide isBackendFd)).HasRoom
      (arriving answers.recvs + arriving answers.drains)

instance (isBackendFd : Bool) (answers : EventAnswers) :
    DecidablePred (FindsRoom isBackendFd answers) := fun _ =>
  inferInstanceAs (Decidable (_ → _))

def RoomForArrivals (lb : LoadBalancer) : Input → Prop
  | .event fd _ answers =>
      OnPair lb fd (FindsRoom (lb.backendToClient.lookup fd).isSome answers)
  | _ => True

instance (lb : LoadBalancer) (input : Input) : Decidable (RoomForArrivals lb input) :=
  match input with
  | .event _ _ _ => inferInstanceAs (Decidable (OnPair _ _ _))
  | .expire _ => isTrue trivial
  | .stop => isTrue trivial

theorem event_roomy {lb : LoadBalancer} {fd : Int} {flags : EventMask} {answers : EventAnswers}
    {pair : ConnectionPair} (found : lb.connections.lookup (lb.clientOf fd) = some pair)
    (bounded : Bounded pair)
    (condition : FindsRoom (lb.backendToClient.lookup fd).isSome answers pair) :
    Roomy (reading (lb.backendToClient.lookup fd).isSome flags answers (lb.budgetOf fd answers))
      pair := by
  have budget : lb.budgetOf fd answers = plus (fun side => (readFrom side pair.trace).length)
      (lb.backendToClient.lookup fd).isSome (arriving answers.recvs + arriving answers.drains) := by
    rw [budgetOf, readBudget, found]
  rw [budget]
  generalize (lb.backendToClient.lookup fd).isSome = isBackendFd at condition
  cases isBackendFd with
  | true =>
      constructor
      · simp only [reading, plus, eventSide, if_true, reduceCtorEq, if_false, Nat.add_zero,
          Nat.sub_self]
        exact .inr (.inr bounded.toBackend)
      · intro plain
        simp only [reading, plus, eventSide, if_true, Nat.add_sub_cancel_left]
        exact condition fun _ => plain
  | false =>
      constructor
      · simp only [reading, plus, eventSide, Bool.false_eq_true, if_false, if_true,
          Nat.add_sub_cancel_left]
        exact condition (by simp)
      · intro plain
        simp only [reading, plus, eventSide, Bool.false_eq_true, if_false, reduceCtorEq,
          Nat.add_zero, Nat.sub_self]
        exact .inr (.inr (bounded.toClient plain))

/-- What the condition keeps between two steps. -/
structure Stored (lb : LoadBalancer) : Prop where
  sound : Sound lb
  opened : ∀ clientFd pair, lb.connections.lookup clientFd = some pair → Bounded pair

theorem step_stored (lb : LoadBalancer) (input : Input) (stored : Stored lb)
    (condition : RoomForArrivals lb input) : Stored (lb.step input) := by
  have nothing : ∀ {may : May}, (∀ side, may.budget side = 0) →
      Staged may Bounded (Roomy may) fun _ _ => True :=
    fun none => bounded_staged (fun _ => none) fun _ => none
  have idle : Staged quiet Bounded (Roomy quiet) fun _ _ => True := nothing fun _ => rfl
  have both := stepped_staged stored.sound.tables
    (idle.always fun _ bounded => bounded.roomy fun _ => rfl) ?_ (stored.sound.stepped input)
    stored.opened fun _ _ _ => trivial
  · exact ⟨step_sound stored.sound input, both.1⟩
  · rintro fd flags answers rfl
    refine .intro
      (Roomy (reading (lb.backendToClient.lookup fd).isSome flags answers
        (lb.budgetOf fd answers)))
      (Roomy (settling (lb.backendToClient.lookup fd).isSome flags answers)) (Roomy failing)
      ?_ (bounded_staged nofun nofun) ?_ (nothing fun _ => rfl) ?_ (nothing fun _ => rfl)
    · intro pair found bounded
      exact event_roomy found bounded (condition pair found)
    · exact fun pair bounded _ => bounded.roomy fun _ => rfl
    · exact fun _ _ pair _ _ bounded _ => bounded.roomy fun _ => rfl

/-- In a run in which nothing is read behind a sent part with which the string would
outgrow the limit, no string of a pair outgrows it. -/
theorem relay_memory_is_bounded (routingMode : RoutingMode) (configured : List (Bytes × Nat))
    (listenFd healthTimerFd : Int) (inputs : List Input)
    (throughout : Throughout step RoomForArrivals
      (create routingMode configured listenFd healthTimerFd) inputs) :
    ∀ clientFd pair,
      (run step (create routingMode configured listenFd healthTimerFd) inputs).connections.lookup
        clientFd = some pair →
      pair.clientToBackend.bytes.length ≤ RelayBuffer.maxBufferSize ∧
        (pair.metricsConnection = false →
          pair.backendToClient.bytes.length ≤ RelayBuffer.maxBufferSize) := by
  have start : Stored (create routingMode configured listenFd healthTimerFd) := by
    refine ⟨create_sound routingMode configured listenFd healthTimerFd, ?_⟩
    intro clientFd pair found
    cases found
  have stored := run_invariant_throughout step step_stored start inputs throughout
  intro clientFd pair found
  have bounded := stored.opened clientFd pair found
  exact ⟨bounded.toBackend, bounded.toClient⟩

theorem exchange_memory_is_bounded :
    let lb := run step twoBackends (failoverExchange refusedAnswers)
    (lb.connections.lookup 5).isSome = true ∧
      ∀ clientFd pair, lb.connections.lookup clientFd = some pair →
        pair.clientToBackend.bytes.length ≤ RelayBuffer.maxBufferSize ∧
          (pair.metricsConnection = false →
            pair.backendToClient.bytes.length ≤ RelayBuffer.maxBufferSize) :=
  ⟨by decide, relay_memory_is_bounded .roundRobin
    [(ascii "127.0.0.1", 8081), (ascii "127.0.0.1", 8082)] 3 4
    (failoverExchange refusedAnswers) (by decide)⟩

section Stream

variable (lb : LoadBalancer) {clientFd backendFd : Int} {pair : ConnectionPair}
  (answers : EventAnswers)

theorem phases_between (found : lb.connections.lookup clientFd = some pair)
    (nothing : pair.clientToBackend.hasUnsent = false) :
    ((drainPhase clientFd true { input := true } answers lb).andThen
      (connectPhase clientFd true { input := true } answers)).andThen
      (flushBackendPhase clientFd answers) = .next lb := by
  simp only [drainPhase, found, Bool.or_false, Bool.false_eq_true, if_false, Flow.andThen,
    connectPhase, Bool.and_false, flushBackendPhase, nothing]

theorem flush_client_phase (found : lb.connections.lookup clientFd = some pair)
    (waits : pair.backendToClient.hasUnsent = true) {after : ConnectionPair}
    (flushed : pair.flush answers.clientSends .client = (true, after)) :
    flushClientPhase clientFd answers lb = .next (lb.setPair clientFd after) := by
  simp only [flushClientPhase, found, waits, if_true, flushData, flushed]

theorem settle_phase (found : lb.connections.lookup clientFd = some pair)
    (clientOpen : pair.clientReadClosed = false) (backendOpen : pair.backendReadClosed = false)
    (plain : pair.metricsConnection = false) (cleared : clearBuffers pair = pair) :
    settlePhase clientFd answers lb =
      .next (lb.setPair clientFd (updateInterest answers pair)) := by
  simp only [settlePhase, found, cleared, shutdownBackend, shutdownClient, clientOpen,
    backendOpen, plain, Bool.false_and, Bool.false_eq_true, if_false]

variable {lb}

/-- A client and its backend are connected, and what the backend sent is in the buffer. -/
structure Streams (clientFd backendFd : Int) (buffer : RelayBuffer) (lb : LoadBalancer) : Prop where
  noListener : backendFd ≠ lb.listenFd
  noTimer : backendFd ≠ lb.healthTimerFd
  noCheck : lb.healthChecker.handles backendFd = false
  owner : lb.backendToClient.lookup backendFd = some clientFd
  pair : ∃ pair, lb.connections.lookup clientFd = some pair ∧
    pair.metricsConnection = false ∧ pair.clientReadClosed = false ∧
    pair.backendReadClosed = false ∧ pair.clientToBackend = {} ∧ pair.backendToClient = buffer

/-- The backend sends some bytes and the client takes some. -/
def streamed (backendFd : Int) (bytes : Bytes) (sends : List SendResult) : Input :=
  .event backendFd { input := true } { recvs := [.received bytes], clientSends := sends }

theorem forward_takes {buffer : RelayBuffer} {bytes : Bytes} (nonempty : bytes ≠ [])
    (piece : bytes.length ≤ 64 * 1024)
    (fits : buffer.bytes.length - buffer.offset + bytes.length ≤ RelayBuffer.maxBufferSize) :
    forwardLoop false [.received bytes] buffer = (.forwarded, buffer.append bytes, [bytes]) := by
  have some : bytes.isEmpty = false := by
    rw [List.isEmpty_eq_false_iff]
    exact nonempty
  simp only [forwardLoop, List.take_of_length_le piece, some, Bool.false_eq_true, if_false,
    if_neg (Nat.not_lt.mpr fits)]

theorem streams_step {buffer left : RelayBuffer} (streams : Streams clientFd backendFd buffer lb)
    {bytes : Bytes} {sends : List SendResult} {pieces : List Bytes} (nonempty : bytes ≠ [])
    (piece : bytes.length ≤ 64 * 1024)
    (fits : buffer.bytes.length - buffer.offset + bytes.length ≤ RelayBuffer.maxBufferSize)
    (waits : (buffer.append bytes).hasUnsent = true)
    (flushed : flushLoop sends (buffer.append bytes) = (true, left, pieces))
    (unsent : left.offset ≠ left.bytes.length) :
    Streams clientFd backendFd left (lb.step (streamed backendFd bytes sends)) := by
  obtain ⟨noListener, noTimer, noCheck, owner, pair, found, plain, clientOpen, backendOpen,
    toBackend, rfl⟩ := streams
  obtain ⟨answers, isAnswers⟩ : ∃ answers : EventAnswers,
    answers = { recvs := [.received bytes], clientSends := sends } := ⟨_, rfl⟩
  obtain ⟨read, isRead⟩ : ∃ read, read =
    (pair.setIncoming .backend (pair.backendToClient.append bytes)).record
      [.read .backend bytes] := ⟨_, rfl⟩
  obtain ⟨sent, isSent⟩ : ∃ sent, sent =
    (read.setIncoming .backend left).record (pieces.map (.sent .client)) := ⟨_, rfl⟩
  have emptied : read.clientToBackend = {} := by
    rw [isRead]
    exact toBackend
  have stillOpen : sent.metricsConnection = false ∧ sent.clientReadClosed = false ∧
      sent.backendReadClosed = false ∧ sent.clientToBackend = {} ∧
      sent.backendToClient = left := by
    simp only [isSent, isRead, ConnectionPair.setIncoming, ConnectionPair.record, plain,
      clientOpen, backendOpen, toBackend, and_self]
  have reads : readPhase clientFd true { input := true } answers lb =
      .next (lb.setPair clientFd read) := by
    simp only [readPhase, if_true, forwardData, found, ConnectionPair.forward,
      ConnectionPair.incoming, isAnswers, forward_takes nonempty piece fits, isRead,
      List.map_cons, List.map_nil]
  have between := phases_between (lb.setPair clientFd read) answers (AList.lookup_insert _)
    (by rw [emptied]; rfl)
  have flushes : flushClientPhase clientFd answers (lb.setPair clientFd read) =
      .next ((lb.setPair clientFd read).setPair clientFd sent) := by
    apply flush_client_phase _ _ (AList.lookup_insert _)
    · rw [isRead]
      exact waits
    · have loop : flushLoop answers.clientSends read.backendToClient = (true, left, pieces) := by
        rw [isRead, isAnswers]
        exact flushed
      simp only [ConnectionPair.flush, Side.other, ConnectionPair.incoming, loop, isSent]
  have cleared : clearBuffers sent = sent := by
    have toClient : left.clearSent = left := if_neg unsent
    have nothing : ({} : RelayBuffer).clearSent = {} := rfl
    simp only [clearBuffers, isSent, ConnectionPair.setIncoming, ConnectionPair.record, emptied,
      toClient, nothing]
  have settles := settle_phase ((lb.setPair clientFd read).setPair clientFd sent) answers
    (AList.lookup_insert _) stillOpen.2.1 stillOpen.2.2.1 stillOpen.1 cleared
  have relayed : lb.step (streamed backendFd bytes sends) =
      ((lb.setPair clientFd read).setPair clientFd sent).setPair clientFd
        (updateInterest answers sent) := by
    have key : lb.clientOf backendFd = clientFd := by
      unfold clientOf
      rw [owner]
      rfl
    simp only [streamed, step, handleEvent, if_neg noListener, if_neg noTimer, noCheck,
      Bool.false_eq_true, if_false, ← isAnswers]
    rw [handle_pair_event_found (key.symm ▸ found), key, owner]
    simp only [Bool.false_eq_true, if_false, Bool.false_and, Option.isSome_some]
    rw [relayEvent, reads, Flow.andThen, between, Flow.andThen, flushes, Flow.andThen, settles]
    rfl
  rw [relayed]
  exact ⟨noListener, noTimer, noCheck, owner, updateInterest answers sent, AList.lookup_insert _,
    stillOpen⟩

theorem streams_stalled {stored : Bytes} {offset : Nat}
    (streams : Streams clientFd backendFd ⟨stored, offset⟩ lb) {piece : Bytes}
    (nonempty : piece ≠ []) (small : piece.length ≤ 64 * 1024)
    (waits : offset = 0 ∨ offset < stored.length)
    (fits : stored.length - offset + piece.length ≤ RelayBuffer.maxBufferSize) :
    Streams clientFd backendFd ⟨stored ++ piece, offset⟩
      (lb.step (streamed backendFd piece [])) := by
  have some : 0 < piece.length := List.length_pos_iff.mpr nonempty
  have unsent : offset < (stored ++ piece).length := by
    rw [List.length_append]
    omega
  have appended : RelayBuffer.append ⟨stored, offset⟩ piece = ⟨stored ++ piece, offset⟩ := by
    unfold RelayBuffer.append RelayBuffer.clearSent
    by_cases sent : offset = stored.length
    · have empty : stored.length = 0 := by omega
      rw [if_pos sent, List.length_eq_zero_iff.mp empty, sent, empty]
    · rw [if_neg sent]
  have loop : flushLoop [] (RelayBuffer.append ⟨stored, offset⟩ piece) =
      (true, ⟨stored ++ piece, offset⟩, []) := by
    rw [appended]
    rfl
  have hasUnsent : (RelayBuffer.append ⟨stored, offset⟩ piece).hasUnsent = true := by
    rw [appended, RelayBuffer.hasUnsent, decide_eq_true_eq]
    exact unsent
  exact streams_step streams nonempty small fits hasUnsent loop (Nat.ne_of_lt unsent)

theorem streams_run {piece : Bytes} (nonempty : piece ≠ []) (small : piece.length ≤ 64 * 1024)
    (count : Nat) {stored : Bytes} {lb : LoadBalancer}
    (streams : Streams clientFd backendFd ⟨stored, 0⟩ lb)
    (fits : stored.length + count * piece.length ≤ RelayBuffer.maxBufferSize) :
    Streams clientFd backendFd ⟨stored ++ (List.replicate count piece).flatten, 0⟩
      (run step lb (List.replicate count (streamed backendFd piece []))) := by
  induction count generalizing stored lb with
  | zero =>
      rw [List.replicate_zero, List.flatten_nil, List.append_nil]
      exact streams
  | succ count ih =>
      rw [Nat.succ_mul] at fits
      have next := streams_stalled streams nonempty small (.inl rfl) (by omega)
      rw [List.replicate_succ, List.replicate_succ, List.flatten_cons, ← List.append_assoc]
      apply ih next
      rw [List.length_append]
      omega

theorem streams_taken {stored : Bytes} (streams : Streams clientFd backendFd ⟨stored, 0⟩ lb)
    {piece : Bytes} (small : piece.length ≤ 64 * 1024) (long : 1 < piece.length)
    (fits : stored.length + piece.length ≤ RelayBuffer.maxBufferSize) :
    Streams clientFd backendFd ⟨stored ++ piece, 1⟩
      (lb.step (streamed backendFd piece [.sent 1])) := by
  have nonempty : piece ≠ [] := List.ne_nil_of_length_pos (by omega)
  have unsent : 1 < (stored ++ piece).length := by
    rw [List.length_append]
    omega
  have appended : RelayBuffer.append ⟨stored, 0⟩ piece = ⟨stored ++ piece, 0⟩ := by
    unfold RelayBuffer.append RelayBuffer.clearSent
    by_cases empty : 0 = stored.length
    · rw [if_pos empty, List.length_eq_zero_iff.mp empty.symm]
    · rw [if_neg empty]
  have hasUnsent : RelayBuffer.hasUnsent ⟨stored ++ piece, 0⟩ = true := by
    rw [RelayBuffer.hasUnsent, decide_eq_true_eq]
    exact Nat.zero_lt_of_lt unsent
  have loop : flushLoop [.sent 1] (RelayBuffer.append ⟨stored, 0⟩ piece) =
      (true, ⟨stored ++ piece, 1⟩, [(stored ++ piece).take 1]) := by
    have first : min 1 ((stored ++ piece).length - 0) = 1 := by omega
    rw [appended, flushLoop, if_pos hasUnsent]
    simp only [first, Nat.zero_lt_one, gt_iff_lt, if_true, flushLoop]
    rfl
  rw [← appended] at hasUnsent
  exact streams_step streams nonempty small fits hasUnsent loop (Nat.ne_of_lt unsent)

end Stream

/-- A client sends a request and its backend is connected at once. -/
def connectedExchange : List Input :=
  [.event 3 { input := true } { accepts := [.client 5 (ascii "127.0.0.1") true] },
    .event 5 { input := true }
      { peek := .received (ascii "hi"), dials := [{ sockets := [.connected 6] }]
        recvs := [.received (ascii "hi")], backendSends := [.sent 2] }]

/-- The backend fills the buffer while the client takes no byte; then it takes one, and
the backend sends one more. -/
def slowClientExchange : List Input :=
  connectedExchange ++ List.replicate 127 (streamed 6 (List.replicate 65536 0) []) ++
    [streamed 6 (List.replicate 65536 0) [.sent 1], streamed 6 [0] []]

/-- The byte that was sent is kept in front of those that were not. -/
theorem slow_client_outgrows_buffer :
    ∃ pair, (run step twoBackends slowClientExchange).connections.lookup 5 = some pair ∧
      pair.metricsConnection = false ∧
      RelayBuffer.maxBufferSize < pair.backendToClient.bytes.length := by
  have start : Streams 5 6 ⟨[], 0⟩ (run step twoBackends connectedExchange) :=
    ⟨by decide, by decide, by decide, by decide, _, rfl, by decide⟩
  have size : (List.replicate 65536 (0 : UInt8)).length = 65536 := List.length_replicate
  have nonempty : List.replicate 65536 (0 : UInt8) ≠ [] := nofun
  obtain ⟨chunk, isChunk⟩ : ∃ chunk, chunk = List.replicate 65536 (0 : UInt8) := ⟨_, rfl⟩
  rw [← isChunk] at size nonempty
  have limit : RelayBuffer.maxBufferSize = 128 * 65536 := rfl
  have filled := streams_run nonempty (Nat.le_of_eq size) 127 start (by
    rw [size, limit]
    decide)
  obtain ⟨stored, isStored⟩ : ∃ stored, stored = [] ++ (List.replicate 127 chunk).flatten :=
    ⟨_, rfl⟩
  have long : stored.length = 127 * 65536 := by
    rw [isStored, List.nil_append, List.length_flatten, List.map_replicate, List.sum_replicate,
      size]
    rfl
  rw [← isStored] at filled
  have whole : (stored ++ chunk).length = 128 * 65536 := by
    rw [List.length_append, long, size]
  have taken := streams_taken filled (Nat.le_of_eq size) (by omega) (by omega)
  have outgrown := streams_stalled taken (List.cons_ne_nil 0 []) (by decide) (by omega) (by
    rw [whole, limit]
    decide)
  obtain ⟨pair, found, plain, -, -, -, toClient⟩ := outgrown.pair
  refine ⟨pair, ?_, plain, ?_⟩
  · rw [slowClientExchange, run_append, run_append, ← isChunk, run_cons, run_cons, run_nil]
    exact found
  · rw [toClient, limit, List.length_append, whole]
    exact Nat.lt_succ_self _

end LoadBalancer

end Aorta.Lb
