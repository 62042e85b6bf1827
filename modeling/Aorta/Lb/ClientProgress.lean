import Aorta.Lb.Interest

/-!
# The end of a client's stream

Once a client has finished sending, an event of its socket closes the pair or notes
the end of the stream. A client without a backend of which nothing but the beginning
of a request for the metrics has arrived is the exception: its event is left by
`continue` before anything is read.
-/

namespace Aorta.Lb

open Relation Aorta.Library.Ascii Aorta.Library.Run Aorta.Net

set_option autoImplicit false

/-- The answers of `recv` on a socket whose peer has finished: what is left, and then
the end of the stream. -/
def readsToEnd : List RecvResult → Bool
  | [] => false
  | .received [] :: _ => true
  | .received (_ :: _) :: recvs => readsToEnd recvs
  | .interrupted :: recvs => readsToEnd recvs
  | .wouldBlock :: _ => false
  | .failed :: _ => true

theorem forward_loop_ends (recvs : List RecvResult) (buffer : RelayBuffer)
    (finished : readsToEnd recvs = true) : (forwardLoop true recvs buffer).1 ≠ .forwarded := by
  induction recvs generalizing buffer with
  | nil => cases finished
  | cons recv recvs ih =>
      cases recv with
      | received bytes =>
          unfold forwardLoop
          simp only
          cases bytes with
          | nil => simp
          | cons byte bytes =>
              have some : ¬ ((byte :: bytes).take (64 * 1024)).isEmpty = true := by simp
              rw [if_neg some]
              split_ifs
              · simp
              · exact ih _ finished
      | interrupted => exact ih buffer finished
      | wouldBlock => cases finished
      | failed => simp [forwardLoop]

/-- What is left for a metrics client is the answer to its request, which is the last
thing read from it. -/
structure Answered (pair : ConnectionPair) : Prop where
  fresh : pair.Unopened → pair.metricsConnection = false → pair.backendToClient.bytes = []
  metrics : pair.metricsConnection = true →
    pair.clientReadClosed = true ∨ pair.backendToClient.bytes = []
  attached : pair.backendFd ≠ -1 → pair.metricsConnection = false ∧ ¬ pair.Unopened

theorem unopened_of_record {pair : ConnectionPair} {wires : List Wire}
    (unopened : (pair.record wires).Unopened) : pair.Unopened := fun wire member =>
  unopened wire (List.mem_append_left _ member)

theorem Answered.keep {pair after : ConnectionPair} (answered : Answered pair)
    (unopened : after.Unopened → pair.Unopened) (socket : after.backendFd = pair.backendFd)
    (metrics : after.metricsConnection = pair.metricsConnection)
    (ended : pair.clientReadClosed = true → after.clientReadClosed = true)
    (bytes : pair.backendToClient.bytes = [] → after.backendToClient.bytes = []) :
    Answered after where
  fresh never plain := bytes (answered.fresh (unopened never) (metrics.symm.trans plain))
  metrics isMetrics := (answered.metrics (metrics.symm.trans isMetrics)).imp ended bytes
  attached has := by
    rw [socket] at has
    rw [metrics]
    exact (answered.attached has).imp_right (mt unopened)

theorem RelayBuffer.clear_sent_empty {buffer : RelayBuffer} (empty : buffer.bytes = []) :
    buffer.clearSent.bytes = [] := by
  unfold RelayBuffer.clearSent
  split_ifs
  · rfl
  · exact empty

theorem answered_moves {may : May} {pair after : ConnectionPair} (move : PairMove may pair after)
    (answered : Answered pair) : Answered after := by
  cases move with
  | read side bytes fits within client backend =>
      cases side with
      | client => exact answered.keep unopened_of_record rfl rfl id id
      | backend =>
          obtain ⟨plain, opened⟩ := answered.attached (backend rfl).2
          exact ⟨fun never => absurd (unopened_of_record never) opened,
            fun metrics => absurd metrics (Bool.eq_false_iff.mp plain),
            fun _ => ⟨plain, fun never => opened (unopened_of_record never)⟩⟩
  | ended side backend =>
      cases side with
      | client => exact answered.keep unopened_of_record rfl rfl (fun _ => rfl) id
      | backend => exact answered.keep unopened_of_record rfl rfl id id
  | sent writes side count within backend =>
      cases side with
      | client => exact answered.keep unopened_of_record rfl rfl id id
      | backend => exact answered.keep unopened_of_record rfl rfl id id
  | clear => exact answered.keep id rfl rfl id RelayBuffer.clear_sent_empty
  | shutBackend writes ended once nothing attached connected =>
      exact answered.keep unopened_of_record rfl rfl id id
  | shutClient writes ended once nothing => exact answered.keep unopened_of_record rfl rfl id id
  | connected => exact answered.keep id rfl rfl id id
  | watched client backend => exact answered.keep id rfl rfl id id
  | redialled detached index connecting events => exact answered.keep id rfl rfl id id
  | admitted detached unopened =>
      refine ⟨nofun, fun _ => ?_, fun attached => absurd detached attached⟩
      cases metrics : pair.metricsConnection with
      | true => exact answered.metrics metrics
      | false => exact .inr (answered.fresh unopened metrics)
  | answered metrics response request events within =>
      have plain : ¬ pair.metricsConnection = false := by simp [metrics]
      exact ⟨fun _ isPlain => absurd isPlain plain, fun _ => .inl rfl,
        fun attached => absurd (answered.attached attached).1 plain⟩

theorem answered_kept (may : May) : Kept may Answered where
  accepted _ _ := ⟨fun _ _ => rfl, nofun, fun attached => absurd rfl attached⟩
  moved := answered_moves
  attached {pair} fd index connecting detached plain answered := by
    have opened : ¬ (attachedPair pair fd index connecting).Unopened := by
      intro never
      have closed := never (.opened fd index) (List.mem_append_right _ (List.mem_singleton_self _))
      cases closed
    exact ⟨fun never => absurd never opened,
      fun metrics => absurd metrics (Bool.eq_false_iff.mp plain), fun _ => ⟨plain, opened⟩⟩
  detached _ _ _ answered :=
    ⟨answered.fresh, answered.metrics, fun attached => absurd rfl attached⟩

namespace LoadBalancer

/-- The pair of a client is gone, or knows that the client has finished. -/
def ClientDone (lb : LoadBalancer) (clientFd : Int) : Prop :=
  ∀ pair, lb.connections.lookup clientFd = some pair → pair.clientReadClosed = true

theorem gone_done {lb : LoadBalancer} {clientFd : Int}
    (gone : lb.connections.lookup clientFd = none) : ClientDone lb clientFd := by
  intro pair found
  rw [gone] at found
  cases found

theorem moves_done {may : May} {clientFd : Int} {lb after : LoadBalancer}
    (alone : ¬ may.accepts) (moves : Moves may clientFd lb after) (ended : ClientDone lb clientFd) :
    ClientDone after clientFd := by
  have staged : Staged may (fun _ => True) (fun pair => pair.clientReadClosed = true)
      fun _ _ => True := by
    constructor
    · exact fun accepts => absurd accepts alone
    · intro pair after move _ ended
      refine ⟨trivial, ?_⟩
      cases move with
      | read side => cases side <;> exact ended
      | ended side =>
          cases side with
          | client => rfl
          | backend => exact ended
      | sent writes side => cases side <;> exact ended
      | answered => rfl
      | _ => exact ended
    · exact fun _ _ _ _ _ _ _ ended => ⟨trivial, ended⟩
    · exact fun _ _ _ _ _ ended => ⟨trivial, ended⟩
    · exact fun _ _ _ _ => trivial
  exact (moves_staged staged moves ⟨fun _ _ _ => trivial, ended, fun _ _ _ => trivial⟩).ready

section Phases

variable {clientFd : Int} {lb after : LoadBalancer} {pair : ConnectionPair}

theorem forward_data_goes_on (tables : Tables lb)
    (found : lb.connections.lookup clientFd = some pair) (drain : Bool) (recvs : List RecvResult)
    (going : lb.forwardData clientFd .client drain recvs = .next after) :
    ∃ new, after.connections.lookup clientFd = some new ∧
      new.metricsConnection = pair.metricsConnection ∧
      (drain = true → readsToEnd recvs = true → new.clientReadClosed = true) := by
  have plain : (pair.forward drain recvs .client).2.metricsConnection = pair.metricsConnection :=
    rfl
  have ends : drain = true → readsToEnd recvs = true →
      (pair.forward drain recvs .client).1 ≠ .forwarded := by
    rintro rfl
    exact forward_loop_ends recvs pair.clientToBackend
  rw [forward_data_eq tables found .client drain recvs nofun] at going
  generalize pair.forward drain recvs .client = outcome at plain ends going
  obtain ⟨result, new⟩ := outcome
  cases result with
  | forwarded =>
      cases going
      exact ⟨new, lookup_set_pair lb clientFd new, plain, fun isDrain finished =>
        absurd rfl (ends isDrain finished)⟩
  | ended =>
      cases going
      exact ⟨new.endRead .client, lookup_set_pair _ clientFd _, plain, fun _ _ => rfl⟩
  | overflowed => cases going
  | failed => cases going

theorem serve_metrics_done (tables : Tables lb) (answers : EventAnswers) :
    ∃ after, serveMetrics clientFd answers pair lb = .stop after ∧ ClientDone after clientFd := by
  have closed : ClientDone (lb.closeConnection clientFd .metrics) clientFd :=
    gone_done (close_connection_missing tables .metrics)
  unfold serveMetrics
  cases answers.recvs.headD .wouldBlock with
  | received bytes =>
      simp only
      by_cases empty : (bytes.take 4095).isEmpty = true
      · rw [if_pos empty]
        exact ⟨_, rfl, closed⟩
      · rw [if_neg empty]
        by_cases asked : metricsPrefix.isPrefixOf (bytes.take 4095) = true
        · rw [if_pos asked]
          refine ⟨_, rfl, ?_⟩
          intro other found
          rw [lookup_set_pair] at found
          cases found
          rfl
        · rw [if_neg asked]
          exact ⟨_, rfl, closed⟩
  | wouldBlock => exact ⟨_, rfl, closed⟩
  | interrupted => exact ⟨_, rfl, closed⟩
  | failed => exact ⟨_, rfl, closed⟩

theorem read_client_cases (tables : Tables lb) (unopened : Unopened lb) (answers : EventAnswers)
    (found : lb.connections.lookup clientFd = some pair)
    (whole : pair.metricsConnection = false → pair.backendFd = -1 →
      asksInPart answers.peek = true → pair.clientReadClosed = true) :
    (∃ after, readClient clientFd answers lb = .stop after ∧ ClientDone after clientFd) ∨
      ∃ after new, readClient clientFd answers lb = .next after ∧
        after.connections.lookup clientFd = some new ∧ new.metricsConnection = false := by
  unfold readClient
  simp only [found]
  generalize admission : (if (!pair.metricsConnection && pair.backendFd = -1) = true then
    admitClient clientFd answers pair lb else .next lb) = admitted
  obtain ⟨admits, refuses⟩ := admission_cases tables unopened answers found admission
  cases admitted with
  | stop last =>
      have stopped : ClientDone last clientFd := by
        rcases refuses last rfl with ⟨plain, detached, part, same⟩ | gone
        · intro other isOther
          rw [same, found] at isOther
          cases isOther
          exact whole plain detached part
        · exact gone_done gone
      exact .inl ⟨last, rfl, stopped⟩
  | next last =>
      have tablesLast := admits last rfl
      simp only [Flow.andThen]
      cases foundLast : last.connections.lookup clientFd with
      | none => exact .inl ⟨last, rfl, gone_done foundLast⟩
      | some new =>
          cases metrics : new.metricsConnection with
          | true =>
              simp only [metrics, if_true]
              exact .inl (serve_metrics_done tablesLast answers)
          | false =>
              simp only [metrics, Bool.false_eq_true, if_false]
              cases forwarded : last.forwardData clientFd .client false answers.recvs with
              | stop final =>
                  exact .inl ⟨final, rfl, gone_done
                    (forward_data_stops tablesLast foundLast .client false _ (by simp) forwarded)⟩
              | next final =>
                  obtain ⟨later, isLater, same, _⟩ :=
                    forward_data_goes_on tablesLast foundLast false _ forwarded
                  exact .inr ⟨final, later, rfl, isLater, same.trans metrics⟩

variable (flags : EventMask) (answers : EventAnswers)

theorem connect_phase_idle (lb : LoadBalancer) :
    (connectPhase clientFd false flags answers lb).state = lb := by
  unfold connectPhase
  cases lb.connections.lookup clientFd with
  | none => rfl
  | some pair => rfl

theorem settling_done (tables : Tables lb) (ended : ClientDone lb clientFd) :
    ClientDone ((((connectPhase clientFd false flags answers lb).andThen
      (flushBackendPhase clientFd answers)).andThen (flushClientPhase clientFd answers)).andThen
      (settlePhase clientFd answers)).state clientFd := by
  have connects : Moves (settling false flags answers) clientFd lb
      (connectPhase clientFd false flags answers lb).state := by
    rw [connect_phase_idle]
  exact moves_done id (settling_phases_moves false flags answers tables connects) ended

theorem drain_done (tables : Tables lb) (found : lb.connections.lookup clientFd = some pair)
    (plain : pair.metricsConnection = false) (hangup : flags.readHangup = true)
    (finished : readsToEnd answers.drains = true) :
    ClientDone (((((drainPhase clientFd false flags answers lb).andThen
      (connectPhase clientFd false flags answers)).andThen
      (flushBackendPhase clientFd answers)).andThen (flushClientPhase clientFd answers)).andThen
      (settlePhase clientFd answers)).state clientFd := by
  have drains : drainPhase clientFd false flags answers lb =
      lb.forwardData clientFd .client true answers.drains := by
    simp only [drainPhase, found, hangup, plain, Bool.true_or, Bool.not_false, if_true,
      Bool.false_eq_true, if_false]
  obtain ⟨budget, reached⟩ : ∃ budget, Moves (reading false flags answers budget) clientFd lb
      (drainPhase clientFd false flags answers lb).state :=
    drain_phase_reaches false flags answers tables nofun
  rw [drains] at reached ⊢
  cases drained : lb.forwardData clientFd .client true answers.drains with
  | stop last =>
      exact gone_done (forward_data_stops tables found .client true _ nofun drained)
  | next last =>
      rw [drained, Flow.state] at reached
      obtain ⟨new, isNew, _, ended⟩ := forward_data_goes_on tables found true _ drained
      apply settling_done flags answers (moves_tables tables reached)
      intro other isOther
      rw [isNew] at isOther
      cases isOther
      exact ended rfl finished

theorem shutdown_leaves (pair : ConnectionPair) :
    (shutdownClient (shutdownBackend pair)).metricsConnection = pair.metricsConnection ∧
      (shutdownClient (shutdownBackend pair)).backendToClient = pair.backendToClient := by
  unfold shutdownClient shutdownBackend
  split_ifs <;> exact ⟨rfl, rfl⟩

theorem settle_phase_answered (found : lb.connections.lookup clientFd = some pair)
    (metrics : pair.metricsConnection = true) (empty : pair.backendToClient.bytes = []) :
    ∃ last, settlePhase clientFd answers lb = .stop last := by
  obtain ⟨same, left⟩ := shutdown_leaves (clearBuffers pair)
  have plain : (clearBuffers pair).metricsConnection = true := metrics
  have nothing : (clearBuffers pair).backendToClient.bytes = [] :=
    RelayBuffer.clear_sent_empty empty
  unfold settlePhase
  simp only [found, same, left, plain, nothing, List.isEmpty_nil, Bool.not_true, Bool.and_false,
    Bool.and_self, Bool.false_eq_true, if_false, if_true]
  exact ⟨_, rfl⟩

theorem metrics_done (tables : Tables lb) (found : lb.connections.lookup clientFd = some pair)
    (metrics : pair.metricsConnection = true) (answered : Answered pair) :
    ClientDone (((((drainPhase clientFd false flags answers lb).andThen
      (connectPhase clientFd false flags answers)).andThen
      (flushBackendPhase clientFd answers)).andThen (flushClientPhase clientFd answers)).andThen
      (settlePhase clientFd answers)).state clientFd := by
  have drains : drainPhase clientFd false flags answers lb = .next lb := by
    simp only [drainPhase, found, metrics, Bool.not_true, Bool.false_eq_true, if_false, ite_self]
  rw [drains, Flow.next_and_then]
  cases ended : pair.clientReadClosed with
  | true =>
      apply settling_done flags answers tables
      intro other isOther
      rw [found] at isOther
      cases isOther
      exact ended
  | false =>
      have detached : pair.backendFd = -1 := by
        by_contra attached
        have plain := (answered.attached attached).1
        rw [metrics] at plain
        cases plain
      have empty : pair.backendToClient.bytes = [] := by
        rcases answered.metrics metrics with closed | empty
        · rw [ended] at closed
          cases closed
        · exact empty
      have connects : connectPhase clientFd false flags answers lb = .next lb := by
        simp [connectPhase, found]
      have sends : flushBackendPhase clientFd answers lb = .next lb := by
        simp [flushBackendPhase, found, detached]
      have replies : flushClientPhase clientFd answers lb = .next lb := by
        simp [flushClientPhase, found, RelayBuffer.hasUnsent, empty]
      rw [connects, Flow.next_and_then, sends, Flow.next_and_then, replies, Flow.next_and_then]
      rcases settle_phase_cases false flags answers found with
        ⟨new, reason, moves, -, ends⟩ | ⟨new, moves, goes⟩
      · rw [ends]
        exact gone_done (close_connection_missing (tables.touch found (pair_moves_sockets moves)) _)
      · obtain ⟨last, stops⟩ := settle_phase_answered answers found metrics empty
        rw [stops] at goes
        cases goes

theorem relay_event_done (tables : Tables lb) (unopened : Unopened lb)
    (found : lb.connections.lookup clientFd = some pair) (answered : Answered pair)
    (whole : flags.input = true → pair.metricsConnection = false → pair.backendFd = -1 →
      asksInPart answers.peek = true → pair.clientReadClosed = true)
    (hangup : flags.readHangup = true) (finished : readsToEnd answers.drains = true) :
    ClientDone (relayEvent clientFd false flags answers lb) clientFd := by
  obtain ⟨budget, reached⟩ := read_phase_reaches false flags answers tables unopened nofun found
  unfold relayEvent
  cases input : flags.input with
  | true =>
      have reads : readPhase clientFd false flags answers lb = readClient clientFd answers lb := by
        simp [readPhase, input]
      rw [reads] at reached ⊢
      rcases read_client_cases tables unopened answers found (whole input) with
        ⟨last, stops, ended⟩ | ⟨last, new, goes, isNew, plain⟩
      · rw [stops]
        exact ended
      · rw [goes, Flow.state] at reached
        rw [goes, Flow.next_and_then]
        exact drain_done flags answers (moves_tables tables reached) isNew plain hangup finished
  | false =>
      have reads : readPhase clientFd false flags answers lb = .next lb := by
        simp [readPhase, input]
      rw [reads, Flow.next_and_then]
      cases metrics : pair.metricsConnection with
      | true => exact metrics_done flags answers tables found metrics answered
      | false => exact drain_done flags answers tables found metrics hangup finished

end Phases

theorem step_client_event {lb : LoadBalancer} (tables : Tables lb) (apart : Apart lb) {fd : Int}
    {pair : ConnectionPair} (found : lb.connections.lookup fd = some pair) (flags : EventMask)
    (answers : EventAnswers) :
    lb.step (.event fd flags answers) =
      if flags.error then lb.closeConnection fd .clientFailed
      else if flags.hangup && !flags.input then lb.closeConnection fd .clientHangup
      else relayEvent fd false flags answers lb := by
  have held : Held lb fd := .inl (AList.lookup_isSome.mp (by rw [found]; rfl))
  obtain ⟨keyed, free⟩ := tables.client_lookup found
  have owner : lb.clientOf fd = fd := by
    unfold clientOf
    rw [free]
    rfl
  rw [step_pair_event apart held, handle_pair_event_found (owner.symm ▸ found), owner, free]
  simp only [Option.isSome_none, handleFailure, keyed, Bool.false_and, Bool.false_eq_true,
    if_false]

/-- The event waits for the rest of a request for the metrics: nothing but a part of it has
arrived from a client that has not been admitted. -/
def waitsForRequest (flags : EventMask) (answers : EventAnswers) (pair : ConnectionPair) : Bool :=
  flags.input && !flags.error && !pair.metricsConnection && pair.backendFd = -1 &&
    !pair.clientReadClosed && asksInPart answers.peek

/-- The pair is gone, or the end of the client's stream has been noted, or there is less
left to read from the client. -/
def Progressed (pair : ConnectionPair) (clientFd : Int) (after : LoadBalancer) : Prop :=
  ∀ later, after.connections.lookup clientFd = some later →
    later.clientReadClosed = true ∨
      (readFrom .client pair.trace).length < (readFrom .client later.trace).length

theorem waiting_event_idles {lb : LoadBalancer} (tables : Tables lb) (apart : Apart lb) {fd : Int}
    {pair : ConnectionPair} (found : lb.connections.lookup fd = some pair) {flags : EventMask}
    {answers : EventAnswers} (waits : waitsForRequest flags answers pair = true) :
    lb.step (.event fd flags answers) = lb := by
  simp only [waitsForRequest, Bool.and_eq_true, Bool.not_eq_true', decide_eq_true_eq] at waits
  obtain ⟨⟨⟨⟨⟨input, silent⟩, plain⟩, detached⟩, _⟩, part⟩ := waits
  have admits : admitClient fd answers pair lb = .stop lb := by
    cases peeked : answers.peek with
    | received bytes =>
        rw [peeked] at part
        unfold admitClient
        rw [peeked]
        exact if_pos part
    | wouldBlock => simp [peeked, asksInPart] at part
    | interrupted => simp [peeked, asksInPart] at part
    | failed => simp [peeked, asksInPart] at part
  have reads : readPhase fd false flags answers lb = .stop lb := by
    simp [readPhase, input, readClient, found, plain, detached, admits, Flow.stop_and_then]
  rw [step_client_event tables apart found, silent, input]
  simp only [Bool.false_eq_true, Bool.not_true, Bool.and_false, if_false, relayEvent, reads,
    Flow.stop_and_then, Flow.state]

/-- In every state of every run, an event that reports the end of a client's stream
closes the pair, notes the end or takes bytes from the client, unless nothing but a part
of a request for the metrics has arrived: then the same event is reported for ever. -/
theorem client_end_makes_progress (routingMode : RoutingMode) (configured : List (Bytes × Nat))
    (listenFd healthTimerFd : Int) (inputs : List Input) (fd : Int) (flags : EventMask)
    (answers : EventAnswers) (pair : ConnectionPair) :
    let lb := run step (create routingMode configured listenFd healthTimerFd) inputs
    lb.connections.lookup fd = some pair → flags.readHangup = true →
    readsToEnd answers.drains = true →
    (Progressed pair fd (lb.step (.event fd flags answers)) ↔
      waitsForRequest flags answers pair = false) := by
  intro lb found hangup finished
  have sound : Sound lb := run_sound routingMode configured listenFd healthTimerFd inputs
  have apart : Apart lb := run_apart routingMode configured listenFd healthTimerFd inputs
  have answered : Answered pair :=
    (run_kept answered_kept routingMode configured listenFd healthTimerFd inputs).opened fd pair
      found
  constructor
  · intro progressed
    rw [Bool.eq_false_iff]
    intro waits
    rw [waiting_event_idles sound.tables apart found waits] at progressed
    have stays := progressed pair found
    simp only [waitsForRequest, Bool.and_eq_true, Bool.not_eq_true'] at waits
    rcases stays with ended | fewer
    · rw [waits.1.2] at ended
      cases ended
    · exact absurd fewer (Nat.lt_irrefl _)
  · intro goes
    suffices ended : ClientDone (lb.step (.event fd flags answers)) fd from
      fun later isLater => .inl (ended later isLater)
    rw [step_client_event sound.tables apart found]
    split_ifs with error gone
    · exact gone_done (close_connection_missing sound.tables _)
    · exact gone_done (close_connection_missing sound.tables _)
    · apply relay_event_done flags answers sound.tables sound.unopened found answered ?_ hangup
        finished
      intro input plain detached part
      simpa [waitsForRequest, input, error, plain, detached, part] using goes

/-- A client that has sent a request and finished. -/
theorem finished_request_makes_progress :
    let lb := run step twoBackends
      [.event 3 { input := true } { accepts := [.client 7 (ascii "10.0.0.1") true] }]
    ∃ pair, lb.connections.lookup 7 = some pair ∧
      Progressed pair 7 (lb.step (.event 7 { input := true, readHangup := true }
        { peek := .received (ascii "GET / "), dials := [{ sockets := [.inProgress 8] }]
          recvs := [.received (ascii "GET / ")], drains := [.received []] })) :=
  ⟨_, rfl, (client_end_makes_progress .roundRobin
    [(ascii "127.0.0.1", 8081), (ascii "127.0.0.1", 8082)] 3 4
    [.event 3 { input := true } { accepts := [.client 7 (ascii "10.0.0.1") true] }] 7
    { input := true, readHangup := true }
    { peek := .received (ascii "GET / "), dials := [{ sockets := [.inProgress 8] }]
      recvs := [.received (ascii "GET / ")], drains := [.received []] } _ rfl rfl
    (by decide)).mpr (by decide)⟩

/-- A client that has sent the beginning of a request for the metrics and finished: the
event changes nothing. -/
theorem finished_part_makes_no_progress :
    let lb := run step twoBackends
      [.event 3 { input := true } { accepts := [.client 7 (ascii "10.0.0.1") true] }]
    let event : Input := .event 7 { input := true, readHangup := true }
      { peek := .received (ascii "GET /")
        drains := [.received (ascii "GET /"), .received []] }
    ∃ pair, lb.connections.lookup 7 = some pair ∧
      readsToEnd [.received (ascii "GET /"), .received []] = true ∧
      ¬ Progressed pair 7 (lb.step event) ∧
      ∀ times, (run step lb (List.replicate times event)).connections.lookup 7 = some pair := by
  intro lb event
  obtain ⟨pair, found, open_, waits⟩ : ∃ pair, lb.connections.lookup 7 = some pair ∧
      pair.clientReadClosed = false ∧ waitsForRequest { input := true, readHangup := true }
        { peek := .received (ascii "GET /")
          drains := [.received (ascii "GET /"), .received []] } pair = true :=
    ⟨_, rfl, rfl, rfl⟩
  have sound : Sound lb := run_sound .roundRobin _ 3 4 _
  have idles : lb.step event = lb :=
    waiting_event_idles sound.tables (run_apart .roundRobin _ 3 4 _) found waits
  refine ⟨pair, found, rfl, ?_, ?_⟩
  · rw [idles]
    intro progressed
    rcases progressed pair found with ended | fewer
    · rw [open_] at ended
      cases ended
    · exact absurd fewer (Nat.lt_irrefl _)
  · intro times
    rw [run_replicate step idles]
    exact found

end LoadBalancer

end Aorta.Lb
