import Aorta.Lb.ClientProgress

/-!
# Events of sockets that have been closed

The entries of one `epoll_wait` are handled one after the other. An entry may close
sockets, and a later one may open others under the same numbers, before the entries that
were meant for the closed ones are looked up in the tables.
-/

namespace Aorta.Lb

open Relation Aorta.Library.Ascii Aorta.Library.FiniteMap Aorta.Library.Run Aorta.Net

set_option autoImplicit false

def recvBlocks (drain : Bool) : List RecvResult → Bool
  | [] => true
  | .received _ :: _ => false
  | .wouldBlock :: _ => true
  | .interrupted :: recvs => !drain || recvBlocks drain recvs
  | .failed :: _ => false

def sendBlocks : List SendResult → Bool
  | [] => true
  | .sent _ :: _ => false
  | .wouldBlock :: _ => true
  | .interrupted :: sends => sendBlocks sends
  | .failed :: _ => false

theorem forward_loop_blocks (drain : Bool) (recvs : List RecvResult) (buffer : RelayBuffer)
    (blocks : recvBlocks drain recvs = true) :
    forwardLoop drain recvs buffer = (.forwarded, buffer, []) := by
  induction recvs with
  | nil => rfl
  | cons recv recvs ih =>
      cases recv with
      | received bytes => cases blocks
      | wouldBlock => rfl
      | interrupted =>
          cases drain with
          | false => rfl
          | true => exact ih blocks
      | failed => cases blocks

theorem flush_loop_blocks (sends : List SendResult) (buffer : RelayBuffer)
    (blocks : sendBlocks sends = true) : flushLoop sends buffer = (true, buffer, []) := by
  induction sends with
  | nil => rfl
  | cons send sends ih =>
      unfold flushLoop
      split_ifs
      · cases send with
        | sent count => cases blocks
        | wouldBlock => rfl
        | interrupted => exact ih blocks
        | failed => cases blocks
      · rfl

/-- No half-close and no end is due for a pair whose buffers have been cleared. -/
def nothingDue (pair : ConnectionPair) : Bool :=
  let toBackend := pair.clientToBackend.bytes.isEmpty
  let toClient := pair.backendToClient.bytes.isEmpty
  !(pair.clientReadClosed && toBackend && pair.backendFd = -1) &&
    !(pair.clientReadClosed && toBackend && !pair.backendWriteClosed && !pair.backendConnecting) &&
    !(pair.backendReadClosed && toClient && !pair.clientWriteClosed) &&
    !(pair.clientReadClosed && pair.backendReadClosed && toBackend && toClient) &&
    !(pair.metricsConnection && toClient)

namespace LoadBalancer

section Phases

variable {clientFd : Int} {lb : LoadBalancer} {pair : ConnectionPair}

theorem forward_data_blocks (found : lb.connections.lookup clientFd = some pair) (side : Side)
    (drain : Bool) (recvs : List RecvResult) (blocks : recvBlocks drain recvs = true) :
    lb.forwardData clientFd side drain recvs = .next (lb.setPair clientFd pair) := by
  simp only [forwardData, found, ConnectionPair.forward, forward_loop_blocks _ _ _ blocks,
    ConnectionPair.set_incoming_same, List.map_nil, ConnectionPair.record_nil]

theorem flush_data_blocks (found : lb.connections.lookup clientFd = some pair) (side : Side)
    (sends : List SendResult) (blocks : sendBlocks sends = true) :
    lb.flushData clientFd side sends = lb.setPair clientFd pair := by
  simp only [flushData, found, ConnectionPair.flush, flush_loop_blocks _ _ blocks,
    ConnectionPair.set_incoming_same, List.map_nil, ConnectionPair.record_nil, if_true]

variable (answers : EventAnswers)

theorem flush_backend_phase_blocks (found : lb.connections.lookup clientFd = some pair)
    (blocks : pair.backendConnecting = true ∨ pair.clientToBackend.hasUnsent = false ∨
      sendBlocks answers.backendSends = true) :
    ∃ after, flushBackendPhase clientFd answers lb = .next after ∧
      after.connections.lookup clientFd = some pair := by
  unfold flushBackendPhase
  simp only [found]
  split_ifs with ready
  · simp only [Bool.and_eq_true, Bool.not_eq_true'] at ready
    rcases blocks with connecting | nothing | blocks
    · rw [ready.1.2] at connecting
      cases connecting
    · rw [ready.2] at nothing
      cases nothing
    · rw [flush_data_blocks found .backend _ blocks]
      exact ⟨_, rfl, lookup_set_pair lb clientFd pair⟩
  · exact ⟨lb, rfl, found⟩

theorem flush_client_phase_blocks (found : lb.connections.lookup clientFd = some pair)
    (blocks : pair.backendToClient.hasUnsent = false ∨ sendBlocks answers.clientSends = true) :
    ∃ after, flushClientPhase clientFd answers lb = .next after ∧
      after.connections.lookup clientFd = some pair := by
  unfold flushClientPhase
  simp only [found]
  split_ifs with ready
  · rcases blocks with nothing | blocks
    · rw [ready] at nothing
      cases nothing
    · rw [flush_data_blocks found .client _ blocks]
      exact ⟨_, rfl, lookup_set_pair lb clientFd pair⟩
  · exact ⟨lb, rfl, found⟩

theorem settle_phase_idle (found : lb.connections.lookup clientFd = some pair)
    (nothing : nothingDue (clearBuffers pair) = true) :
    settlePhase clientFd answers lb =
      .next (lb.setPair clientFd (updateInterest answers (clearBuffers pair))) := by
  unfold settlePhase
  simp only [found]
  unfold nothingDue at nothing
  generalize clearBuffers pair = idle at nothing
  have backend : shutdownBackend idle = idle := if_neg (by grind)
  have client : shutdownClient idle = idle := if_neg (by grind)
  rw [backend, client, if_neg (by grind), if_neg (by grind), if_neg (by grind)]

theorem settling_idle (flow : Flow) {stored : ConnectionPair}
    (goes : ∃ after, flow = .next after ∧ after.connections.lookup clientFd = some stored)
    (toBackend : stored.backendConnecting = true ∨ stored.clientToBackend.hasUnsent = false ∨
      sendBlocks answers.backendSends = true)
    (toClient : stored.backendToClient.hasUnsent = false ∨ sendBlocks answers.clientSends = true)
    (nothing : nothingDue (clearBuffers stored) = true) :
    (((flow.andThen (flushBackendPhase clientFd answers)).andThen
      (flushClientPhase clientFd answers)).andThen
      (settlePhase clientFd answers)).state.connections.lookup clientFd =
        some (updateInterest answers (clearBuffers stored)) := by
  obtain ⟨first, isFirst, foundFirst⟩ := goes
  obtain ⟨second, isSecond, foundSecond⟩ := flush_backend_phase_blocks answers foundFirst toBackend
  obtain ⟨third, isThird, foundThird⟩ := flush_client_phase_blocks answers foundSecond toClient
  rw [isFirst, Flow.next_and_then, isSecond, Flow.next_and_then, isThird, Flow.next_and_then,
    settle_phase_idle answers foundThird nothing]
  exact lookup_set_pair _ _ _

end Phases

/-- The pair once a connect that is in progress is taken to be settled. -/
def connectedBy (flags : EventMask) (pair : ConnectionPair) : ConnectionPair :=
  if pair.backendConnecting && flags.output then { pair with backendConnecting := false } else pair

/-- The event finds nothing to do for the backend of a pair. -/
def idlesBackend (flags : EventMask) (answers : EventAnswers) (pair : ConnectionPair) : Bool :=
  let connected := connectedBy flags pair
  !flags.error && (!flags.hangup || flags.input) &&
    (!flags.input || recvBlocks false answers.recvs) &&
    (!(flags.readHangup || flags.hangup) || recvBlocks true answers.drains) &&
    !(pair.backendConnecting && flags.output && answers.socketError) &&
    (connected.backendConnecting || !connected.clientToBackend.hasUnsent ||
      sendBlocks answers.backendSends) &&
    (!connected.backendToClient.hasUnsent || sendBlocks answers.clientSends) &&
    nothingDue (clearBuffers connected)

section Phases

variable {clientFd : Int} {lb : LoadBalancer} {pair : ConnectionPair}

theorem backend_event_idles (apart : Apart lb) {fd : Int}
    (owns : lb.backendToClient.lookup fd = some clientFd)
    (found : lb.connections.lookup clientFd = some pair) {flags : EventMask}
    {answers : EventAnswers} (idles : idlesBackend flags answers pair = true) :
    (lb.step (.event fd flags answers)).connections.lookup clientFd =
      some (updateInterest answers (clearBuffers (connectedBy flags pair))) := by
  have held : Held lb fd := .inr (AList.lookup_isSome.mp (by rw [owns]; rfl))
  simp only [idlesBackend, Bool.and_eq_true, Bool.or_eq_true, Bool.not_eq_true'] at idles
  obtain ⟨⟨⟨⟨⟨⟨⟨alive, stands⟩, reads⟩, drains⟩, connects⟩, toBackend⟩, toClient⟩, nothing⟩ := idles
  have hangs : (flags.hangup && !flags.input) = false := by
    grind
  have owner : lb.clientOf fd = clientFd := by
    unfold clientOf
    rw [owns]
    rfl
  rw [step_pair_event apart held, handle_pair_event_found (owner.symm ▸ found), owner, owns]
  simp only [Option.isSome_some, alive, hangs, Bool.false_eq_true, if_false]
  have read : ∃ after, readPhase clientFd true flags answers lb = .next after ∧
      after.connections.lookup clientFd = some pair := by
    unfold readPhase
    simp only [if_true]
    split_ifs with input
    · rw [forward_data_blocks found .backend false answers.recvs (by simpa [input] using reads)]
      exact ⟨_, rfl, lookup_set_pair lb clientFd pair⟩
    · exact ⟨lb, rfl, found⟩
  obtain ⟨first, isFirst, foundFirst⟩ := read
  have drained : ∃ after, drainPhase clientFd true flags answers first = .next after ∧
      after.connections.lookup clientFd = some pair := by
    unfold drainPhase
    simp only [foundFirst, if_true]
    split_ifs with hangup
    · simp only [Bool.or_eq_true] at hangup
      rw [forward_data_blocks foundFirst .backend true answers.drains (by grind)]
      exact ⟨_, rfl, lookup_set_pair first clientFd pair⟩
    · exact ⟨first, rfl, foundFirst⟩
  obtain ⟨second, isSecond, foundSecond⟩ := drained
  have connected : ∃ after, connectPhase clientFd true flags answers second = .next after ∧
      after.connections.lookup clientFd = some (connectedBy flags pair) := by
    unfold connectPhase connectedBy
    simp only [foundSecond, Bool.true_and]
    split_ifs with ready socketError
    · rw [ready, socketError] at connects
      cases connects
    · exact ⟨_, rfl, lookup_set_pair second clientFd _⟩
    · exact ⟨second, rfl, foundSecond⟩
  unfold relayEvent
  rw [isFirst, Flow.next_and_then, isSecond, Flow.next_and_then]
  exact settling_idle answers _ connected (by grind) (by grind) nothing

/-- A pair that nothing has happened to since its client was accepted. -/
structure Pristine (pair : ConnectionPair) : Prop where
  detached : pair.backendFd = -1
  plain : pair.metricsConnection = false
  clientReads : pair.clientReadClosed = false
  backendReads : pair.backendReadClosed = false
  toBackend : pair.clientToBackend = {}
  toClient : pair.backendToClient = {}

/-- The event finds nothing to do for a client that has just been accepted. -/
def idlesClient (flags : EventMask) (answers : EventAnswers) : Bool :=
  !flags.error &&
    if flags.input then asksInPart answers.peek
    else !flags.hangup && (!flags.readHangup || recvBlocks true answers.drains)

theorem client_event_idles (tables : Tables lb) (apart : Apart lb) {fd : Int}
    (found : lb.connections.lookup fd = some pair) (pristine : Pristine pair) {flags : EventMask}
    {answers : EventAnswers} (idles : idlesClient flags answers = true) :
    ∃ after, (lb.step (.event fd flags answers)).connections.lookup fd = some after ∧
      after.trace = pair.trace ∧ Pristine after := by
  obtain ⟨detached, plain, clientReads, backendReads, toBackend, toClient⟩ := pristine
  simp only [idlesClient, Bool.and_eq_true, Bool.not_eq_true'] at idles
  obtain ⟨alive, quiet⟩ := idles
  cases input : flags.input with
  | true =>
      rw [input, if_pos rfl] at quiet
      have waits : waitsForRequest flags answers pair = true := by
        simp [waitsForRequest, input, alive, plain, detached, clientReads, quiet]
      rw [waiting_event_idles tables apart found waits]
      exact ⟨pair, found, rfl, detached, plain, clientReads, backendReads, toBackend, toClient⟩
  | false =>
      simp only [input, Bool.false_eq_true, if_false, Bool.and_eq_true, Bool.or_eq_true,
        Bool.not_eq_true'] at quiet
      obtain ⟨stands, drains⟩ := quiet
      have drained : ∃ after, drainPhase fd false flags answers lb = .next after ∧
          after.connections.lookup fd = some pair := by
        unfold drainPhase
        simp only [found, stands, plain, Bool.or_false, Bool.not_false, Bool.false_eq_true,
          if_false, if_true]
        split_ifs with hangup
        · have blocks : recvBlocks true answers.drains = true := by
            simpa [hangup] using drains
          rw [forward_data_blocks found .client true answers.drains blocks]
          exact ⟨_, rfl, lookup_set_pair lb fd pair⟩
        · exact ⟨lb, rfl, found⟩
      obtain ⟨first, isFirst, foundFirst⟩ := drained
      have connected : ∃ after, connectPhase fd false flags answers first = .next after ∧
          after.connections.lookup fd = some pair := by
        unfold connectPhase
        simp only [foundFirst, Bool.false_and, Bool.false_eq_true, if_false]
        exact ⟨first, rfl, foundFirst⟩
      have reads : readPhase fd false flags answers lb = .next lb := by
        simp [readPhase, input]
      refine ⟨updateInterest answers (clearBuffers pair), ?_, rfl, ?_⟩
      · rw [step_client_event tables apart found, alive, stands]
        simp only [Bool.false_eq_true, Bool.false_and, if_false]
        unfold relayEvent
        rw [reads, Flow.next_and_then, isFirst, Flow.next_and_then]
        apply settling_idle answers _ connected
        · right
          left
          rw [toBackend]
          rfl
        · left
          rw [toClient]
          rfl
        · simp [nothingDue, clearBuffers, clientReads, backendReads, plain]
      · refine ⟨detached, plain, clientReads, backendReads, ?_, ?_⟩
        · simp [updateInterest, clearBuffers, toBackend, RelayBuffer.clearSent]
        · simp [updateInterest, clearBuffers, toClient, RelayBuffer.clearSent]

end Phases

/-- An entry of what one `epoll_wait` returns. -/
structure Entry where
  fd : Int
  flags : EventMask
  answers : EventAnswers := {}

/-- A batch that is being handled: the sockets of pairs that were opened in it so far. -/
structure Batch where
  lb : LoadBalancer
  opened : List Int := []

/-- How many backend sockets the pair of a client has been given. -/
def dialledFor (lb : LoadBalancer) (clientFd : Int) : Nat :=
  match lb.connections.lookup clientFd with
  | none => 0
  | some pair => pair.trace.countP Wire.opens

/-- The sockets of pairs that a step opens: those of new clients, and those of the
backends that have been dialled. -/
def openedBy (before after : LoadBalancer) : List Int :=
  after.connections.keys.filter (fun fd => (before.connections.lookup fd).isNone) ++
    after.backendToClient.keys.filter fun fd =>
      dialledFor before (after.clientOf fd) < dialledFor after (after.clientOf fd)

def Batch.handle (batch : Batch) (entry : Entry) : Batch :=
  let after := batch.lb.step (.event entry.fd entry.flags entry.answers)
  { lb := after, opened := batch.opened ++ openedBy batch.lb after }

/-- If the socket of the entry was opened in the batch, its pair stays, and nothing goes
over its sockets. -/
def Spared (batch : Batch) (entry : Entry) : Prop :=
  entry.fd ∈ batch.opened → OnPair batch.lb entry.fd fun pair =>
    ∃ after, (batch.handle entry).lb.connections.lookup (batch.lb.clientOf entry.fd) = some after ∧
      after.trace = pair.trace

/-- If the socket of the entry was opened in the batch, there is nothing to do for it. -/
def Idles (batch : Batch) (entry : Entry) : Prop :=
  entry.fd ∈ batch.opened → OnPair batch.lb entry.fd fun pair =>
    (if (batch.lb.backendToClient.lookup entry.fd).isSome then
      idlesBackend entry.flags entry.answers pair
    else idlesClient entry.flags entry.answers) = true

instance (batch : Batch) (entry : Entry) : Decidable (Idles batch entry) :=
  inferInstanceAs (Decidable (_ → OnPair _ _ _))

/-- What holds between two entries: nothing has happened to the clients that were accepted
in the batch. -/
structure Caught (batch : Batch) : Prop where
  sound : Sound batch.lb
  apart : Apart batch.lb
  fresh : ∀ fd ∈ batch.opened, ∀ pair, batch.lb.connections.lookup fd = some pair → Pristine pair

theorem idles_spared (batch : Batch) (entry : Entry) (caught : Caught batch)
    (idles : Idles batch entry) : Spared batch entry := by
  intro isOpened pair found
  have idle := idles isOpened pair found
  have tables := caught.sound.tables
  cases owns : batch.lb.backendToClient.lookup entry.fd with
  | some clientFd =>
      have same : batch.lb.clientOf entry.fd = clientFd := by
        rw [clientOf, owns]
        rfl
      rw [owns, Option.isSome_some, if_pos rfl] at idle
      rw [same] at found ⊢
      refine ⟨_, backend_event_idles caught.apart owns found idle, ?_⟩
      unfold connectedBy
      split_ifs <;> rfl
  | none =>
      have same : batch.lb.clientOf entry.fd = entry.fd := by
        rw [clientOf, owns]
        rfl
      rw [owns, Option.isSome_none] at idle
      rw [same] at found ⊢
      obtain ⟨after, isAfter, trace, _⟩ := client_event_idles tables caught.apart found
        (caught.fresh _ isOpened pair found) idle
      exact ⟨after, isAfter, trace⟩

/-- A pair after an event is the pair before it, unless its client is new or the event is
its own. -/
theorem step_event_cases {lb : LoadBalancer} (sound : Sound lb) (entry : Entry) {fd : Int}
    {pair : ConnectionPair}
    (found : (lb.step (.event entry.fd entry.flags entry.answers)).connections.lookup fd =
      some pair) :
    lb.connections.lookup fd = some pair ∨ lb.connections.lookup fd = none ∧ Pristine pair ∨
      fd = lb.clientOf entry.fd ∧ (lb.connections.lookup fd).isSome = true := by
  simp only [step, handleEvent] at found
  split_ifs at found
  · rcases handle_accept_cases entry.answers.accepts lb fd with
      ⟨kept, -⟩ | ⟨free, -, clientIp, isNew⟩
    · exact .inl (kept.symm.trans found)
    · rw [isNew] at found
      cases found
      exact .inr (.inl ⟨free, rfl, rfl, rfl, rfl, rfl, rfl⟩)
  · exact .inl found
  · exact .inl found
  · by_cases same : fd = lb.clientOf entry.fd
    · cases before : lb.connections.lookup fd with
      | some other => exact .inr (.inr ⟨same, rfl⟩)
      | none =>
          rw [handle_pair_event_missing (same ▸ before), before] at found
          cases found
    · rw [handle_pair_event_others entry.fd entry.flags entry.answers sound.tables sound.unopened
        same] at found
      exact .inl found

theorem handle_caught (batch : Batch) (entry : Entry) (caught : Caught batch)
    (idles : Idles batch entry) : Caught (batch.handle entry) := by
  have sound : Sound (batch.handle entry).lb :=
    step_sound caught.sound (.event entry.fd entry.flags entry.answers)
  have apart : Apart (batch.handle entry).lb := stepped_apart caught.sound.tables
    (caught.sound.stepped (.event entry.fd entry.flags entry.answers)) caught.apart
  refine ⟨sound, apart, ?_⟩
  intro fd member pair found
  have tables := caught.sound.tables
  have earlier : (batch.lb.connections.lookup fd).isSome = true → fd ∈ batch.opened := by
    intro known
    rcases List.mem_append.mp member with before | now
    · exact before
    rcases List.mem_append.mp now with client | backend
    · have isNew := (List.mem_filter.mp client).2
      rw [Option.isNone_iff_eq_none.mp isNew] at known
      cases known
    · obtain ⟨_, free⟩ := sound.tables.client_lookup found
      exact absurd (List.mem_filter.mp backend).1 (AList.lookup_eq_none.mp free)
  rcases step_event_cases caught.sound entry found with same | ⟨-, pristine⟩ | ⟨own, known⟩
  · exact caught.fresh fd (earlier (by rw [same]; rfl)) pair same
  · exact pristine
  · obtain ⟨before, isBefore⟩ := Option.isSome_iff_exists.mp known
    have pristine := caught.fresh fd (earlier known) before isBefore
    cases owns : batch.lb.backendToClient.lookup entry.fd with
    | some clientFd =>
        have same : fd = clientFd := by
          rw [own, clientOf, owns]
          rfl
        obtain ⟨other, isOther, socket, attached⟩ := (tables.wiring.mapped _ _).mp owns
        rw [same] at isBefore
        rw [find, isBefore] at isOther
        cases isOther
        exact absurd (socket.symm.trans pristine.detached) attached
    | none =>
        have same : fd = entry.fd := by
          rw [own, clientOf, owns]
          rfl
        subst same
        have idle := idles (earlier known) before (own ▸ isBefore)
        rw [owns, Option.isSome_none] at idle
        obtain ⟨after, isAfter, _, still⟩ :=
          client_event_idles tables caught.apart isBefore pristine idle
        rw [Batch.handle, isAfter] at found
        cases found
        exact still

/-- From every state of every run, a batch whose entries find nothing to do for sockets
that were opened in it spares the pairs of these sockets. -/
theorem opened_sockets_are_spared (routingMode : RoutingMode) (configured : List (Bytes × Nat))
    (listenFd healthTimerFd : Int) (inputs : List Input) (entries : List Entry) :
    let lb := run step (create routingMode configured listenFd healthTimerFd) inputs
    Throughout Batch.handle Idles { lb := lb } entries →
      Throughout Batch.handle Spared { lb := lb } entries := by
  intro lb idles
  apply throughout_of_throughout Batch.handle handle_caught idles_spared _ entries idles
  refine ⟨run_sound routingMode configured listenFd healthTimerFd inputs,
    run_apart routingMode configured listenFd healthTimerFd inputs, ?_⟩
  intro fd member
  cases member

/-- A client fails, the number of its backend socket goes to a new client, and what is
reported of the backend socket is handled; it is reported with these events. -/
def takenOverBatch (flags : EventMask) : List Entry :=
  [{ fd := 5, flags := { error := true } },
    { fd := 3, flags := { input := true }
      answers := { accepts := [.client 6 (ascii "127.0.0.1") true] } },
    { fd := 6, flags := flags }]

theorem writable_backend_spares_new_client :
    Throughout Batch.handle Spared { lb := run step twoBackends dialledExchange }
      (takenOverBatch { output := true }) :=
  opened_sockets_are_spared .roundRobin
    [(ascii "127.0.0.1", 8081), (ascii "127.0.0.1", 8082)] 3 4 dialledExchange
    (takenOverBatch { output := true }) (by decide)

/-- The refused connect of a backend closes the new client. -/
theorem refused_backend_closes_new_client :
    let batch := takenOverBatch { output := true, error := true, hangup := true }
    (batch.map Entry.fd).Nodup ∧
      ¬ Throughout Batch.handle Spared { lb := run step twoBackends dialledExchange } batch ∧
      ∃ pair, pair.clientFd = 6 ∧
        (run Batch.handle { lb := run step twoBackends dialledExchange } batch).lb.closed.getLast? =
          some (pair, .clientFailed) := by
  refine ⟨by decide, ?_, ?_⟩
  · intro throughout
    obtain ⟨after, isAfter, _⟩ := throughout.2.2.1 (by decide) _ rfl
    cases isAfter
  · exact ⟨_, rfl, rfl⟩

end LoadBalancer

end Aorta.Lb
