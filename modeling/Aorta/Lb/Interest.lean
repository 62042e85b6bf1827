import Aorta.Lb.SingleBackend

/-!
# What the sockets of a pair are watched for

The masks are computed at the end of the loop body, and every other way out of it
closes the pair, leaves it alone or gives it a new backend socket. That last way
computes one mask only, from nothing but `connecting`.
-/

namespace Aorta.Lb

open Relation Aorta.Library.Ascii Aorta.Library.FiniteMap Aorta.Library.Run Aorta.Net

set_option autoImplicit false

/-- Nothing a pair waits for goes unreported. -/
structure Watched (pair : ConnectionPair) : Prop where
  toBackend : pair.backendFd ≠ -1 → pair.backendConnecting = false →
    pair.clientToBackend.hasUnsent = true → pair.currentBackendEvents.output = true
  connect : pair.backendFd ≠ -1 → pair.backendConnecting = true →
    pair.currentBackendEvents.output = true
  toClient : pair.backendToClient.hasUnsent = true → pair.currentClientEvents.output = true
  client : pair.clientReadClosed = false → pair.currentClientEvents.input = true
  backend : pair.backendFd ≠ -1 → pair.backendConnecting = false →
    pair.backendReadClosed = false → pair.currentBackendEvents.input = true

theorem accepted_watched (fd : Int) (clientIp : Bytes) : Watched (acceptedPair fd clientIp) where
  toBackend attached := absurd rfl attached
  connect attached := absurd rfl attached
  toClient := nofun
  client _ := rfl
  backend attached := absurd rfl attached

theorem update_interest_watched {answers : EventAnswers}
    (modified : answers.backendModified = true ∧ answers.clientModified = true)
    (pair : ConnectionPair) : Watched (LoadBalancer.updateInterest answers pair) := by
  have masks : ∀ attached : pair.backendFd ≠ -1,
      (LoadBalancer.updateInterest answers pair).currentBackendEvents =
        { input := !pair.backendReadClosed
          output := pair.backendConnecting || pair.clientToBackend.hasUnsent
          readHangup := true, error := true, hangup := true } := by
    intro attached
    simp only [LoadBalancer.updateInterest, modified.1, decide_eq_true attached, Bool.and_self,
      if_true]
  have clientMask : (LoadBalancer.updateInterest answers pair).currentClientEvents =
      { input := !pair.clientReadClosed
        output := pair.backendToClient.hasUnsent
        readHangup := true, error := true, hangup := true } := by
    simp only [LoadBalancer.updateInterest, modified.2, if_true]
  constructor
  · intro attached _ unsent
    rw [masks attached]
    exact (congrArg (pair.backendConnecting || ·) unsent).trans (Bool.or_true _)
  · intro attached connecting
    rw [masks attached]
    exact (congrArg (· || pair.clientToBackend.hasUnsent) connecting).trans (Bool.true_or _)
  · intro unsent
    rw [clientMask]
    exact unsent
  · intro reads
    rw [clientMask]
    exact congrArg not reads
  · intro attached _ reads
    rw [masks attached]
    exact congrArg not reads

/-- What a read from the backend leaves as it was. -/
structure ReadsBackend (data : Prop) (before after : ConnectionPair) : Prop where
  connecting : after.backendConnecting = before.backendConnecting
  clientEvents : after.currentClientEvents = before.currentClientEvents
  clientReadClosed : after.clientReadClosed = before.clientReadClosed
  toBackend : after.clientToBackend = before.clientToBackend
  toClient : ¬ data → after.backendToClient = before.backendToClient

theorem ReadsBackend.refl (data : Prop) (pair : ConnectionPair) : ReadsBackend data pair pair :=
  ⟨rfl, rfl, rfl, rfl, fun _ => rfl⟩

theorem ReadsBackend.trans {first second : Prop} {before between after : ConnectionPair}
    (left : ReadsBackend first before between) (right : ReadsBackend second between after) :
    ReadsBackend (first ∨ second) before after where
  connecting := right.connecting.trans left.connecting
  clientEvents := right.clientEvents.trans left.clientEvents
  clientReadClosed := right.clientReadClosed.trans left.clientReadClosed
  toBackend := right.toBackend.trans left.toBackend
  toClient nothing :=
    (right.toClient fun data => nothing (.inr data)).trans
      (left.toClient fun data => nothing (.inl data))

theorem forward_loop_nothing (drain : Bool) (recvs : List RecvResult) (buffer : RelayBuffer)
    (nothing : ¬ GivesData recvs) : (forwardLoop drain recvs buffer).2.1 = buffer := by
  induction recvs with
  | nil => rfl
  | cons recv recvs ih =>
      have rest : ¬ GivesData recvs := by
        rintro ⟨bytes, member, some⟩
        exact nothing ⟨bytes, List.mem_cons_of_mem _ member, some⟩
      cases recv with
      | received bytes =>
          have empty : bytes = [] := by
            by_contra some
            exact nothing ⟨bytes, List.mem_cons_self, some⟩
          subst empty
          rfl
      | interrupted =>
          unfold forwardLoop
          split_ifs
          · exact ih rest
          · rfl
      | wouldBlock => rfl
      | failed => rfl

theorem attached_watched {data : Prop} {before pair : ConnectionPair} (watched : Watched before)
    (reads : ReadsBackend data before pair) (fd : Int) (index : Nat) (connecting : Bool)
    (immediate : connecting = false → before.clientToBackend.hasUnsent = false)
    (unsent : before.backendToClient.hasUnsent = true ∨ ¬ data) :
    Watched (attachedPair pair fd index connecting) := by
  constructor
  · intro _ connected stored
    have nothing := immediate connected
    rw [← reads.toBackend] at nothing
    have some : pair.clientToBackend.hasUnsent = true := stored
    rw [nothing] at some
    cases some
  · intro _ dialling
    have isConnecting : connecting = true := dialling
    rw [isConnecting]
    rfl
  · intro stored
    show pair.currentClientEvents.output = true
    rw [reads.clientEvents]
    rcases unsent with already | nothing
    · exact watched.toClient already
    · apply watched.toClient
      rw [← reads.toClient nothing]
      exact stored
  · intro open_
    show pair.currentClientEvents.input = true
    rw [reads.clientEvents]
    apply watched.client
    rw [← reads.clientReadClosed]
    exact open_
  · intro _ connected _
    have isConnected : connecting = false := connected
    rw [isConnected]
    rfl

/-- The pair of a client is watched, if there is one. -/
def WatchedAt (lb : LoadBalancer) (clientFd : Int) : Prop :=
  ∀ pair, lb.connections.lookup clientFd = some pair → Watched pair

theorem gone_watched {lb : LoadBalancer} {clientFd : Int}
    (gone : lb.connections.lookup clientFd = none) : WatchedAt lb clientFd := by
  intro pair found
  rw [gone] at found
  cases found

def SocketAnswer.immediate : SocketAnswer → Bool
  | .connected _ => true
  | _ => false

namespace LoadBalancer

section Phases

variable {clientFd : Int} {lb after : LoadBalancer} {pair : ConnectionPair}

theorem forward_data_stops (tables : Tables lb)
    (found : lb.connections.lookup clientFd = some pair) (side : Side) (drain : Bool)
    (recvs : List RecvResult) (attached : side = .backend → pair.backendFd ≠ -1)
    (stops : lb.forwardData clientFd side drain recvs = .stop after) :
    after.connections.lookup clientFd = none := by
  have tablesAfter := tables.touch found (forward_same_sockets pair side drain recvs)
  rw [forward_data_eq tables found side drain recvs attached] at stops
  generalize pair.forward drain recvs side = outcome at tablesAfter stops
  obtain ⟨result, new⟩ := outcome
  cases result with
  | forwarded => cases stops
  | ended => cases stops
  | overflowed =>
      cases stops
      exact close_connection_missing tablesAfter .overflow
  | failed =>
      cases stops
      exact close_connection_missing tablesAfter (failedReason side)

theorem forward_data_reads (tables : Tables lb)
    (found : lb.connections.lookup clientFd = some pair) (attached : pair.backendFd ≠ -1)
    (drain : Bool) (recvs : List RecvResult)
    (going : lb.forwardData clientFd .backend drain recvs = .next after) :
    ∃ new, after.connections.lookup clientFd = some new ∧
      ReadsBackend (GivesData recvs) pair new := by
  have reads : ReadsBackend (GivesData recvs) pair (pair.forward drain recvs .backend).2 :=
    ⟨rfl, rfl, rfl, rfl, forward_loop_nothing drain recvs pair.backendToClient⟩
  rw [forward_data_eq tables found .backend drain recvs fun _ => attached] at going
  generalize pair.forward drain recvs .backend = outcome at reads going
  obtain ⟨result, new⟩ := outcome
  cases result with
  | forwarded =>
      cases going
      exact ⟨new, lookup_set_pair lb clientFd new, reads⟩
  | ended =>
      cases going
      exact ⟨new.endRead .backend, lookup_set_pair _ clientFd _,
        ⟨reads.connecting, reads.clientEvents, reads.clientReadClosed, reads.toBackend,
          reads.toClient⟩⟩
  | overflowed => cases going
  | failed => cases going

/-- What was peeked is the beginning of a request for the metrics. -/
def asksInPart : RecvResult → Bool
  | .received bytes =>
      let request := bytes.take 1024
      request.length > 0 && request.length < metricsPrefix.length &&
        metricsPrefix.take request.length = request
  | _ => false

theorem admit_client_stops (tables : Tables lb) (answers : EventAnswers)
    (found : lb.connections.lookup clientFd = some pair) (detached : pair.backendFd = -1)
    (plain : pair.metricsConnection = false)
    (stops : admitClient clientFd answers pair lb = .stop after) :
    asksInPart answers.peek = true ∧ after = lb ∨
      after.connections.lookup clientFd = none := by
  have refused : ∀ after,
      admitClient clientFd { answers with peek := .wouldBlock } pair lb = .stop after →
      after.connections.lookup clientFd = none := by
    intro after stops
    unfold admitClient at stops
    simp only at stops
    obtain ⟨tried, _⟩ := connect_client_moves (show failing.dials from trivial)
      ⟨pair, found, detached, plain⟩ answers.dials
    generalize lb.connectClientToBackend clientFd answers.dials = outcome at tried stops
    obtain ⟨good, last⟩ := outcome
    cases good with
    | true => cases stops
    | false =>
        cases stops
        exact close_connection_missing (moves_tables tables tried) .noBackend
  unfold admitClient at stops
  cases peeked : answers.peek with
  | received bytes =>
      simp only [peeked] at stops
      split_ifs at stops with waits
      · cases stops
        exact .inl ⟨waits, rfl⟩
      · exact .inr (refused after stops)
  | wouldBlock =>
      simp only [peeked] at stops
      exact .inr (refused after stops)
  | interrupted =>
      simp only [peeked] at stops
      exact .inr (refused after stops)
  | failed =>
      simp only [peeked] at stops
      cases stops
      exact .inr (close_connection_missing tables .clientFailed)

/-- Reading a client begins with its admission, if it is fresh: it goes on with what it
has, waits for more, or is closed. -/
theorem admission_cases (tables : Tables lb) (unopened : Unopened lb) (answers : EventAnswers)
    (found : lb.connections.lookup clientFd = some pair) {admitted : Flow}
    (admission : (if (!pair.metricsConnection && pair.backendFd = -1) = true then
      admitClient clientFd answers pair lb else .next lb) = admitted) :
    (∀ last, admitted = .next last → Tables last) ∧
      ∀ last, admitted = .stop last →
        (pair.metricsConnection = false ∧ pair.backendFd = -1 ∧
          asksInPart answers.peek = true ∧ last = lb) ∨
        last.connections.lookup clientFd = none := by
  subst admission
  split_ifs with fresh
  · simp only [Bool.and_eq_true, Bool.not_eq_true', decide_eq_true_eq] at fresh
    obtain ⟨plain, detached⟩ := fresh
    constructor
    · intro last going
      have moves : Moves failing clientFd lb (admitClient clientFd answers pair lb).state :=
        admit_client_moves trivial answers found detached plain
          (unopened clientFd pair found detached)
      rw [going] at moves
      exact moves_tables tables moves
    · intro last stops
      rcases admit_client_stops tables answers found detached plain stops with ⟨part, same⟩ | gone
      · exact .inl ⟨plain, detached, part, same⟩
      · exact .inr gone
  · constructor
    · intro last going
      cases going
      exact tables
    · exact nofun

theorem serve_metrics_watched (tables : Tables lb) (answers : EventAnswers)
    (modified : answers.clientModified = true)
    (found : lb.connections.lookup clientFd = some pair)
    (metrics : pair.metricsConnection = true)
    (stops : serveMetrics clientFd answers pair lb = .stop after) : WatchedAt after clientFd := by
  have detached : pair.backendFd = -1 := by
    by_contra attached
    have plain := tables.wiring.plain clientFd pair found attached
    rw [metrics] at plain
    cases plain
  have closed : (lb.closeConnection clientFd .metrics).connections.lookup clientFd = none :=
    close_connection_missing tables .metrics
  unfold serveMetrics at stops
  cases first : answers.recvs.headD .wouldBlock with
  | received bytes =>
      simp only [first] at stops
      by_cases empty : (bytes.take 4095).isEmpty = true
      · rw [if_pos empty] at stops
        cases stops
        exact gone_watched closed
      · rw [if_neg empty] at stops
        by_cases asked : metricsPrefix.isPrefixOf (bytes.take 4095) = true
        · rw [if_pos asked] at stops
          cases stops
          intro other isOther
          rw [lookup_set_pair] at isOther
          cases isOther
          refine ⟨absurd detached, absurd detached, fun _ => ?_, nofun, absurd detached⟩
          show (if answers.clientModified = true then metricsEvents
            else pair.currentClientEvents).output = true
          rw [if_pos modified]
          rfl
        · rw [if_neg asked] at stops
          cases stops
          exact gone_watched closed
  | wouldBlock =>
      simp only [first] at stops
      cases stops
      exact gone_watched closed
  | interrupted =>
      simp only [first] at stops
      cases stops
      exact gone_watched closed
  | failed =>
      simp only [first] at stops
      cases stops
      exact gone_watched closed

theorem read_client_stops (tables : Tables lb) (unopened : Unopened lb) (answers : EventAnswers)
    (modified : answers.clientModified = true) (watched : WatchedAt lb clientFd)
    (stops : readClient clientFd answers lb = .stop after) : WatchedAt after clientFd := by
  unfold readClient at stops
  cases found : lb.connections.lookup clientFd with
  | none =>
      simp only [found] at stops
      cases stops
      exact gone_watched found
  | some pair =>
      simp only [found] at stops
      generalize admission : (if (!pair.metricsConnection && pair.backendFd = -1) = true then
        admitClient clientFd answers pair lb else .next lb) = admitted at stops
      obtain ⟨admits, refuses⟩ := admission_cases tables unopened answers found admission
      cases admitted with
      | stop last =>
          cases stops
          rcases refuses _ rfl with ⟨-, -, -, same⟩ | gone
          · rw [same]
            exact watched
          · exact gone_watched gone
      | next last =>
          have tablesLast := admits last rfl
          simp only [Flow.andThen] at stops
          cases foundLast : last.connections.lookup clientFd with
          | none =>
              simp only [foundLast] at stops
              cases stops
              exact gone_watched foundLast
          | some pair =>
              simp only [foundLast] at stops
              split_ifs at stops with metrics
              · exact serve_metrics_watched tablesLast answers modified foundLast metrics stops
              · exact gone_watched
                  (forward_data_stops tablesLast foundLast .client false _ (by simp) stops)

variable (isBackendFd : Bool) (flags : EventMask) (answers : EventAnswers)

theorem read_phase_stops (tables : Tables lb) (unopened : Unopened lb)
    (serves : Serves lb clientFd isBackendFd) (modified : answers.clientModified = true)
    (watched : WatchedAt lb clientFd)
    (stops : readPhase clientFd isBackendFd flags answers lb = .stop after) :
    WatchedAt after clientFd := by
  unfold readPhase at stops
  split_ifs at stops with input backend
  · cases found : lb.connections.lookup clientFd with
    | none =>
        simp only [forwardData, found] at stops
        cases stops
        exact watched
    | some pair =>
        exact gone_watched (forward_data_stops tables found .backend false _
          (fun _ => serves.attached tables backend found) stops)
  · exact read_client_stops tables unopened answers modified watched stops

theorem drain_phase_stops (tables : Tables lb) (serves : Serves lb clientFd isBackendFd)
    (stops : drainPhase clientFd isBackendFd flags answers lb = .stop after) :
    WatchedAt after clientFd := by
  unfold drainPhase at stops
  cases found : lb.connections.lookup clientFd with
  | none =>
      simp only [found] at stops
      cases stops
      exact gone_watched found
  | some pair =>
      simp only [found] at stops
      split_ifs at stops with hangup backend plain
      · exact gone_watched (forward_data_stops tables found .backend true _
          (fun _ => serves.attached tables backend found) stops)
      · exact gone_watched (forward_data_stops tables found .client true _ nofun stops)

theorem read_phase_reads (tables : Tables lb) (serves : Serves lb clientFd true)
    (found : lb.connections.lookup clientFd = some pair)
    (going : readPhase clientFd true flags answers lb = .next after) :
    ∃ new, after.connections.lookup clientFd = some new ∧
      ReadsBackend (GivesData answers.recvs) pair new := by
  unfold readPhase at going
  rw [if_pos rfl] at going
  split_ifs at going with input
  · exact forward_data_reads tables found (serves.attached tables rfl found) false _ going
  · cases going
    exact ⟨pair, found, .refl _ pair⟩

theorem drain_phase_reads (tables : Tables lb) (serves : Serves lb clientFd true)
    (found : lb.connections.lookup clientFd = some pair)
    (going : drainPhase clientFd true flags answers lb = .next after) :
    ∃ new, after.connections.lookup clientFd = some new ∧
      ReadsBackend (GivesData answers.drains) pair new := by
  unfold drainPhase at going
  simp only [found, if_true] at going
  split_ifs at going with hangup
  · exact forward_data_reads tables found (serves.attached tables rfl found) true _ going
  · cases going
    exact ⟨pair, found, .refl _ pair⟩

/-- If the connect of the pair's backend fails in this event, no other backend is
connected at once while there are bytes for the backend, and nothing is read for the
client unless something is left for it already. -/
def FailsIdle (isBackendFd : Bool) (flags : EventMask) (answers : EventAnswers)
    (pair : ConnectionPair) : Prop :=
  isBackendFd = true → pair.backendConnecting = true → ConnectFails flags answers →
    (pair.clientToBackend.hasUnsent = true →
      ∀ socket ∈ answers.dials.flatMap Dial.sockets, socket.immediate = false) ∧
    (pair.backendToClient.hasUnsent = true ∨
      ¬ (GivesData answers.recvs ∨ GivesData answers.drains))

theorem failover_watched {before : ConnectionPair} (tables : Tables lb)
    (found : lb.connections.lookup clientFd = some pair) (attached : pair.backendFd ≠ -1)
    (watched : Watched before) {data : Prop} (reads : ReadsBackend data before pair)
    (part : data → GivesData answers.recvs ∨ GivesData answers.drains)
    (backend : isBackendFd = true) (connecting : before.backendConnecting = true)
    (fails : ConnectFails flags answers)
    (condition : FailsIdle isBackendFd flags answers before) :
    WatchedAt (lb.failoverConnection clientFd pair.backendIndex answers.dials) clientFd := by
  obtain ⟨immediate, unsent⟩ := condition backend connecting fails
  rcases failover_result tables found attached answers.dials with
    gone | ⟨fd, index, dialling, -, stored, answered⟩
  · exact gone_watched gone
  · intro other isOther
    rw [stored] at isOther
    cases isOther
    refine attached_watched watched reads fd index dialling ?_ (unsent.imp_right (mt part))
    intro connected
    rw [Bool.eq_false_iff]
    intro waits
    have never := immediate waits _ (answered connected)
    cases never

theorem settle_phase_watched (tables : Tables lb)
    (modified : answers.backendModified = true ∧ answers.clientModified = true) :
    WatchedAt (settlePhase clientFd answers lb).state clientFd := by
  cases found : lb.connections.lookup clientFd with
  | none =>
      unfold settlePhase
      simp only [found]
      exact gone_watched found
  | some pair =>
      rcases settle_phase_cases false {} answers found with
        ⟨new, reason, moves, -, ends⟩ | ⟨new, moves, goes⟩
      · rw [ends]
        exact gone_watched
          (close_connection_missing (tables.touch found (pair_moves_sockets moves)) reason)
      · rw [goes]
        intro other isOther
        rw [Flow.state, lookup_set_pair] at isOther
        cases isOther
        exact update_interest_watched modified new

/-- A phase that reads is a sequence of moves, however much there is to read. -/
theorem read_phase_reaches (tables : Tables lb) (unopened : Unopened lb)
    (serves : Serves lb clientFd isBackendFd)
    (found : lb.connections.lookup clientFd = some pair) :
    ∃ budget, Moves (reading isBackendFd flags answers budget) clientFd lb
      (readPhase clientFd isBackendFd flags answers lb).state := by
  have read : ReadUpTo lb clientFd fun side => (readFrom side pair.trace).length := by
    intro other isOther side
    rw [found] at isOther
    cases isOther
    exact Nat.le_refl _
  exact ⟨_, read_phase_moves isBackendFd flags answers tables unopened serves read
    fun side => Nat.le_refl _⟩

theorem drain_phase_reaches (tables : Tables lb) (serves : Serves lb clientFd isBackendFd) :
    ∃ budget, Moves (reading isBackendFd flags answers budget) clientFd lb
      (drainPhase clientFd isBackendFd flags answers lb).state := by
  cases found : lb.connections.lookup clientFd with
  | none =>
      unfold drainPhase
      simp only [found]
      exact ⟨fun _ => 0, .refl⟩
  | some pair =>
      have read : ReadUpTo lb clientFd fun side => (readFrom side pair.trace).length := by
        intro other isOther side
        rw [found] at isOther
        cases isOther
        exact Nat.le_refl _
      exact ⟨_, drain_phase_moves isBackendFd flags answers tables serves read
        fun side => Nat.le_refl _⟩

theorem flush_backend_phase_stops (stops : flushBackendPhase clientFd answers lb = .stop after) :
    WatchedAt after clientFd := by
  unfold flushBackendPhase at stops
  cases found : lb.connections.lookup clientFd with
  | none =>
      simp only [found] at stops
      cases stops
      exact gone_watched found
  | some pair =>
      simp only [found] at stops
      split_ifs at stops

theorem flush_client_phase_stops (stops : flushClientPhase clientFd answers lb = .stop after) :
    WatchedAt after clientFd := by
  unfold flushClientPhase at stops
  cases found : lb.connections.lookup clientFd with
  | none =>
      simp only [found] at stops
      cases stops
      exact gone_watched found
  | some pair =>
      simp only [found] at stops
      split_ifs at stops

theorem flush_phases_watched (tables : Tables lb)
    (modified : answers.backendModified = true ∧ answers.clientModified = true) :
    WatchedAt (((flushBackendPhase clientFd answers lb).andThen
      (flushClientPhase clientFd answers)).andThen (settlePhase clientFd answers)).state
      clientFd := by
  have sends : Moves (settling false {} answers) clientFd lb
      (flushBackendPhase clientFd answers lb).state := flush_backend_phase_moves _ _ answers tables
  cases first : flushBackendPhase clientFd answers lb with
  | stop last => exact flush_backend_phase_stops answers first
  | next last =>
      rw [first] at sends
      have tablesLast : Tables last := moves_tables tables sends
      have replies : Moves (settling false {} answers) clientFd last
          (flushClientPhase clientFd answers last).state :=
        flush_client_phase_moves _ _ answers tablesLast
      simp only [Flow.andThen]
      cases second : flushClientPhase clientFd answers last with
      | stop final => exact flush_client_phase_stops answers second
      | next final =>
          rw [second] at replies
          exact settle_phase_watched answers (moves_tables tablesLast replies) modified

theorem connect_phase_stops {before : ConnectionPair} (tables : Tables lb)
    (serves : Serves lb clientFd isBackendFd) (watched : Watched before)
    (reads : isBackendFd = true → ∃ new, lb.connections.lookup clientFd = some new ∧
      ReadsBackend (GivesData answers.recvs ∨ GivesData answers.drains) before new)
    (condition : FailsIdle isBackendFd flags answers before)
    (stops : connectPhase clientFd isBackendFd flags answers lb = .stop after) :
    WatchedAt after clientFd := by
  unfold connectPhase at stops
  cases found : lb.connections.lookup clientFd with
  | none =>
      simp only [found] at stops
      cases stops
      exact gone_watched found
  | some pair =>
      simp only [found] at stops
      split_ifs at stops with connecting socketError
      cases stops
      simp only [Bool.and_eq_true] at connecting
      obtain ⟨⟨backend, dialling⟩, output⟩ := connecting
      obtain ⟨new, isNew, reading⟩ := reads backend
      rw [found] at isNew
      cases isNew
      exact failover_watched isBackendFd flags answers tables found
        (serves.attached tables backend found) watched reading id backend
        (reading.connecting.symm.trans dialling) (.inr (.inr ⟨output, socketError⟩)) condition

theorem connect_phase_tables (tables : Tables lb) (serves : Serves lb clientFd isBackendFd)
    (going : connectPhase clientFd isBackendFd flags answers lb = .next after) :
    Tables after := by
  rcases connect_phase_cases isBackendFd flags answers tables serves with
    moves | ⟨last, stops, -⟩
  · rw [going] at moves
    exact moves_tables tables moves
  · rw [going] at stops
    cases stops

theorem relay_event_watched (tables : Tables lb) (unopened : Unopened lb)
    (serves : Serves lb clientFd isBackendFd)
    (modified : answers.backendModified = true ∧ answers.clientModified = true)
    (found : lb.connections.lookup clientFd = some pair) (watched : Watched pair)
    (condition : FailsIdle isBackendFd flags answers pair) :
    WatchedAt (relayEvent clientFd isBackendFd flags answers lb) clientFd := by
  have here : WatchedAt lb clientFd := by
    intro other isOther
    rw [found] at isOther
    cases isOther
    exact watched
  unfold relayEvent
  obtain ⟨budget, reached⟩ :=
    read_phase_reaches isBackendFd flags answers tables unopened serves found
  cases read : readPhase clientFd isBackendFd flags answers lb with
  | stop last =>
      exact read_phase_stops isBackendFd flags answers tables unopened serves modified.2 here read
  | next last =>
      rw [read, Flow.state] at reached
      have tablesRead : Tables last := moves_tables tables reached
      have servesRead := read_phase_serves isBackendFd flags answers serves read
      obtain ⟨rest, drains⟩ := drain_phase_reaches isBackendFd flags answers tablesRead servesRead
      rw [Flow.next_and_then]
      cases drained : drainPhase clientFd isBackendFd flags answers last with
      | stop final =>
          exact drain_phase_stops isBackendFd flags answers tablesRead servesRead drained
      | next final =>
          rw [drained, Flow.state] at drains
          have tablesDrained : Tables final := moves_tables tablesRead drains
          have servesDrained := drain_phase_serves isBackendFd flags answers servesRead drained
          have reads : isBackendFd = true → ∃ new, final.connections.lookup clientFd = some new ∧
              ReadsBackend (GivesData answers.recvs ∨ GivesData answers.drains) pair new := by
            rintro rfl
            obtain ⟨between, isBetween, first⟩ :=
              read_phase_reads flags answers tables serves found read
            obtain ⟨new, isNew, second⟩ :=
              drain_phase_reads flags answers tablesRead servesRead isBetween drained
            exact ⟨new, isNew, first.trans second⟩
          rw [Flow.next_and_then]
          cases connected : connectPhase clientFd isBackendFd flags answers final with
          | stop stopped =>
              exact connect_phase_stops isBackendFd flags answers tablesDrained servesDrained
                watched reads condition connected
          | next goes =>
              exact flush_phases_watched answers (connect_phase_tables isBackendFd flags answers
                tablesDrained servesDrained connected) modified

theorem handle_failure_watched (tables : Tables lb) (serves : Serves lb clientFd isBackendFd)
    (found : lb.connections.lookup clientFd = some pair) (watched : Watched pair)
    (condition : FailsIdle isBackendFd flags answers pair) (fails : ConnectFails flags answers)
    (client backend : CloseReason) :
    WatchedAt (handleFailure isBackendFd answers pair lb client backend) clientFd := by
  unfold handleFailure
  rw [(tables.client_lookup found).1]
  by_cases connecting : (isBackendFd && pair.backendConnecting) = true
  · rw [if_pos connecting]
    simp only [Bool.and_eq_true] at connecting
    exact failover_watched isBackendFd flags answers tables found
      (serves.attached tables connecting.1 found) watched (.refl False pair) False.elim
      connecting.1 connecting.2 fails condition
  · rw [if_neg connecting]
    exact gone_watched (close_connection_missing tables _)

end Phases

variable {lb : LoadBalancer} (fd : Int) (flags : EventMask) (answers : EventAnswers)

theorem handle_pair_event_watched (tables : Tables lb) (unopened : Unopened lb)
    (modified : answers.backendModified = true ∧ answers.clientModified = true)
    (watched : WatchedAt lb (lb.clientOf fd))
    (condition : OnPair lb fd
      (FailsIdle (lb.backendToClient.lookup fd).isSome flags answers)) :
    WatchedAt (lb.handlePairEvent fd flags answers) (lb.clientOf fd) := by
  have serves := event_serves lb fd
  unfold OnPair at condition
  cases found : lb.connections.lookup (lb.clientOf fd) with
  | none =>
      rw [handle_pair_event_missing found]
      exact watched
  | some pair =>
      rw [handle_pair_event_found found]
      split_ifs with error hangup
      · exact handle_failure_watched _ flags answers tables serves found (watched pair found)
          (condition pair found) (.inl error) .clientFailed .backendFailed
      · simp only [Bool.and_eq_true, Bool.not_eq_true'] at hangup
        exact handle_failure_watched _ flags answers tables serves found (watched pair found)
          (condition pair found) (.inr (.inl hangup)) .clientHangup .backendHangup
      · exact relay_event_watched _ flags answers tables unopened serves modified found
          (watched pair found) (condition pair found)

theorem handle_pair_event_others (tables : Tables lb) (unopened : Unopened lb) {other : Int}
    (differs : other ≠ lb.clientOf fd) :
    (lb.handlePairEvent fd flags answers).connections.lookup other =
      lb.connections.lookup other := by
  obtain ⟨between, last, reads, settles, ends⟩ :=
    handle_pair_event_moves tables unopened fd flags answers
  have fails := fails_over_moves (moves_tables (moves_tables tables reads) settles) ends
  rw [moves_others id fails differs, moves_others id settles differs, moves_others id reads differs]

theorem handle_accept_watched (accepts : List AcceptAnswer) (lb : LoadBalancer)
    (watched : ∀ clientFd, WatchedAt lb clientFd) :
    ∀ clientFd, WatchedAt (lb.handleAccept accepts) clientFd := by
  induction accepts generalizing lb with
  | nil => exact watched
  | cons answer accepts ih =>
      cases answer with
      | interrupted => exact ih lb watched
      | client fd clientIp added =>
          unfold handleAccept
          split_ifs
          · exact ih lb watched
          · exact ih lb watched
          · exact ih lb watched
          · apply ih
            intro clientFd pair found
            by_cases same : clientFd = fd
            · subst same
              rw [acceptClient, lookup_set_pair] at found
              cases found
              exact accepted_watched clientFd clientIp
            · rw [acceptClient, setPair, AList.lookup_insert_ne same] at found
              exact watched clientFd pair found

/-- `epoll_ctl` succeeds, and no connect fails with bytes waiting that its failover does
not ask for room for. -/
def AsksForRoom (lb : LoadBalancer) : Input → Prop
  | .event fd flags answers =>
      (answers.backendModified = true ∧ answers.clientModified = true) ∧
        OnPair lb fd (FailsIdle (lb.backendToClient.lookup fd).isSome flags answers)
  | _ => True

instance (isBackendFd : Bool) (flags : EventMask) (answers : EventAnswers) :
    DecidablePred (FailsIdle isBackendFd flags answers) := fun _ =>
  inferInstanceAs (Decidable (_ → _ → _ → _ ∧ _))

instance (lb : LoadBalancer) (input : Input) : Decidable (AsksForRoom lb input) :=
  match input with
  | .event _ _ _ => inferInstanceAs (Decidable (_ ∧ OnPair _ _ _))
  | .expire _ => isTrue trivial
  | .stop => isTrue trivial

/-- Every pair is watched for what it waits for. -/
structure Attentive (lb : LoadBalancer) : Prop where
  sound : Sound lb
  watched : ∀ clientFd, WatchedAt lb clientFd

theorem step_attentive (lb : LoadBalancer) (input : Input) (attentive : Attentive lb)
    (condition : AsksForRoom lb input) : Attentive (lb.step input) := by
  refine ⟨step_sound attentive.sound input, ?_⟩
  cases input with
  | expire expired => exact attentive.watched
  | stop =>
      intro clientFd pair found
      cases found
  | event fd flags answers =>
      obtain ⟨modified, idle⟩ := condition
      simp only [step, handleEvent]
      split_ifs
      · exact handle_accept_watched answers.accepts lb attentive.watched
      · exact attentive.watched
      · exact attentive.watched
      · intro clientFd
        by_cases same : clientFd = lb.clientOf fd
        · subst same
          exact handle_pair_event_watched fd flags answers attentive.sound.tables
            attentive.sound.unopened modified (attentive.watched _) idle
        · intro pair found
          rw [handle_pair_event_others fd flags answers attentive.sound.tables
            attentive.sound.unopened same] at found
          exact attentive.watched clientFd pair found

/-- In a run in which `epoll_ctl` succeeds and no failover has bytes waiting that it
does not ask for room for, every open pair is watched for what it waits for. -/
theorem no_wakeup_is_lost (routingMode : RoutingMode) (configured : List (Bytes × Nat))
    (listenFd healthTimerFd : Int) (inputs : List Input)
    (throughout : Throughout step AsksForRoom
      (create routingMode configured listenFd healthTimerFd) inputs) :
    ∀ clientFd pair,
      (run step (create routingMode configured listenFd healthTimerFd) inputs).connections.lookup
        clientFd = some pair → Watched pair := by
  have start : Attentive (create routingMode configured listenFd healthTimerFd) := by
    refine ⟨create_sound routingMode configured listenFd healthTimerFd, ?_⟩
    intro clientFd pair found
    cases found
  exact (run_invariant_throughout step step_attentive start inputs throughout).watched

theorem refused_exchange_loses_no_wakeup :
    let lb := run step twoBackends (failoverExchange refusedAnswers)
    (lb.connections.lookup 5).isSome = true ∧
      ∀ clientFd pair, lb.connections.lookup clientFd = some pair → Watched pair :=
  ⟨by decide, no_wakeup_is_lost .roundRobin
    [(ascii "127.0.0.1", 8081), (ascii "127.0.0.1", 8082)] 3 4
    (failoverExchange refusedAnswers) (by decide)⟩

/-- A failover to a backend that is connected at once leaves the request of the client
in the buffer, and nothing is asked of the backend's socket but to be readable. -/
theorem immediate_failover_loses_wakeup :
    ∃ pair, (run step twoBackends (dialledExchange ++ [.event 6 { error := true }
        { dials := [{ sockets := [.connected 7] }] }])).connections.lookup 5 = some pair ∧
      pair.backendFd = 7 ∧ pair.backendConnecting = false ∧
      pair.clientToBackend.unsent = ascii "hi" ∧ pair.currentBackendEvents.output = false := by
  refine ⟨_, rfl, ?_⟩
  decide

end LoadBalancer

end Aorta.Lb
