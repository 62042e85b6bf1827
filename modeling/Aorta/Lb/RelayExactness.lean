import Aorta.Library.Trace
import Aorta.Lb.PairRules

/-!
# Relay exactness

What was sent to a socket, followed by what is still to be sent, is what was read for
it; a half-close follows the end of the other stream and all of its bytes.
-/

namespace Aorta.Lb

open Relation Aorta.Library.Ascii Aorta.Library.Run Aorta.Library.Trace Aorta.Net

set_option autoImplicit false

def Wire.sentBytes (side : Side) : Wire → Bytes
  | .sent target bytes => if target = side then bytes else []
  | _ => []

def sentTo (side : Side) (trace : List Wire) : Bytes := trace.flatMap (Wire.sentBytes side)

/-- What happened since the current backend socket was opened. -/
def current (trace : List Wire) : List Wire := since Wire.opens trace

section Snoc

variable (side : Side) (trace : List Wire) (wire : Wire)

theorem sent_to_snoc :
    sentTo side (trace ++ [wire]) = sentTo side trace ++ wire.sentBytes side := by
  simp [sentTo]

theorem current_snoc (stays : wire.opens = false) :
    current (trace ++ [wire]) = current trace ++ [wire] := by
  rw [current, since_snoc, stays]
  rfl

theorem current_opened (fd : Int) (index : Nat) : current (trace ++ [.opened fd index]) = [] := by
  rw [current, since_snoc]
  rfl

end Snoc

/-- What holds of one direction: the buffer is consistent, and carries on where the
bytes sent so far end. -/
structure Carries (buffer : RelayBuffer) (read sent : Bytes) : Prop where
  within : buffer.offset ≤ buffer.bytes.length
  exact : sent ++ buffer.unsent = read

namespace Carries

variable {buffer : RelayBuffer} {read sent : Bytes}

theorem clear (within : buffer.offset ≤ buffer.bytes.length) :
    buffer.clearSent.offset ≤ buffer.clearSent.bytes.length ∧
      buffer.clearSent.unsent = buffer.unsent := by
  unfold RelayBuffer.clearSent
  split_ifs with all
  · refine ⟨Nat.le_refl _, ?_⟩
    rw [RelayBuffer.unsent, RelayBuffer.unsent, all, List.drop_length]
    rfl
  · exact ⟨within, rfl⟩

theorem cleared (carries : Carries buffer read sent) : Carries buffer.clearSent read sent where
  within := (clear carries.within).1
  exact := by
    rw [(clear carries.within).2]
    exact carries.exact

theorem same (carries : Carries buffer read sent) : Carries buffer (read ++ []) (sent ++ []) := by
  rw [List.append_nil, List.append_nil]
  exact carries

theorem append (carries : Carries buffer read sent) (bytes : Bytes) :
    Carries (buffer.append bytes) (read ++ bytes) (sent ++ []) where
  within := by
    have within := (clear carries.within).1
    simp only [RelayBuffer.append, List.length_append]
    omega
  exact := by
    have within := (clear carries.within).1
    have whole := carries.cleared.exact
    unfold RelayBuffer.unsent at whole ⊢
    simp only [RelayBuffer.append]
    rw [List.append_nil, List.drop_append_of_le_length within, ← List.append_assoc, whole]

theorem advance (carries : Carries buffer read sent) {count : Nat}
    (enough : count ≤ buffer.unsent.length) :
    Carries (buffer.advance count) (read ++ []) (sent ++ buffer.unsent.take count) where
  within := by
    have within := carries.within
    rw [RelayBuffer.unsent, List.length_drop] at enough
    simp only [RelayBuffer.advance]
    omega
  exact := by
    have rest : (buffer.advance count).unsent = buffer.unsent.drop count := by
      simp only [RelayBuffer.unsent, RelayBuffer.advance, List.drop_drop]
    rw [rest, List.append_assoc, List.take_append_drop, List.append_nil]
    exact carries.exact

end Carries

/-- The current backend socket has received nothing. -/
def NothingToBackend (before : List Wire) : Prop := sentTo .backend (current before) = []

/-- What holds of the buffers of a pair that is relayed. -/
structure Relays (pair : ConnectionPair) : Prop where
  toBackend : Carries pair.clientToBackend (readFrom .client pair.trace)
    (sentTo .backend (current pair.trace))
  toClient : Carries pair.backendToClient (readFrom .backend pair.trace)
    (sentTo .client pair.trace)
  clientEnded : pair.clientReadClosed = true → .ended .client ∈ pair.trace
  idle : pair.backendFd = -1 ∨ pair.backendConnecting = true →
    sentTo .backend (current pair.trace) = []
  untouched : Preceded (fun wire => wire.opens = true) NothingToBackend pair.trace

/-- When a half-close of the current backend socket may be issued. -/
def AllToBackend (before : List Wire) : Prop :=
  .ended .client ∈ before ∧ sentTo .backend (current before) = readFrom .client before

/-- When a half-close of the client socket may be issued. -/
def AllToClient (before : List Wire) : Prop :=
  .ended .backend ∈ before ∧ sentTo .client before = readFrom .backend before

/-- What holds of the half-closes of a pair. -/
structure HalfCloses (pair : ConnectionPair) : Prop where
  backendOnce : (current pair.trace).count (.shutdown .backend) ≤
    if pair.backendWriteClosed then 1 else 0
  clientOnce : pair.trace.count (.shutdown .client) ≤ if pair.clientWriteClosed then 1 else 0
  backendLast : Preceded (· = .shutdown .backend) AllToBackend pair.trace
  clientLast : Preceded (· = .shutdown .client) AllToClient pair.trace

/-- The invariant of a pair. -/
structure Exact (pair : ConnectionPair) : Prop where
  relays : pair.metricsConnection = false → Relays pair
  halfCloses : HalfCloses pair
  backendEnded : pair.backendReadClosed = true → .ended .backend ∈ pair.trace
  opened : pair.Unopened → pair.backendFd = -1 ∧ pair.backendReadClosed = false
  metrics : pair.metricsConnection = true → pair.Unopened

/-- A wire that is neither a half-close nor a new socket. -/
def Wire.plain : Wire → Bool
  | .shutdown _ => false
  | .opened _ _ => false
  | _ => true

theorem Wire.plain_stays {wire : Wire} (plain : wire.plain = true) : wire.opens = false := by
  cases wire <;> first | rfl | cases plain

theorem HalfCloses.record {pair after : ConnectionPair} (halfCloses : HalfCloses pair)
    {wire : Wire} (plain : wire.plain = true) (trace : after.trace = pair.trace ++ [wire])
    (backend : after.backendWriteClosed = pair.backendWriteClosed)
    (client : after.clientWriteClosed = pair.clientWriteClosed) : HalfCloses after := by
  have notBackend : wire ≠ .shutdown .backend := by
    rintro rfl
    cases plain
  have notClient : wire ≠ .shutdown .client := by
    rintro rfl
    cases plain
  have noBackend : [wire].count (.shutdown .backend) = 0 :=
    List.count_eq_zero_of_not_mem (by simpa using notBackend.symm)
  have noClient : [wire].count (.shutdown .client) = 0 :=
    List.count_eq_zero_of_not_mem (by simpa using notClient.symm)
  constructor
  · rw [trace, current_snoc _ _ (Wire.plain_stays plain), List.count_append, noBackend, backend]
    exact halfCloses.backendOnce
  · rw [trace, List.count_append, noClient, client]
    exact halfCloses.clientOnce
  · rw [trace]
    exact preceded_snoc halfCloses.backendLast fun same => absurd same notBackend
  · rw [trace]
    exact preceded_snoc halfCloses.clientLast fun same => absurd same notClient

/-- What a wire to the same sockets leaves to show. -/
theorem Exact.append {pair after : ConnectionPair} (exact : Exact pair) (wire : Wire)
    (stays : wire.opens = false) (trace : after.trace = pair.trace ++ [wire])
    (halfCloses : HalfCloses after)
    (metrics : after.metricsConnection = pair.metricsConnection)
    (socket : after.backendFd = pair.backendFd)
    (relays : after.metricsConnection = false → Relays after)
    (ended : after.backendReadClosed = true →
      (pair.backendReadClosed = true ∨ wire = .ended .backend ∧ pair.backendFd ≠ -1)) :
    Exact after := by
  have unopened : after.Unopened → pair.Unopened := by
    intro unopened other member
    apply unopened
    rw [trace]
    exact List.mem_append_left _ member
  constructor
  · exact relays
  · exact halfCloses
  · intro closed
    rw [trace]
    rcases ended closed with before | ⟨now, -⟩
    · exact List.mem_append_left _ (exact.backendEnded before)
    · rw [now]
      exact List.mem_append_right _ List.mem_cons_self
  · intro never
    obtain ⟨detached, notEnded⟩ := exact.opened (unopened never)
    refine ⟨socket.trans detached, ?_⟩
    rw [Bool.eq_false_iff]
    intro closed
    rcases ended closed with before | ⟨-, attached⟩
    · rw [notEnded] at before
      cases before
    · exact attached detached
  · intro isMetrics other member
    rw [metrics] at isMetrics
    rw [trace] at member
    rcases List.mem_append.mp member with earlier | last
    · exact exact.metrics isMetrics other earlier
    · rw [List.mem_singleton.mp last]
      exact stays

theorem Exact.record {pair after : ConnectionPair} (exact : Exact pair) (wire : Wire)
    (plain : wire.plain = true) (trace : after.trace = pair.trace ++ [wire])
    (backend : after.backendWriteClosed = pair.backendWriteClosed)
    (client : after.clientWriteClosed = pair.clientWriteClosed)
    (metrics : after.metricsConnection = pair.metricsConnection)
    (socket : after.backendFd = pair.backendFd)
    (relays : after.metricsConnection = false → Relays after)
    (ended : after.backendReadClosed = true →
      (pair.backendReadClosed = true ∨ wire = .ended .backend ∧ pair.backendFd ≠ -1)) :
    Exact after :=
  exact.append wire (Wire.plain_stays plain) trace
    (exact.halfCloses.record plain trace backend client) metrics socket relays ended

theorem Exact.plain {pair : ConnectionPair} (exact : Exact pair) (attached : pair.backendFd ≠ -1) :
    pair.metricsConnection = false := by
  rw [Bool.eq_false_iff]
  intro isMetrics
  exact attached (exact.opened (exact.metrics isMetrics)).1

theorem Relays.record {pair after : ConnectionPair} (relays : Relays pair) (wire : Wire)
    (stays : wire.opens = false) (trace : after.trace = pair.trace ++ [wire])
    (toBackend : Carries after.clientToBackend
      (readFrom .client pair.trace ++ wire.readBytes .client)
      (sentTo .backend (current pair.trace) ++ wire.sentBytes .backend))
    (toClient : Carries after.backendToClient
      (readFrom .backend pair.trace ++ wire.readBytes .backend)
      (sentTo .client pair.trace ++ wire.sentBytes .client))
    (ended : after.clientReadClosed = true →
      pair.clientReadClosed = true ∨ wire = .ended .client)
    (idle : after.backendFd = -1 ∨ after.backendConnecting = true →
      (pair.backendFd = -1 ∨ pair.backendConnecting = true) ∧ wire.sentBytes .backend = []) :
    Relays after := by
  have sent : sentTo .backend (current after.trace) =
      sentTo .backend (current pair.trace) ++ wire.sentBytes .backend := by
    rw [trace, current_snoc _ _ stays, sent_to_snoc]
  constructor
  · rw [sent, trace, read_from_snoc]
    exact toBackend
  · rw [trace, read_from_snoc, sent_to_snoc]
    exact toClient
  · intro closed
    rw [trace]
    rcases ended closed with before | now
    · exact List.mem_append_left _ (relays.clientEnded before)
    · rw [now]
      exact List.mem_append_right _ List.mem_cons_self
  · intro waits
    obtain ⟨before, nothing⟩ := idle waits
    rw [sent, relays.idle before, nothing]
    rfl
  · rw [trace]
    apply preceded_snoc relays.untouched
    intro opens
    rw [stays] at opens
    cases opens

section Kept

variable {pair : ConnectionPair} (exact : Exact pair)

include exact

theorem Exact.read (side : Side) (bytes : Bytes) :
    Exact ((pair.setIncoming side ((pair.incoming side).append bytes)).record
      [.read side bytes]) := by
  cases side with
  | client =>
      refine exact.record (.read .client bytes) rfl rfl rfl rfl rfl rfl ?_ .inl
      intro plain
      have relays := exact.relays plain
      refine relays.record (.read .client bytes) rfl rfl ?_ ?_ .inl fun waits => ⟨waits, rfl⟩
      · exact relays.toBackend.append bytes
      · exact relays.toClient.same
  | backend =>
      refine exact.record (.read .backend bytes) rfl rfl rfl rfl rfl rfl ?_ .inl
      intro plain
      have relays := exact.relays plain
      refine relays.record (.read .backend bytes) rfl rfl ?_ ?_ .inl fun waits => ⟨waits, rfl⟩
      · exact relays.toBackend.same
      · exact relays.toClient.append bytes

theorem Exact.endRead (side : Side) (attached : side = .backend → pair.backendFd ≠ -1) :
    Exact (pair.endRead side) := by
  cases side with
  | client =>
      refine exact.record (.ended .client) rfl rfl rfl rfl rfl rfl ?_ .inl
      intro plain
      have relays := exact.relays plain
      refine relays.record (.ended .client) rfl rfl ?_ ?_ (fun _ => .inr rfl)
        fun waits => ⟨waits, rfl⟩
      · exact relays.toBackend.same
      · exact relays.toClient.same
  | backend =>
      refine exact.record (.ended .backend) rfl rfl rfl rfl rfl rfl ?_
        fun _ => .inr ⟨rfl, attached rfl⟩
      intro plain
      have relays := exact.relays plain
      refine relays.record (.ended .backend) rfl rfl ?_ ?_ .inl fun waits => ⟨waits, rfl⟩
      · exact relays.toBackend.same
      · exact relays.toClient.same

theorem Exact.sent (side : Side) {count : Nat}
    (within : count ≤ (pair.incoming side.other).unsent.length)
    (backend : side = .backend → pair.backendFd ≠ -1 ∧ pair.backendConnecting = false) :
    Exact ((pair.setIncoming side.other ((pair.incoming side.other).advance count)).record
      [.sent side ((pair.incoming side.other).unsent.take count)]) := by
  cases side with
  | client =>
      refine exact.record (.sent .client _) rfl rfl rfl rfl rfl rfl ?_ .inl
      intro plain
      have relays := exact.relays plain
      refine relays.record (.sent .client _) rfl rfl ?_ ?_ .inl fun waits => ⟨waits, rfl⟩
      · exact relays.toBackend.same
      · exact relays.toClient.advance within
  | backend =>
      refine exact.record (.sent .backend _) rfl rfl rfl rfl rfl rfl ?_ .inl
      intro plain
      have relays := exact.relays plain
      refine relays.record (.sent .backend _) rfl rfl ?_ ?_ .inl fun waits => ?_
      · exact relays.toBackend.advance within
      · exact relays.toClient.same
      · obtain ⟨attached, connected⟩ := backend rfl
        rcases waits with detached | connecting
        · exact absurd detached attached
        · have still : pair.backendConnecting = true := connecting
          rw [connected] at still
          cases still

theorem Exact.quiet {after : ConnectionPair} (trace : after.trace = pair.trace)
    (backend : after.backendWriteClosed = pair.backendWriteClosed)
    (client : after.clientWriteClosed = pair.clientWriteClosed)
    (socket : after.backendFd = pair.backendFd ∨ after.backendFd = -1)
    (ended : after.backendReadClosed = pair.backendReadClosed)
    (relays : after.metricsConnection = false → Relays after)
    (metrics : after.metricsConnection = true → pair.Unopened) : Exact after := by
  have unopened : after.Unopened → pair.Unopened := by
    unfold ConnectionPair.Unopened
    rw [trace]
    exact id
  constructor
  · exact relays
  · constructor
    · rw [trace, backend]
      exact exact.halfCloses.backendOnce
    · rw [trace, client]
      exact exact.halfCloses.clientOnce
    · rw [trace]
      exact exact.halfCloses.backendLast
    · rw [trace]
      exact exact.halfCloses.clientLast
  · rw [trace, ended]
    exact exact.backendEnded
  · intro never
    obtain ⟨detached, notEnded⟩ := exact.opened (unopened never)
    refine ⟨?_, ended.trans notEnded⟩
    rcases socket with same | gone
    · exact same.trans detached
    · exact gone
  · intro isMetrics
    unfold ConnectionPair.Unopened
    rw [trace]
    exact metrics isMetrics

theorem Exact.shutBackend (ended : pair.clientReadClosed = true)
    (once : pair.backendWriteClosed = false) (nothing : pair.clientToBackend.unsent = [])
    (attached : pair.backendFd ≠ -1) (connected : pair.backendConnecting = false) :
    Exact ({ pair with backendWriteClosed := true }.record [.shutdown .backend]) := by
  have relays := exact.relays (exact.plain attached)
  have whole : AllToBackend pair.trace := by
    have carries := relays.toBackend.exact
    rw [nothing, List.append_nil] at carries
    exact ⟨relays.clientEnded ended, carries⟩
  have halfCloses := exact.halfCloses
  refine exact.append (.shutdown .backend) rfl rfl ?_ rfl rfl ?_ .inl
  · constructor
    · have before := halfCloses.backendOnce
      rw [once] at before
      simp only [ConnectionPair.record]
      rw [current_snoc _ _ rfl, List.count_append, Nat.eq_zero_of_le_zero before]
      exact Nat.le_refl 1
    · simp only [ConnectionPair.record]
      rw [List.count_append]
      exact halfCloses.clientOnce
    · exact preceded_snoc halfCloses.backendLast fun _ => whole
    · apply preceded_snoc halfCloses.clientLast
      intro same
      cases same
  · intro _
    refine relays.record (.shutdown .backend) rfl rfl ?_ ?_ .inl ?_
    · exact relays.toBackend.same
    · exact relays.toClient.same
    · intro waits
      rcases waits with detached | connecting
      · exact absurd detached attached
      · have still : pair.backendConnecting = true := connecting
        rw [connected] at still
        cases still

theorem Exact.shutClient (ended : pair.backendReadClosed = true)
    (once : pair.clientWriteClosed = false) (nothing : pair.backendToClient.unsent = []) :
    Exact ({ pair with clientWriteClosed := true }.record [.shutdown .client]) := by
  have plain : pair.metricsConnection = false := by
    rw [Bool.eq_false_iff]
    intro isMetrics
    have never := (exact.opened (exact.metrics isMetrics)).2
    rw [ended] at never
    cases never
  have relays := exact.relays plain
  have whole : AllToClient pair.trace := by
    have carries := relays.toClient.exact
    rw [nothing, List.append_nil] at carries
    exact ⟨exact.backendEnded ended, carries⟩
  have halfCloses := exact.halfCloses
  refine exact.append (.shutdown .client) rfl rfl ?_ rfl rfl ?_ .inl
  · constructor
    · simp only [ConnectionPair.record]
      rw [current_snoc _ _ rfl, List.count_append]
      exact halfCloses.backendOnce
    · have before := halfCloses.clientOnce
      rw [once] at before
      simp only [ConnectionPair.record]
      rw [List.count_append, Nat.eq_zero_of_le_zero before]
      exact Nat.le_refl 1
    · apply preceded_snoc halfCloses.backendLast
      intro same
      cases same
    · exact preceded_snoc halfCloses.clientLast fun _ => whole
  · intro _
    refine relays.record (.shutdown .client) rfl rfl ?_ ?_ .inl fun waits => ⟨waits, rfl⟩
    · exact relays.toBackend.same
    · exact relays.toClient.same

theorem Exact.attached (fd : Int) (index : Nat) (connecting : Bool)
    (detached : pair.backendFd = -1) (plain : pair.metricsConnection = false) :
    Exact (attachedPair pair fd index connecting) := by
  have relays := exact.relays plain
  have halfCloses := exact.halfCloses
  have trace : attachedPair pair fd index connecting = { pair with
      backendFd := fd
      backendIndex := index
      backendConnecting := connecting
      currentBackendEvents := LoadBalancer.dialEvents connecting
      trace := pair.trace ++ [.opened fd index] } := rfl
  rw [trace]
  constructor
  · intro _
    constructor
    · have carries := relays.toBackend
      rw [relays.idle (.inl detached)] at carries
      rw [current_opened, read_from_snoc]
      exact carries.same
    · rw [read_from_snoc, sent_to_snoc]
      exact relays.toClient.same
    · exact fun closed => List.mem_append_left _ (relays.clientEnded closed)
    · intro _
      rw [current_opened]
      rfl
    · exact preceded_snoc relays.untouched fun _ => relays.idle (.inl detached)
  · constructor
    · rw [current_opened]
      exact Nat.zero_le _
    · rw [List.count_append]
      exact halfCloses.clientOnce
    · exact preceded_snoc halfCloses.backendLast nofun
    · exact preceded_snoc halfCloses.clientLast nofun
  · exact fun closed => List.mem_append_left _ (exact.backendEnded closed)
  · intro unopened
    have opens := unopened (.opened fd index) (List.mem_append_right _ List.mem_cons_self)
    cases opens
  · intro isMetrics
    have still : pair.metricsConnection = true := isMetrics
    rw [plain] at still
    cases still

end Kept

theorem exact_moved {may : May} {pair after : ConnectionPair} (move : PairMove may pair after)
    (exact : Exact pair) : Exact after := by
  cases move with
  | read side bytes fits within client backend => exact exact.read side bytes
  | ended side backend => exact exact.endRead side fun isBackend => (backend isBackend).2
  | sent writes side count within backend => exact exact.sent side within backend
  | clear =>
      refine exact.quiet rfl rfl rfl (.inl rfl) rfl (fun plain => ?_) exact.metrics
      have relays := exact.relays plain
      exact ⟨relays.toBackend.cleared, relays.toClient.cleared, relays.clientEnded, relays.idle,
        relays.untouched⟩
  | shutBackend writes ended once nothing attached connected =>
      exact exact.shutBackend ended once nothing attached connected
  | shutClient writes ended once nothing => exact exact.shutClient ended once nothing
  | connected =>
      refine exact.quiet rfl rfl rfl (.inl rfl) rfl (fun plain => ?_) exact.metrics
      have relays := exact.relays plain
      refine ⟨relays.toBackend, relays.toClient, relays.clientEnded, ?_, relays.untouched⟩
      intro waits
      rcases waits with detached | connecting
      · exact relays.idle (.inl detached)
      · cases connecting
  | watched client backend =>
      refine exact.quiet rfl rfl rfl (.inl rfl) rfl (fun plain => ?_) exact.metrics
      have relays := exact.relays plain
      exact ⟨relays.toBackend, relays.toClient, relays.clientEnded, relays.idle,
        relays.untouched⟩
  | redialled detached index connecting events =>
      refine exact.quiet rfl rfl rfl (.inl rfl) rfl (fun plain => ?_) exact.metrics
      have relays := exact.relays plain
      exact ⟨relays.toBackend, relays.toClient, relays.clientEnded,
        fun _ => relays.idle (.inl detached), relays.untouched⟩
  | admitted detached unopened =>
      exact exact.quiet rfl rfl rfl (.inl rfl) rfl nofun fun _ => unopened
  | answered metrics response request events within =>
      refine exact.record (.read .client request) rfl rfl rfl rfl rfl rfl (fun plain => ?_) .inl
      have isMetrics : pair.metricsConnection = false := plain
      rw [metrics] at isMetrics
      cases isMetrics

/-- The invariant survives everything that happens to a pair. -/
theorem exact_kept (may : May) : Kept may Exact where
  accepted := by
    intro fd clientIp
    have nothing : ∀ buffer : RelayBuffer, buffer = {} → Carries buffer [] [] := by
      rintro buffer rfl
      exact ⟨Nat.le_refl 0, rfl⟩
    constructor
    · intro _
      exact ⟨nothing _ rfl, nothing _ rfl, nofun, fun _ => rfl, preceded_nil⟩
    · exact ⟨Nat.le_refl 0, Nat.le_refl 0, preceded_nil, preceded_nil⟩
    · exact nofun
    · exact fun _ => ⟨rfl, rfl⟩
    · exact nofun
  moved := exact_moved
  attached := by
    intro pair fd index connecting detached plain exact
    exact exact.attached fd index connecting detached plain
  detached := by
    intro pair attached connecting _ exact
    refine exact.quiet rfl rfl rfl (.inr rfl) rfl (fun plain => ?_) exact.metrics
    have relays := exact.relays plain
    exact ⟨relays.toBackend, relays.toClient, relays.clientEnded,
      fun _ => relays.idle (.inr connecting), relays.untouched⟩

namespace LoadBalancer

/-- In every state of every run, for every open pair that is relayed: what the current
backend socket was sent, followed by what waits for it, is what was read from the
client, and no earlier backend socket was sent anything; what the client was sent,
followed by what waits for it, is what was read from its backends. A pair that serves
metrics never has a backend socket. Every pair, also one that has been closed, issued
at most one half-close on its current backend socket and on its client socket, and
only after the end of the other stream and all of its bytes. -/
theorem relay_is_exact (routingMode : RoutingMode) (configured : List (Bytes × Nat))
    (listenFd healthTimerFd : Int) (inputs : List Input) :
    let lb := run step (create routingMode configured listenFd healthTimerFd) inputs
    (∀ clientFd pair, lb.connections.lookup clientFd = some pair →
      (pair.metricsConnection = false →
        sentTo .backend (current pair.trace) ++ pair.clientToBackend.unsent =
            readFrom .client pair.trace ∧
          Preceded (fun wire => wire.opens = true) NothingToBackend pair.trace ∧
          sentTo .client pair.trace ++ pair.backendToClient.unsent =
            readFrom .backend pair.trace) ∧
      (pair.metricsConnection = true → pair.backendFd = -1 ∧ pair.Unopened)) ∧
    (∀ pair, ((∃ clientFd, lb.connections.lookup clientFd = some pair) ∨
        ∃ reason, (pair, reason) ∈ lb.closed) →
      (current pair.trace).count (.shutdown .backend) ≤ 1 ∧
      Preceded (· = .shutdown .backend) AllToBackend pair.trace ∧
      pair.trace.count (.shutdown .client) ≤ 1 ∧
      Preceded (· = .shutdown .client) AllToClient pair.trace) := by
  intro lb
  have all : AllPairs Exact lb :=
    run_kept exact_kept routingMode configured listenFd healthTimerFd inputs
  constructor
  · intro clientFd pair found
    have exact := all.opened clientFd pair found
    constructor
    · intro plain
      have relays := exact.relays plain
      exact ⟨relays.toBackend.exact, relays.untouched, relays.toClient.exact⟩
    · intro isMetrics
      exact ⟨(exact.opened (exact.metrics isMetrics)).1, exact.metrics isMetrics⟩
  · intro pair known
    have exact : Exact pair := by
      rcases known with ⟨clientFd, found⟩ | ⟨reason, member⟩
      · exact all.opened clientFd pair found
      · exact all.closed pair reason member
    have atMost : ∀ flag : Bool, (if flag then 1 else 0) ≤ 1 := by decide
    have halfCloses := exact.halfCloses
    exact ⟨halfCloses.backendOnce.trans (atMost _), halfCloses.backendLast,
      halfCloses.clientOnce.trans (atMost _), halfCloses.clientLast⟩

end LoadBalancer

end Aorta.Lb
