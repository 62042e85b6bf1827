import Aorta.Lb.RelayExactness

/-!
# Bytes of one backend only

A failover keeps the buffers and the flags of the pair. The client gets the bytes of a
single backend as long as no connect fails behind something that was read.
-/

namespace Aorta.Lb

open Relation Aorta.Library.Ascii Aorta.Library.Run Aorta.Library.Trace Aorta.Net

set_option autoImplicit false

/-- Bytes or the end of the stream of a backend, or its half-close. -/
def Wire.heard : Wire → Bool
  | .read side _ => side = .backend
  | .ended side => side = .backend
  | .shutdown side => side = .backend
  | _ => false

/-- Nothing came from a backend and no backend socket was shut. -/
def Silent (trace : List Wire) : Prop := ∀ wire ∈ trace, wire.heard = false

instance (trace : List Wire) : Decidable (Silent trace) :=
  inferInstanceAs (Decidable (∀ wire ∈ trace, _))

theorem silent_snoc {trace : List Wire} {wire : Wire} (silent : Silent trace)
    (unheard : wire.heard = false) : Silent (trace ++ [wire]) := by
  intro other member
  rcases List.mem_append.mp member with earlier | last
  · exact silent other earlier
  · rw [List.mem_singleton.mp last]
    exact unheard

theorem silent_front {trace : List Wire} {wire : Wire} (silent : Silent (trace ++ [wire])) :
    Silent trace := fun other member => silent other (List.mem_append_left _ member)

theorem mem_of_mem_current {trace : List Wire} {wire : Wire} (member : wire ∈ current trace) :
    wire ∈ trace := by
  induction trace using List.reverseRecOn with
  | nil => exact member
  | append_singleton trace last ih =>
      rw [current, since_snoc] at member
      split_ifs at member
      · cases member
      · rcases List.mem_append.mp member with earlier | now
        · exact List.mem_append_left _ (ih earlier)
        · exact List.mem_append_right _ now

theorem read_from_current {trace : List Wire}
    (single : Preceded (fun wire => wire.opens = true) Silent trace) :
    readFrom .backend trace = readFrom .backend (current trace) := by
  induction trace using List.reverseRecOn with
  | nil => rfl
  | append_singleton trace last ih =>
      have earlier : Preceded (fun wire => wire.opens = true) Silent trace := by
        intro before wire after split
        exact single before wire (after ++ [last]) (by rw [split]; simp)
      have nothing : ∀ wires, Silent wires → readFrom .backend wires = [] := by
        intro wires silent
        rw [readFrom, List.flatMap_eq_nil_iff]
        intro wire member
        have unheard := silent wire member
        cases wire with
        | read side bytes =>
            cases side with
            | client => rfl
            | backend => cases unheard
        | ended side => rfl
        | sent side bytes => rfl
        | shutdown side => rfl
        | opened fd index => rfl
      rw [read_from_snoc, current, since_snoc]
      split_ifs with opens
      · have silent := single trace last [] rfl opens
        rw [nothing trace silent]
        cases last with
        | opened fd index => rfl
        | read side bytes => cases opens
        | ended side => cases opens
        | sent side bytes => cases opens
        | shutdown side => cases opens
      · rw [read_from_snoc, ih earlier, current]

/-- What holds of a pair whose bytes come from one backend. -/
structure Single (pair : ConnectionPair) : Prop where
  exact : Exact pair
  single : Preceded (fun wire => wire.opens = true) Silent pair.trace
  detached : pair.backendFd = -1 → Silent pair.trace
  readClosed : pair.backendReadClosed = true → .ended .backend ∈ current pair.trace
  writeClosed : pair.backendWriteClosed = true → .shutdown .backend ∈ current pair.trace
  empty : Silent pair.trace → pair.metricsConnection = false → pair.backendToClient.bytes = []

section Moves

variable {may : May} {pair after : ConnectionPair}

theorem Single.record (single : Single pair) (wire : Wire) (stays : wire.opens = false)
    (exact : Exact after) (trace : after.trace = pair.trace ++ [wire])
    (detached : after.backendFd = -1 → pair.backendFd = -1 ∧ wire.heard = false)
    (readClosed : after.backendReadClosed = true →
      pair.backendReadClosed = true ∨ wire = .ended .backend)
    (writeClosed : after.backendWriteClosed = true →
      pair.backendWriteClosed = true ∨ wire = .shutdown .backend)
    (empty : wire.heard = false → after.metricsConnection = false →
      pair.metricsConnection = false ∧
        (pair.backendToClient.bytes = [] → after.backendToClient.bytes = [])) :
    Single after := by
  have since : current after.trace = current pair.trace ++ [wire] := by
    rw [trace, current_snoc _ _ stays]
  constructor
  · exact exact
  · rw [trace]
    apply preceded_snoc single.single
    intro opens
    rw [stays] at opens
    cases opens
  · intro gone
    obtain ⟨before, unheard⟩ := detached gone
    rw [trace]
    exact silent_snoc (single.detached before) unheard
  · intro closed
    rw [since]
    rcases readClosed closed with before | now
    · exact List.mem_append_left _ (single.readClosed before)
    · rw [now]
      exact List.mem_append_right _ List.mem_cons_self
  · intro closed
    rw [since]
    rcases writeClosed closed with before | now
    · exact List.mem_append_left _ (single.writeClosed before)
    · rw [now]
      exact List.mem_append_right _ List.mem_cons_self
  · intro silent plain
    rw [trace] at silent
    obtain ⟨before, kept⟩ :=
      empty (silent wire (List.mem_append_right _ List.mem_cons_self)) plain
    exact kept (single.empty (silent_front silent) before)

theorem single_moved (single : Single pair) (move : PairMove may pair after) : Single after := by
  have exact := exact_moved move single.exact
  cases move with
  | read side bytes fits within client backend =>
      cases side with
      | client =>
          exact single.record (.read .client bytes) rfl exact rfl (fun gone => ⟨gone, rfl⟩) .inl
            .inl fun _ plain => ⟨plain, id⟩
      | backend =>
          exact single.record (.read .backend bytes) rfl exact rfl
            (fun gone => absurd gone (backend rfl).2) .inl .inl nofun
  | ended side backend =>
      cases side with
      | client =>
          exact single.record (.ended .client) rfl exact rfl (fun gone => ⟨gone, rfl⟩) .inl .inl
            fun _ plain => ⟨plain, id⟩
      | backend =>
          exact single.record (.ended .backend) rfl exact rfl
            (fun gone => absurd gone (backend rfl).2) (fun _ => .inr rfl) .inl nofun
  | sent writes side count within backend =>
      cases side with
      | client =>
          exact single.record (.sent .client _) rfl exact rfl (fun gone => ⟨gone, rfl⟩) .inl .inl
            fun _ plain => ⟨plain, id⟩
      | backend =>
          exact single.record (.sent .backend _) rfl exact rfl (fun gone => ⟨gone, rfl⟩) .inl .inl
            fun _ plain => ⟨plain, id⟩
  | clear =>
      refine ⟨exact, single.single, single.detached, single.readClosed, single.writeClosed, ?_⟩
      intro silent plain
      have nothing := single.empty silent plain
      simp only [LoadBalancer.clearBuffers, RelayBuffer.clearSent]
      split_ifs
      · rfl
      · exact nothing
  | shutBackend writes ended once nothing attached connected =>
      exact single.record (.shutdown .backend) rfl exact rfl (fun gone => absurd gone attached) .inl
        (fun _ => .inr rfl) nofun
  | shutClient writes ended once nothing =>
      exact single.record (.shutdown .client) rfl exact rfl (fun gone => ⟨gone, rfl⟩) .inl .inl
        fun _ plain => ⟨plain, id⟩
  | connected =>
      exact ⟨exact, single.single, single.detached, single.readClosed, single.writeClosed,
        single.empty⟩
  | watched client backend =>
      exact ⟨exact, single.single, single.detached, single.readClosed, single.writeClosed,
        single.empty⟩
  | redialled detached index connecting events =>
      exact ⟨exact, single.single, single.detached, single.readClosed, single.writeClosed,
        single.empty⟩
  | admitted detached unopened =>
      exact ⟨exact, single.single, single.detached, single.readClosed, single.writeClosed, nofun⟩
  | answered metrics response request events within =>
      refine single.record (.read .client request) rfl exact rfl (fun gone => ⟨gone, rfl⟩) .inl .inl
        fun _ plain => ?_
      have isMetrics : pair.metricsConnection = false := plain
      rw [metrics] at isMetrics
      cases isMetrics

theorem Single.attached (single : Single pair) (fd : Int) (index : Nat) (connecting : Bool)
    (socket : fd ≠ -1) (detached : pair.backendFd = -1)
    (plain : pair.metricsConnection = false) : Single (attachedPair pair fd index connecting) := by
  have silent := single.detached detached
  refine ⟨single.exact.attached fd index connecting detached plain,
    preceded_snoc single.single fun _ => silent, fun gone => absurd gone socket, ?_, ?_, ?_⟩
  · intro closed
    have ended := silent _ (mem_of_mem_current (single.readClosed closed))
    cases ended
  · intro closed
    have shut := silent _ (mem_of_mem_current (single.writeClosed closed))
    cases shut
  · exact fun _ => single.empty silent

end Moves

/-- If the connect fails in this event, nothing is heard while it is unsettled. -/
def Unheard (fails : Prop) (may : May) (pair : ConnectionPair) : Prop :=
  fails → pair.backendFd ≠ -1 ∧ (pair.backendConnecting = true →
    Silent pair.trace ∧ ¬ may.data ∧ ¬ may.ends)

theorem unheard_moved {fails : Prop} {may : May} {pair after : ConnectionPair}
    (unheard : Unheard fails may pair) (move : PairMove may pair after) :
    Unheard fails may after := by
  intro failing
  obtain ⟨attached, silent⟩ := unheard failing
  refine ⟨by rw [(pair_move_sockets move).backend]; exact attached, ?_⟩
  cases move with
  | read side bytes fits within client backend =>
      intro connecting
      cases side with
      | client =>
          obtain ⟨before, rest⟩ := silent connecting
          exact ⟨silent_snoc before rfl, rest⟩
      | backend => exact absurd (backend rfl).1 (silent connecting).2.1
  | ended side backend =>
      intro connecting
      cases side with
      | client =>
          obtain ⟨before, rest⟩ := silent connecting
          exact ⟨silent_snoc before rfl, rest⟩
      | backend => exact absurd (backend rfl).1 (silent connecting).2.2
  | sent writes side count within backend =>
      intro connecting
      cases side with
      | client =>
          obtain ⟨before, rest⟩ := silent connecting
          exact ⟨silent_snoc before rfl, rest⟩
      | backend =>
          obtain ⟨before, rest⟩ := silent connecting
          exact ⟨silent_snoc before rfl, rest⟩
  | clear => exact silent
  | shutBackend writes ended once nothing attached connected =>
      intro connecting
      have still : pair.backendConnecting = true := connecting
      rw [connected] at still
      cases still
  | shutClient writes ended once nothing =>
      intro connecting
      obtain ⟨before, rest⟩ := silent connecting
      exact ⟨silent_snoc before rfl, rest⟩
  | connected => exact nofun
  | watched client backend => exact silent
  | redialled detached index connecting events => exact absurd detached attached
  | admitted detached unopened => exact silent
  | answered metrics response request events within =>
      intro connecting
      obtain ⟨before, rest⟩ := silent connecting
      exact ⟨silent_snoc before rfl, rest⟩

theorem single_staged {fails : Prop} {may : May} (kept : ¬ may.detaches)
    (idle : may.accepts → ¬ fails) :
    Staged may Single (Unheard fails may) fun pair _ => Single pair where
  accepted := by
    intro accepts fd clientIp
    refine ⟨⟨(exact_kept may).accepted fd clientIp, preceded_nil, fun _ => nofun, nofun, nofun,
      fun _ _ => rfl⟩, ?_⟩
    exact fun failing => absurd failing (idle accepts)
  moved := by
    intro pair after move single unheard
    exact ⟨single_moved single move, unheard_moved unheard move⟩
  attached := by
    intro pair fd index connecting socket detached plain single unheard
    refine ⟨single.attached fd index connecting socket detached plain, fun failing => ?_⟩
    exact absurd detached (unheard failing).1
  detached := by
    intro pair detaches
    exact absurd detaches kept
  closed := by
    intro pair reason single _ _
    exact single

theorem single_fails_over : Staged failing Single
    (fun pair => pair.backendConnecting = true → Silent pair.trace) fun pair _ => Single pair where
  accepted := nofun
  moved := by
    intro pair after move single silent
    refine ⟨single_moved single move, fun connecting => ?_⟩
    have both : Unheard (pair.backendFd ≠ -1) failing pair :=
      fun attached => ⟨attached, fun connecting => ⟨silent connecting, id, id⟩⟩
    by_cases detached : after.backendFd = -1
    · exact (single_moved single move).detached detached
    · have attached : pair.backendFd ≠ -1 := by
        rw [← (pair_move_sockets move).backend]
        exact detached
      exact ((unheard_moved both move attached).2 connecting).1
  attached := by
    intro pair fd index connecting socket detached plain single _
    refine ⟨single.attached fd index connecting socket detached plain, fun _ => ?_⟩
    exact silent_snoc (single.detached detached) rfl
  detached := by
    intro pair _ trouble attached connecting single silent
    have heard := silent connecting
    refine ⟨⟨(exact_kept failing).detached attached connecting trouble single.exact, single.single,
      fun _ => heard, single.readClosed, single.writeClosed, single.empty⟩, nofun⟩
  closed := by
    intro pair reason single _ _
    exact single

namespace LoadBalancer

def isReceived : RecvResult → Bool
  | .received _ => true
  | _ => false

/-- The connect of the pair's backend does not fail once something was read from the
backend or its stream has ended, neither before this event nor in it. -/
def FailsUnheard (isBackendFd : Bool) (flags : EventMask) (answers : EventAnswers)
    (pair : ConnectionPair) : Prop :=
  isBackendFd = true → pair.backendConnecting = true → ConnectFails flags answers →
    Silent pair.trace ∧ ∀ recv ∈ answers.recvs ++ answers.drains, isReceived recv = false

instance (flags : EventMask) (answers : EventAnswers) : Decidable (ConnectFails flags answers) :=
  inferInstanceAs (Decidable (_ ∨ _))

instance (isBackendFd : Bool) (flags : EventMask) (answers : EventAnswers) :
    DecidablePred (FailsUnheard isBackendFd flags answers) := fun _ =>
  inferInstanceAs (Decidable (_ → _ → _ → _ ∧ _))

def NoFailureBehindBytes (lb : LoadBalancer) : Input → Prop
  | .event fd flags answers =>
      OnPair lb fd (FailsUnheard (lb.backendToClient.lookup fd).isSome flags answers)
  | _ => True

instance (lb : LoadBalancer) (input : Input) : Decidable (NoFailureBehindBytes lb input) :=
  match input with
  | .event _ _ _ => inferInstanceAs (Decidable (OnPair _ _ _))
  | .expire _ => isTrue trivial
  | .stop => isTrue trivial

theorem event_unheard {lb : LoadBalancer} (sound : Sound lb) {fd : Int} {flags : EventMask}
    {answers : EventAnswers} {pair : ConnectionPair}
    (found : lb.connections.lookup (lb.clientOf fd) = some pair)
    (condition : FailsUnheard (lb.backendToClient.lookup fd).isSome flags answers pair) :
    Unheard ((lb.backendToClient.lookup fd).isSome = true ∧ ConnectFails flags answers)
      (reading (lb.backendToClient.lookup fd).isSome flags answers
        (lb.budgetOf fd answers)) pair := by
  intro fails
  obtain ⟨backend, failing⟩ := fails
  refine ⟨(event_serves lb fd).attached sound.tables backend found, fun connecting => ?_⟩
  obtain ⟨silent, nothing⟩ := condition backend connecting failing
  have unheard : ∀ bytes, .received bytes ∈ answers.recvs ∨ .received bytes ∈ answers.drains →
      False := by
    intro bytes member
    have received := nothing (.received bytes) (List.mem_append.mpr member)
    cases received
  refine ⟨silent, fun data => ?_, fun ends => unheard [] ends.2⟩
  rcases data.2 with ⟨bytes, member, -⟩ | ⟨bytes, member, -⟩
  · exact unheard bytes (.inl member)
  · exact unheard bytes (.inr member)

/-- What the condition keeps between two steps. -/
structure Unmixed (lb : LoadBalancer) : Prop where
  sound : Sound lb
  opened : ∀ clientFd pair, lb.connections.lookup clientFd = some pair → Single pair
  closed : ∀ pair (reason : CloseReason), (pair, reason) ∈ lb.closed → Single pair

theorem step_unmixed (lb : LoadBalancer) (input : Input) (unmixed : Unmixed lb)
    (condition : NoFailureBehindBytes lb input) : Unmixed (lb.step input) := by
  have idle : Staged quiet Single (Unheard False quiet) fun pair _ => Single pair :=
    single_staged id fun _ => id
  have both := stepped_staged unmixed.sound.tables (idle.always fun _ _ => nofun) ?_
    (unmixed.sound.stepped input) unmixed.opened unmixed.closed
  · exact ⟨step_sound unmixed.sound input, both.1, both.2⟩
  · rintro fd flags answers rfl
    refine .intro
      (Unheard ((lb.backendToClient.lookup fd).isSome = true ∧ ConnectFails flags answers)
        (reading (lb.backendToClient.lookup fd).isSome flags answers
          (lb.budgetOf fd answers)))
      (Unheard ((lb.backendToClient.lookup fd).isSome = true ∧ ConnectFails flags answers)
        (settling (lb.backendToClient.lookup fd).isSome flags answers))
      (fun pair => pair.backendConnecting = true → Silent pair.trace)
      ?_ (single_staged id nofun) ?_ (single_staged id nofun) ?_ single_fails_over
    · intro pair found _
      exact event_unheard unmixed.sound found (condition pair found)
    · intro pair _ unheard fails
      obtain ⟨attached, silent⟩ := unheard fails
      exact ⟨attached, fun connecting => ⟨(silent connecting).1, id, id⟩⟩
    · intro backend fails pair _ _ _ unheard connecting
      exact ((unheard ⟨backend, fails⟩).2 connecting).1

/-- In a run in which no connect fails behind something that was read, every backend
socket is opened before anything was read from a backend or a backend socket was shut,
so that what the client was sent, and what waits for it, was read from the current
backend socket. A pair that was just given a backend socket, by a failover as by a
first connect, has an empty buffer for the client and neither flag set. -/
theorem response_comes_from_one_backend (routingMode : RoutingMode)
    (configured : List (Bytes × Nat)) (listenFd healthTimerFd : Int) (inputs : List Input)
    (throughout : Throughout step NoFailureBehindBytes
      (create routingMode configured listenFd healthTimerFd) inputs) :
    let lb := run step (create routingMode configured listenFd healthTimerFd) inputs
    (∀ clientFd pair, lb.connections.lookup clientFd = some pair →
      pair.metricsConnection = false →
      sentTo .client pair.trace ++ pair.backendToClient.unsent =
        readFrom .backend (current pair.trace) ∧
      ∀ before fd index, pair.trace = before ++ [.opened fd index] →
        pair.backendReadClosed = false ∧ pair.backendWriteClosed = false ∧
          pair.backendToClient.bytes = []) ∧
    (∀ pair, ((∃ clientFd, lb.connections.lookup clientFd = some pair) ∨
        ∃ reason, (pair, reason) ∈ lb.closed) →
      Preceded (fun wire => wire.opens = true) Silent pair.trace) := by
  intro lb
  have start : Unmixed (create routingMode configured listenFd healthTimerFd) := by
    refine ⟨create_sound routingMode configured listenFd healthTimerFd, ?_, ?_⟩
    · intro clientFd pair found
      cases found
    · intro pair reason member
      cases member
  have unmixed := run_invariant_throughout step step_unmixed start inputs throughout
  constructor
  · intro clientFd pair found plain
    have single := unmixed.opened clientFd pair found
    constructor
    · rw [← read_from_current single.single]
      exact (single.exact.relays plain).toClient.exact
    · intro before fd index last
      have nothing : current pair.trace = [] := by
        rw [last, current_opened]
      have silent : Silent pair.trace := by
        rw [last]
        exact silent_snoc (single.single before (.opened fd index) [] last rfl) rfl
      refine ⟨?_, ?_, single.empty silent plain⟩
      · rw [Bool.eq_false_iff]
        intro closed
        have ended := single.readClosed closed
        rw [nothing] at ended
        cases ended
      · rw [Bool.eq_false_iff]
        intro closed
        have shut := single.writeClosed closed
        rw [nothing] at shut
        cases shut
  · intro pair known
    rcases known with ⟨clientFd, found⟩ | ⟨reason, member⟩
    · exact (unmixed.opened clientFd pair found).single
    · exact (unmixed.closed pair reason member).single

def twoBackends : LoadBalancer :=
  create .roundRobin [(ascii "127.0.0.1", 8081), (ascii "127.0.0.1", 8082)] 3 4

/-- A client sends a request; its first backend is being connected. -/
def dialledExchange : List Input :=
  [.event 3 { input := true } { accepts := [.client 5 (ascii "127.0.0.1") true] },
    .event 5 { input := true }
      { peek := .received (ascii "hi"), dials := [{ sockets := [.inProgress 6] }]
        recvs := [.received (ascii "hi")] }]

/-- The connect of the first backend fails and the second one answers. -/
def failoverExchange (first : EventAnswers) : List Input :=
  dialledExchange ++ [.event 6 { input := true, output := true } first,
    .event 7 { input := true, output := true }
      { recvs := [.received (ascii "cd")], backendSends := [.sent 2], clientSends := [.sent 8] }]

def refusedAnswers : EventAnswers :=
  { socketError := true, dials := [{ sockets := [.inProgress 7] }] }

theorem refused_exchange_comes_from_one_backend :
    let lb := run step twoBackends (failoverExchange refusedAnswers)
    (∀ clientFd pair, lb.connections.lookup clientFd = some pair →
      pair.metricsConnection = false →
      sentTo .client pair.trace ++ pair.backendToClient.unsent =
        readFrom .backend (current pair.trace) ∧
      ∀ before fd index, pair.trace = before ++ [.opened fd index] →
        pair.backendReadClosed = false ∧ pair.backendWriteClosed = false ∧
          pair.backendToClient.bytes = []) ∧
    (∀ pair, ((∃ clientFd, lb.connections.lookup clientFd = some pair) ∨
        ∃ reason, (pair, reason) ∈ lb.closed) →
      Preceded (fun wire => wire.opens = true) Silent pair.trace) :=
  response_comes_from_one_backend .roundRobin
    [(ascii "127.0.0.1", 8081), (ascii "127.0.0.1", 8082)] 3 4
    (failoverExchange refusedAnswers) (by decide)

/-- A backend that sends bytes before its connect is found to have failed leaves them
in the buffer of the pair: the client gets the bytes of both backends. -/
theorem failover_behind_bytes_mixes_backends :
    (∃ pair, (run step twoBackends (dialledExchange ++ [.event 6 { input := true, output := true }
        { refusedAnswers with recvs := [.received (ascii "ab")] }])).connections.lookup 5 =
          some pair ∧ pair.metricsConnection = false ∧
        pair.trace.getLast? = some (.opened 7 1) ∧ pair.backendToClient.bytes = ascii "ab") ∧
    ∃ pair, (run step twoBackends (failoverExchange
        { refusedAnswers with recvs := [.received (ascii "ab")] })).connections.lookup 5 =
          some pair ∧ pair.metricsConnection = false ∧
        sentTo .client pair.trace = ascii "abcd" ∧
        readFrom .backend (current pair.trace) = ascii "cd" := by
  refine ⟨⟨_, rfl, ?_⟩, ⟨_, rfl, ?_⟩⟩
  · decide
  · decide

end LoadBalancer

end Aorta.Lb
