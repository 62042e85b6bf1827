import Aorta.Lb.RelayExactness

/-!
# Which closes truncate a response

A pair whose backend has ended its stream is closed with bytes left for the client
only if something goes wrong on the backend socket while they wait: an error, a
hang-up with nothing to read, a failed `recv` or `send`, or a failed connect.
-/

namespace Aorta.Lb

open Relation Aorta.Library.Ascii Aorta.Library.Run Aorta.Net

set_option autoImplicit false

/-- A pair that was closed after the end of its backend's stream had nothing left for
the client, unless the client failed or a buffer overflowed. -/
def Whole (pair : ConnectionPair) (reason : CloseReason) : Prop :=
  .ended .backend ∈ pair.trace → reason ≠ .clientFailed → reason ≠ .overflow →
    pair.backendToClient.unsent = []

/-- What holds of every open pair. -/
structure Clean (pair : ConnectionPair) : Prop where
  exact : Exact pair
  ended : .ended .backend ∈ pair.trace → pair.backendReadClosed = true
  written : pair.clientWriteClosed = true →
    pair.backendToClient.unsent = [] ∧ pair.backendReadClosed = true
  detached : pair.backendFd = -1 → pair.backendReadClosed = false

/-- What holds of the pair of an event, given what can happen in it. -/
structure Waits (may : May) (pair : ConnectionPair) : Prop where
  trouble : may.trouble → pair.backendReadClosed = false ∧ ¬ may.ends ∨
    pair.backendToClient.unsent = [] ∧ ¬ may.data ∧ pair.backendConnecting = false ∧
      pair.backendFd ≠ -1
  hangup : may.hangup → pair.clientWriteClosed = true
  data : may.data → pair.clientWriteClosed = false

theorem RelayBuffer.clear_sent_unsent (buffer : RelayBuffer) :
    buffer.clearSent.unsent = buffer.unsent := by
  unfold RelayBuffer.clearSent
  split_ifs with all
  · rw [RelayBuffer.unsent, RelayBuffer.unsent, all, List.drop_length]
    rfl
  · rfl

theorem RelayBuffer.advance_unsent (buffer : RelayBuffer) (count : Nat) :
    (buffer.advance count).unsent = buffer.unsent.drop count := by
  simp only [RelayBuffer.unsent, RelayBuffer.advance, List.drop_drop]

theorem Clean.metrics {pair : ConnectionPair} (clean : Clean pair)
    (metrics : pair.metricsConnection = true) :
    pair.backendFd = -1 ∧ pair.backendReadClosed = false :=
  clean.exact.opened (clean.exact.metrics metrics)

section Moves

variable {may : May} {pair after : ConnectionPair}

theorem Clean.ended_earlier (clean : Clean pair) (wire : Wire)
    (trace : after.trace = pair.trace ++ [wire]) (other : wire ≠ .ended .backend)
    (ended : .ended .backend ∈ after.trace) : pair.backendReadClosed = true := by
  apply clean.ended
  rw [trace] at ended
  rcases List.mem_append.mp ended with earlier | last
  · exact earlier
  · exact absurd (List.mem_singleton.mp last).symm other

theorem waits_moved (clean : Clean pair) (apart : may.writes → ¬ may.data)
    (waits : Waits may pair) (move : PairMove may pair after) : Waits may after := by
  cases move with
  | read side bytes fits within client backend =>
      cases side with
      | client => exact ⟨waits.trouble, waits.hangup, waits.data⟩
      | backend =>
          refine ⟨fun trouble => ?_, waits.hangup, waits.data⟩
          rcases waits.trouble trouble with quiet | ⟨-, noData, -⟩
          · exact .inl quiet
          · exact absurd (backend rfl).1 noData
  | ended side backend =>
      cases side with
      | client => exact ⟨waits.trouble, waits.hangup, waits.data⟩
      | backend =>
          refine ⟨fun trouble => ?_, waits.hangup, waits.data⟩
          rcases waits.trouble trouble with ⟨-, noEnd⟩ | sent
          · exact absurd (backend rfl).1 noEnd
          · exact .inr sent
  | sent writes side count within backend =>
      cases side with
      | client =>
          refine ⟨fun trouble => ?_, waits.hangup, waits.data⟩
          rcases waits.trouble trouble with quiet | ⟨nothing, rest⟩
          · exact .inl quiet
          · refine .inr ⟨?_, rest⟩
            have advanced := RelayBuffer.advance_unsent pair.backendToClient count
            rw [nothing, List.drop_nil] at advanced
            exact advanced
      | backend => exact ⟨waits.trouble, waits.hangup, waits.data⟩
  | clear =>
      refine ⟨fun trouble => ?_, waits.hangup, waits.data⟩
      rcases waits.trouble trouble with quiet | ⟨nothing, rest⟩
      · exact .inl quiet
      · exact .inr ⟨(RelayBuffer.clear_sent_unsent _).trans nothing, rest⟩
  | shutBackend writes ended once nothing attached connected =>
      exact ⟨waits.trouble, waits.hangup, waits.data⟩
  | shutClient writes ended once nothing =>
      exact ⟨waits.trouble, fun _ => rfl, fun data => absurd data (apart writes)⟩
  | connected =>
      refine ⟨fun trouble => ?_, waits.hangup, waits.data⟩
      rcases waits.trouble trouble with quiet | ⟨nothing, noData, -, attached⟩
      · exact .inl quiet
      · exact .inr ⟨nothing, noData, rfl, attached⟩
  | watched client backend => exact ⟨waits.trouble, waits.hangup, waits.data⟩
  | redialled detached index connecting events =>
      refine ⟨fun trouble => ?_, waits.hangup, waits.data⟩
      rcases waits.trouble trouble with quiet | ⟨-, -, -, attached⟩
      · exact .inl quiet
      · exact absurd detached attached
  | admitted detached unopened => exact ⟨waits.trouble, waits.hangup, waits.data⟩
  | answered metrics response request events within =>
      refine ⟨fun trouble => ?_, waits.hangup, waits.data⟩
      rcases waits.trouble trouble with quiet | ⟨-, -, -, attached⟩
      · exact .inl quiet
      · exact absurd (clean.metrics metrics).1 attached

theorem clean_moved (clean : Clean pair) (waits : Waits may pair)
    (move : PairMove may pair after) : Clean after := by
  have exact := exact_moved move clean.exact
  cases move with
  | read side bytes fits within client backend =>
      cases side with
      | client =>
          exact ⟨exact, clean.ended_earlier (.read .client bytes) rfl nofun, clean.written,
            clean.detached⟩
      | backend =>
          refine ⟨exact, clean.ended_earlier (.read .backend bytes) rfl nofun, fun written => ?_,
            clean.detached⟩
          have closed : pair.clientWriteClosed = true := written
          rw [waits.data (backend rfl).1] at closed
          cases closed
  | ended side backend =>
      cases side with
      | client =>
          exact ⟨exact, clean.ended_earlier (.ended .client) rfl nofun, clean.written,
            clean.detached⟩
      | backend =>
          refine ⟨exact, fun _ => rfl, fun written => ⟨(clean.written written).1, rfl⟩, ?_⟩
          exact fun detached => absurd detached (backend rfl).2
  | sent writes side count within backend =>
      cases side with
      | client =>
          refine ⟨exact, clean.ended_earlier (.sent .client _) rfl nofun, fun written => ?_,
            clean.detached⟩
          obtain ⟨nothing, closed⟩ := clean.written written
          have advanced := RelayBuffer.advance_unsent pair.backendToClient count
          rw [nothing, List.drop_nil] at advanced
          exact ⟨advanced, closed⟩
      | backend =>
          exact ⟨exact, clean.ended_earlier (.sent .backend _) rfl nofun, clean.written,
            clean.detached⟩
  | clear =>
      refine ⟨exact, clean.ended, fun written => ?_, clean.detached⟩
      obtain ⟨nothing, closed⟩ := clean.written written
      exact ⟨(RelayBuffer.clear_sent_unsent _).trans nothing, closed⟩
  | shutBackend writes ended once nothing attached connected =>
      exact ⟨exact, clean.ended_earlier (.shutdown .backend) rfl nofun, clean.written,
        clean.detached⟩
  | shutClient writes ended once nothing =>
      exact ⟨exact, clean.ended_earlier (.shutdown .client) rfl nofun,
        fun _ => ⟨nothing, ended⟩, clean.detached⟩
  | connected => exact ⟨exact, clean.ended, clean.written, clean.detached⟩
  | watched client backend => exact ⟨exact, clean.ended, clean.written, clean.detached⟩
  | redialled detached index connecting events =>
      exact ⟨exact, clean.ended, clean.written, clean.detached⟩
  | admitted detached unopened => exact ⟨exact, clean.ended, clean.written, clean.detached⟩
  | answered metrics response request events within =>
      refine ⟨exact, clean.ended_earlier (.read .client request) rfl nofun, fun written => ?_,
        clean.detached⟩
      have closed := (clean.written written).2
      rw [(clean.metrics metrics).2] at closed
      cases closed

end Moves

theorem clean_staged {may : May} (apart : may.writes → ¬ may.data)
    (idle : may.accepts → ¬ may.trouble ∧ ¬ may.hangup ∧ ¬ may.data) :
    Staged may Clean (Waits may) Whole where
  accepted := by
    intro accepts fd clientIp
    obtain ⟨noTrouble, noHangup, noData⟩ := idle accepts
    refine ⟨⟨(exact_kept may).accepted fd clientIp, nofun, nofun, fun _ => rfl⟩, ?_⟩
    exact ⟨fun trouble => absurd trouble noTrouble, fun hangup => absurd hangup noHangup,
      fun _ => rfl⟩
  moved := by
    intro pair after move clean waits
    exact ⟨clean_moved clean waits move, waits_moved clean apart waits move⟩
  attached := by
    intro pair fd index connecting socket detached plain clean waits
    constructor
    · exact ⟨clean.exact.attached fd index connecting detached plain,
        clean.ended_earlier (.opened fd index) rfl nofun, clean.written,
        fun gone => absurd gone socket⟩
    · refine ⟨fun trouble => ?_, waits.hangup, waits.data⟩
      rcases waits.trouble trouble with quiet | ⟨-, -, -, attached⟩
      · exact .inl quiet
      · exact absurd detached attached
  detached := by
    intro pair _ trouble attached connecting clean waits
    have quiet : pair.backendReadClosed = false ∧ ¬ may.ends := by
      rcases waits.trouble trouble with quiet | ⟨-, -, connected, -⟩
      · exact quiet
      · rw [connecting] at connected
        cases connected
    constructor
    · exact ⟨(exact_kept may).detached attached connecting trouble clean.exact, clean.ended,
        clean.written, fun _ => quiet.1⟩
    · exact ⟨fun _ => .inl quiet, waits.hangup, waits.data⟩
  closed := by
    intro pair reason clean waits justified ended notClient notOverflow
    have closed := clean.ended ended
    have attached : pair.backendFd ≠ -1 := by
      intro detached
      rw [clean.detached detached] at closed
      cases closed
    have sent : may.trouble → pair.backendToClient.unsent = [] := by
      intro trouble
      rcases waits.trouble trouble with ⟨open_, -⟩ | ⟨nothing, -⟩
      · rw [open_] at closed
        cases closed
      · exact nothing
    cases reason with
    | clientFailed => exact absurd rfl notClient
    | overflow => exact absurd rfl notOverflow
    | clientHangup => exact (clean.written (waits.hangup justified)).1
    | backendFailed => exact sent justified
    | backendHangup => exact sent justified
    | noBackend => exact absurd justified attached
    | noRequest => exact absurd justified attached
    | metrics => exact absurd (clean.metrics justified).1 attached
    | finished => exact justified

namespace LoadBalancer

/-- What the kernel reports of the sockets of a pair: `EPOLLIN` only while it is asked
for, `EPOLLHUP` of a connected socket without an error only once both directions are
shut, and no bytes behind the end of a stream. -/
structure KernelReports (isBackendFd : Bool) (flags : EventMask) (answers : EventAnswers)
    (pair : ConnectionPair) : Prop where
  clientInput : isBackendFd = false → flags.input = true → pair.currentClientEvents.input = true
  backendInput : isBackendFd = true → flags.input = true → pair.currentBackendEvents.input = true
  clientHangup : isBackendFd = false → flags.hangup = true → flags.error = false →
    pair.clientWriteClosed = true
  backendHangup : isBackendFd = true → flags.hangup = true → flags.error = false →
    pair.backendConnecting = false → pair.backendWriteClosed = true
  noMore : isBackendFd = true → GivesData answers.recvs ∨ GivesData answers.drains →
    pair.backendReadClosed = false

instance (isBackendFd : Bool) (flags : EventMask) (answers : EventAnswers) :
    DecidablePred (KernelReports isBackendFd flags answers) := fun pair =>
  decidable_of_iff
    ((isBackendFd = false → flags.input = true → pair.currentClientEvents.input = true) ∧
      (isBackendFd = true → flags.input = true → pair.currentBackendEvents.input = true) ∧
      (isBackendFd = false → flags.hangup = true → flags.error = false →
        pair.clientWriteClosed = true) ∧
      (isBackendFd = true → flags.hangup = true → flags.error = false →
        pair.backendConnecting = false → pair.backendWriteClosed = true) ∧
      (isBackendFd = true → GivesData answers.recvs ∨ GivesData answers.drains →
        pair.backendReadClosed = false))
    ⟨fun all => ⟨all.1, all.2.1, all.2.2.1, all.2.2.2.1, all.2.2.2.2⟩,
      fun all => ⟨all.1, all.2, all.3, all.4, all.5⟩⟩

def Kernel (lb : LoadBalancer) : Input → Prop
  | .event fd flags answers =>
      OnPair lb fd (KernelReports (lb.backendToClient.lookup fd).isSome flags answers)
  | _ => True

/-- Nothing goes wrong on the backend socket of a pair whose backend ends or has ended
its stream, while bytes wait for the client, more arrive, or the connect is not
settled. -/
def EndsQuietly (isBackendFd : Bool) (flags : EventMask) (answers : EventAnswers)
    (pair : ConnectionPair) : Prop :=
  pair.backendReadClosed = true ∨ isBackendFd = true ∧
      (.received [] ∈ answers.recvs ∨ .received [] ∈ answers.drains) →
    pair.backendToClient.unsent ≠ [] ∨ pair.backendConnecting = true ∨ isBackendFd = true ∧
      (GivesData answers.recvs ∨ GivesData answers.drains) →
    ¬ BackendTrouble isBackendFd flags answers

instance (isBackendFd : Bool) (flags : EventMask) (answers : EventAnswers) :
    DecidablePred (EndsQuietly isBackendFd flags answers) := fun _ =>
  inferInstanceAs (Decidable (_ → _ → ¬ _))

def NoTroubleBehindEnd (lb : LoadBalancer) : Input → Prop
  | .event fd flags answers =>
      OnPair lb fd (EndsQuietly (lb.backendToClient.lookup fd).isSome flags answers)
  | _ => True

instance (lb : LoadBalancer) (input : Input) : Decidable (Kernel lb input) :=
  match input with
  | .event _ _ _ => inferInstanceAs (Decidable (OnPair _ _ _))
  | .expire _ => isTrue trivial
  | .stop => isTrue trivial

instance (lb : LoadBalancer) (input : Input) : Decidable (NoTroubleBehindEnd lb input) :=
  match input with
  | .event _ _ _ => inferInstanceAs (Decidable (OnPair _ _ _))
  | .expire _ => isTrue trivial
  | .stop => isTrue trivial

theorem event_waits {lb : LoadBalancer} (sound : Sound lb) {fd : Int} {flags : EventMask}
    {answers : EventAnswers} {pair : ConnectionPair}
    (found : lb.connections.lookup (lb.clientOf fd) = some pair) (clean : Clean pair)
    (kernel : KernelReports (lb.backendToClient.lookup fd).isSome flags answers pair)
    (quiet : EndsQuietly (lb.backendToClient.lookup fd).isSome flags answers pair) :
    Waits (reading (lb.backendToClient.lookup fd).isSome flags answers
      (lb.budgetOf fd answers)) pair := by
  have serves := event_serves lb fd
  generalize (lb.backendToClient.lookup fd).isSome = isBackendFd at *
  constructor
  · intro trouble
    by_cases ends :
        pair.backendReadClosed = true ∨ (reading isBackendFd flags answers fun _ => 0).ends
    · right
      have settled := fun waiting => quiet ends waiting trouble
      have attached : pair.backendFd ≠ -1 := by
        intro detached
        rcases ends with closed | ⟨backend, -⟩
        · rw [clean.detached detached] at closed
          cases closed
        · exact serves.attached sound.tables backend found detached
      refine ⟨?_, fun data => settled (.inr (.inr data)), ?_, attached⟩
      · by_contra waiting
        exact settled (.inl waiting)
      · rw [Bool.eq_false_iff]
        exact fun connecting => settled (.inr (.inl connecting))
    · left
      rw [not_or] at ends
      exact ⟨Bool.eq_false_iff.mpr ends.1, ends.2⟩
  · intro hangup
    exact kernel.clientHangup hangup.1 hangup.2.2.1 hangup.2.1
  · intro data
    rw [Bool.eq_false_iff]
    intro written
    have closed := (clean.written written).2
    rw [kernel.noMore data.1 data.2] at closed
    cases closed

/-- What the condition keeps between two steps. -/
structure Tidy (lb : LoadBalancer) : Prop where
  sound : Sound lb
  opened : ∀ clientFd pair, lb.connections.lookup clientFd = some pair → Clean pair
  closed : ∀ pair reason, (pair, reason) ∈ lb.closed → Whole pair reason

theorem step_tidy (lb : LoadBalancer) (input : Input) (tidy : Tidy lb)
    (condition : Kernel lb input ∧ NoTroubleBehindEnd lb input) : Tidy (lb.step input) := by
  have idle : Staged quiet Clean (Waits quiet) Whole :=
    clean_staged nofun fun _ => ⟨id, id, id⟩
  have both := stepped_staged tidy.sound.tables (idle.always fun _ _ => ⟨nofun, nofun, nofun⟩) ?_
    (tidy.sound.stepped input) tidy.opened tidy.closed
  · exact ⟨step_sound tidy.sound input, both.1, both.2⟩
  · rintro fd flags answers rfl
    refine .intro (Waits (reading (lb.backendToClient.lookup fd).isSome flags answers
        (lb.budgetOf fd answers)))
      (Waits (settling (lb.backendToClient.lookup fd).isSome flags answers)) (Waits failing)
      ?_ (clean_staged nofun nofun) ?_ (clean_staged (fun _ => id) nofun) ?_
      (clean_staged nofun nofun)
    · intro pair found clean
      exact event_waits tidy.sound found clean (condition.1 pair found) (condition.2 pair found)
    · intro pair _ waits
      refine ⟨fun trouble => ?_, nofun, nofun⟩
      rcases waits.trouble trouble with ⟨open_, -⟩ | ⟨nothing, -, rest⟩
      · exact .inl ⟨open_, id⟩
      · exact .inr ⟨nothing, id, rest⟩
    · intro backend fails pair _ _ _ waits
      refine ⟨fun _ => waits.trouble (.inl ⟨backend, ?_⟩), nofun, nofun⟩
      rcases fails with error | hangup | ⟨-, socketError⟩
      · exact .inl error
      · exact .inr (.inl hangup)
      · exact .inr (.inr (.inr (.inr socketError)))

/-- A run in which nothing goes wrong on a backend socket behind the end of its stream
closes a pair whose backend has ended only with nothing left for the client, unless
the client fails or a buffer overflows. -/
theorem ended_response_is_not_truncated (routingMode : RoutingMode)
    (configured : List (Bytes × Nat)) (listenFd healthTimerFd : Int) (inputs : List Input)
    (throughout : Throughout step (fun lb input => Kernel lb input ∧ NoTroubleBehindEnd lb input)
      (create routingMode configured listenFd healthTimerFd) inputs) :
    ∀ pair reason, (pair, reason) ∈
      (run step (create routingMode configured listenFd healthTimerFd) inputs).closed →
      .ended .backend ∈ pair.trace → reason ≠ .clientFailed → reason ≠ .overflow →
      pair.backendToClient.unsent = [] := by
  have start : Tidy (create routingMode configured listenFd healthTimerFd) := by
    refine ⟨create_sound routingMode configured listenFd healthTimerFd, ?_, ?_⟩
    · intro clientFd pair found
      cases found
    · intro pair reason member
      cases member
  exact (run_invariant_throughout step step_tidy start inputs throughout).closed

def oneBackend : LoadBalancer := create .roundRobin [(ascii "127.0.0.1", 8081)] 3 4

/-- A client sends its request and half-closes; the half-close is passed on, and the
backend answers and ends its stream. -/
def halfClosedExchange (clientSends : List SendResult) : List Input :=
  [.event 3 { input := true } { accepts := [.client 5 (ascii "127.0.0.1") true] },
    .event 5 { input := true }
      { peek := .received (ascii "hi"), dials := [{ sockets := [.connected 6] }]
        recvs := [.received (ascii "hi")], backendSends := [.sent 2] },
    .event 5 { input := true, readHangup := true }
      { recvs := [.received []], drains := [.received []] },
    .event 6 { input := true, readHangup := true, hangup := true }
      { recvs := [.received (ascii "ok")], drains := [.received []], clientSends := clientSends }]

theorem half_closed_exchange_is_not_truncated :
    let lb := run step oneBackend (halfClosedExchange [.sent 2])
    (∃ entry ∈ lb.closed, .ended .backend ∈ entry.1.trace ∧ entry.2 = .finished) ∧
      ∀ pair reason, (pair, reason) ∈ lb.closed →
        .ended .backend ∈ pair.trace → reason ≠ .clientFailed → reason ≠ .overflow →
        pair.backendToClient.unsent = [] :=
  ⟨by decide, ended_response_is_not_truncated .roundRobin [(ascii "127.0.0.1", 8081)] 3 4
    (halfClosedExchange [.sent 2]) (by decide)⟩

/-- A client that is slow to take the answer loses it: both directions of the backend
socket are shut by then, `EPOLLIN` is no longer asked for, and the hang-up that is
left closes the pair. -/
theorem slow_half_closed_client_is_truncated :
    let inputs := halfClosedExchange [.wouldBlock] ++
      [.event 6 { readHangup := true, hangup := true } {}]
    Throughout step Kernel oneBackend inputs ∧
      ∃ entry ∈ (run step oneBackend inputs).closed, entry.2 = .backendHangup ∧
        .ended .backend ∈ entry.1.trace ∧ entry.1.backendToClient.unsent = ascii "ok" := by
  decide

end LoadBalancer

end Aorta.Lb
