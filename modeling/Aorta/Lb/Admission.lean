import Aorta.Lb.ClientProgress
import Aorta.Lb.FailoverChain

/-!
# Which clients are answered locally

The load balancer peeks at what a new client has sent until that tells a request for
the metrics from any other. The decision is taken once for each connection: it hangs on
the client's bytes alone, not on the pieces in which they arrive.
-/

namespace Aorta.Lb

open Relation Aorta.Library.Ascii Aorta.Library.FiniteMap Aorta.Library.Run Aorta.Net

set_option autoImplicit false

namespace LoadBalancer

/-- A property that nothing which happens to an open pair takes from it. -/
structure Stays (property : ConnectionPair → Prop) : Prop where
  moved : ∀ {may pair after}, PairMove may pair after → property pair → property after
  attached : ∀ {pair} fd index connecting, pair.metricsConnection = false → property pair →
    property (attachedPair pair fd index connecting)
  detached : ∀ {pair}, property pair → property (resetBackend pair)

/-- The property of the pair of a client, while it is open and when it was closed; the
pairs of `known` were closed before. -/
structure Always (fd : Int) (known : List (ConnectionPair × CloseReason))
    (property : ConnectionPair → Prop) (lb : LoadBalancer) : Prop where
  opened : ∀ pair, lb.connections.lookup fd = some pair → property pair
  closed : ∃ more, lb.closed = known ++ more ∧
    ∀ entry ∈ more, entry.1.clientFd = fd → property entry.1

section Stays

variable {property : ConnectionPair → Prop} {may : May} {clientFd fd : Int}
  {known : List (ConnectionPair × CloseReason)} {lb after : LoadBalancer}

theorem Always.begin (same : lb.closed = known)
    (opened : ∀ pair, lb.connections.lookup fd = some pair → property pair) :
    Always fd known property lb :=
  ⟨opened, [], same.trans (List.append_nil _).symm, fun _ member => absurd member List.not_mem_nil⟩

theorem Always.same (always : Always fd known property lb)
    (connections : after.connections = lb.connections) (closed : after.closed = lb.closed) :
    Always fd known property after := by
  constructor
  · rw [connections]
    exact always.opened
  · rw [closed]
    exact always.closed

theorem Always.insert (always : Always fd known property lb) {pair : ConnectionPair}
    (connections : after.connections = lb.connections.insert clientFd pair)
    (closed : after.closed = lb.closed) (holds : clientFd = fd → property pair) :
    Always fd known property after := by
  constructor
  · intro stored found
    rw [connections] at found
    by_cases same : clientFd = fd
    · subst same
      rw [AList.lookup_insert] at found
      cases found
      exact holds rfl
    · rw [AList.lookup_insert_ne (Ne.symm same)] at found
      exact always.opened stored found
  · rw [closed]
    exact always.closed

theorem Always.close (always : Always fd known property lb) {pair : ConnectionPair}
    (reason : CloseReason) (found : lb.connections.lookup clientFd = some pair)
    (holds : pair.clientFd = fd → property pair) :
    Always fd known property (lb.closeConnection clientFd reason) := by
  rcases lb.close_connection_cases reason found with same | ⟨connections, closed⟩
  · rw [same]
    exact always
  · constructor
    · intro stored isStored
      rw [connections] at isStored
      by_cases same : fd = clientFd
      · subst same
        simp at isStored
      · rw [AList.lookup_erase_ne same] at isStored
        exact always.opened stored isStored
    · obtain ⟨more, split, all⟩ := always.closed
      refine ⟨more ++ [(pair, reason)], by rw [closed, split, List.append_assoc], ?_⟩
      intro entry member
      rcases List.mem_append.mp member with earlier | now
      · exact all entry earlier
      · rw [List.mem_singleton.mp now]
        exact holds

theorem move_always (stays : Stays property) (tables : Tables lb) (alone : ¬ may.accepts)
    (move : Move may clientFd lb after) (always : Always fd known property lb) :
    Always fd known property after := by
  have own : ∀ {pair}, lb.connections.lookup clientFd = some pair → clientFd = fd →
      property pair := by
    rintro pair found rfl
    exact always.opened pair found
  cases move with
  | counted after connections backends closed counts watch =>
      exact always.same connections closed
  | dialled dials pair index found detached plain => exact always.same rfl rfl
  | accepted accepts other clientIp free => exact absurd accepts alone
  | touched pair new found moves =>
      refine always.insert rfl rfl fun same => ?_
      have holds := own found same
      induction moves with
      | refl => exact holds
      | tail _ move ih => exact stays.moved move ih
  | attached pair other index connecting found detached plain free =>
      exact always.insert rfl rfl fun same =>
        stays.attached other index connecting plain (own found same)
  | detached pair found attached connecting detaches trouble =>
      unfold dropFailedBackend
      rw [if_pos attached]
      exact always.insert rfl rfl fun same => stays.detached (own found same)
  | closed pair reason found justified =>
      apply always.close reason found
      intro same
      exact own found ((tables.wiring.keyed clientFd pair found).symm.trans same)

theorem moves_always (stays : Stays property) (tables : Tables lb) (alone : ¬ may.accepts)
    (moves : Moves may clientFd lb after) (always : Always fd known property lb) :
    Always fd known property after := by
  induction moves with
  | refl => exact always
  | tail earlier move ih => exact move_always stays (moves_tables tables earlier) alone move ih

theorem handle_accept_keeps (accepts : List AcceptAnswer) (lb : LoadBalancer)
    {pair : ConnectionPair} (found : lb.connections.lookup fd = some pair) :
    (lb.handleAccept accepts).connections.lookup fd = some pair := by
  rcases handle_accept_cases accepts lb fd with ⟨kept, -⟩ | ⟨free, -⟩
  · exact kept.trans found
  · rw [found] at free
    cases free

theorem handle_accept_closed (accepts : List AcceptAnswer) (lb : LoadBalancer) :
    (lb.handleAccept accepts).closed = lb.closed := by
  induction accepts generalizing lb with
  | nil => rfl
  | cons answer accepts ih =>
      cases answer with
      | interrupted => exact ih lb
      | client accepted clientIp added =>
          unfold handleAccept
          split_ifs
          · exact ih lb
          · exact ih lb
          · exact ih lb
          · exact ih (lb.acceptClient accepted clientIp)

theorem step_always (stays : Stays property) (sound : Sound lb) (input : Input)
    (isOpen : fd ∈ lb.connections) (always : Always fd known property lb) :
    Always fd known property (lb.step input) := by
  cases input with
  | expire expired => exact always.same rfl rfl
  | stop =>
      refine ⟨?_, always.closed⟩
      intro pair found
      cases found
  | event other flags answers =>
      simp only [step, handleEvent]
      split_ifs
      · obtain ⟨pair, found⟩ := Option.isSome_iff_exists.mp (AList.lookup_isSome.mpr isOpen)
        constructor
        · intro stored isStored
          rw [handle_accept_keeps answers.accepts lb found] at isStored
          cases isStored
          exact always.opened pair found
        · rw [handle_accept_closed]
          exact always.closed
      · exact always.same rfl rfl
      · exact always.same rfl rfl
      · obtain ⟨between, last, reads, settles, ends⟩ :=
          handle_pair_event_moves sound.tables sound.unopened other flags answers
        have read := moves_tables sound.tables reads
        have settled := moves_tables read settles
        exact moves_always stays settled id (fails_over_moves settled ends)
          (moves_always stays read id settles (moves_always stays sound.tables id reads always))

/-- The connection of a client is open before each of the inputs. -/
def Lasts (fd : Int) (lb : LoadBalancer) (inputs : List Input) : Prop :=
  Throughout step (fun lb _ => fd ∈ lb.connections) lb inputs

theorem run_always (stays : Stays property) (sound : Sound lb) (inputs : List Input)
    (lasts : Lasts fd lb inputs) (always : Always fd known property lb) :
    Always fd known property (run step lb inputs) := by
  induction inputs generalizing lb with
  | nil => exact always
  | cons input inputs ih =>
      exact ih (step_sound sound input) lasts.2 (step_always stays sound input lasts.1 always)

end Stays

/-- The pair serves the metrics and never had a backend socket. -/
structure Local (pair : ConnectionPair) : Prop where
  metrics : pair.metricsConnection = true
  detached : pair.backendFd = -1
  unopened : pair.Unopened

theorem local_stay : Stays Local where
  moved := by
    intro may pair after move isLocal
    have moves : ReflTransGen (PairMove may) pair after := .single move
    have metrics : after.metricsConnection = true := by
      have metrics := isLocal.metrics
      cases move with
      | read side bytes fits within client backend => cases side <;> exact metrics
      | ended side backend => cases side <;> exact metrics
      | sent writes side count within backend => cases side <;> exact metrics
      | admitted detached unopened => rfl
      | clear => exact metrics
      | shutBackend writes ended once nothing attached connected => exact metrics
      | shutClient writes ended once nothing => exact metrics
      | connected => exact metrics
      | watched client backend => exact metrics
      | redialled detached index connecting events => exact metrics
      | answered isMetrics response request events within => exact metrics
    exact ⟨metrics, (pair_moves_sockets moves).backend.trans isLocal.detached,
      pair_moves_unopened moves isLocal.unopened⟩
  attached _ _ _ plain isLocal := absurd isLocal.metrics (Bool.eq_false_iff.mp plain)
  detached isLocal := ⟨isLocal.metrics, rfl, isLocal.unopened⟩

theorem dialled_stay : Stays fun pair => pair.metricsConnection = false ∧ ¬ pair.Unopened where
  moved := by
    intro may pair after move holds
    have plain : pair.metricsConnection = false := holds.1
    have opened : ¬ pair.Unopened := holds.2
    have recorded : ∀ wires, ¬ (pair.record wires).Unopened := fun wires never =>
      opened (unopened_of_record never)
    cases move with
    | read side bytes fits within client backend =>
        cases side <;> exact ⟨plain, recorded _⟩
    | ended side backend => cases side <;> exact ⟨plain, recorded _⟩
    | sent writes side count within backend => cases side <;> exact ⟨plain, recorded _⟩
    | admitted detached unopened => exact absurd unopened opened
    | clear => exact holds
    | shutBackend writes ended once nothing attached connected => exact ⟨plain, recorded _⟩
    | shutClient writes ended once nothing => exact ⟨plain, recorded _⟩
    | connected => exact holds
    | watched client backend => exact holds
    | redialled detached index connecting events => exact holds
    | answered isMetrics response request events within =>
        exact absurd isMetrics (Bool.eq_false_iff.mp plain)
  attached _ _ _ _ holds := ⟨holds.1, fun never => holds.2 (unopened_of_record never)⟩
  detached holds := holds

theorem Always.mono {property weaker : ConnectionPair → Prop} {fd : Int}
    {known : List (ConnectionPair × CloseReason)} {lb : LoadBalancer}
    (always : Always fd known property lb) (implies : ∀ pair, property pair → weaker pair) :
    Always fd known weaker lb := by
  obtain ⟨more, split, all⟩ := always.closed
  exact ⟨fun pair found => implies pair (always.opened pair found), more, split,
    fun entry member same => implies _ (all entry member same)⟩

section Peeking

variable {stream : Bytes} {more : Nat}

/-- What is peeked at once `more` bytes of the stream are there. -/
def peekOf (stream : Bytes) (more : Nat) : RecvResult := .received (stream.take (min 1024 more))

theorem peek_of_part (part : asksInPart (peekOf stream more) = true) :
    more < metricsPrefix.length ∨ stream.length < metricsPrefix.length := by
  have size : metricsPrefix.length = 13 := rfl
  simp only [peekOf, asksInPart, Bool.and_eq_true, decide_eq_true_eq, List.length_take] at part
  have short := part.1.2
  omega

/-- What is no part of a request for the metrics tells whether the stream begins with one. -/
theorem peek_of_whole (positive : 0 < more) (within : more ≤ stream.length)
    (whole : asksInPart (peekOf stream more) = false) :
    metricsPrefix.isPrefixOf ((stream.take (min 1024 more)).take 1024) = true ↔
      metricsPrefix <+: stream := by
  have size : metricsPrefix.length = 13 := rfl
  have taken : (stream.take (min 1024 more)).take 1024 = stream.take (min 1024 more) :=
    List.take_of_length_le (by simp only [List.length_take]; omega)
  rw [taken, List.isPrefixOf_iff_prefix, List.prefix_take_iff]
  constructor
  · exact And.left
  · intro starts
    refine ⟨starts, ?_⟩
    by_contra short
    -- fewer bytes than the words have, and they are its first ones
    have count : (stream.take (min 1024 more)).length = min 1024 more := by
      simp only [List.length_take]
      omega
    have agree : metricsPrefix.take (min 1024 more) = stream.take (min 1024 more) := by
      obtain ⟨rest, split⟩ := starts
      rw [← split, List.take_append_of_le_length (by omega)]
    simp only [peekOf, asksInPart, taken, count, agree, decide_true, Bool.and_true,
      Bool.and_eq_false_iff, decide_eq_false_iff_not] at whole
    omega

theorem admit_client_dials {lb tried : LoadBalancer} {fd : Int} {pair : ConnectionPair}
    {answers : EventAnswers} {good : Bool} (peeked : answers.peek = peekOf stream more)
    (whole : asksInPart (peekOf stream more) = false)
    (other : ¬ metricsPrefix.isPrefixOf ((stream.take (min 1024 more)).take 1024) = true)
    (connects : lb.connectClientToBackend fd answers.dials = (good, tried)) :
    admitClient fd answers pair lb =
      if good then .next tried else .stop (tried.closeConnection fd .noBackend) := by
  unfold admitClient
  rw [peeked]
  refine (if_neg (Bool.eq_false_iff.mp whole)).trans ((if_neg other).trans ?_)
  simp only [connects]
  cases good with
  | true => rfl
  | false => rfl

end Peeking

section Closed

/-! Dialling closes no pair. -/

theorem try_backend_closed (lb : LoadBalancer) (clientFd : Int) (index : Nat) (dial : Dial)
    (detach : ConnectionPair → ConnectionPair) :
    (lb.tryBackend clientFd index dial detach).2.closed = lb.closed := by
  unfold tryBackend
  cases lb.connections.lookup clientFd with
  | none => rfl
  | some pair =>
      simp only
      cases (lb.recordDial clientFd index).connectToBackend dial.sockets with
      | none => rfl
      | some answer =>
          simp only
          split_ifs
          · rfl
          · rfl

theorem connect_loop_closed (clientFd : Int) (initial attempts : Nat) (first : Bool)
    (attempted : List Nat) (dials : List Dial) (lb : LoadBalancer) :
    (connectLoop clientFd initial attempts first attempted dials lb).2.closed = lb.closed := by
  induction attempts generalizing first attempted dials lb with
  | zero => rfl
  | succ attempts ih =>
      obtain ⟨next, same⟩ := next_candidate_same lb initial first attempted
      unfold connectLoop
      generalize lb.nextCandidate initial first attempted = candidate at same
      obtain ⟨index, after⟩ := candidate
      subst same
      cases index with
      | none => rfl
      | some index =>
          simp only
          split_ifs
          · exact ih false attempted dials _
          · exact ih false attempted dials _
          · exact ih false (index :: attempted) dials _
          · have tried := try_backend_closed { lb with nextBackendIndex := next } clientFd index
              (dials.headD {}) dropBackend
            generalize LoadBalancer.tryBackend _ clientFd index (dials.headD {}) dropBackend =
              outcome at tried
            obtain ⟨good, last⟩ := outcome
            cases good with
            | true => exact tried
            | false => exact (ih false (index :: attempted) dials.tail last).trans tried

theorem connect_client_closed (lb : LoadBalancer) (clientFd : Int) (dials : List Dial) :
    (lb.connectClientToBackend clientFd dials).2.closed = lb.closed := by
  unfold connectClientToBackend
  split_ifs
  · rfl
  · cases lb.connections.lookup clientFd with
    | none => rfl
    | some pair =>
        obtain ⟨next, same⟩ := select_backend_same lb pair.clientIp
        simp only
        generalize lb.selectBackend pair.clientIp = selected at same
        obtain ⟨initial, chosen⟩ := selected
        subst same
        cases initial with
        | none => rfl
        | some initial => exact connect_loop_closed clientFd initial _ true [] dials _

end Closed

/-- What every state of every run is between two steps. -/
structure Steady (lb : LoadBalancer) : Prop where
  sound : Sound lb
  apart : Apart lb
  answered : AllPairs Answered lb

theorem step_steady {lb : LoadBalancer} (steady : Steady lb) (input : Input) :
    Steady (lb.step input) where
  sound := step_sound steady.sound input
  apart := stepped_apart steady.sound.tables (steady.sound.stepped input) steady.apart
  answered := stepped_kept answered_kept steady.sound.tables (steady.sound.stepped input)
    steady.answered

theorem run_steady (routingMode : RoutingMode) (configured : List (Bytes × Nat))
    (listenFd healthTimerFd : Int) (inputs : List Input) :
    Steady (run step (create routingMode configured listenFd healthTimerFd) inputs) where
  sound := run_sound routingMode configured listenFd healthTimerFd inputs
  apart := run_apart routingMode configured listenFd healthTimerFd inputs
  answered := run_kept answered_kept routingMode configured listenFd healthTimerFd inputs

/-- The input dials no backend for the client, and an event of the client itself leaves
the pool alone. -/
structure DialsNothing (fd : Int) (lb : LoadBalancer) (input : Input) : Prop where
  record : (lb.step input).dialled fd = lb.dialled fd
  pool : ∀ flags answers, input = .event fd flags answers →
    (lb.step input).backendPool = lb.backendPool

def Undialled (fd : Int) (lb : LoadBalancer) (inputs : List Input) : Prop :=
  Throughout step (DialsNothing fd) lb inputs

section Dials

variable {fd : Int} {lb : LoadBalancer} {pair : ConnectionPair}

theorem detached_client (tables : Tables lb) (found : lb.connections.lookup fd = some pair)
    (detached : pair.backendFd = -1) {other : Int} (own : lb.clientOf other = fd) :
    other = fd := by
  cases owner : lb.backendToClient.lookup other with
  | none =>
      rw [clientOf, owner] at own
      exact own
  | some clientFd =>
      rw [clientOf, owner] at own
      have same : clientFd = fd := own
      obtain ⟨stored, isStored, socket, attached⟩ := (tables.wiring.mapped _ _).mp owner
      rw [same, find, found] at isStored
      cases isStored
      exact absurd (socket.symm.trans detached) attached

theorem detached_dials (sound : Sound lb) (found : lb.connections.lookup fd = some pair)
    (detached : pair.backendFd = -1) {input : Input}
    (own : ∀ flags answers, input = .event fd flags answers → Rests fd lb (lb.step input)) :
    DialsNothing fd lb input := by
  refine ⟨?_, fun flags answers same => (own flags answers same).pool ?_⟩
  · cases input with
    | expire expired => rfl
    | stop => rfl
    | event other flags answers =>
        by_cases mine : other = fd
        · subst mine
          rw [(own flags answers rfl).dialled]
        · have elsewhere : fd ≠ lb.clientOf other := fun same =>
            mine (detached_client sound.tables found detached same.symm)
          simp only [step, handleEvent]
          split_ifs
          · rcases handle_accept_cases answers.accepts lb fd with ⟨-, kept⟩ | ⟨free, -⟩
            · exact kept
            · rw [found] at free
              cases free
          · rfl
          · rfl
          · exact handle_pair_event_records sound other flags answers elsewhere
  · intro stored isStored
    rw [found] at isStored
    cases isStored
    exact detached

theorem local_rests (steady : Steady lb) (found : lb.connections.lookup fd = some pair)
    (isLocal : Local pair) (flags : EventMask) (answers : EventAnswers) :
    Rests fd lb (lb.step (.event fd flags answers)) := by
  have tables := steady.sound.tables
  rw [step_client_event tables steady.apart found]
  split_ifs with error gone
  · exact close_connection_rests found _
  · exact close_connection_rests found _
  · cases input : flags.input with
    | true =>
        obtain ⟨after, serves, served⟩ := serve_metrics_stops answers
        rw [relay_event_metrics flags answers found input isLocal.metrics serves]
        exact served.rests found
    | false =>
        have silent : false = false → flags.input = true → pair.backendFd ≠ -1 := by
          intro _ readable
          rw [input] at readable
          cases readable
        rcases relay_event_rests false flags answers tables steady.sound.unopened nofun found
          silent with rests | ⟨last, stored, fails, -⟩
        · exact rests
        · cases fails.backend

theorem local_undialled (steady : Steady lb) (inputs : List Input) (lasts : Lasts fd lb inputs)
    (isLocal : ∀ pair, lb.connections.lookup fd = some pair → Local pair) :
    Undialled fd lb inputs := by
  have keeps : ∀ (lb : LoadBalancer) (input : Input),
      (Steady lb ∧ ∀ pair, lb.connections.lookup fd = some pair → Local pair) →
      fd ∈ lb.connections →
      Steady (lb.step input) ∧
        ∀ pair, (lb.step input).connections.lookup fd = some pair → Local pair := by
    intro lb input holds isOpen
    exact ⟨step_steady holds.1 input,
      (step_always local_stay holds.1.sound input isOpen (.begin rfl holds.2)).opened⟩
  have silent : ∀ (lb : LoadBalancer) (input : Input),
      (Steady lb ∧ ∀ pair, lb.connections.lookup fd = some pair → Local pair) →
      fd ∈ lb.connections → DialsNothing fd lb input := by
    intro lb input holds isOpen
    obtain ⟨pair, found⟩ := Option.isSome_iff_exists.mp (AList.lookup_isSome.mpr isOpen)
    have isLocal := holds.2 pair found
    apply detached_dials holds.1.sound found isLocal.detached
    rintro flags answers rfl
    exact local_rests holds.1 found isLocal flags answers
  exact throughout_of_throughout step keeps silent ⟨steady, isLocal⟩ inputs lasts

end Dials

/-- An input that is no event of the client, while the loop goes on. -/
def Unrelated (fd : Int) : Input → Prop
  | .expire _ => True
  | .event other _ _ => other ≠ fd
  | .stop => False

/-- The stream of a client becomes available, from its byte `count` to its byte `last`,
with whatever else happens meanwhile: what is peeked at in a readable event is all that
is there, up to 1024 bytes. -/
inductive Arrives (fd : Int) (stream : Bytes) : Nat → List Input → Nat → Prop where
  | nothing (count : Nat) : Arrives fd stream count [] count
  | event {count more last : Nat} {flags : EventMask} {answers : EventAnswers}
      {inputs : List Input} (grown : count ≤ more) (positive : 0 < more)
      (within : more ≤ stream.length) (readable : flags.input = true)
      (calm : flags.error = false) (peeked : answers.peek = peekOf stream more)
      (rest : Arrives fd stream more inputs last) :
      Arrives fd stream count (.event fd flags answers :: inputs) last
  | other {count last : Nat} {input : Input} {inputs : List Input}
      (unrelated : Unrelated fd input) (rest : Arrives fd stream count inputs last) :
      Arrives fd stream count (input :: inputs) last

section Decision

variable {fd : Int} {lb : LoadBalancer} {pair : ConnectionPair} {stream : Bytes}

theorem unrelated_keeps (sound : Sound lb) (found : lb.connections.lookup fd = some pair)
    (detached : pair.backendFd = -1) {input : Input} (unrelated : Unrelated fd input) :
    DialsNothing fd lb input ∧ (lb.step input).connections.lookup fd = some pair := by
  have nothing : DialsNothing fd lb input := by
    apply detached_dials sound found detached
    rintro flags answers rfl
    exact absurd rfl unrelated
  refine ⟨nothing, ?_⟩
  cases input with
  | expire expired => exact found
  | stop => cases unrelated
  | event other flags answers =>
      simp only [step, handleEvent]
      split_ifs
      · exact handle_accept_keeps answers.accepts lb found
      · exact found
      · exact found
      · have elsewhere : fd ≠ lb.clientOf other := fun own =>
          unrelated (detached_client sound.tables found detached own.symm)
        rw [handle_pair_event_others other flags answers sound.tables sound.unopened elsewhere]
        exact found

theorem metrics_served_outcome {after : LoadBalancer} (served : MetricsServed fd pair lb after)
    (found : lb.connections.lookup fd = some pair) (isLocal : Local pair) :
    ∃ last, Local last ∧ (after.connections.lookup fd = some last ∨
      after.closed = lb.closed ++ [(last, .metrics)]) := by
  cases served with
  | closed =>
      refine ⟨pair, isLocal, ?_⟩
      rcases lb.close_connection_cases .metrics found with same | ⟨-, closed⟩
      · rw [same]
        exact .inl found
      · exact .inr closed
  | answered response events request =>
      have answered : PairMove { failing with
          budget := fun _ => (readFrom .client pair.trace).length + request.length } pair _ :=
        .answered isLocal.metrics response request events (Nat.le_refl _)
      exact ⟨_, local_stay.moved answered isLocal, .inl (lookup_set_pair lb fd _)⟩

variable {flags : EventMask} {answers : EventAnswers} {more : Nat}

theorem metrics_event (steady : Steady lb) (found : lb.connections.lookup fd = some pair)
    (detached : pair.backendFd = -1) (plain : pair.metricsConnection = false)
    (readable : flags.input = true) (calm : flags.error = false)
    (peeked : answers.peek = peekOf stream more) (whole : asksInPart (peekOf stream more) = false)
    (asks : metricsPrefix.isPrefixOf ((stream.take (min 1024 more)).take 1024) = true) :
    (∃ served, Local served ∧
      ((lb.step (.event fd flags answers)).connections.lookup fd = some served ∨
        (lb.step (.event fd flags answers)).closed = lb.closed ++ [(served, .metrics)])) ∧
      Rests fd lb (lb.step (.event fd flags answers)) ∧
      Always fd lb.closed Local (lb.step (.event fd flags answers)) := by
  have tables := steady.sound.tables
  have unopened := steady.sound.unopened fd pair found detached
  have isMarked := lookup_set_pair lb fd { pair with metricsConnection := true }
  have isLocal : Local { pair with metricsConnection := true } := ⟨rfl, detached, unopened⟩
  have admits : admitClient fd answers pair lb =
      .next (lb.setPair fd { pair with metricsConnection := true }) := by
    unfold admitClient
    rw [peeked]
    exact (if_neg (Bool.eq_false_iff.mp whole)).trans (if_pos asks)
  obtain ⟨after, serves, served⟩ := serve_metrics_stops answers
  have handled : lb.step (.event fd flags answers) = after := by
    rw [step_client_event tables steady.apart found, calm, readable]
    simp only [Bool.false_eq_true, Bool.not_true, Bool.and_false, if_false]
    rw [relay_event_admitted flags answers found readable plain detached admits isMarked
      (.inl rfl)]
    exact relay_event_metrics flags answers isMarked readable rfl serves
  rw [handled]
  have marks : PairMove failing pair { pair with metricsConnection := true } :=
    .admitted detached unopened
  have marked : Rests fd lb (lb.setPair fd { pair with metricsConnection := true }) :=
    set_pair_rests found (pair_moves_sockets (.single marks))
  have outcome := metrics_served_outcome served isMarked isLocal
  refine ⟨outcome, marked.trans (served.rests isMarked), ?_⟩
  have begun : Always fd lb.closed Local
      (lb.setPair fd { pair with metricsConnection := true }) := by
    refine Always.begin rfl fun stored isStored => ?_
    rw [isMarked] at isStored
    cases isStored
    exact isLocal
  have moves : Moves
      { failing with
        budget := fun _ => (readFrom .client pair.trace).length + arriving answers.recvs }
      fd (lb.setPair fd { pair with metricsConnection := true }) (Flow.stop after).state := by
    rw [← serves]
    exact serve_metrics_moves answers isMarked rfl (Nat.le_refl _)
  exact moves_always local_stay (moves_tables tables (touch_moves found (.single marks))) id moves
    begun

theorem refused_event (steady : Steady lb) (found : lb.connections.lookup fd = some pair)
    (detached : pair.backendFd = -1) (plain : pair.metricsConnection = false)
    (readable : flags.input = true) (calm : flags.error = false)
    {tried : LoadBalancer}
    (connects : lb.connectClientToBackend fd answers.dials = (false, tried))
    (admits : admitClient fd answers pair lb = .stop (tried.closeConnection fd .noBackend)) :
    lb.step (.event fd flags answers) = tried.closeConnection fd .noBackend ∧
      (tried.closeConnection fd .noBackend).connections.lookup fd = none ∧
      Always fd lb.closed (fun pair => pair.metricsConnection = false)
        (tried.closeConnection fd .noBackend) := by
  have tables := steady.sound.tables
  obtain ⟨moves, left⟩ := connect_client_moves (show failing.dials from trivial)
    ⟨pair, found, detached, plain⟩ answers.dials
  have closed := connect_client_closed lb fd answers.dials
  rw [connects] at moves left closed
  obtain ⟨stored, isStored, _, isPlain⟩ := left rfl
  refine ⟨?_, close_connection_missing (moves_tables tables moves) .noBackend, ?_⟩
  · rw [step_client_event tables steady.apart found, calm, readable]
    simp only [Bool.false_eq_true, Bool.not_true, Bool.and_false, if_false]
    exact relay_event_stopped flags answers found readable plain detached admits
  · apply Always.close ?_ .noBackend isStored fun _ => isPlain
    apply Always.begin closed
    intro other isOther
    rw [isStored] at isOther
    cases isOther
    exact isPlain

theorem admitted_event (steady : Steady lb) (found : lb.connections.lookup fd = some pair)
    (detached : pair.backendFd = -1) (plain : pair.metricsConnection = false)
    (silent : pair.trace = []) (readable : flags.input = true) (calm : flags.error = false)
    {tried : LoadBalancer}
    (connects : lb.connectClientToBackend fd answers.dials = (true, tried))
    (admits : admitClient fd answers pair lb = .next tried) :
    lb.step (.event fd flags answers) = relayEvent fd false flags answers tried ∧
      (∃ stored, tried.connections.lookup fd = some stored ∧ stored.backendFd ≠ -1 ∧
        readFrom .client stored.trace = []) ∧
      Always fd lb.closed (fun pair => pair.metricsConnection = false ∧ ¬ pair.Unopened)
        (relayEvent fd false flags answers tried) := by
  have tables := steady.sound.tables
  obtain ⟨moves, _⟩ := connect_client_moves
    (show (reading false { input := true } {} fun _ => 0).dials from ⟨rfl, rfl⟩)
    ⟨pair, found, detached, plain⟩ answers.dials
  have closed := connect_client_closed lb fd answers.dials
  rw [connects] at moves closed
  have tablesTried : Tables tried := moves_tables tables moves
  obtain ⟨_, attempts⟩ := connect_client_dials found answers.dials
  rw [connects] at attempts
  obtain ⟨stored, isStored, attached, _⟩ := attempts.ends rfl
  have answered : Answered stored :=
    (moves_kept (answered_kept _) moves steady.answered).opened fd stored isStored
  have unread : ReadUpTo lb fd fun _ => 0 := by
    intro other isOther side
    rw [found] at isOther
    cases isOther
    rw [silent]
    exact Nat.le_refl 0
  have unreadTried : ReadUpTo tried fd fun _ => 0 := moves_read id moves unread
  refine ⟨?_, ⟨stored, isStored, attached, ?_⟩, ?_⟩
  · rw [step_client_event tables steady.apart found, calm, readable]
    simp only [Bool.false_eq_true, Bool.not_true, Bool.and_false, if_false]
    exact relay_event_admitted flags answers found readable plain detached admits isStored
      (.inr attached)
  · exact List.length_eq_zero_iff.mp (Nat.le_zero.mp (unreadTried stored isStored .client))
  · have begun : Always fd lb.closed
        (fun pair => pair.metricsConnection = false ∧ ¬ pair.Unopened) tried := by
      apply Always.begin closed
      intro other isOther
      rw [isStored] at isOther
      cases isOther
      exact answered.attached attached
    have within : ∀ side,
        plus (fun _ => 0) false (arriving answers.recvs + arriving answers.drains) side ≤
          plus (fun _ => 0) false (arriving answers.recvs + arriving answers.drains) side :=
      fun _ => Nat.le_refl _
    obtain ⟨between, last, reads, settles, ends⟩ := relay_event_moves false flags answers
      tablesTried (moves_unopened id moves steady.sound.unopened) nofun unreadTried within
    have read := moves_tables tablesTried reads
    have settled := moves_tables read settles
    exact moves_always dialled_stay settled id (fails_over_moves settled ends)
      (moves_always dialled_stay read id settles
        (moves_always dialled_stay tablesTried id reads begun))

end Decision

/-- The event that decides on a client of whom nothing has been read. From then on, as
long as the connection lasts, the pair of the client serves the metrics just when the
stream asks for them, also when it is closed. If it does, the event marks the pair, no
backend is dialled for it, and it never has a backend socket; otherwise the event is a
first connect, and goes on with the backend or closes the client. -/
structure Decides (lb : LoadBalancer) (fd : Int) (clientIp stream : Bytes) (flags : EventMask)
    (answers : EventAnswers) : Prop where
  untouched : lb.connections.lookup fd = some (acceptedPair fd clientIp)
  marked : metricsPrefix <+: stream →
    (∃ served, Local served ∧
      ((lb.step (.event fd flags answers)).connections.lookup fd = some served ∨
        (lb.step (.event fd flags answers)).closed = lb.closed ++ [(served, .metrics)])) ∧
      (lb.step (.event fd flags answers)).dialled = lb.dialled ∧
      (lb.step (.event fd flags answers)).backendPool = lb.backendPool
  refused : ¬ metricsPrefix <+: stream →
    ∀ tried, lb.connectClientToBackend fd answers.dials = (false, tried) →
      lb.step (.event fd flags answers) = tried.closeConnection fd .noBackend ∧
        (lb.step (.event fd flags answers)).connections.lookup fd = none
  admitted : ¬ metricsPrefix <+: stream →
    ∀ tried, lb.connectClientToBackend fd answers.dials = (true, tried) →
      lb.step (.event fd flags answers) = relayEvent fd false flags answers tried ∧
        ∃ stored, tried.connections.lookup fd = some stored ∧ stored.backendFd ≠ -1 ∧
          readFrom .client stored.trace = []
  lasting : ∀ later, Lasts fd lb (.event fd flags answers :: later) →
    Always fd lb.closed
        (fun pair => (pair.metricsConnection = true ↔ metricsPrefix <+: stream) ∧
          (metricsPrefix <+: stream → Local pair))
        (run step lb (.event fd flags answers :: later)) ∧
      (metricsPrefix <+: stream → Undialled fd lb (.event fd flags answers :: later))

section Runs

variable {fd : Int} {clientIp stream : Bytes} {lb : LoadBalancer}

theorem event_decides (steady : Steady lb)
    (found : lb.connections.lookup fd = some (acceptedPair fd clientIp)) {flags : EventMask}
    {answers : EventAnswers} {more : Nat} (positive : 0 < more) (within : more ≤ stream.length)
    (readable : flags.input = true) (calm : flags.error = false)
    (peeked : answers.peek = peekOf stream more)
    (whole : asksInPart (peekOf stream more) = false) :
    Decides lb fd clientIp stream flags answers := by
  have next : Steady (lb.step (.event fd flags answers)) := step_steady steady _
  have decides := peek_of_whole positive within whole
  by_cases asks : metricsPrefix <+: stream
  · obtain ⟨marked, rests, always⟩ :=
      metrics_event steady found rfl rfl readable calm peeked whole (decides.mpr asks)
    have detached : Detached fd lb := by
      intro stored isStored
      rw [found] at isStored
      cases isStored
      rfl
    refine ⟨found, fun _ => ⟨marked, rests.dialled, rests.pool detached⟩,
      fun other => absurd asks other, fun other => absurd asks other,
      fun later lasts => ⟨?_, fun _ => ⟨?_, ?_⟩⟩⟩
    · exact (run_always local_stay next.sound later lasts.2 always).mono
        fun pair isLocal => ⟨iff_of_true isLocal.metrics asks, fun _ => isLocal⟩
    · apply detached_dials steady.sound found rfl
      rintro otherFlags otherAnswers same
      cases same
      exact rests
    · exact local_undialled next later lasts.2 always.opened
  · have dials : ∀ {good tried},
        lb.connectClientToBackend fd answers.dials = (good, tried) →
          admitClient fd answers (acceptedPair fd clientIp) lb =
            if good then .next tried else .stop (tried.closeConnection fd .noBackend) :=
      admit_client_dials peeked whole (mt decides.mp asks)
    refine ⟨found, fun other => absurd other asks, fun _ tried connects => ?_,
      fun _ tried connects => ?_, fun later lasts => ⟨?_, fun other => absurd other asks⟩⟩
    · obtain ⟨closes, gone, _⟩ :=
        refused_event steady found rfl rfl readable calm connects (dials connects)
      exact ⟨closes, closes ▸ gone⟩
    · obtain ⟨goesOn, attached, _⟩ :=
        admitted_event steady found rfl rfl rfl readable calm connects (dials connects)
      exact ⟨goesOn, attached⟩
    · have plain : ∀ pair : ConnectionPair, pair.metricsConnection = false →
          (pair.metricsConnection = true ↔ metricsPrefix <+: stream) ∧
            (metricsPrefix <+: stream → Local pair) :=
        fun pair isPlain => ⟨iff_of_false (Bool.eq_false_iff.mp isPlain) asks,
          fun other => absurd other asks⟩
      cases connects : lb.connectClientToBackend fd answers.dials with
      | mk good tried =>
          cases good with
          | false =>
              obtain ⟨closes, gone, always⟩ :=
                refused_event steady found rfl rfl readable calm connects (dials connects)
              cases later with
              | nil =>
                  rw [run_cons, run_nil, closes]
                  exact always.mono plain
              | cons input later =>
                  -- the connection has ended with the event
                  have isOpen := lasts.2.1
                  rw [closes, ← AList.lookup_isSome, gone] at isOpen
                  cases isOpen
          | true =>
              obtain ⟨goesOn, _, always⟩ :=
                admitted_event steady found rfl rfl rfl readable calm connects (dials connects)
              rw [← goesOn] at always
              exact (run_always dialled_stay next.sound later lasts.2 always).mono
                fun pair holds => plain pair holds.1

/-- While less than the words of a request for the metrics has been peeked at, nothing
happens to the client; the event that peeks at more, or at anything else, decides. -/
theorem arrival_decides {inputs : List Input} {count last : Nat} (steady : Steady lb)
    (found : lb.connections.lookup fd = some (acceptedPair fd clientIp))
    (short : count < metricsPrefix.length) (enough : metricsPrefix.length ≤ last)
    (arrives : Arrives fd stream count inputs last) :
    ∃ waiting flags answers rest, inputs = waiting ++ .event fd flags answers :: rest ∧
      Undialled fd lb waiting ∧
      Decides (run step lb waiting) fd clientIp stream flags answers := by
  induction arrives generalizing lb with
  | nothing count => omega
  | @event count more last flags answers inputs grown positive within readable calm peeked rest
      ih =>
      cases part : asksInPart (peekOf stream more) with
      | false =>
          exact ⟨[], flags, answers, inputs, rfl, trivial,
            event_decides steady found positive within readable calm peeked part⟩
      | true =>
          have waits : waitsForRequest flags answers (acceptedPair fd clientIp) = true := by
            simp [waitsForRequest, acceptedPair, readable, calm, peeked, part]
          have idles : lb.step (.event fd flags answers) = lb :=
            waiting_event_idles steady.sound.tables steady.apart found waits
          have still : more < metricsPrefix.length := by
            have := peek_of_part part
            omega
          obtain ⟨waiting, laterFlags, laterAnswers, later, split, undialled, decides⟩ :=
            ih steady found still enough
          refine ⟨.event fd flags answers :: waiting, laterFlags, laterAnswers, later, ?_,
            ⟨?_, ?_⟩, ?_⟩
          · rw [split, List.cons_append]
          · apply detached_dials steady.sound found rfl
            intro otherFlags otherAnswers same
            rw [idles]
            exact .refl fd lb
          · rw [idles]
            exact undialled
          · rw [run_cons, idles]
            exact decides
  | @other count last input inputs unrelated rest ih =>
      obtain ⟨silent, kept⟩ := unrelated_keeps steady.sound found rfl unrelated
      obtain ⟨waiting, flags, answers, later, split, undialled, decides⟩ :=
        ih (step_steady steady input) kept short enough
      refine ⟨input :: waiting, flags, answers, later, ?_, ⟨silent, undialled⟩, decides⟩
      rw [split, List.cons_append]

end Runs

/-- A client is accepted, and at least as many bytes of its stream become available as a
request for the metrics begins with, in any pieces and beside any other events. Then some
event decides on it by the beginning of the stream, and no backend is dialled before. -/
theorem admission_follows_the_stream (routingMode : RoutingMode)
    (configured : List (Bytes × Nat)) (listenFd healthTimerFd : Int) (earlier : List Input)
    (fd : Int) (clientIp stream : Bytes) (inputs : List Input) (last : Nat) :
    let lb := run step (create routingMode configured listenFd healthTimerFd) earlier
    lb.connections.lookup fd = some (acceptedPair fd clientIp) →
      Arrives fd stream 0 inputs last → metricsPrefix.length ≤ last →
      ∃ waiting flags answers rest, inputs = waiting ++ .event fd flags answers :: rest ∧
        Undialled fd lb waiting ∧
        Decides (run step lb waiting) fd clientIp stream flags answers := by
  intro lb found arrives enough
  exact arrival_decides (run_steady routingMode configured listenFd healthTimerFd earlier) found
    (by decide) enough arrives

/-- The first 13 bytes of a request for the metrics, in two pieces. -/
theorem metrics_request_in_pieces :
    ∃ waiting flags answers rest,
      [.event 5 { input := true } { peek := peekOf metricsPrefix 6 },
        .event 5 { input := true } { peek := peekOf metricsPrefix 13 }] =
          waiting ++ .event 5 flags answers :: rest ∧
        Undialled 5 (run step (create .roundRobin [(ascii "127.0.0.1", 8081)] 3 4)
          [.event 3 { input := true } { accepts := [.client 5 (ascii "10.0.0.1") true] }])
          waiting ∧
        Decides (run step (run step (create .roundRobin [(ascii "127.0.0.1", 8081)] 3 4)
          [.event 3 { input := true } { accepts := [.client 5 (ascii "10.0.0.1") true] }])
          waiting) 5 (ascii "10.0.0.1") metricsPrefix flags answers := by
  have arrives : Arrives 5 metricsPrefix 0
      [.event 5 { input := true } { peek := peekOf metricsPrefix 6 },
        .event 5 { input := true } { peek := peekOf metricsPrefix 13 }] 13 :=
    .event (Nat.zero_le 6) (by decide) (by decide) rfl rfl rfl
      (.event (by decide) (by decide) (by decide) rfl rfl rfl (.nothing 13))
  exact admission_follows_the_stream .roundRobin [(ascii "127.0.0.1", 8081)] 3 4
    [.event 3 { input := true } { accepts := [.client 5 (ascii "10.0.0.1") true] }] 5
    (ascii "10.0.0.1") metricsPrefix _ 13 (by decide) arrives (by decide)

end LoadBalancer

end Aorta.Lb
