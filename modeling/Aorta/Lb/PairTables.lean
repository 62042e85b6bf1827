import Aorta.Library.Run
import Aorta.Lb.EventMoves

/-!
# The pair tables in every run

A step handles an event, move by move, or closes everything. What every move keeps
and an empty table has, every run keeps.
-/

namespace Aorta.Lb.LoadBalancer

open Aorta.Library.Ascii Aorta.Library.FiniteMap Aorta.Library.Run Aorta.Net

set_option autoImplicit false

/-- The pair an event belongs to. -/
def clientOf (lb : LoadBalancer) (fd : Int) : Int := (lb.backendToClient.lookup fd).getD fd

/-- What there is to read in an event, with what has been read. -/
def budgetOf (lb : LoadBalancer) (fd : Int) (answers : EventAnswers) : Side → Nat :=
  lb.readBudget (lb.clientOf fd) (lb.backendToClient.lookup fd).isSome answers

theorem event_serves (lb : LoadBalancer) (fd : Int) :
    Serves lb (lb.clientOf fd) (lb.backendToClient.lookup fd).isSome := owner_serves lb fd

section PairEvents

variable {lb : LoadBalancer} {fd : Int}

theorem handle_pair_event_missing (missing : lb.connections.lookup (lb.clientOf fd) = none)
    (flags : EventMask) (answers : EventAnswers) : lb.handlePairEvent fd flags answers = lb := by
  unfold clientOf at missing
  unfold handlePairEvent
  simp only
  rw [missing]

theorem handle_pair_event_found {pair : ConnectionPair}
    (found : lb.connections.lookup (lb.clientOf fd) = some pair) (flags : EventMask)
    (answers : EventAnswers) :
    lb.handlePairEvent fd flags answers =
      if flags.error then
        handleFailure (lb.backendToClient.lookup fd).isSome answers pair lb .clientFailed
          .backendFailed
      else if flags.hangup && !flags.input then
        handleFailure (lb.backendToClient.lookup fd).isSome answers pair lb .clientHangup
          .backendHangup
      else relayEvent (lb.clientOf fd) (lb.backendToClient.lookup fd).isSome flags answers lb := by
  unfold clientOf at found
  unfold handlePairEvent
  simp only
  rw [found]
  rfl

end PairEvents

/-- The pair an event belongs to meets a condition, if there is one. -/
def OnPair (lb : LoadBalancer) (fd : Int) (condition : ConnectionPair → Prop) : Prop :=
  ∀ pair, lb.connections.lookup (lb.clientOf fd) = some pair → condition pair

instance (lb : LoadBalancer) (fd : Int) (condition : ConnectionPair → Prop)
    [DecidablePred condition] : Decidable (OnPair lb fd condition) :=
  decidable_of_iff ((lb.connections.lookup (lb.clientOf fd)).all fun pair => condition pair) (by
    unfold OnPair
    cases lb.connections.lookup (lb.clientOf fd) with
    | none => simp
    | some pair => simp)

/-- What the steps of the loop do: nothing to the sockets of any pair, or the stages of
an event, or the end of everything. -/
inductive Stepped (lb : LoadBalancer) : Input → LoadBalancer → Prop
  | quiet (input : Input) (after : LoadBalancer) (moves : Moves quiet 0 lb after) :
      Stepped lb input after
  | relayed (fd : Int) (flags : EventMask) (answers : EventAnswers)
      (between last after : LoadBalancer)
      (reads : Moves (reading (lb.backendToClient.lookup fd).isSome flags answers
        (lb.budgetOf fd answers)) (lb.clientOf fd) lb between)
      (settles : Moves (settling (lb.backendToClient.lookup fd).isSome flags answers)
        (lb.clientOf fd) between last)
      (ends : FailsOver (lb.clientOf fd) (lb.backendToClient.lookup fd).isSome flags answers last
        after) : Stepped lb (.event fd flags answers) after
  | stopped : Stepped lb .stop
      { lb.closeAllConnections with healthChecker := lb.healthChecker.cancelAll }

theorem step_stepped {lb : LoadBalancer} (tables : Tables lb) (unopened : Unopened lb)
    (input : Input) :
    Stepped lb input (lb.step input) := by
  cases input with
  | expire expired =>
      exact .quiet _ _ (with_health_moves trivial (HealthChecker.expire_counts expired _ _)
        fun _ handled => .inl (HealthChecker.expire_handles expired handled))
  | stop => exact .stopped
  | event fd flags answers =>
      simp only [step, handleEvent]
      split_ifs
      · exact .quiet _ _ (handle_accept_moves trivial answers.accepts lb)
      · exact .quiet _ _ (with_health_moves trivial (HealthChecker.start_counts _ _ _ _)
          fun _ => HealthChecker.start_handles)
      · exact .quiet _ _ (with_health_moves trivial (HealthChecker.handle_event_counts _ _ fd flags _)
          fun _ handled => .inl (HealthChecker.handle_event_handles handled))
      · obtain ⟨between, last, reads, settles, ends⟩ :=
          handle_pair_event_moves tables unopened fd flags answers
        exact .relayed fd flags answers between last _ reads settles ends

theorem close_all_counted (entries : List (Σ _ : Int, ConnectionPair)) (pool : BackendPool)
    (counted : ∀ (index : Nat) (backend : Backend), pool[index]? = some backend →
      backend.connectionCount = entries.countP fun entry => attachedTo index entry.2) :
    ∀ (index : Nat) (backend : Backend), (entries.foldl (fun pool entry =>
        if entry.2.backendFd ≠ -1 then
          pool.modify entry.2.backendIndex Backend.releaseConnection
        else pool) pool)[index]? = some backend → backend.connectionCount = 0 := by
  induction entries generalizing pool with
  | nil => exact counted
  | cons entry entries ih =>
      rw [List.foldl_cons]
      apply ih
      by_cases attached : entry.2.backendFd ≠ -1
      · rw [if_pos attached]
        apply modify_counted counted
        · intro backend counts
          have here : attachedTo entry.2.backendIndex entry.2 = true := by
            simp [attachedTo, attached]
          rw [List.countP_cons, if_pos here] at counts
          rw [Backend.release_connection_count, counts, Nat.add_sub_cancel]
        · intro position differs
          have elsewhere : ¬ attachedTo position entry.2 = true := by
            simp [attachedTo, differs.symm]
          rw [List.countP_cons, if_neg elsewhere, Nat.add_zero]
      · rw [if_neg attached]
        intro index backend found
        have nowhere : ¬ attachedTo index entry.2 = true := by
          simp only [attachedTo, Bool.and_eq_true, decide_eq_true_eq]
          exact fun both => attached both.1
        rw [counted index backend found, List.countP_cons, if_neg nowhere, Nat.add_zero]

theorem empty_tables {lb : LoadBalancer} (connections : lb.connections = ∅)
    (backends : lb.backendToClient = ∅)
    (counted : ∀ (index : Nat) (backend : Backend), lb.backendPool[index]? = some backend →
      backend.connectionCount = 0) : Tables lb where
  wiring := by
    rw [connections, backends]
    constructor
    · intro backendFd clientFd
      constructor
      · intro owns
        cases owns
      · intro owned
        obtain ⟨pair, found, -⟩ := owned
        cases found
    · intro clientFd pair found
      cases found
    · exact fun fd => .inl rfl
    · intro clientFd pair found
      cases found
    · intro clientFd pair found
      cases found
  counted := by
    intro index backend found
    rw [counted index backend found, connections]
    rfl

theorem create_tables (routingMode : RoutingMode) (configured : List (Bytes × Nat))
    (listenFd healthTimerFd : Int) :
    Tables (create routingMode configured listenFd healthTimerFd) := by
  apply empty_tables rfl rfl
  intro index backend found
  simp only [create, List.getElem?_map] at found
  obtain ⟨entry, -, rfl⟩ := Option.map_eq_some_iff.mp found
  rfl

theorem stepped_tables {lb after : LoadBalancer} {input : Input} (tables : Tables lb)
    (stepped : Stepped lb input after) : Tables after := by
  cases stepped with
  | quiet input after moves => exact moves_tables tables moves
  | relayed fd flags answers between last after reads settles ends =>
      have settled : Tables last := moves_tables (moves_tables tables reads) settles
      exact moves_tables settled (fails_over_moves settled ends)
  | stopped => exact empty_tables rfl rfl (close_all_counted _ _ tables.counted)

theorem pair_moves_unopened {may : May} {pair after : ConnectionPair}
    (moves : Relation.ReflTransGen (PairMove may) pair after) (unopened : pair.Unopened) :
    after.Unopened := by
  have recorded : ∀ (pair : ConnectionPair) (wire : Wire), wire.opens = false → pair.Unopened →
      (pair.record [wire]).Unopened := by
    intro pair wire closed unopened other member
    rcases List.mem_append.mp member with earlier | last
    · exact unopened other earlier
    · rw [List.mem_singleton.mp last]
      exact closed
  induction moves with
  | refl => exact unopened
  | tail _ move ih =>
      cases move with
      | read side bytes fits within client backend => cases side <;> exact recorded _ _ rfl ih
      | ended side backend => cases side <;> exact recorded _ _ rfl ih
      | sent writes side count within backend => cases side <;> exact recorded _ _ rfl ih
      | clear => exact ih
      | shutBackend writes ended once nothing attached connected => exact recorded _ _ rfl ih
      | shutClient writes ended once nothing => exact recorded _ _ rfl ih
      | connected => exact ih
      | watched client backend => exact ih
      | redialled detached index connecting events => exact ih
      | admitted detached unopened => exact ih
      | answered metrics response request events within => exact recorded _ _ rfl ih

theorem unopened_insert {lb after : LoadBalancer} {clientFd : Int} {pair : ConnectionPair}
    (unopened : Unopened lb) (connections : after.connections = lb.connections.insert clientFd pair)
    (holds : pair.backendFd = -1 → pair.Unopened) : Unopened after := by
  intro other stored found detached
  rw [connections] at found
  by_cases same : other = clientFd
  · subst same
    rw [AList.lookup_insert] at found
    cases found
    exact holds detached
  · rw [AList.lookup_insert_ne same] at found
    exact unopened other stored found detached

theorem move_unopened {may : May} {clientFd : Int} {lb after : LoadBalancer}
    (kept : ¬ may.detaches) (move : Move may clientFd lb after) (unopened : Unopened lb) :
    Unopened after := by
  cases move with
  | counted after connections backends closed counts =>
      intro other pair found
      rw [connections] at found
      exact unopened other pair found
  | dialled dials pair index found detached plain => exact unopened
  | accepted accepts fd clientIp free => exact unopened_insert unopened rfl fun _ => nofun
  | touched pair after found moves =>
      apply unopened_insert unopened rfl
      intro detached
      rw [(pair_moves_sockets moves).backend] at detached
      exact pair_moves_unopened moves (unopened clientFd pair found detached)
  | attached pair fd index connecting found detached plain free =>
      exact unopened_insert unopened rfl fun detached => absurd detached (unused free).2.2
  | detached pair found attached connecting detaches trouble => exact absurd detaches kept
  | closed pair reason found justified =>
      rcases lb.close_connection_cases reason found with same | ⟨connections, -⟩
      · rw [same]
        exact unopened
      · intro other stored isStored
        rw [connections] at isStored
        by_cases same : other = clientFd
        · subst same
          simp at isStored
        · rw [AList.lookup_erase_ne same] at isStored
          exact unopened other stored isStored

theorem moves_unopened {may : May} {clientFd : Int} {lb after : LoadBalancer}
    (kept : ¬ may.detaches) (moves : Moves may clientFd lb after) (unopened : Unopened lb) :
    Unopened after := by
  induction moves with
  | refl => exact unopened
  | tail _ move ih => exact move_unopened kept move ih

theorem fails_over_unopened {clientFd : Int} {isBackendFd : Bool} {flags : EventMask}
    {answers : EventAnswers} {lb after : LoadBalancer} (tables : Tables lb)
    (unopened : Unopened lb) (ends : FailsOver clientFd isBackendFd flags answers lb after) :
    Unopened after := by
  have moves := fails_over_moves tables ends
  intro other stored found detached
  by_cases same : other = clientFd
  · subst same
    cases ends with
    | no => exact unopened other stored found detached
    | yes pair stands backend attached connecting fails =>
        rcases failover_result tables stands attached answers.dials with missing | taken
        · rw [missing] at found
          cases found
        · obtain ⟨fd, index, dialling, socket, isStored, -⟩ := taken
          rw [isStored] at found
          cases found
          exact absurd detached socket
  · rw [moves_others id moves same] at found
    exact unopened other stored found detached

theorem stepped_unopened {lb after : LoadBalancer} {input : Input} (tables : Tables lb)
    (unopened : Unopened lb) (stepped : Stepped lb input after) : Unopened after := by
  cases stepped with
  | quiet input after moves => exact moves_unopened id moves unopened
  | relayed fd flags answers between last after reads settles ends =>
      have settled : Tables last := moves_tables (moves_tables tables reads) settles
      exact fails_over_unopened settled
        (moves_unopened id settles (moves_unopened id reads unopened)) ends
  | stopped =>
      intro clientFd pair found
      cases found

def Held (lb : LoadBalancer) (fd : Int) : Prop := fd ∈ lb.connections ∨ fd ∈ lb.backendToClient

theorem held_in_use {lb : LoadBalancer} {fd : Int} (held : Held lb fd) : lb.inUse fd = true := by
  unfold inUse
  rcases held with client | backend
  · simp [AList.lookup_isSome.mpr client]
  · simp [AList.lookup_isSome.mpr backend]

/-- No socket of a pair is the listener, the timer or a health check. -/
def Apart (lb : LoadBalancer) : Prop :=
  ∀ fd, Held lb fd → fd ≠ lb.listenFd ∧ fd ≠ lb.healthTimerFd ∧
    lb.healthChecker.handles fd = false

section Apart

variable {lb after : LoadBalancer}

theorem Apart.widen (apart : Apart lb) (listener : after.listenFd = lb.listenFd)
    (timer : after.healthTimerFd = lb.healthTimerFd)
    (checker : after.healthChecker = lb.healthChecker)
    (opens : ∀ fd, Held after fd → Held lb fd ∨ lb.inUse fd = false) : Apart after := by
  intro fd held
  rw [listener, timer, checker]
  rcases opens fd held with before | free
  · exact apart fd before
  · simp only [inUse, Bool.or_eq_false_iff, decide_eq_false_iff_not] at free
    exact ⟨free.1.1.1.1.2, free.1.1.1.2, free.1.1.2⟩

theorem Apart.counted (apart : Apart lb) (connections : after.connections = lb.connections)
    (backends : after.backendToClient = lb.backendToClient) (watch : SameWatch lb after) :
    Apart after := by
  intro fd held
  have before : Held lb fd := by
    unfold Held at held ⊢
    rwa [connections, backends] at held
  obtain ⟨listener, timer, unhandled⟩ := apart fd before
  rw [watch.listener, watch.timer]
  refine ⟨listener, timer, Bool.eq_false_iff.mpr fun handled => ?_⟩
  rcases watch.checks fd handled with earlier | free
  · rw [unhandled] at earlier
    cases earlier
  · rw [held_in_use before] at free
    cases free

theorem held_replaced {clientFd fd : Int} {pair new : ConnectionPair}
    (found : lb.connections.lookup clientFd = some pair)
    (client : fd ∈ lb.connections.insert clientFd new) : Held lb fd := by
  rcases (AList.mem_insert _).mp client with rfl | before
  · exact .inl (AList.lookup_isSome.mp (by rw [found]; rfl))
  · exact .inl before

theorem move_apart {may : May} {clientFd : Int} (move : Move may clientFd lb after)
    (apart : Apart lb) : Apart after := by
  cases move with
  | counted after connections backends closed counts watch =>
      exact apart.counted connections backends watch
  | dialled dials pair index found detached plain => exact apart
  | accepted accepts fd clientIp free =>
      refine apart.widen rfl rfl rfl ?_
      rintro other (client | backend)
      · rcases (AList.mem_insert _).mp client with rfl | before
        · exact .inr free
        · exact .inl (.inl before)
      · exact .inl (.inr backend)
  | touched pair after found moves =>
      refine apart.widen rfl rfl rfl ?_
      rintro other (client | backend)
      · exact .inl (held_replaced found client)
      · exact .inl (.inr backend)
  | attached pair fd index connecting found detached plain free =>
      refine apart.widen rfl rfl rfl ?_
      rintro other (client | backend)
      · exact .inl (held_replaced found client)
      · rcases (AList.mem_insert _).mp backend with rfl | before
        · exact .inr free
        · exact .inl (.inr before)
  | detached pair found attached connecting detaches trouble =>
      unfold dropFailedBackend
      rw [if_pos attached]
      refine apart.widen rfl rfl rfl ?_
      rintro other (client | backend)
      · exact .inl (held_replaced found client)
      · exact .inl (.inr (AList.mem_erase.mp backend).2)
  | closed pair reason found justified =>
      unfold closeConnection
      rw [found]
      simp only
      split_ifs
      · exact apart
      · refine apart.widen rfl rfl rfl ?_
        rintro other (client | backend)
        · exact .inl (.inl (AList.mem_erase.mp client).2)
        · exact .inl (.inr (AList.mem_erase.mp backend).2)
      · refine apart.widen rfl rfl rfl ?_
        rintro other (client | backend)
        · exact .inl (.inl (AList.mem_erase.mp client).2)
        · exact .inl (.inr backend)

theorem moves_apart {may : May} {clientFd : Int} (moves : Moves may clientFd lb after)
    (apart : Apart lb) : Apart after := by
  induction moves with
  | refl => exact apart
  | tail _ move ih => exact move_apart move ih

theorem stepped_apart {input : Input} (tables : Tables lb) (stepped : Stepped lb input after)
    (apart : Apart lb) : Apart after := by
  cases stepped with
  | quiet input after moves => exact moves_apart moves apart
  | relayed fd flags answers between last after reads settles ends =>
      have settled : Tables last := moves_tables (moves_tables tables reads) settles
      exact moves_apart (fails_over_moves settled ends)
        (moves_apart settles (moves_apart reads apart))
  | stopped =>
      rintro fd (client | backend)
      · cases client
      · cases backend

end Apart

/-- What the tables are between two steps. -/
structure Sound (lb : LoadBalancer) : Prop where
  tables : Tables lb
  unopened : Unopened lb

theorem create_sound (routingMode : RoutingMode) (configured : List (Bytes × Nat))
    (listenFd healthTimerFd : Int) :
    Sound (create routingMode configured listenFd healthTimerFd) where
  tables := create_tables routingMode configured listenFd healthTimerFd
  unopened := by
    intro clientFd pair found
    cases found

theorem Sound.stepped {lb : LoadBalancer} (sound : Sound lb) (input : Input) :
    Stepped lb input (lb.step input) :=
  step_stepped sound.tables sound.unopened input

theorem step_sound {lb : LoadBalancer} (sound : Sound lb) (input : Input) :
    Sound (lb.step input) where
  tables := stepped_tables sound.tables (sound.stepped input)
  unopened := stepped_unopened sound.tables sound.unopened (sound.stepped input)

theorem run_sound (routingMode : RoutingMode) (configured : List (Bytes × Nat))
    (listenFd healthTimerFd : Int) (inputs : List Input) :
    Sound (run step (create routingMode configured listenFd healthTimerFd) inputs) := by
  have keeps : ∀ (lb : LoadBalancer) (input : Input), Sound lb → Sound (lb.step input) :=
    fun _ input sound => step_sound sound input
  exact run_invariant step keeps
    (create_sound routingMode configured listenFd healthTimerFd) inputs

theorem run_apart (routingMode : RoutingMode) (configured : List (Bytes × Nat))
    (listenFd healthTimerFd : Int) (inputs : List Input) :
    Apart (run step (create routingMode configured listenFd healthTimerFd) inputs) := by
  have keeps : ∀ (lb : LoadBalancer) (input : Input), Sound lb ∧ Apart lb →
      Sound (lb.step input) ∧ Apart (lb.step input) := by
    intro lb input ⟨sound, apart⟩
    exact ⟨step_sound sound input, stepped_apart sound.tables (sound.stepped input) apart⟩
  have start : Apart (create routingMode configured listenFd healthTimerFd) := by
    rintro fd (client | backend)
    · cases client
    · cases backend
  exact (run_invariant step keeps
    ⟨create_sound routingMode configured listenFd healthTimerFd, start⟩ inputs).2

theorem step_pair_event {lb : LoadBalancer} (apart : Apart lb) {fd : Int} (held : Held lb fd)
    (flags : EventMask) (answers : EventAnswers) :
    lb.step (.event fd flags answers) = lb.handlePairEvent fd flags answers := by
  obtain ⟨listener, timer, unchecked⟩ := apart fd held
  simp only [step, handleEvent, if_neg listener, if_neg timer, unchecked, Bool.false_eq_true,
    if_false]

/-- In every state of every run `backend_to_client` is the inverse of the pairs'
`backend_fd`, no socket is the client of one pair and the backend of another, every
pair is filed under its client, and each backend counts exactly the pairs that are
attached to it, so that there is always something to count down. -/
theorem pair_tables_agree (routingMode : RoutingMode) (configured : List (Bytes × Nat))
    (listenFd healthTimerFd : Int) (inputs : List Input) :
    let lb := run step (create routingMode configured listenFd healthTimerFd) inputs
    (∀ backendFd clientFd, lb.backendToClient.lookup backendFd = some clientFd ↔
      ∃ pair, lb.connections.lookup clientFd = some pair ∧ pair.backendFd = backendFd ∧
        backendFd ≠ -1) ∧
    (∀ fd, ¬ (fd ∈ lb.connections ∧ fd ∈ lb.backendToClient)) ∧
    (∀ clientFd pair, lb.connections.lookup clientFd = some pair → pair.clientFd = clientFd) ∧
    (∀ index backend, lb.backendPool[index]? = some backend →
      backend.connectionCount = lb.connections.entries.countP fun entry =>
        entry.2.backendFd ≠ -1 && entry.2.backendIndex = index) ∧
    (∀ clientFd pair backend, lb.connections.lookup clientFd = some pair →
      pair.backendFd ≠ -1 → lb.backendPool[pair.backendIndex]? = some backend →
      backend.connectionCount > 0) := by
  intro lb
  have tables : Tables lb := (run_sound routingMode configured listenFd healthTimerFd inputs).tables
  refine ⟨tables.wiring.mapped, ?_, tables.wiring.keyed, tables.counted, ?_⟩
  · intro fd both
    rcases tables.wiring.apart fd with missing | free
    · exact AList.lookup_eq_none.mp missing both.1
    · exact AList.lookup_eq_none.mp free both.2
  · intro clientFd pair backend found attached stored
    have here : attachedTo pair.backendIndex pair = true := by
      simp [attachedTo, attached]
    rw [tables.counted _ _ stored, count_erase_found _ found, if_pos here]
    omega

end Aorta.Lb.LoadBalancer
