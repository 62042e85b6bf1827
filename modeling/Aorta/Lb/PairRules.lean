import Aorta.Lb.PairTables

/-!
# What every pair keeps

A pair is accepted, changed by moves, attached to a backend socket and detached from
it. A property of pairs that survives each of these holds of all pairs of every run.
-/

namespace Aorta.Lb

open Relation Aorta.Library.Ascii Aorta.Library.FiniteMap Aorta.Library.Run Aorta.Net

set_option autoImplicit false

/-- What a stage of an event keeps: of every pair, of the pair of the event, and of the
pairs that are closed. -/
structure Staged (may : May) (base ready : ConnectionPair → Prop)
    (whole : ConnectionPair → CloseReason → Prop) : Prop where
  accepted : may.accepts → ∀ fd clientIp,
    base (acceptedPair fd clientIp) ∧ ready (acceptedPair fd clientIp)
  moved : ∀ {pair after}, PairMove may pair after → base pair → ready pair →
    base after ∧ ready after
  attached : ∀ {pair} fd index connecting, fd ≠ -1 → pair.backendFd = -1 →
    pair.metricsConnection = false → base pair → ready pair →
    base (attachedPair pair fd index connecting) ∧ ready (attachedPair pair fd index connecting)
  detached : ∀ {pair}, may.detaches → may.trouble → pair.backendFd ≠ -1 →
    pair.backendConnecting = true → base pair → ready pair →
    base (LoadBalancer.resetBackend pair) ∧ ready (LoadBalancer.resetBackend pair)
  closed : ∀ {pair} reason, base pair → ready pair → Justified may pair reason →
    whole pair reason

structure Holds (base ready : ConnectionPair → Prop) (whole : ConnectionPair → CloseReason → Prop)
    (clientFd : Int) (lb : LoadBalancer) : Prop where
  opened : ∀ other pair, lb.connections.lookup other = some pair → base pair
  ready : ∀ pair, lb.connections.lookup clientFd = some pair → ready pair
  closed : ∀ pair reason, (pair, reason) ∈ lb.closed → whole pair reason

section Rules

variable {may : May} {base ready : ConnectionPair → Prop}
  {whole : ConnectionPair → CloseReason → Prop} {clientFd : Int} {lb after : LoadBalancer}

theorem Holds.insert (holds : Holds base ready whole clientFd lb) {fd : Int}
    {pair : ConnectionPair} (connections : after.connections = lb.connections.insert fd pair)
    (closed : after.closed = lb.closed) (both : base pair ∧ ready pair) :
    Holds base ready whole clientFd after := by
  constructor
  · intro other stored found
    rw [connections] at found
    by_cases same : other = fd
    · subst same
      rw [AList.lookup_insert] at found
      cases found
      exact both.1
    · rw [AList.lookup_insert_ne same] at found
      exact holds.opened other stored found
  · intro stored found
    rw [connections] at found
    by_cases same : clientFd = fd
    · subst same
      rw [AList.lookup_insert] at found
      cases found
      exact both.2
    · rw [AList.lookup_insert_ne same] at found
      exact holds.ready stored found
  · rw [closed]
    exact holds.closed

theorem Holds.close (holds : Holds base ready whole clientFd lb) {pair : ConnectionPair}
    {reason : CloseReason} (found : lb.connections.lookup clientFd = some pair)
    (final : whole pair reason) :
    Holds base ready whole clientFd (lb.closeConnection clientFd reason) := by
  rcases lb.close_connection_cases reason found with same | ⟨connections, closed⟩
  · rw [same]
    exact holds
  · constructor
    · intro other stored isStored
      rw [connections] at isStored
      by_cases same : other = clientFd
      · subst same
        simp at isStored
      · rw [AList.lookup_erase_ne same] at isStored
        exact holds.opened other stored isStored
    · intro stored isStored
      rw [connections] at isStored
      simp at isStored
    · intro stored why member
      rw [closed, List.mem_append, List.mem_singleton] at member
      rcases member with earlier | now
      · exact holds.closed stored why earlier
      · cases now
        exact final

theorem pair_moves_staged (staged : Staged may base ready whole) {pair new : ConnectionPair}
    (moves : ReflTransGen (PairMove may) pair new) (both : base pair ∧ ready pair) :
    base new ∧ ready new := by
  induction moves with
  | refl => exact both
  | tail _ move ih => exact staged.moved move ih.1 ih.2

theorem move_staged (staged : Staged may base ready whole) (move : Move may clientFd lb after)
    (holds : Holds base ready whole clientFd lb) : Holds base ready whole clientFd after := by
  have both : ∀ {pair}, lb.connections.lookup clientFd = some pair → base pair ∧ ready pair :=
    fun found => ⟨holds.opened _ _ found, holds.ready _ found⟩
  cases move with
  | counted after connections backends closed counts =>
      constructor
      · rw [connections]
        exact holds.opened
      · rw [connections]
        exact holds.ready
      · rw [closed]
        exact holds.closed
  | dialled dials pair index found detached plain => exact ⟨holds.opened, holds.ready, holds.closed⟩
  | accepted accepts fd clientIp free =>
      exact holds.insert rfl rfl (staged.accepted accepts fd clientIp)
  | touched pair after found moves =>
      exact holds.insert rfl rfl (pair_moves_staged staged moves (both found))
  | attached pair fd index connecting found detached plain free =>
      exact holds.insert rfl rfl (staged.attached fd index connecting (unused free).2.2 detached
        plain (both found).1 (both found).2)
  | detached pair found attached connecting detaches trouble =>
      unfold LoadBalancer.dropFailedBackend
      rw [if_pos attached]
      exact holds.insert rfl rfl
        (staged.detached detaches trouble attached connecting (both found).1 (both found).2)
  | closed pair reason found justified =>
      exact holds.close found (staged.closed reason (both found).1 (both found).2 justified)

theorem moves_staged (staged : Staged may base ready whole) (moves : Moves may clientFd lb after)
    (holds : Holds base ready whole clientFd lb) : Holds base ready whole clientFd after := by
  induction moves with
  | refl => exact holds
  | tail _ move ih => exact move_staged staged move ih

/-- Where every pair is ready there is nothing to be ready for. -/
theorem Staged.always (staged : Staged may base ready whole)
    (all : ∀ pair, base pair → ready pair) : Staged may base (fun _ => True) whole where
  accepted accepts fd clientIp := ⟨(staged.accepted accepts fd clientIp).1, trivial⟩
  moved move holds _ := ⟨(staged.moved move holds (all _ holds)).1, trivial⟩
  attached fd index connecting socket detached plain holds _ :=
    ⟨(staged.attached fd index connecting socket detached plain holds (all _ holds)).1, trivial⟩
  detached detaches trouble attached connecting holds _ :=
    ⟨(staged.detached detaches trouble attached connecting holds (all _ holds)).1, trivial⟩
  closed reason holds _ justified := staged.closed reason holds (all _ holds) justified

end Rules

/-- A property of pairs that everything which happens to one keeps. -/
structure Kept (may : May) (property : ConnectionPair → Prop) : Prop where
  accepted : ∀ fd clientIp, property (acceptedPair fd clientIp)
  moved : ∀ {pair after}, PairMove may pair after → property pair → property after
  attached : ∀ {pair} fd index connecting, pair.backendFd = -1 →
    pair.metricsConnection = false → property pair →
    property (attachedPair pair fd index connecting)
  detached : ∀ {pair}, pair.backendFd ≠ -1 → pair.backendConnecting = true → may.trouble →
    property pair → property (LoadBalancer.resetBackend pair)

/-- All open pairs have the property, and the closed ones had it when they were closed. -/
structure AllPairs (property : ConnectionPair → Prop) (lb : LoadBalancer) : Prop where
  opened : ∀ clientFd pair, lb.connections.lookup clientFd = some pair → property pair
  closed : ∀ pair reason, (pair, reason) ∈ lb.closed → property pair

variable {may : May} {property : ConnectionPair → Prop}

theorem Kept.staged (kept : Kept may property) :
    Staged may property (fun _ => True) fun pair _ => property pair where
  accepted _ fd clientIp := ⟨kept.accepted fd clientIp, trivial⟩
  moved move holds _ := ⟨kept.moved move holds, trivial⟩
  attached fd index connecting _ detached plain holds _ :=
    ⟨kept.attached fd index connecting detached plain holds, trivial⟩
  detached _ trouble attached connecting holds _ :=
    ⟨kept.detached attached connecting trouble holds, trivial⟩
  closed _ holds _ _ := holds

theorem moves_kept (kept : Kept may property) {clientFd : Int} {lb after : LoadBalancer}
    (moves : Moves may clientFd lb after) (all : AllPairs property lb) :
    AllPairs property after := by
  have holds := moves_staged kept.staged moves ⟨all.opened, fun _ _ => trivial, all.closed⟩
  exact ⟨holds.opened, holds.closed⟩

namespace LoadBalancer

/-- What an event of a pair keeps, stage by stage: the pair is ready to be read, from
that ready to be settled, and ready for a failover if its connect fails. -/
inductive StagedEvent (base : ConnectionPair → Prop)
    (whole : ConnectionPair → CloseReason → Prop) (lb : LoadBalancer) (fd : Int)
    (flags : EventMask) (answers : EventAnswers) : Prop
  | intro (toRead toSettle toFail : ConnectionPair → Prop)
      (starts : ∀ pair, lb.connections.lookup (lb.clientOf fd) = some pair → base pair →
        toRead pair)
      (reads : Staged (reading (lb.backendToClient.lookup fd).isSome flags answers
        (lb.budgetOf fd answers)) base toRead whole)
      (goesOn : ∀ pair, base pair → toRead pair → toSettle pair)
      (settles : Staged (settling (lb.backendToClient.lookup fd).isSome flags answers) base
        toSettle whole)
      (fails : (lb.backendToClient.lookup fd).isSome = true → ConnectFails flags answers →
        ∀ pair, pair.backendFd ≠ -1 → pair.backendConnecting = true → base pair →
        toSettle pair → toFail pair)
      (after : Staged failing base toFail whole)

theorem stepped_staged {base : ConnectionPair → Prop}
    {whole : ConnectionPair → CloseReason → Prop} {lb after : LoadBalancer} {input : Input}
    (tables : Tables lb) (idle : Staged quiet base (fun _ => True) whole)
    (events : ∀ fd flags answers, input = .event fd flags answers →
      StagedEvent base whole lb fd flags answers)
    (stepped : Stepped lb input after)
    (opened : ∀ clientFd pair, lb.connections.lookup clientFd = some pair → base pair)
    (closed : ∀ pair reason, (pair, reason) ∈ lb.closed → whole pair reason) :
    (∀ clientFd pair, after.connections.lookup clientFd = some pair → base pair) ∧
      ∀ pair reason, (pair, reason) ∈ after.closed → whole pair reason := by
  cases stepped with
  | quiet input after moves =>
      have holds := moves_staged idle moves ⟨opened, fun _ _ => trivial, closed⟩
      exact ⟨holds.opened, holds.closed⟩
  | relayed fd flags answers between last after reads settles ends =>
      obtain ⟨toRead, toSettle, toFail, starts, readStage, goesOn, settleStage, fails, overStage⟩ :=
        events fd flags answers rfl
      have read := moves_staged readStage reads
        ⟨opened, fun pair found => starts pair found (opened _ _ found), closed⟩
      have settled := moves_staged settleStage settles
        ⟨read.opened, fun pair found => goesOn pair (read.opened _ _ found) (read.ready _ found),
          read.closed⟩
      cases ends with
      | no => exact ⟨settled.opened, settled.closed⟩
      | yes pair found backend attached connecting failing =>
          have settledTables : Tables last := moves_tables (moves_tables tables reads) settles
          have ready : ∀ other, last.connections.lookup (lb.clientOf fd) = some other →
              toFail other := by
            intro other isOther
            rw [found] at isOther
            cases isOther
            exact fails backend failing pair attached connecting (settled.opened _ _ found)
              (settled.ready _ found)
          have holds := moves_staged overStage
            (failover_moves settledTables found attached connecting answers.dials)
            ⟨settled.opened, ready, settled.closed⟩
          exact ⟨holds.opened, holds.closed⟩
  | stopped =>
      constructor
      · intro clientFd pair found
        cases found
      · exact closed

theorem stepped_kept (kept : ∀ may, Kept may property) {lb after : LoadBalancer} {input : Input}
    (tables : Tables lb) (stepped : Stepped lb input after) (all : AllPairs property lb) :
    AllPairs property after := by
  cases stepped with
  | quiet input after moves => exact moves_kept (kept _) moves all
  | relayed fd flags answers between last after reads settles ends =>
      have settled : Tables last := moves_tables (moves_tables tables reads) settles
      exact moves_kept (kept _) (fails_over_moves settled ends)
        (moves_kept (kept _) settles (moves_kept (kept _) reads all))
  | stopped =>
      constructor
      · intro clientFd pair found
        cases found
      · exact all.closed

/-- What is kept whatever happens holds of all pairs in every run. -/
theorem run_kept (kept : ∀ may, Kept may property) (routingMode : RoutingMode)
    (configured : List (Bytes × Nat)) (listenFd healthTimerFd : Int) (inputs : List Input) :
    AllPairs property
      (run step (create routingMode configured listenFd healthTimerFd) inputs) := by
  have keeps : ∀ (lb : LoadBalancer) (input : Input), (Sound lb ∧ AllPairs property lb) →
      Sound (lb.step input) ∧ AllPairs property (lb.step input) := by
    intro lb input holds
    obtain ⟨sound, all⟩ := holds
    exact ⟨step_sound sound input, stepped_kept kept sound.tables (sound.stepped input) all⟩
  have start : AllPairs property (create routingMode configured listenFd healthTimerFd) := by
    constructor
    · intro clientFd pair found
      cases found
    · intro pair reason member
      cases member
  exact (run_invariant step keeps
    ⟨create_sound routingMode configured listenFd healthTimerFd, start⟩ inputs).2

end LoadBalancer

end Aorta.Lb
