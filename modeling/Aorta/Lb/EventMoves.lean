import Aorta.Lb.Accounting

/-!
# An event is a sequence of moves

The sockets are read first, then the buffers are flushed and the half-closes issued,
and if the backend could not be reached the event ends with a failover: the moves of
an event come in stages, with different things that can happen.
-/

namespace Aorta.Lb

open Relation Aorta.Library.Ascii Aorta.Library.FiniteMap Aorta.Net

set_option autoImplicit false

/-- The backend of the pair fails: its socket reports an error or hangs up with
nothing to read, `recv`, `getsockopt` or `send` on it fails. -/
def BackendTrouble (isBackendFd : Bool) (flags : EventMask) (answers : EventAnswers) : Prop :=
  isBackendFd = true ∧ (flags.error = true ∨ flags.hangup = true ∧ flags.input = false ∨
    .failed ∈ answers.recvs ∨ .failed ∈ answers.drains ∨ answers.socketError = true) ∨
    Fails answers.backendSends

instance (isBackendFd : Bool) (flags : EventMask) (answers : EventAnswers) :
    Decidable (BackendTrouble isBackendFd flags answers) :=
  inferInstanceAs (Decidable (_ ∨ _))

/-- What can happen while the sockets are read. -/
def reading (isBackendFd : Bool) (flags : EventMask) (answers : EventAnswers)
    (budget : Side → Nat) : May where
  accepts := False
  dials := isBackendFd = false ∧ flags.input = true
  data := isBackendFd = true ∧ (GivesData answers.recvs ∨ GivesData answers.drains)
  ends := isBackendFd = true ∧ (.received [] ∈ answers.recvs ∨ .received [] ∈ answers.drains)
  trouble := BackendTrouble isBackendFd flags answers
  hangup := isBackendFd = false ∧ flags.error = false ∧ flags.hangup = true ∧ flags.input = false
  writes := False
  detaches := False
  budget := budget

/-- What can happen once they have been read. -/
def settling (isBackendFd : Bool) (flags : EventMask) (answers : EventAnswers) : May where
  accepts := False
  dials := False
  data := False
  ends := False
  trouble := BackendTrouble isBackendFd flags answers
  hangup := False
  writes := True
  detaches := False
  budget := fun _ => 0

/-- What can happen during a failover. -/
def failing : May where
  accepts := False
  dials := True
  data := False
  ends := False
  trouble := True
  hangup := False
  writes := False
  detaches := True
  budget := fun _ => 0

/-- The connect of a backend socket has failed. -/
def ConnectFails (flags : EventMask) (answers : EventAnswers) : Prop :=
  flags.error = true ∨ flags.hangup = true ∧ flags.input = false ∨
    flags.output = true ∧ answers.socketError = true

/-- How an event ends: as it stands, or with a failover. -/
inductive FailsOver (clientFd : Int) (isBackendFd : Bool) (flags : EventMask)
    (answers : EventAnswers) (lb : LoadBalancer) : LoadBalancer → Prop
  | no : FailsOver clientFd isBackendFd flags answers lb lb
  | yes (pair : ConnectionPair) (found : lb.connections.lookup clientFd = some pair)
      (backend : isBackendFd = true) (attached : pair.backendFd ≠ -1)
      (connecting : pair.backendConnecting = true) (fails : ConnectFails flags answers) :
      FailsOver clientFd isBackendFd flags answers lb
        (lb.failoverConnection clientFd pair.backendIndex answers.dials)

/-- Nothing happens on the sockets of any pair. -/
def quiet : May where
  accepts := True
  dials := False
  data := False
  ends := False
  trouble := False
  hangup := False
  writes := False
  detaches := False
  budget := fun _ => 0

namespace Tables

variable {lb : LoadBalancer} (tables : Tables lb) {clientFd : Int} {pair : ConnectionPair}

include tables

theorem owner_lookup (found : lb.connections.lookup clientFd = some pair)
    (attached : pair.backendFd ≠ -1) :
    lb.backendToClient.lookup pair.backendFd = some clientFd :=
  tables.wiring.owned found attached

theorem client_lookup (found : lb.connections.lookup clientFd = some pair) :
    pair.clientFd = clientFd ∧ lb.backendToClient.lookup clientFd = none :=
  ⟨tables.wiring.keyed clientFd pair found, tables.wiring.unowned found⟩

theorem close_socket (found : lb.connections.lookup clientFd = some pair) (side : Side)
    (attached : side = .backend → pair.backendFd ≠ -1) (reason : CloseReason) :
    lb.closeSocket (pair.socket side) reason = lb.closeConnection clientFd reason := by
  unfold LoadBalancer.closeSocket
  cases side with
  | client =>
      obtain ⟨rfl, unowned⟩ := tables.client_lookup found
      simp only [ConnectionPair.socket, unowned]
  | backend =>
      simp only [ConnectionPair.socket, tables.owner_lookup found (attached rfl)]

theorem close_failed_socket (found : lb.connections.lookup clientFd = some pair) (side : Side)
    (attached : side = .backend → pair.backendFd ≠ -1) (reason : CloseReason) :
    lb.closeFailedSocket (pair.socket side) reason = lb.closeConnection clientFd reason := by
  unfold LoadBalancer.closeFailedSocket
  obtain ⟨rfl, unowned⟩ := tables.client_lookup found
  cases side with
  | client => simp only [ConnectionPair.socket, unowned]
  | backend =>
      simp only [ConnectionPair.socket, tables.owner_lookup found (attached rfl), found]

theorem note_end (found : lb.connections.lookup clientFd = some pair) (side : Side)
    (attached : side = .backend → pair.backendFd ≠ -1) :
    lb.noteEnd (pair.socket side) = lb.setPair clientFd (pair.endRead side) := by
  unfold LoadBalancer.noteEnd
  cases side with
  | client =>
      obtain ⟨rfl, unowned⟩ := tables.client_lookup found
      simp only [ConnectionPair.socket, unowned, found]
  | backend =>
      simp only [ConnectionPair.socket, tables.owner_lookup found (attached rfl), found]

end Tables

theorem lookup_set_pair (lb : LoadBalancer) (clientFd : Int) (pair : ConnectionPair) :
    (lb.setPair clientFd pair).connections.lookup clientFd = some pair := by
  simp [LoadBalancer.setPair]

/-! ### Reading and sending -/

section Phases

variable {may : May} {clientFd : Int} {lb : LoadBalancer}

theorem touch_moves {pair after : ConnectionPair}
    (found : lb.connections.lookup clientFd = some pair)
    (moves : ReflTransGen (PairMove may) pair after) :
    Moves may clientFd lb (lb.setPair clientFd after) :=
  .single (.touched pair after found moves)

theorem touch_close_moves {pair after : ConnectionPair}
    (found : lb.connections.lookup clientFd = some pair)
    (moves : ReflTransGen (PairMove may) pair after) {reason : CloseReason}
    (justified : Justified may after reason) :
    Moves may clientFd lb ((lb.setPair clientFd after).closeConnection clientFd reason) :=
  (touch_moves found moves).tail
    (.closed after reason (lookup_set_pair lb clientFd after) justified)

theorem same_socket {before after : ConnectionPair} (same : SameSockets before after)
    (side : Side) : before.socket side = after.socket side := by
  cases side with
  | client => exact same.client.symm
  | backend => exact same.backend.symm

theorem forward_same_sockets (pair : ConnectionPair) (side : Side) (drain : Bool)
    (recvs : List RecvResult) : SameSockets pair (pair.forward drain recvs side).2 := by
  unfold ConnectionPair.forward
  cases side with
  | client => exact ⟨rfl, rfl, rfl, fun _ => rfl, fun _ => rfl⟩
  | backend => exact ⟨rfl, rfl, rfl, fun _ => rfl, fun _ => rfl⟩

theorem flush_same_sockets (pair : ConnectionPair) (side : Side) (sends : List SendResult) :
    SameSockets pair (pair.flush sends side).2 := by
  unfold ConnectionPair.flush
  cases side with
  | client => exact ⟨rfl, rfl, rfl, fun _ => rfl, fun _ => rfl⟩
  | backend => exact ⟨rfl, rfl, rfl, fun _ => rfl, fun _ => rfl⟩

/-- What `forwardData` does once its loop has been left: the end of a stream is noted with
the pair, and a failure closes it. -/
theorem forward_data_eq (tables : Tables lb) {pair : ConnectionPair}
    (found : lb.connections.lookup clientFd = some pair) (side : Side) (drain : Bool)
    (recvs : List RecvResult) (attached : side = .backend → pair.backendFd ≠ -1) :
    lb.forwardData clientFd side drain recvs =
      let after := (pair.forward drain recvs side).2
      match (pair.forward drain recvs side).1 with
      | .forwarded => .next (lb.setPair clientFd after)
      | .ended => .next ((lb.setPair clientFd after).setPair clientFd (after.endRead side))
      | .overflowed => .stop ((lb.setPair clientFd after).closeConnection clientFd .overflow)
      | .failed => .stop ((lb.setPair clientFd after).closeConnection clientFd
          (LoadBalancer.failedReason side)) := by
  have same := forward_same_sockets pair side drain recvs
  unfold LoadBalancer.forwardData
  simp only [found]
  generalize pair.forward drain recvs side = outcome at same
  obtain ⟨result, after⟩ := outcome
  have tablesAfter : Tables (lb.setPair clientFd after) := tables.touch found same
  have foundAfter := lookup_set_pair lb clientFd after
  have attachedAfter : side = .backend → after.backendFd ≠ -1 := by
    intro isBackend
    rw [same.backend]
    exact attached isBackend
  cases result with
  | forwarded => rfl
  | ended =>
      simp only
      rw [same_socket same, tablesAfter.note_end foundAfter side attachedAfter]
  | overflowed =>
      simp only
      rw [same_socket same, tablesAfter.close_socket foundAfter side attachedAfter]
  | failed =>
      simp only
      rw [same_socket same, tablesAfter.close_failed_socket foundAfter side attachedAfter]

theorem flush_data_eq (tables : Tables lb) {pair : ConnectionPair}
    (found : lb.connections.lookup clientFd = some pair) (side : Side) (sends : List SendResult)
    (attached : side = .backend → pair.backendFd ≠ -1) :
    lb.flushData clientFd side sends =
      let after := (pair.flush sends side).2
      if (pair.flush sends side).1 then lb.setPair clientFd after
      else (lb.setPair clientFd after).closeConnection clientFd
        (LoadBalancer.failedReason side) := by
  have same := flush_same_sockets pair side sends
  unfold LoadBalancer.flushData
  simp only [found]
  generalize pair.flush sends side = outcome at same
  obtain ⟨good, after⟩ := outcome
  have tablesAfter : Tables (lb.setPair clientFd after) := tables.touch found same
  have attachedAfter : side = .backend → after.backendFd ≠ -1 := by
    intro isBackend
    rw [same.backend]
    exact attached isBackend
  rw [same_socket same,
    tablesAfter.close_socket (lookup_set_pair lb clientFd after) side attachedAfter]

theorem forward_data_moves (tables : Tables lb) {pair : ConnectionPair}
    (found : lb.connections.lookup clientFd = some pair) (side : Side) (drain : Bool)
    (recvs : List RecvResult) (client : side = .client → pair.metricsConnection = false)
    (attached : side = .backend → pair.backendFd ≠ -1)
    (data : side = .backend → GivesData recvs → may.data)
    (ends : side = .backend → .received [] ∈ recvs → may.ends)
    (trouble : side = .backend → .failed ∈ recvs → may.trouble)
    (within : (readFrom side pair.trace).length + arriving recvs ≤ may.budget side) :
    Moves may clientFd lb (lb.forwardData clientFd side drain recvs).state := by
  have moved := pair.forward_moves may side drain recvs client attached data within
  obtain ⟨ended, failed⟩ := pair.forward_result side drain recvs
  have same := forward_same_sockets pair side drain recvs
  rw [forward_data_eq tables found side drain recvs attached]
  generalize pair.forward drain recvs side = outcome at moved ended failed same
  obtain ⟨result, after⟩ := outcome
  cases result with
  | forwarded => exact touch_moves found moved
  | ended =>
      apply (touch_moves found moved).tail
      apply Move.touched after _ (lookup_set_pair lb clientFd after)
      apply ReflTransGen.single
      apply PairMove.ended side
      intro isBackend
      refine ⟨ends isBackend (ended rfl), ?_⟩
      rw [same.backend]
      exact attached isBackend
  | overflowed => exact touch_close_moves found moved trivial
  | failed =>
      apply touch_close_moves found moved
      cases side with
      | client => trivial
      | backend => exact trouble rfl (failed rfl)

theorem flush_data_moves (tables : Tables lb) (writes : may.writes) {pair : ConnectionPair}
    (found : lb.connections.lookup clientFd = some pair) (side : Side) (sends : List SendResult)
    (backend : side = .backend → pair.backendFd ≠ -1 ∧ pair.backendConnecting = false)
    (trouble : side = .backend → Fails sends → may.trouble) :
    Moves may clientFd lb (lb.flushData clientFd side sends) := by
  have moved := pair.flush_moves writes side sends backend
  have fails := pair.flush_fails side sends
  rw [flush_data_eq tables found side sends fun isBackend => (backend isBackend).1]
  generalize pair.flush sends side = outcome at moved fails
  obtain ⟨good, after⟩ := outcome
  cases good with
  | true => exact touch_moves found moved
  | false =>
      apply touch_close_moves found moved
      cases side with
      | client => trivial
      | backend => exact trouble rfl (fails rfl)

/-! ### Dialling -/

/-- The pair is there and can be given a backend socket. -/
def Dialable (lb : LoadBalancer) (clientFd : Int) : Prop :=
  ∃ pair, lb.connections.lookup clientFd = some pair ∧ pair.backendFd = -1 ∧
    pair.metricsConnection = false

theorem close_dialable (dialable : Dialable lb clientFd) :
    Moves may clientFd lb (lb.closeConnection clientFd .noBackend) := by
  obtain ⟨pair, found, detached, -⟩ := dialable
  exact .single (.closed pair .noBackend found detached)

theorem SameWatch.of_eq {before after : LoadBalancer} (listener : after.listenFd = before.listenFd)
    (timer : after.healthTimerFd = before.healthTimerFd)
    (checker : after.healthChecker = before.healthChecker) : SameWatch before after :=
  ⟨listener, timer, fun _ handled => .inl (checker ▸ handled)⟩

theorem counted_moves {after : LoadBalancer} (connections : after.connections = lb.connections)
    (backends : after.backendToClient = lb.backendToClient) (closed : after.closed = lb.closed)
    (counts : SameCounts after.backendPool lb.backendPool) (watch : SameWatch lb after)
    (dialled : after.dialled = lb.dialled)
    (pool : after.backendPool = lb.backendPool ∨ may.accepts ∨
      may.dials ∧ clientFd ∈ lb.connections) :
    Moves may clientFd lb after :=
  .single (.counted after connections backends closed counts watch dialled pool)

theorem connect_to_backend_free (sockets : List SocketAnswer) {fd : Int} {connecting : Bool}
    (dialled : lb.connectToBackend sockets = some (fd, connecting)) : lb.inUse fd = false := by
  induction sockets with
  | nil => cases dialled
  | cons answer sockets ih =>
      cases answer with
      | unusable => exact ih dialled
      | connected candidate =>
          unfold LoadBalancer.connectToBackend at dialled
          split_ifs at dialled with used
          · exact ih dialled
          · cases dialled
            exact Bool.eq_false_iff.mpr used
      | inProgress candidate =>
          unfold LoadBalancer.connectToBackend at dialled
          split_ifs at dialled with used
          · exact ih dialled
          · cases dialled
            exact Bool.eq_false_iff.mpr used

/-- What the callers of `tryBackend` make of a pair when `epoll.add` fails. -/
def Undoes (detach : ConnectionPair → ConnectionPair) : Prop :=
  ∀ (pair : ConnectionPair) (fd : Int) (index : Nat) (connecting : Bool), pair.backendFd = -1 →
    ∃ (left : Bool) (events : EventMask),
      detach { pair with
        backendFd := fd, backendIndex := index, backendConnecting := connecting } =
      { pair with
        backendIndex := index, backendConnecting := left, currentBackendEvents := events }

theorem drop_backend_undoes : Undoes LoadBalancer.dropBackend := by
  intro pair fd index connecting detached
  refine ⟨connecting, pair.currentBackendEvents, ?_⟩
  simp [LoadBalancer.dropBackend, ← detached]

theorem reset_backend_undoes : Undoes LoadBalancer.resetBackend := by
  intro pair fd index connecting detached
  refine ⟨false, {}, ?_⟩
  simp [LoadBalancer.resetBackend, ← detached]

/-- What a dial for a client that has a pair comes to: no address gives a socket, the
socket is not watched, or it is the backend's. -/
inductive Tries (lb : LoadBalancer) (clientFd : Int) (pair : ConnectionPair) (index : Nat)
    (dial : Dial) (detach : ConnectionPair → ConnectionPair) : Bool × LoadBalancer → Prop
  | refused (dialled : lb.connectToBackend dial.sockets = none) :
      Tries lb clientFd pair index dial detach
        (false, lb.modifyBackend index Backend.countFailedConnection)
  | unwatched (fd : Int) (connecting : Bool)
      (dialled : lb.connectToBackend dial.sockets = some (fd, connecting))
      (added : dial.added = false) :
      Tries lb clientFd pair index dial detach
        (false, ((lb.modifyBackend index Backend.takeConnection).modifyBackend index
          Backend.releaseConnection).setPair clientFd
            (detach { pair with
              backendFd := fd, backendIndex := index, backendConnecting := connecting }))
  | connected (fd : Int) (connecting : Bool)
      (dialled : lb.connectToBackend dial.sockets = some (fd, connecting))
      (added : dial.added = true) :
      Tries lb clientFd pair index dial detach
        (true, { (lb.modifyBackend index Backend.takeConnection).setPair clientFd
            ({ pair with
              backendFd := fd
              backendIndex := index
              backendConnecting := connecting
              currentBackendEvents := LoadBalancer.dialEvents connecting }.record
                [.opened fd index]) with
          backendToClient := lb.backendToClient.insert fd clientFd })

theorem try_backend_tries {pair : ConnectionPair}
    (found : lb.connections.lookup clientFd = some pair) (index : Nat) (dial : Dial)
    (detach : ConnectionPair → ConnectionPair) :
    Tries (lb.recordDial clientFd index) clientFd pair index dial detach
      (lb.tryBackend clientFd index dial detach) := by
  unfold LoadBalancer.tryBackend
  simp only [found]
  cases dialled : (lb.recordDial clientFd index).connectToBackend dial.sockets with
  | none => exact .refused dialled
  | some answer =>
      obtain ⟨fd, connecting⟩ := answer
      cases added : dial.added with
      | false => exact .unwatched fd connecting dialled added
      | true => exact .connected fd connecting dialled added

theorem try_backend_moves (dials : may.dials) {detach : ConnectionPair → ConnectionPair}
    (undoes : Undoes detach) (dialable : Dialable lb clientFd) (index : Nat) (dial : Dial) :
    Moves may clientFd lb (lb.tryBackend clientFd index dial detach).2 ∧
      ((lb.tryBackend clientFd index dial detach).1 = false →
        Dialable (lb.tryBackend clientFd index dial detach).2 clientFd) := by
  obtain ⟨pair, found, detached, plain⟩ := dialable
  have recorded : Moves may clientFd lb (lb.recordDial clientFd index) :=
    .single (.dialled dials pair index found detached plain)
  have tries := try_backend_tries found index dial detach
  have isFound : (lb.recordDial clientFd index).connections.lookup clientFd = some pair := found
  generalize lb.tryBackend clientFd index dial detach = outcome at tries ⊢
  generalize lb.recordDial clientFd index = tried at tries recorded isFound
  have stored : clientFd ∈ tried.connections := by
    rw [← AList.lookup_isSome, isFound]
    rfl
  cases tries with
  | refused dialled =>
      constructor
      · apply recorded.trans
        exact counted_moves rfl rfl rfl (SameCounts.modify _ _ fun _ => rfl) (.of_eq rfl rfl rfl)
          rfl (.inr (.inr ⟨dials, stored⟩))
      · intro _
        exact ⟨pair, isFound, detached, plain⟩
  | unwatched fd connecting dialled added =>
      obtain ⟨left, events, undone⟩ := undoes pair fd index connecting detached
      rw [undone]
      constructor
      · have counted : Moves may clientFd tried ((tried.modifyBackend index
            Backend.takeConnection).modifyBackend index Backend.releaseConnection) :=
          counted_moves rfl rfl rfl (SameCounts.take_release _ _) (.of_eq rfl rfl rfl) rfl
            (.inr (.inr ⟨dials, stored⟩))
        exact (recorded.trans counted).trans (touch_moves isFound
          (.single (.redialled detached index left events)))
      · intro _
        exact ⟨_, lookup_set_pair _ _ _, detached, plain⟩
  | connected fd connecting dialled added =>
      have free := connect_to_backend_free dial.sockets dialled
      refine ⟨recorded.tail ?_, nofun⟩
      exact .attached pair fd index connecting isFound detached plain free dials

theorem try_backend_member {pair : ConnectionPair}
    (found : lb.connections.lookup clientFd = some pair) (index : Nat) (dial : Dial)
    (detach : ConnectionPair → ConnectionPair) :
    clientFd ∈ (lb.tryBackend clientFd index dial detach).2.connections := by
  have tries := try_backend_tries found index dial detach
  generalize lb.tryBackend clientFd index dial detach = outcome at tries ⊢
  rw [← AList.lookup_isSome]
  cases tries with
  | refused dialled => exact congrArg Option.isSome found
  | unwatched fd connecting dialled added => rw [lookup_set_pair]; rfl
  | connected fd connecting dialled added =>
      exact congrArg Option.isSome (lookup_set_pair _ _ _)

theorem select_round_robin_same (lb : LoadBalancer) :
    ∃ next, lb.selectRoundRobinBackend.2 = { lb with nextBackendIndex := next } := by
  unfold LoadBalancer.selectRoundRobinBackend
  split_ifs
  · exact ⟨lb.nextBackendIndex, rfl⟩
  · exact ⟨_, rfl⟩

theorem next_candidate_same (lb : LoadBalancer) (initial : Nat) (first : Bool)
    (attempted : List Nat) :
    ∃ next,
      (lb.nextCandidate initial first attempted).2 = { lb with nextBackendIndex := next } := by
  unfold LoadBalancer.nextCandidate
  split_ifs
  · exact ⟨lb.nextBackendIndex, rfl⟩
  · split
    · exact select_round_robin_same lb
    · exact ⟨lb.nextBackendIndex, rfl⟩

theorem select_backend_same (lb : LoadBalancer) (clientIp : Bytes) :
    ∃ next, (lb.selectBackend clientIp).2 = { lb with nextBackendIndex := next } := by
  unfold LoadBalancer.selectBackend
  split_ifs
  · exact ⟨lb.nextBackendIndex, rfl⟩
  · split
    · exact select_round_robin_same lb
    · exact ⟨lb.nextBackendIndex, rfl⟩

theorem connect_loop_moves (dialling : may.dials) (initial attempts : Nat) (first : Bool) (attempted : List Nat)
    (dials : List Dial) (lb : LoadBalancer) (dialable : Dialable lb clientFd) :
    Moves may clientFd lb
        (LoadBalancer.connectLoop clientFd initial attempts first attempted dials lb).2 ∧
      ((LoadBalancer.connectLoop clientFd initial attempts first attempted dials lb).1 = false →
        Dialable (LoadBalancer.connectLoop clientFd initial attempts first attempted dials lb).2
          clientFd) := by
  induction attempts generalizing first attempted dials lb with
  | zero => exact ⟨.refl, fun _ => dialable⟩
  | succ attempts ih =>
      obtain ⟨next, same⟩ := next_candidate_same lb initial first attempted
      unfold LoadBalancer.connectLoop
      generalize lb.nextCandidate initial first attempted = candidate at same
      obtain ⟨index, after⟩ := candidate
      subst same
      have chosen : Moves may clientFd lb { lb with nextBackendIndex := next } :=
        counted_moves rfl rfl rfl (SameCounts.refl _) (.of_eq rfl rfl rfl) rfl (.inl rfl)
      have still : Dialable { lb with nextBackendIndex := next } clientFd := dialable
      generalize { lb with nextBackendIndex := next } = after at chosen still
      cases index with
      | none => exact ⟨chosen, fun _ => still⟩
      | some index =>
          simp only
          split_ifs
          · exact (ih false attempted dials after still).imp chosen.trans id
          · exact (ih false attempted dials after still).imp chosen.trans id
          · exact (ih false (index :: attempted) dials after still).imp chosen.trans id
          · obtain ⟨tried, left⟩ := try_backend_moves dialling drop_backend_undoes still index
              (dials.headD {})
            generalize after.tryBackend clientFd index (dials.headD {})
              LoadBalancer.dropBackend = outcome at tried left
            obtain ⟨good, last⟩ := outcome
            cases good with
            | true => exact ⟨chosen.trans tried, fun failed => by simp at failed⟩
            | false =>
                exact (ih false (index :: attempted) dials.tail last (left rfl)).imp
                  (chosen.trans tried).trans id

theorem connect_client_moves (dialling : may.dials) (dialable : Dialable lb clientFd) (dials : List Dial) :
    Moves may clientFd lb (lb.connectClientToBackend clientFd dials).2 ∧
      ((lb.connectClientToBackend clientFd dials).1 = false →
        Dialable (lb.connectClientToBackend clientFd dials).2 clientFd) := by
  unfold LoadBalancer.connectClientToBackend
  by_cases healthy : lb.backendPool.hasHealthyBackend
  · simp only [healthy, Bool.not_true, Bool.false_eq_true, if_false]
    obtain ⟨pair, found, detached⟩ := dialable
    simp only [found]
    obtain ⟨next, same⟩ := select_backend_same lb pair.clientIp
    generalize lb.selectBackend pair.clientIp = selected at same
    obtain ⟨initial, after⟩ := selected
    subst same
    have chosen : Moves may clientFd lb { lb with nextBackendIndex := next } :=
      counted_moves rfl rfl rfl (SameCounts.refl _) (.of_eq rfl rfl rfl) rfl (.inl rfl)
    cases initial with
    | none => exact ⟨chosen, fun _ => ⟨pair, found, detached⟩⟩
    | some initial =>
        have still : Dialable { lb with nextBackendIndex := next } clientFd :=
          ⟨pair, found, detached⟩
        exact (connect_loop_moves dialling initial _ true [] dials _ still).imp chosen.trans id
  · simp only [healthy, Bool.not_false, if_true]
    exact ⟨.refl, fun _ => dialable⟩

theorem failover_loop_moves (dialling : may.dials) (failedBackendIndex : Nat) (indices : List Nat) (dials : List Dial)
    (lb : LoadBalancer) (dialable : Dialable lb clientFd) :
    Moves may clientFd lb
        (LoadBalancer.failoverLoop clientFd failedBackendIndex indices dials lb).2 ∧
      ((LoadBalancer.failoverLoop clientFd failedBackendIndex indices dials lb).1 = false →
        Dialable (LoadBalancer.failoverLoop clientFd failedBackendIndex indices dials lb).2
          clientFd) := by
  induction indices generalizing dials lb with
  | nil => exact ⟨.refl, fun _ => dialable⟩
  | cons index indices ih =>
      unfold LoadBalancer.failoverLoop
      split_ifs
      · exact ih dials lb dialable
      · exact ih dials lb dialable
      · obtain ⟨pair, found, -⟩ := id dialable
        have stays := try_backend_member found index (dials.headD {}) LoadBalancer.resetBackend
        obtain ⟨tried, left⟩ := try_backend_moves dialling reset_backend_undoes dialable index
          (dials.headD {})
        generalize lb.tryBackend clientFd index (dials.headD {})
          LoadBalancer.resetBackend = outcome at stays tried left
        obtain ⟨good, last⟩ := outcome
        cases good with
        | true =>
            refine ⟨tried.trans ?_, fun failed => by simp at failed⟩
            exact counted_moves rfl rfl rfl (SameCounts.modify _ _ fun _ => rfl)
              (.of_eq rfl rfl rfl) rfl (.inr (.inr ⟨dialling, stays⟩))
        | false => exact (ih dials.tail last (left rfl)).imp tried.trans id

theorem drop_failed_dialable (tables : Tables lb) {pair : ConnectionPair}
    (found : lb.connections.lookup clientFd = some pair) (attached : pair.backendFd ≠ -1) :
    Dialable (lb.dropFailedBackend clientFd pair pair.backendIndex) clientFd := by
  unfold LoadBalancer.dropFailedBackend
  rw [if_pos attached]
  exact ⟨LoadBalancer.resetBackend pair, lookup_set_pair _ _ _, rfl,
    tables.wiring.plain clientFd pair found attached⟩

/-- A pair whose backend could not be reached is given another one or closed. -/
theorem failover_moves (tables : Tables lb) {pair : ConnectionPair}
    (found : lb.connections.lookup clientFd = some pair) (attached : pair.backendFd ≠ -1)
    (connecting : pair.backendConnecting = true) (dials : List Dial) :
    Moves failing clientFd lb (lb.failoverConnection clientFd pair.backendIndex dials) := by
  have dropped : Moves failing clientFd lb
      (lb.dropFailedBackend clientFd pair pair.backendIndex) :=
    .single (.detached pair found attached connecting trivial trivial)
  have dialable := drop_failed_dialable tables found attached
  unfold LoadBalancer.failoverConnection
  simp only [found]
  generalize lb.dropFailedBackend clientFd pair pair.backendIndex = after at dropped dialable
  split_ifs
  · exact dropped.trans (close_dialable dialable)
  · obtain ⟨tried, left⟩ := failover_loop_moves (show failing.dials from trivial) pair.backendIndex
      (LoadBalancer.failoverOrder after.backendPool.length pair.backendIndex) dials after dialable
    generalize LoadBalancer.failoverLoop clientFd pair.backendIndex
      (LoadBalancer.failoverOrder after.backendPool.length pair.backendIndex) dials after =
        outcome at tried left
    obtain ⟨good, last⟩ := outcome
    cases good with
    | true => exact dropped.trans tried
    | false => exact (dropped.trans tried).trans (close_dialable (left rfl))

def Standby (pair : ConnectionPair) (lb : LoadBalancer) (clientFd : Int) : Prop :=
  ∃ waiting, lb.connections.lookup clientFd = some waiting ∧ waiting.backendFd = -1 ∧
    ∀ fd index connecting,
      attachedPair waiting fd index connecting = attachedPair pair fd index connecting

/-- What a dialled pair becomes. -/
def Attached (pair : ConnectionPair) (sockets : List SocketAnswer) (lb : LoadBalancer)
    (clientFd : Int) : Prop :=
  ∃ fd index connecting, fd ≠ -1 ∧
    lb.connections.lookup clientFd = some (attachedPair pair fd index connecting) ∧
    (connecting = false → .connected fd ∈ sockets)

theorem connect_to_backend_answer (sockets : List SocketAnswer) {fd : Int}
    (dialled : lb.connectToBackend sockets = some (fd, false)) : .connected fd ∈ sockets := by
  induction sockets with
  | nil => cases dialled
  | cons answer sockets ih =>
      cases answer with
      | unusable => exact List.mem_cons_of_mem _ (ih dialled)
      | connected candidate =>
          unfold LoadBalancer.connectToBackend at dialled
          split_ifs at dialled with used
          · exact List.mem_cons_of_mem _ (ih dialled)
          · cases dialled
            exact List.mem_cons_self
      | inProgress candidate =>
          unfold LoadBalancer.connectToBackend at dialled
          split_ifs at dialled with used
          · exact List.mem_cons_of_mem _ (ih dialled)
          · cases dialled

theorem try_backend_result {pair : ConnectionPair} {detach : ConnectionPair → ConnectionPair}
    (undoes : Undoes detach) (standby : Standby pair lb clientFd) (index : Nat) (dial : Dial) :
    ((lb.tryBackend clientFd index dial detach).1 = true →
      Attached pair dial.sockets (lb.tryBackend clientFd index dial detach).2 clientFd) ∧
    ((lb.tryBackend clientFd index dial detach).1 = false →
      Standby pair (lb.tryBackend clientFd index dial detach).2 clientFd) := by
  obtain ⟨waiting, found, detached, same⟩ := standby
  have tries := try_backend_tries found index dial detach
  generalize lb.tryBackend clientFd index dial detach = outcome at tries ⊢
  cases tries with
  | refused dialled => exact ⟨nofun, fun _ => ⟨waiting, found, detached, same⟩⟩
  | unwatched fd connecting dialled added =>
      obtain ⟨left, events, undone⟩ := undoes waiting fd index connecting detached
      rw [undone]
      exact ⟨nofun, fun _ => ⟨_, lookup_set_pair _ _ _, detached, same⟩⟩
  | connected fd connecting dialled added =>
      refine ⟨fun _ => ⟨fd, index, connecting, ?_, ?_, ?_⟩, nofun⟩
      · exact (unused (connect_to_backend_free dial.sockets dialled)).2.2
      · rw [← same]
        exact lookup_set_pair _ _ _
      · intro immediate
        subst immediate
        exact connect_to_backend_answer dial.sockets dialled

theorem failover_loop_result {pair : ConnectionPair} (failedBackendIndex : Nat)
    (indices : List Nat) (dials : List Dial) (lb : LoadBalancer)
    (standby : Standby pair lb clientFd) :
    ((LoadBalancer.failoverLoop clientFd failedBackendIndex indices dials lb).1 = true →
      Attached pair (dials.flatMap Dial.sockets)
        (LoadBalancer.failoverLoop clientFd failedBackendIndex indices dials lb).2 clientFd) ∧
    ((LoadBalancer.failoverLoop clientFd failedBackendIndex indices dials lb).1 = false →
      Standby pair (LoadBalancer.failoverLoop clientFd failedBackendIndex indices dials lb).2
        clientFd) := by
  induction indices generalizing dials lb with
  | nil => exact ⟨nofun, fun _ => standby⟩
  | cons index indices ih =>
      unfold LoadBalancer.failoverLoop
      split_ifs
      · exact ih dials lb standby
      · exact ih dials lb standby
      · obtain ⟨taken, left⟩ := try_backend_result reset_backend_undoes standby index
          (dials.headD {})
        generalize lb.tryBackend clientFd index (dials.headD {})
          LoadBalancer.resetBackend = outcome at taken left
        obtain ⟨good, last⟩ := outcome
        cases good with
        | true =>
            refine ⟨fun _ => ?_, nofun⟩
            obtain ⟨fd, place, connecting, attached, stored, immediate⟩ := taken rfl
            refine ⟨fd, place, connecting, attached, stored, fun now => ?_⟩
            cases dials with
            | nil => cases immediate now
            | cons dial dials => exact List.mem_append_left _ (immediate now)
        | false =>
            obtain ⟨attached, waits⟩ := ih dials.tail last (left rfl)
            refine ⟨fun good => ?_, waits⟩
            obtain ⟨fd, place, connecting, open_, stored, immediate⟩ := attached good
            refine ⟨fd, place, connecting, open_, stored, fun now => ?_⟩
            cases dials with
            | nil => exact immediate now
            | cons dial dials => exact List.mem_append_right _ (immediate now)

theorem close_connection_missing (tables : Tables lb) (reason : CloseReason) :
    (lb.closeConnection clientFd reason).connections.lookup clientFd = none := by
  unfold LoadBalancer.closeConnection
  cases found : lb.connections.lookup clientFd with
  | none => exact found
  | some pair =>
      simp only [tables.wiring.alive clientFd pair found, Bool.false_eq_true, if_false]
      split_ifs
      · exact AList.lookup_erase _ _
      · exact AList.lookup_erase _ _

theorem failover_result {pair : ConnectionPair} (tables : Tables lb)
    (found : lb.connections.lookup clientFd = some pair) (attached : pair.backendFd ≠ -1)
    (dials : List Dial) :
    (lb.failoverConnection clientFd pair.backendIndex dials).connections.lookup clientFd = none ∨
      Attached pair (dials.flatMap Dial.sockets)
        (lb.failoverConnection clientFd pair.backendIndex dials) clientFd := by
  have tablesAfter : Tables (lb.dropFailedBackend clientFd pair pair.backendIndex) :=
    tables.detach found attached
  have standby : Standby pair (lb.dropFailedBackend clientFd pair pair.backendIndex) clientFd := by
    unfold LoadBalancer.dropFailedBackend
    rw [if_pos attached]
    exact ⟨LoadBalancer.resetBackend pair, lookup_set_pair _ _ _, rfl, fun _ _ _ => rfl⟩
  have dialable := drop_failed_dialable tables found attached
  unfold LoadBalancer.failoverConnection
  simp only [found]
  generalize lb.dropFailedBackend clientFd pair pair.backendIndex = after at *
  split_ifs
  · exact .inl (close_connection_missing tablesAfter .noBackend)
  · obtain ⟨tried, -⟩ := failover_loop_moves (show failing.dials from trivial) pair.backendIndex
      (LoadBalancer.failoverOrder after.backendPool.length pair.backendIndex) dials after dialable
    obtain ⟨taken, -⟩ := failover_loop_result pair.backendIndex
      (LoadBalancer.failoverOrder after.backendPool.length pair.backendIndex) dials after standby
    generalize LoadBalancer.failoverLoop clientFd pair.backendIndex
      (LoadBalancer.failoverOrder after.backendPool.length pair.backendIndex) dials after =
        outcome at tried taken
    obtain ⟨good, last⟩ := outcome
    cases good with
    | true => exact .inr (taken rfl)
    | false => exact .inl (close_connection_missing (moves_tables tablesAfter tried) .noBackend)

theorem fails_over_moves (tables : Tables lb) {isBackendFd : Bool} {flags : EventMask}
    {answers : EventAnswers} {after : LoadBalancer}
    (ends : FailsOver clientFd isBackendFd flags answers lb after) :
    Moves failing clientFd lb after := by
  cases ends with
  | no => exact .refl
  | yes pair found backend attached connecting fails =>
      exact failover_moves tables found attached connecting answers.dials

/-! ### The phases of an event -/

theorem and_then_moves {flow : LoadBalancer.Flow} {phase : LoadBalancer → LoadBalancer.Flow}
    (first : Moves may clientFd lb flow.state)
    (second : ∀ after, flow = .next after → Moves may clientFd after (phase after).state) :
    Moves may clientFd lb (flow.andThen phase).state := by
  cases flow with
  | next after => exact first.trans (second after rfl)
  | stop after => exact first

theorem admit_client_moves (dialling : may.dials) (answers : EventAnswers) {pair : ConnectionPair}
    (found : lb.connections.lookup clientFd = some pair) (detached : pair.backendFd = -1)
    (plain : pair.metricsConnection = false) (unopened : pair.Unopened) :
    Moves may clientFd lb (LoadBalancer.admitClient clientFd answers pair lb).state := by
  have dialled : Moves may clientFd lb
      (LoadBalancer.admitClient clientFd { answers with peek := .wouldBlock } pair lb).state := by
    unfold LoadBalancer.admitClient
    simp only
    obtain ⟨tried, left⟩ :=
      connect_client_moves dialling ⟨pair, found, detached, plain⟩ answers.dials
    generalize lb.connectClientToBackend clientFd answers.dials = outcome at tried left ⊢
    obtain ⟨good, last⟩ := outcome
    cases good with
    | true => exact tried
    | false => exact tried.trans (close_dialable (left rfl))
  unfold LoadBalancer.admitClient
  cases answers.peek with
  | received bytes =>
      simp only
      split_ifs
      · exact .refl
      · exact touch_moves found (.single (.admitted detached unopened))
      · exact dialled
  | wouldBlock => exact dialled
  | interrupted => exact dialled
  | failed => exact .single (.closed pair .clientFailed found trivial)

theorem serve_metrics_moves (answers : EventAnswers) {pair : ConnectionPair}
    (found : lb.connections.lookup clientFd = some pair)
    (metrics : pair.metricsConnection = true)
    (within : (readFrom .client pair.trace).length + arriving answers.recvs ≤
      may.budget .client) :
    Moves may clientFd lb (LoadBalancer.serveMetrics clientFd answers pair lb).state := by
  have closed : Moves may clientFd lb (lb.closeConnection clientFd .metrics) :=
    .single (.closed pair .metrics found metrics)
  unfold LoadBalancer.serveMetrics
  cases first : answers.recvs.headD .wouldBlock with
  | received bytes =>
      have enough : (bytes.take 4095).length ≤ arriving answers.recvs := by
        have taken : (bytes.take 4095).length ≤ bytes.length := by
          rw [List.length_take]
          exact Nat.min_le_right _ _
        cases answered : answers.recvs with
        | nil => simp [answered] at first
        | cons recv recvs =>
            rw [answered] at first
            cases first
            simp only [arriving, received, List.map_cons, List.sum_cons]
            omega
      simp only
      by_cases empty : (bytes.take 4095).isEmpty
      · rw [if_pos empty]
        exact closed
      · rw [if_neg empty]
        by_cases asked : LoadBalancer.metricsPrefix.isPrefixOf (bytes.take 4095)
        · rw [if_pos asked]
          exact touch_moves found (.single (.answered metrics _ _ _ (by omega)))
        · rw [if_neg asked]
          exact closed
  | wouldBlock => exact closed
  | interrupted => exact closed
  | failed => exact closed

/-- A pair without a backend socket never had one. -/
def Unopened (lb : LoadBalancer) : Prop :=
  ∀ clientFd pair, lb.connections.lookup clientFd = some pair → pair.backendFd = -1 →
    pair.Unopened

/-- So much at most has been read from the sockets of the pair. -/
def ReadUpTo (lb : LoadBalancer) (clientFd : Int) (bound : Side → Nat) : Prop :=
  ∀ pair, lb.connections.lookup clientFd = some pair →
    ∀ side, (readFrom side pair.trace).length ≤ bound side

theorem pair_moves_read {pair after : ConnectionPair}
    (moves : ReflTransGen (PairMove may) pair after)
    (read : ∀ side, (readFrom side pair.trace).length ≤ may.budget side) :
    ∀ side, (readFrom side after.trace).length ≤ may.budget side := by
  have other : ∀ (pair : ConnectionPair) (wire : Wire), (∀ side, wire.readBytes side = []) →
      (∀ side, (readFrom side pair.trace).length ≤ may.budget side) →
      ∀ side, (readFrom side (pair.record [wire]).trace).length ≤ may.budget side := by
    intro pair wire nothing read side
    rw [ConnectionPair.record, read_from_snoc, nothing, List.append_nil]
    exact read side
  have piece : ∀ (pair : ConnectionPair) (source : Side) (bytes : Bytes),
      (readFrom source pair.trace).length + bytes.length ≤ may.budget source →
      (∀ side, (readFrom side pair.trace).length ≤ may.budget side) →
      ∀ side, (readFrom side (pair.record [.read source bytes]).trace).length ≤
        may.budget side := by
    intro pair source bytes within read side
    rw [ConnectionPair.record, read_from_snoc, List.length_append, Wire.readBytes]
    split_ifs with same
    · rw [← same]
      exact within
    · exact read side
  induction moves with
  | refl => exact read
  | tail _ move ih =>
      cases move with
      | read side bytes fits within client backend =>
          cases side with
          | client => exact piece _ _ _ within ih
          | backend => exact piece _ _ _ within ih
      | ended side backend => cases side <;> exact other _ _ (fun _ => rfl) ih
      | sent writes side count within backend => cases side <;> exact other _ _ (fun _ => rfl) ih
      | clear => exact ih
      | shutBackend writes ended once nothing attached connected =>
          exact other _ _ (fun _ => rfl) ih
      | shutClient writes ended once nothing => exact other _ _ (fun _ => rfl) ih
      | connected => exact ih
      | watched client backend => exact ih
      | redialled detached index connecting events => exact ih
      | admitted detached unopened => exact ih
      | answered metrics response request events within => exact piece _ _ _ within ih

theorem moves_read {after : LoadBalancer} (alone : ¬ may.accepts)
    (moves : Moves may clientFd lb after) (read : ReadUpTo lb clientFd may.budget) :
    ReadUpTo after clientFd may.budget := by
  have stored : ∀ {lb after : LoadBalancer} {pair : ConnectionPair},
      after.connections = lb.connections.insert clientFd pair →
      (∀ side, (readFrom side pair.trace).length ≤ may.budget side) →
      ReadUpTo after clientFd may.budget := by
    intro lb after pair connections within other found
    rw [connections, AList.lookup_insert] at found
    cases found
    exact within
  induction moves with
  | refl => exact read
  | @tail middle _ _ move ih =>
      cases move with
      | counted after connections backends closed counts =>
          intro pair found
          rw [connections] at found
          exact ih pair found
      | dialled dials pair index found detached plain => exact ih
      | accepted accepts fd clientIp free => exact absurd accepts alone
      | touched pair after found moves => exact stored rfl (pair_moves_read moves (ih pair found))
      | attached pair fd index connecting found detached plain free =>
          refine stored rfl fun side => ?_
          rw [attachedPair, ConnectionPair.record, read_from_snoc]
          simpa [Wire.readBytes] using ih pair found side
      | detached pair found attached connecting detaches trouble =>
          unfold LoadBalancer.dropFailedBackend
          rw [if_pos attached]
          exact stored rfl (ih pair found)
      | closed pair reason found justified =>
          rcases middle.close_connection_cases reason found with same | ⟨connections, -⟩
          · rw [same]
            exact ih
          · intro other isOther
            rw [connections, AList.lookup_erase] at isOther
            cases isOther

theorem read_client_moves (dialling : may.dials) (tables : Tables lb) (unopened : Unopened lb)
    (answers : EventAnswers) {soFar : Side → Nat} (read : ReadUpTo lb clientFd soFar)
    (within : soFar .client + arriving answers.recvs ≤ may.budget .client) :
    Moves may clientFd lb (LoadBalancer.readClient clientFd answers lb).state := by
  unfold LoadBalancer.readClient
  cases found : lb.connections.lookup clientFd with
  | none => exact .refl
  | some pair =>
      have admitted : ∀ may : May, may.dials → Moves may clientFd lb
          (if (!pair.metricsConnection && pair.backendFd = -1) = true then
            LoadBalancer.admitClient clientFd answers pair lb else .next lb).state := by
        intro may dialling
        split_ifs with fresh
        · simp only [Bool.and_eq_true, Bool.not_eq_true', decide_eq_true_eq] at fresh
          exact admit_client_moves dialling answers found fresh.2 fresh.1
            (unopened clientFd pair found fresh.2)
        · exact .refl
      apply and_then_moves (admitted may dialling)
      intro after going
      rw [going] at admitted
      have tablesAfter : Tables after := moves_tables tables (admitted may dialling)
      have readAfter : ReadUpTo after clientFd soFar :=
        moves_read id (admitted (reading false { input := true } {} soFar) ⟨rfl, rfl⟩) read
      cases foundAfter : after.connections.lookup clientFd with
      | none => exact .refl
      | some pair =>
          cases metrics : pair.metricsConnection with
          | true =>
              simp only [metrics, if_true]
              have enough := readAfter pair foundAfter .client
              exact serve_metrics_moves answers foundAfter metrics (by omega)
          | false =>
              simp only [metrics, Bool.false_eq_true, if_false]
              have enough := readAfter pair foundAfter .client
              exact forward_data_moves tablesAfter foundAfter .client false answers.recvs
                (fun _ => metrics) nofun nofun nofun nofun (by omega)

/-- An event of a backend socket is an event of a socket some pair owns. -/
def Serves (lb : LoadBalancer) (clientFd : Int) (isBackendFd : Bool) : Prop :=
  isBackendFd = true → ∃ fd, lb.backendToClient.lookup fd = some clientFd

theorem owner_serves (lb : LoadBalancer) (fd : Int) :
    Serves lb ((lb.backendToClient.lookup fd).getD fd) (lb.backendToClient.lookup fd).isSome := by
  intro backend
  obtain ⟨owner, owns⟩ := Option.isSome_iff_exists.mp backend
  rw [owns]
  exact ⟨fd, owns⟩

theorem Serves.attached {isBackendFd : Bool} (serves : Serves lb clientFd isBackendFd)
    (tables : Tables lb) (backend : isBackendFd = true) {pair : ConnectionPair}
    (found : lb.connections.lookup clientFd = some pair) : pair.backendFd ≠ -1 := by
  obtain ⟨fd, owns⟩ := serves backend
  obtain ⟨stored, isStored, socket, attached⟩ := (tables.wiring.mapped fd clientFd).mp owns
  rw [find, found] at isStored
  cases isStored
  rw [socket]
  exact attached

theorem forward_data_backends (side : Side) (drain : Bool) (recvs : List RecvResult)
    {after : LoadBalancer} (going : lb.forwardData clientFd side drain recvs = .next after) :
    after.backendToClient = lb.backendToClient := by
  have noted : ∀ (state : LoadBalancer) (fd : Int),
      (state.noteEnd fd).backendToClient = state.backendToClient := by
    intro state fd
    unfold LoadBalancer.noteEnd
    repeat' split
    all_goals rfl
  unfold LoadBalancer.forwardData at going
  cases found : lb.connections.lookup clientFd with
  | none => simp [found] at going
  | some pair =>
      simp only [found] at going
      generalize pair.forward drain recvs side = outcome at going
      obtain ⟨result, new⟩ := outcome
      cases result with
      | forwarded =>
          cases going
          rfl
      | ended =>
          cases going
          exact noted _ _
      | overflowed => cases going
      | failed => cases going

section Relay

variable (isBackendFd : Bool) (flags : EventMask) (answers : EventAnswers)
  {soFar budget : Side → Nat}

/-- The socket of the pair an event is of. -/
def eventSide (isBackendFd : Bool) : Side := if isBackendFd then .backend else .client

/-- So many bytes more from the socket of the event. -/
def plus (soFar : Side → Nat) (isBackendFd : Bool) (more : Nat) (side : Side) : Nat :=
  soFar side + if side = eventSide isBackendFd then more else 0

theorem forward_backend_moves (tables : Tables lb) (backend : isBackendFd = true)
    {pair : ConnectionPair} (found : lb.connections.lookup clientFd = some pair)
    (attached : pair.backendFd ≠ -1) (drain : Bool) (recvs : List RecvResult)
    (asked : recvs = answers.recvs ∨ recvs = answers.drains)
    (within : (readFrom .backend pair.trace).length + arriving recvs ≤ budget .backend) :
    Moves (reading isBackendFd flags answers budget) clientFd lb
      (lb.forwardData clientFd .backend drain recvs).state := by
  refine forward_data_moves tables found .backend drain recvs nofun (fun _ => attached) ?_ ?_ ?_
    within
  · intro _ gives
    refine ⟨backend, ?_⟩
    rcases asked with rfl | rfl
    · exact .inl gives
    · exact .inr gives
  · intro _ ends
    refine ⟨backend, ?_⟩
    rcases asked with rfl | rfl
    · exact .inl ends
    · exact .inr ends
  · intro _ fails
    refine .inl ⟨backend, .inr (.inr ?_)⟩
    rcases asked with rfl | rfl
    · exact .inl fails
    · exact .inr (.inl fails)

theorem read_phase_moves (tables : Tables lb) (unopened : Unopened lb)
    (serves : Serves lb clientFd isBackendFd) (read : ReadUpTo lb clientFd soFar)
    (within : ∀ side, plus soFar isBackendFd (arriving answers.recvs) side ≤ budget side) :
    Moves (reading isBackendFd flags answers budget) clientFd lb
      (LoadBalancer.readPhase clientFd isBackendFd flags answers lb).state := by
  unfold LoadBalancer.readPhase
  split_ifs with input backend
  · cases found : lb.connections.lookup clientFd with
    | none =>
        unfold LoadBalancer.forwardData
        simp only [found]
        exact .refl
    | some pair =>
        have enough := read pair found .backend
        have most := within .backend
        simp only [plus, eventSide, backend, if_true] at most
        exact forward_backend_moves isBackendFd flags answers tables backend found
          (serves.attached tables backend found) false answers.recvs (.inl rfl) (by omega)
  · have most := within .client
    simp only [plus, eventSide, backend, if_true, Bool.false_eq_true, if_false] at most
    have dialling : (reading isBackendFd flags answers budget).dials :=
      ⟨Bool.eq_false_iff.mpr backend, input⟩
    exact read_client_moves dialling tables unopened answers read most
  · exact .refl

theorem read_phase_serves (serves : Serves lb clientFd isBackendFd) {after : LoadBalancer}
    (going : LoadBalancer.readPhase clientFd isBackendFd flags answers lb = .next after) :
    Serves after clientFd isBackendFd := by
  intro backend
  obtain ⟨fd, owns⟩ := serves backend
  refine ⟨fd, ?_⟩
  unfold LoadBalancer.readPhase at going
  rw [if_pos backend] at going
  split_ifs at going
  · rw [forward_data_backends .backend false answers.recvs going]
    exact owns
  · cases going
    exact owns

theorem drain_phase_moves (tables : Tables lb) (serves : Serves lb clientFd isBackendFd)
    (read : ReadUpTo lb clientFd soFar)
    (within : ∀ side, plus soFar isBackendFd (arriving answers.drains) side ≤ budget side) :
    Moves (reading isBackendFd flags answers budget) clientFd lb
      (LoadBalancer.drainPhase clientFd isBackendFd flags answers lb).state := by
  unfold LoadBalancer.drainPhase
  cases found : lb.connections.lookup clientFd with
  | none => exact .refl
  | some pair =>
      have enough : (readFrom (eventSide isBackendFd) pair.trace).length +
          arriving answers.drains ≤ budget (eventSide isBackendFd) := by
        have soFar := read pair found (eventSide isBackendFd)
        have most := within (eventSide isBackendFd)
        rw [plus, if_pos rfl] at most
        omega
      simp only
      split_ifs with hangup backend plain
      · exact forward_backend_moves isBackendFd flags answers tables backend found
          (serves.attached tables backend found) true answers.drains (.inr rfl)
          (by simpa [eventSide, backend] using enough)
      · simp only [Bool.not_eq_true'] at plain
        exact forward_data_moves tables found .client true answers.drains (fun _ => plain)
          nofun nofun nofun nofun (by simpa [eventSide, backend, reading] using enough)
      · exact .refl
      · exact .refl

theorem drain_phase_serves (serves : Serves lb clientFd isBackendFd) {after : LoadBalancer}
    (going : LoadBalancer.drainPhase clientFd isBackendFd flags answers lb = .next after) :
    Serves after clientFd isBackendFd := by
  intro backend
  obtain ⟨fd, owns⟩ := serves backend
  refine ⟨fd, ?_⟩
  unfold LoadBalancer.drainPhase at going
  cases found : lb.connections.lookup clientFd with
  | none => simp [found] at going
  | some pair =>
      simp only [found, backend, if_true] at going
      split_ifs at going
      · rw [forward_data_backends .backend true answers.drains going]
        exact owns
      · cases going
        exact owns

/-- The connect is settled, or the phase ends in a failover. -/
theorem connect_phase_cases (tables : Tables lb) (serves : Serves lb clientFd isBackendFd) :
    Moves (settling isBackendFd flags answers) clientFd lb
        (LoadBalancer.connectPhase clientFd isBackendFd flags answers lb).state ∨
      ∃ after, LoadBalancer.connectPhase clientFd isBackendFd flags answers lb = .stop after ∧
        FailsOver clientFd isBackendFd flags answers lb after := by
  unfold LoadBalancer.connectPhase
  cases found : lb.connections.lookup clientFd with
  | none => exact .inl .refl
  | some pair =>
      simp only
      split_ifs with connecting socketError
      · simp only [Bool.and_eq_true] at connecting
        obtain ⟨⟨backend, dialling⟩, output⟩ := connecting
        exact .inr ⟨_, rfl, .yes pair found backend (serves.attached tables backend found) dialling
          (.inr (.inr ⟨output, socketError⟩))⟩
      · exact .inl (touch_moves found (.single .connected))
      · exact .inl .refl

theorem flush_backend_phase_moves (tables : Tables lb) :
    Moves (settling isBackendFd flags answers) clientFd lb
      (LoadBalancer.flushBackendPhase clientFd answers lb).state := by
  unfold LoadBalancer.flushBackendPhase
  cases found : lb.connections.lookup clientFd with
  | none => exact .refl
  | some pair =>
      simp only
      split_ifs with ready
      · simp only [Bool.and_eq_true, Bool.not_eq_true', decide_eq_true_eq] at ready
        exact flush_data_moves tables trivial found .backend answers.backendSends (fun _ => ready.1)
          fun _ => .inr
      · exact .refl

theorem flush_client_phase_moves (tables : Tables lb) :
    Moves (settling isBackendFd flags answers) clientFd lb
      (LoadBalancer.flushClientPhase clientFd answers lb).state := by
  unfold LoadBalancer.flushClientPhase
  cases found : lb.connections.lookup clientFd with
  | none => exact .refl
  | some pair =>
      simp only
      split_ifs
      · exact flush_data_moves tables trivial found .client answers.clientSends nofun nofun
      · exact .refl

theorem unsent_of_empty {buffer : RelayBuffer} (empty : buffer.bytes.isEmpty = true) :
    buffer.unsent = [] := by
  unfold RelayBuffer.unsent
  rw [List.isEmpty_iff.mp empty, List.drop_nil]

theorem shutdown_moves (writes : may.writes) (pair : ConnectionPair) :
    ReflTransGen (PairMove may) pair
      (LoadBalancer.shutdownClient (LoadBalancer.shutdownBackend pair)) := by
  have backend : ReflTransGen (PairMove may) pair (LoadBalancer.shutdownBackend pair) := by
    unfold LoadBalancer.shutdownBackend
    split_ifs with ready
    · simp only [Bool.and_eq_true, Bool.not_eq_true', decide_eq_true_eq] at ready
      obtain ⟨⟨⟨⟨ended, once⟩, empty⟩, attached⟩, connected⟩ := ready
      exact .single (.shutBackend writes ended once (unsent_of_empty empty) attached connected)
    · exact .refl
  apply backend.trans
  generalize LoadBalancer.shutdownBackend pair = after
  unfold LoadBalancer.shutdownClient
  split_ifs with ready
  · simp only [Bool.and_eq_true, Bool.not_eq_true'] at ready
    exact .single (.shutClient writes ready.1.1 ready.1.2 (unsent_of_empty ready.2))
  · exact .refl

theorem settle_phase_cases {pair : ConnectionPair}
    (found : lb.connections.lookup clientFd = some pair) :
    (∃ new reason, ReflTransGen (PairMove (settling isBackendFd flags answers)) pair new ∧
      Justified (settling isBackendFd flags answers) new reason ∧
      LoadBalancer.settlePhase clientFd answers lb =
        .stop ((lb.setPair clientFd new).closeConnection clientFd reason)) ∨
    ∃ new, ReflTransGen (PairMove (settling isBackendFd flags answers)) pair new ∧
      LoadBalancer.settlePhase clientFd answers lb =
        .next (lb.setPair clientFd (LoadBalancer.updateInterest answers new)) := by
  unfold LoadBalancer.settlePhase
  simp only [found]
  have cleared : ReflTransGen (PairMove (settling isBackendFd flags answers)) pair
      (LoadBalancer.clearBuffers pair) := .single .clear
  have shut := cleared.trans (shutdown_moves trivial (LoadBalancer.clearBuffers pair))
  generalize LoadBalancer.clearBuffers pair = idle at cleared shut
  by_cases bare : (idle.clientReadClosed && idle.backendFd = -1 &&
      idle.clientToBackend.bytes.isEmpty && !idle.metricsConnection) = true
  · rw [if_pos bare]
    simp only [Bool.and_eq_true, decide_eq_true_eq] at bare
    exact .inl ⟨idle, .noRequest, cleared, bare.1.1.2, rfl⟩
  · rw [if_neg bare]
    generalize LoadBalancer.shutdownClient (LoadBalancer.shutdownBackend idle) = last at shut
    by_cases answered : (last.metricsConnection && last.backendToClient.bytes.isEmpty) = true
    · rw [if_pos answered]
      simp only [Bool.and_eq_true] at answered
      exact .inl ⟨last, .metrics, shut, answered.1, rfl⟩
    · rw [if_neg answered]
      by_cases finished : (last.clientReadClosed && last.backendReadClosed &&
          last.clientToBackend.bytes.isEmpty && last.backendToClient.bytes.isEmpty) = true
      · rw [if_pos finished]
        simp only [Bool.and_eq_true] at finished
        exact .inl ⟨last, .finished, shut, unsent_of_empty finished.2, rfl⟩
      · rw [if_neg finished]
        exact .inr ⟨last, shut, rfl⟩

theorem settle_phase_moves :
    Moves (settling isBackendFd flags answers) clientFd lb
      (LoadBalancer.settlePhase clientFd answers lb).state := by
  cases found : lb.connections.lookup clientFd with
  | none =>
      unfold LoadBalancer.settlePhase
      simp only [found]
      exact .refl
  | some pair =>
      rcases settle_phase_cases isBackendFd flags answers found with
        ⟨new, reason, moves, justified, ends⟩ | ⟨new, moves, goes⟩
      · rw [ends]
        exact touch_close_moves found moves justified
      · rw [goes]
        exact touch_moves found (moves.tail (.watched _ _))

theorem settling_phases_moves (tables : Tables lb) {flow : LoadBalancer.Flow}
    (connects : Moves (settling isBackendFd flags answers) clientFd lb flow.state) :
    Moves (settling isBackendFd flags answers) clientFd lb
      (((flow.andThen (LoadBalancer.flushBackendPhase clientFd answers)).andThen
        (LoadBalancer.flushClientPhase clientFd answers)).andThen
        (LoadBalancer.settlePhase clientFd answers)).state := by
  have sends := and_then_moves connects fun state next => by
    rw [next] at connects
    exact flush_backend_phase_moves isBackendFd flags answers (moves_tables tables connects)
  have replies := and_then_moves sends fun state next => by
    rw [next] at sends
    exact flush_client_phase_moves isBackendFd flags answers (moves_tables tables sends)
  exact and_then_moves replies fun state _ => settle_phase_moves isBackendFd flags answers

/-- The event of a socket of a pair: it is read, then everything else is done. -/
theorem relay_event_moves (tables : Tables lb) (unopened : Unopened lb)
    (serves : Serves lb clientFd isBackendFd) (read : ReadUpTo lb clientFd soFar)
    (within : ∀ side, plus soFar isBackendFd (arriving answers.recvs + arriving answers.drains)
      side ≤ budget side) :
    ∃ between last, Moves (reading isBackendFd flags answers budget) clientFd lb between ∧
      Moves (settling isBackendFd flags answers) clientFd between last ∧
      FailsOver clientFd isBackendFd flags answers last
        (LoadBalancer.relayEvent clientFd isBackendFd flags answers lb) := by
  have reads : ∀ budget : Side → Nat,
      (∀ side, plus soFar isBackendFd (arriving answers.recvs) side ≤ budget side) →
      Moves (reading isBackendFd flags answers budget) clientFd lb
        (LoadBalancer.readPhase clientFd isBackendFd flags answers lb).state := fun _ within =>
    read_phase_moves isBackendFd flags answers tables unopened serves read within
  have part : ∀ side, plus soFar isBackendFd (arriving answers.recvs) side ≤ budget side := by
    intro side
    apply le_trans ?_ (within side)
    unfold plus
    split_ifs
    · omega
    · omega
  have whole : ∀ side, plus (plus soFar isBackendFd (arriving answers.recvs)) isBackendFd
      (arriving answers.drains) side ≤ budget side := by
    intro side
    apply le_trans ?_ (within side)
    unfold plus
    split_ifs
    · omega
    · omega
  have drains := and_then_moves (reads budget part) fun after going => by
    have first := reads (plus soFar isBackendFd (arriving answers.recvs)) fun side => Nat.le_refl _
    rw [going] at first
    refine drain_phase_moves isBackendFd flags answers (moves_tables tables first)
      (read_phase_serves isBackendFd flags answers serves going)
      (moves_read id first fun pair found side => ?_) whole
    exact (read pair found side).trans (Nat.le_add_right _ _)
  unfold LoadBalancer.relayEvent
  cases going : (LoadBalancer.readPhase clientFd isBackendFd flags answers lb).andThen
      (LoadBalancer.drainPhase clientFd isBackendFd flags answers) with
  | stop after =>
      rw [going] at drains
      exact ⟨after, after, drains, .refl, .no⟩
  | next after =>
      rw [going] at drains
      have tablesAfter : Tables after := moves_tables tables drains
      have servesAfter : Serves after clientFd isBackendFd := by
        cases first : LoadBalancer.readPhase clientFd isBackendFd flags answers lb with
        | stop other => simp [first, LoadBalancer.Flow.andThen] at going
        | next other =>
            rw [first] at going
            exact drain_phase_serves isBackendFd flags answers
              (read_phase_serves isBackendFd flags answers serves first) going
      rcases connect_phase_cases isBackendFd flags answers tablesAfter servesAfter with
        connects | ⟨last, stops, fails⟩
      · exact ⟨after, _, drains,
          settling_phases_moves isBackendFd flags answers tablesAfter connects, .no⟩
      · refine ⟨after, after, drains, .refl, ?_⟩
        simp only [LoadBalancer.Flow.andThen, stops, LoadBalancer.Flow.state]
        exact fails

/-- A failed socket: the pair is closed, or fails over to another backend. -/
theorem handle_failure_moves (tables : Tables lb) {pair : ConnectionPair}
    (found : lb.connections.lookup clientFd = some pair)
    (serves : Serves lb clientFd isBackendFd) (client backend : CloseReason)
    (fails : ConnectFails flags answers)
    (justified : Justified (reading isBackendFd flags answers budget) pair
      (if isBackendFd then backend else client)) :
    ∃ between, Moves (reading isBackendFd flags answers budget) clientFd lb between ∧
      FailsOver clientFd isBackendFd flags answers between
        (LoadBalancer.handleFailure isBackendFd answers pair lb client backend) := by
  unfold LoadBalancer.handleFailure
  rw [(tables.client_lookup found).1]
  by_cases connecting : (isBackendFd && pair.backendConnecting) = true
  · rw [if_pos connecting]
    simp only [Bool.and_eq_true] at connecting
    exact ⟨lb, .refl, .yes pair found connecting.1 (serves.attached tables connecting.1 found)
      connecting.2 fails⟩
  · rw [if_neg connecting]
    exact ⟨_, .single (.closed pair _ found justified), .no⟩

end Relay

/-- What there is to read from the sockets of a pair, with what has been read. -/
def LoadBalancer.readBudget (lb : LoadBalancer) (clientFd : Int) (isBackendFd : Bool)
    (answers : EventAnswers) : Side → Nat :=
  match lb.connections.lookup clientFd with
  | none => fun _ => 0
  | some pair => plus (fun side => (readFrom side pair.trace).length) isBackendFd
      (arriving answers.recvs + arriving answers.drains)

/-- The event of a socket that belongs to a pair, stage by stage. -/
theorem handle_pair_event_moves (tables : Tables lb) (unopened : Unopened lb) (fd : Int)
    (flags : EventMask) (answers : EventAnswers) :
    ∃ between last,
      Moves (reading (lb.backendToClient.lookup fd).isSome flags answers
          (lb.readBudget ((lb.backendToClient.lookup fd).getD fd)
            (lb.backendToClient.lookup fd).isSome answers))
        ((lb.backendToClient.lookup fd).getD fd) lb between ∧
      Moves (settling (lb.backendToClient.lookup fd).isSome flags answers)
        ((lb.backendToClient.lookup fd).getD fd) between last ∧
      FailsOver ((lb.backendToClient.lookup fd).getD fd) (lb.backendToClient.lookup fd).isSome
        flags answers last (lb.handlePairEvent fd flags answers) := by
  unfold LoadBalancer.handlePairEvent
  have serves := owner_serves lb fd
  generalize (lb.backendToClient.lookup fd).getD fd = clientFd at serves
  generalize (lb.backendToClient.lookup fd).isSome = isBackendFd at serves
  simp only
  cases found : lb.connections.lookup clientFd with
  | none => exact ⟨lb, lb, .refl, .refl, .no⟩
  | some pair =>
      simp only
      split_ifs with error hangup
      · obtain ⟨between, closes, fails⟩ := handle_failure_moves isBackendFd flags answers tables
          found serves .clientFailed .backendFailed (.inl error) (by
            cases isBackendFd with
            | true => exact .inl ⟨rfl, .inl error⟩
            | false => trivial)
        exact ⟨between, between, closes, .refl, fails⟩
      · simp only [Bool.and_eq_true, Bool.not_eq_true'] at hangup
        obtain ⟨between, closes, fails⟩ := handle_failure_moves isBackendFd flags answers tables
          found serves .clientHangup .backendHangup (.inr (.inl hangup)) (by
            cases isBackendFd with
            | true => exact .inl ⟨rfl, .inr (.inl hangup)⟩
            | false => exact ⟨rfl, Bool.eq_false_iff.mpr error, hangup⟩)
        exact ⟨between, between, closes, .refl, fails⟩
      · have read : ReadUpTo lb clientFd fun side => (readFrom side pair.trace).length := by
          intro other isOther side
          rw [found] at isOther
          cases isOther
          exact Nat.le_refl _
        apply relay_event_moves isBackendFd flags answers tables unopened serves read
        intro side
        rw [LoadBalancer.readBudget, found]

theorem handle_accept_moves (accepts : may.accepts) (answers : List AcceptAnswer)
    (lb : LoadBalancer) : Moves may clientFd lb (lb.handleAccept answers) := by
  induction answers generalizing lb with
  | nil => exact .refl
  | cons answer answers ih =>
      cases answer with
      | interrupted => exact ih lb
      | client fd clientIp added =>
          unfold LoadBalancer.handleAccept
          split_ifs with used
          · exact ih lb
          · exact ih lb
          · exact ih lb
          · exact .head (.accepted accepts fd clientIp (Bool.eq_false_iff.mpr used)) (ih _)

/-- A client is accepted with an empty record, or left alone. -/
theorem LoadBalancer.handle_accept_cases (accepts : List AcceptAnswer) (lb : LoadBalancer) (clientFd : Int) :
    ((lb.handleAccept accepts).connections.lookup clientFd = lb.connections.lookup clientFd ∧
      (lb.handleAccept accepts).dialled clientFd = lb.dialled clientFd) ∨
    lb.connections.lookup clientFd = none ∧ (lb.handleAccept accepts).dialled clientFd = [] ∧
      ∃ clientIp, (lb.handleAccept accepts).connections.lookup clientFd =
        some (acceptedPair clientFd clientIp) := by
  induction accepts generalizing lb with
  | nil => exact .inl ⟨rfl, rfl⟩
  | cons answer accepts ih =>
      cases answer with
      | interrupted => exact ih lb
      | client fd clientIp added =>
          unfold LoadBalancer.handleAccept
          split_ifs with used
          · exact ih lb
          · exact ih lb
          · exact ih lb
          · by_cases same : clientFd = fd
            · subst same
              have free := (unused (Bool.eq_false_iff.mpr used)).1
              have isNew := accept_client_lookup lb clientFd clientIp
              have empty : (lb.acceptClient clientFd clientIp).dialled clientFd = [] :=
                Function.update_self _ _ _
              right
              rcases ih (lb.acceptClient clientFd clientIp) with ⟨kept, unrecorded⟩ | ⟨missing, -⟩
              · exact ⟨free, unrecorded.trans empty, clientIp, kept.trans isNew⟩
              · rw [isNew] at missing
                cases missing
            · have kept := accept_client_others lb clientIp same
              have unrecorded : (lb.acceptClient fd clientIp).dialled clientFd =
                  lb.dialled clientFd := Function.update_of_ne same _ _
              rw [← kept, ← unrecorded]
              exact ih (lb.acceptClient fd clientIp)

theorem with_health_moves (accepts : may.accepts) {state : HealthChecker × BackendPool}
    (counts : SameCounts state.2 lb.backendPool)
    (checks : ∀ fd, state.1.handles fd = true →
      lb.healthChecker.handles fd = true ∨ lb.inUse fd = false) :
    Moves may clientFd lb (lb.withHealth state) :=
  counted_moves rfl rfl rfl counts ⟨rfl, rfl, checks⟩ rfl (.inr (.inl accepts))

end Phases

end Aorta.Lb
