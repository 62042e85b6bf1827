import Aorta.Lb.Interest
import Aorta.Lb.Selection

/-!
# Which backends are dialled for a client

`connectClientToBackend` remembers the backends it has dialled, `failoverConnection`
only the one that failed last. A further backend is dialled only when all before it have
failed, so a client is dialled no failed backend again just when none occurs twice in the
record of its dials.
-/

namespace Aorta.Lb

open Relation Aorta.Library.Ascii Aorta.Library.FiniteMap Aorta.Library.Run Aorta.Net

set_option autoImplicit false

namespace LoadBalancer

/-! ### The record of the dials -/

section Record

variable {clientFd : Int} {lb between after : LoadBalancer} {tried more : List Nat}

/-- These backends are dialled for the client, in order, and none for another one. -/
def Dials (clientFd : Int) (tried : List Nat) (lb after : LoadBalancer) : Prop :=
  after.dialled = Function.update lb.dialled clientFd (lb.dialled clientFd ++ tried)

theorem dials_nothing (same : after.dialled = lb.dialled) : Dials clientFd [] lb after := by
  rw [Dials, same, List.append_nil, Function.update_eq_self]

theorem Dials.own (dials : Dials clientFd tried lb after) :
    after.dialled clientFd = lb.dialled clientFd ++ tried := by
  rw [Dials] at dials
  rw [dials, Function.update_self]

theorem Dials.trans (first : Dials clientFd tried lb between)
    (second : Dials clientFd more between after) : Dials clientFd (tried ++ more) lb after := by
  have own := first.own
  rw [Dials] at first second ⊢
  rw [second, own, first, Function.update_idem, List.append_assoc]

theorem Dials.unique (dials : Dials clientFd tried lb after)
    (others : Dials clientFd more lb after) : tried = more := by
  have same := dials.own.symm.trans others.own
  exact List.append_cancel_left same

end Record

theorem close_connection_dialled (lb : LoadBalancer) {clientFd : Int} (reason : CloseReason) :
    (lb.closeConnection clientFd reason).dialled = lb.dialled := by
  unfold closeConnection
  cases lb.connections.lookup clientFd with
  | none => rfl
  | some pair =>
      simp only
      split_ifs
      · rfl
      · rfl
      · rfl

/-! ### The loops -/

/-- A dial ends with a socket that is watched. -/
def givesSocket (lb : LoadBalancer) (dial : Dial) : Bool :=
  (lb.connectToBackend dial.sockets).isSome && dial.added

/-- The kernel can hand out the same sockets, and the same backends are healthy. -/
structure SameOffers (lb after : LoadBalancer) : Prop where
  sockets : ∀ sockets, after.connectToBackend sockets = lb.connectToBackend sockets
  healthy : ∀ index, after.backendPool.isHealthy index = lb.backendPool.isHealthy index
  length : after.backendPool.length = lb.backendPool.length

theorem SameOffers.trans {first second third : LoadBalancer} (left : SameOffers first second)
    (right : SameOffers second third) : SameOffers first third where
  sockets sockets := (right.sockets sockets).trans (left.sockets sockets)
  healthy index := (right.healthy index).trans (left.healthy index)
  length := right.length.trans left.length

theorem connect_same {lb after : LoadBalancer} (same : ∀ fd, after.inUse fd = lb.inUse fd)
    (sockets : List SocketAnswer) :
    after.connectToBackend sockets = lb.connectToBackend sockets := by
  induction sockets with
  | nil => rfl
  | cons answer sockets ih =>
      cases answer with
      | unusable => exact ih
      | connected fd =>
          unfold connectToBackend
          rw [same, ih]
      | inProgress fd =>
          unfold connectToBackend
          rw [same, ih]

theorem modify_healthy (pool : BackendPool) (position : Nat) (change : Backend → Backend)
    (same : ∀ backend, (change backend).healthy = backend.healthy) (index : Nat) :
    BackendPool.isHealthy (pool.modify position change) index = pool.isHealthy index := by
  unfold BackendPool.isHealthy
  rw [List.getElem?_modify]
  by_cases here : position = index
  · cases pool[index]? with
    | none => rfl
    | some backend => simp [here, same]
  · cases pool[index]? with
    | none => rfl
    | some backend => simp [here]

theorem release_healthy (backend : Backend) :
    backend.releaseConnection.healthy = backend.healthy := by
  unfold Backend.releaseConnection
  split_ifs
  · rfl
  · rfl

theorem SameOffers.gives {lb after : LoadBalancer} (same : SameOffers lb after) (dial : Dial) :
    after.givesSocket dial = lb.givesSocket dial := by
  unfold givesSocket
  rw [same.sockets]

theorem record_dial_sockets (lb : LoadBalancer) (clientFd : Int) (index : Nat)
    (sockets : List SocketAnswer) :
    (lb.recordDial clientFd index).connectToBackend sockets = lb.connectToBackend sockets := by
  apply connect_same
  intro fd
  rfl

section Dialling

variable {clientFd : Int} {lb : LoadBalancer} {pair : ConnectionPair}

theorem set_pair_in_use (found : lb.connections.lookup clientFd = some pair)
    (new : ConnectionPair) (fd : Int) : (lb.setPair clientFd new).inUse fd = lb.inUse fd := by
  have kept : ((lb.setPair clientFd new).connections.lookup fd).isSome =
      (lb.connections.lookup fd).isSome := by
    unfold setPair
    by_cases same : fd = clientFd
    · subst same
      rw [AList.lookup_insert, found]
      rfl
    · rw [AList.lookup_insert_ne same]
  unfold inUse
  rw [kept]
  rfl

theorem try_backend_gives (found : lb.connections.lookup clientFd = some pair) (index : Nat)
    (dial : Dial) (detach : ConnectionPair → ConnectionPair) :
    (lb.tryBackend clientFd index dial detach).1 = lb.givesSocket dial := by
  have tries := try_backend_tries found index dial detach
  generalize lb.tryBackend clientFd index dial detach = outcome at tries ⊢
  unfold givesSocket
  cases tries with
  | refused dialled =>
      rw [record_dial_sockets] at dialled
      simp [dialled]
  | unwatched fd connecting dialled added => simp [added]
  | connected fd connecting dialled added =>
      rw [record_dial_sockets] at dialled
      simp [dialled, added]

theorem try_backend_index (found : lb.connections.lookup clientFd = some pair) {index : Nat}
    {dial : Dial} {detach : ConnectionPair → ConnectionPair} {after : LoadBalancer}
    (tried : lb.tryBackend clientFd index dial detach = (true, after)) :
    ∃ new, after.connections.lookup clientFd = some new ∧ new.backendFd ≠ -1 ∧
      new.backendIndex = index := by
  have tries := try_backend_tries found index dial detach
  rw [tried] at tries
  cases tries with
  | connected fd connecting dialled added =>
      have socket := (unused (connect_to_backend_free dial.sockets dialled)).2.2
      exact ⟨_, lookup_set_pair _ _ _, socket, rfl⟩

theorem try_backend_fails (found : lb.connections.lookup clientFd = some pair) {index : Nat}
    {dial : Dial} {detach : ConnectionPair → ConnectionPair} {after : LoadBalancer}
    (tried : lb.tryBackend clientFd index dial detach = (false, after)) :
    (∃ new, after.connections.lookup clientFd = some new) ∧ SameOffers lb after := by
  have tries := try_backend_tries found index dial detach
  rw [tried] at tries
  cases tries with
  | refused dialled =>
      refine ⟨⟨pair, found⟩, connect_same fun _ => rfl, fun position => ?_, List.length_modify ..⟩
      exact modify_healthy _ _ Backend.countFailedConnection (fun _ => rfl) position
  | unwatched fd connecting dialled added =>
      refine ⟨⟨_, lookup_set_pair _ _ _⟩, connect_same fun fd => ?_, fun position => ?_, ?_⟩
      · exact set_pair_in_use found _ fd
      · exact (modify_healthy _ _ Backend.releaseConnection release_healthy position).trans
          (modify_healthy _ _ Backend.takeConnection (fun _ => rfl) position)
      · exact (List.length_modify ..).trans (List.length_modify ..)

/-- The healthy backends among some, without the failed one. -/
def candidates (lb : LoadBalancer) (failedBackendIndex : Nat) (indices : List Nat) : List Nat :=
  indices.filter fun index => index ≠ failedBackendIndex && lb.backendPool.isHealthy index

theorem candidates_same {lb after : LoadBalancer} (same : SameOffers lb after)
    (failedBackendIndex : Nat) (indices : List Nat) :
    after.candidates failedBackendIndex indices = lb.candidates failedBackendIndex indices := by
  unfold candidates
  congr
  funext index
  rw [same.healthy]

/-- The pair has the socket of the backend that was dialled last. -/
def DialledLast (lb : LoadBalancer) (clientFd : Int) (dialled : List Nat) : Prop :=
  ∃ pair, lb.connections.lookup clientFd = some pair ∧ pair.backendFd ≠ -1 ∧
    dialled.getLast? = some pair.backendIndex

theorem dialled_last_cons {dialled : List Nat} (index : Nat)
    (last : DialledLast lb clientFd dialled) : DialledLast lb clientFd (index :: dialled) := by
  obtain ⟨pair, found, attached, isLast⟩ := last
  refine ⟨pair, found, attached, ?_⟩
  rw [List.getLast?_cons, isLast]
  rfl

theorem try_backend_dials (found : lb.connections.lookup clientFd = some pair) (index : Nat)
    (dial : Dial) (detach : ConnectionPair → ConnectionPair) :
    Dials clientFd [index] lb (lb.tryBackend clientFd index dial detach).2 := by
  have tries := try_backend_tries found index dial detach
  generalize lb.tryBackend clientFd index dial detach = outcome at tries ⊢
  cases tries with
  | refused dialled => rfl
  | unwatched fd connecting dialled added => rfl
  | connected fd connecting dialled added => rfl

theorem tail_dial (dials : List Dial) (place : Nat) :
    dials.tail.getD place {} = dials.getD (place + 1) {} := by
  cases dials with
  | nil => rfl
  | cons dial dials => rfl

/-- The loop of a failover dials the candidates in order, as far as the first one that
gives a socket. -/
theorem failover_loop_dials (failedBackendIndex : Nat) (indices : List Nat) (dials : List Dial)
    (lb : LoadBalancer) (pair : ConnectionPair)
    (found : lb.connections.lookup clientFd = some pair) :
    let outcome := failoverLoop clientFd failedBackendIndex indices dials lb
    ∃ tried, Dials clientFd tried lb outcome.2 ∧
      tried <+: lb.candidates failedBackendIndex indices ∧
      (∀ place, lb.givesSocket (dials.getD place {}) = true → tried.length ≤ place + 1) ∧
      (outcome.1 = true → DialledLast outcome.2 clientFd tried) := by
  induction indices generalizing dials lb pair with
  | nil => exact ⟨[], dials_nothing rfl, List.prefix_rfl, fun _ _ => Nat.zero_le _, nofun⟩
  | cons index indices ih =>
      rw [failoverLoop]
      by_cases failed : index = failedBackendIndex
      · have skipped : lb.candidates failedBackendIndex (index :: indices) =
            lb.candidates failedBackendIndex indices := by
          simp [candidates, failed]
        rw [if_pos failed, skipped]
        exact ih dials lb pair found
      · rw [if_neg failed]
        cases healthy : lb.backendPool.isHealthy index with
        | false =>
            have skipped : lb.candidates failedBackendIndex (index :: indices) =
                lb.candidates failedBackendIndex indices := by
              simp [candidates, healthy]
            rw [if_pos (by rfl), skipped]
            exact ih dials lb pair found
        | true =>
            have taken : lb.candidates failedBackendIndex (index :: indices) =
                index :: lb.candidates failedBackendIndex indices := by
              simp [candidates, healthy, failed]
            rw [if_neg nofun, taken]
            have gives := try_backend_gives found index (dials.headD {}) resetBackend
            have recorded := try_backend_dials found index (dials.headD {}) resetBackend
            cases tried : lb.tryBackend clientFd index (dials.headD {}) resetBackend with
            | mk good last =>
                rw [tried] at gives recorded
                cases good with
                | true =>
                    obtain ⟨new, isNew, attached, same⟩ := try_backend_index found tried
                    refine ⟨[index], recorded, List.cons_prefix_cons.mpr ⟨rfl, List.nil_prefix⟩,
                      fun place _ => Nat.succ_le_succ (Nat.zero_le place), fun _ => ?_⟩
                    exact ⟨new, isNew, attached, congrArg some same.symm⟩
                | false =>
                    obtain ⟨⟨new, isNew⟩, same⟩ := try_backend_fails found tried
                    obtain ⟨rest, later, front, short, ends⟩ := ih dials.tail last new isNew
                    rw [candidates_same same] at front
                    refine ⟨index :: rest, recorded.trans later,
                      List.cons_prefix_cons.mpr ⟨rfl, front⟩, fun place socket => ?_,
                      fun good => dialled_last_cons index (ends good)⟩
                    cases place with
                    | zero =>
                        rw [← List.headD_eq_getD, ← gives] at socket
                        cases socket
                    | succ place =>
                        apply Nat.succ_le_succ
                        apply short
                        rw [same.gives, tail_dial]
                        exact socket

/-- What a first connect comes to that has dialled some backends: they were healthy and had not
been attempted, and only the last of them gave a socket. -/
structure Attempts (clientFd : Int) (attempted : List Nat) (dials : List Dial) (lb : LoadBalancer)
    (tried : List Nat) (outcome : Bool × LoadBalancer) : Prop where
  recorded : Dials clientFd tried lb outcome.2
  distinct : tried.Nodup
  healthy : ∀ index ∈ tried, lb.backendPool.isHealthy index = true
  fresh : ∀ index ∈ tried, index ∉ attempted
  inVain : outcome.1 = false →
    ∀ place < tried.length, lb.givesSocket (dials.getD place {}) = false
  ends : outcome.1 = true → DialledLast outcome.2 clientFd tried

section Attempts

variable {attempted tried : List Nat} {dials : List Dial} {outcome : Bool × LoadBalancer}
  {index : Nat} {last : LoadBalancer}

theorem Attempts.none (same : last.dialled = lb.dialled) :
    Attempts clientFd attempted dials lb [] (false, last) where
  recorded := dials_nothing same
  distinct := List.nodup_nil
  healthy := List.forall_mem_nil _
  fresh := List.forall_mem_nil _
  inVain := fun _ place below => absurd below (Nat.not_lt_zero place)
  ends := nofun

theorem Attempts.fewer (attempts : Attempts clientFd (index :: attempted) dials lb tried outcome) :
    Attempts clientFd attempted dials lb tried outcome where
  recorded := attempts.recorded
  distinct := attempts.distinct
  healthy := attempts.healthy
  fresh := fun other member => List.not_mem_of_not_mem_cons (attempts.fresh other member)
  inVain := attempts.inVain
  ends := attempts.ends

theorem Attempts.before {chosen : LoadBalancer} (same : SameOffers lb chosen)
    (dialled : chosen.dialled = lb.dialled)
    (attempts : Attempts clientFd attempted dials chosen tried outcome) :
    Attempts clientFd attempted dials lb tried outcome where
  recorded := by
    have recorded := attempts.recorded
    unfold Dials at recorded ⊢
    rwa [dialled] at recorded
  distinct := attempts.distinct
  healthy := by
    intro index member
    rw [← same.healthy]
    exact attempts.healthy index member
  fresh := attempts.fresh
  inVain := by
    intro fails place below
    rw [← same.gives]
    exact attempts.inVain fails place below
  ends := attempts.ends

theorem Attempts.found (found : lb.connections.lookup clientFd = some pair)
    (healthy : lb.backendPool.isHealthy index = true) (fresh : index ∉ attempted)
    (gives : lb.tryBackend clientFd index (dials.headD {}) dropBackend = (true, last)) :
    Attempts clientFd attempted dials lb [index] (true, last) where
  recorded := by
    have recorded := try_backend_dials found index (dials.headD {}) dropBackend
    rwa [gives] at recorded
  distinct := List.nodup_singleton index
  healthy := List.forall_mem_singleton.mpr healthy
  fresh := List.forall_mem_singleton.mpr fresh
  inVain := nofun
  ends := by
    obtain ⟨new, isNew, attached, same⟩ := try_backend_index found gives
    exact fun _ => ⟨new, isNew, attached, congrArg some same.symm⟩

/-- A dial in vain, and the attempts behind it. -/
theorem Attempts.behind (found : lb.connections.lookup clientFd = some pair)
    (healthy : lb.backendPool.isHealthy index = true) (fresh : index ∉ attempted)
    (fails : lb.tryBackend clientFd index (dials.headD {}) dropBackend = (false, last))
    (later : Attempts clientFd (index :: attempted) dials.tail last tried outcome) :
    Attempts clientFd attempted dials lb (index :: tried) outcome := by
  obtain ⟨-, same⟩ := try_backend_fails found fails
  constructor
  · have recorded := try_backend_dials found index (dials.headD {}) dropBackend
    rw [fails] at recorded
    exact recorded.trans later.recorded
  · refine List.nodup_cons.mpr ⟨?_, later.distinct⟩
    intro member
    exact later.fresh index member List.mem_cons_self
  · refine List.forall_mem_cons.mpr ⟨healthy, ?_⟩
    intro other member
    rw [← same.healthy]
    exact later.healthy other member
  · exact List.forall_mem_cons.mpr ⟨fresh, later.fewer.fresh⟩
  · intro ended place below
    cases place with
    | zero =>
        have gives := try_backend_gives found index (dials.headD {}) dropBackend
        rw [fails] at gives
        rw [← List.headD_eq_getD]
        exact gives.symm
    | succ place =>
        have none := later.inVain ended place (Nat.lt_of_succ_lt_succ below)
        rwa [same.gives, tail_dial] at none
  · intro good
    exact dialled_last_cons index (later.ends good)

end Attempts

theorem connect_loop_dials (initial attempts : Nat) (first : Bool) (attempted : List Nat)
    (dials : List Dial) (lb : LoadBalancer) (pair : ConnectionPair)
    (found : lb.connections.lookup clientFd = some pair) :
    ∃ tried, Attempts clientFd attempted dials lb tried
      (connectLoop clientFd initial attempts first attempted dials lb) := by
  induction attempts generalizing first attempted dials lb pair with
  | zero => exact ⟨[], .none rfl⟩
  | succ attempts ih =>
      obtain ⟨next, same⟩ := next_candidate_same lb initial first attempted
      unfold connectLoop
      generalize lb.nextCandidate initial first attempted = candidate at same
      obtain ⟨index, chosen⟩ := candidate
      subst same
      have isFound : { lb with nextBackendIndex := next }.connections.lookup clientFd =
          some pair := found
      have moved : SameOffers lb { lb with nextBackendIndex := next } :=
        ⟨connect_same fun _ => rfl, fun _ => rfl, rfl⟩
      have unrecorded : { lb with nextBackendIndex := next }.dialled = lb.dialled := rfl
      generalize { lb with nextBackendIndex := next } = chosen at isFound moved unrecorded
      refine Exists.imp (fun tried (attempts : Attempts clientFd attempted dials chosen tried _) =>
        attempts.before moved unrecorded) ?_
      cases index with
      | none => exact ⟨[], .none rfl⟩
      | some index =>
          simp only
          split_ifs with outside again unhealthy
          · exact ih false attempted dials chosen pair isFound
          · exact ih false attempted dials chosen pair isFound
          · obtain ⟨tried, attempts⟩ := ih false (index :: attempted) dials chosen pair isFound
            exact ⟨tried, attempts.fewer⟩
          · have fresh : index ∉ attempted := by
              intro member
              exact again (List.contains_iff_mem.mpr member)
            have healthy : chosen.backendPool.isHealthy index = true := by simpa using unhealthy
            cases tried : chosen.tryBackend clientFd index (dials.headD {}) dropBackend with
            | mk good last =>
                cases good with
                | true => exact ⟨[index], .found isFound healthy fresh tried⟩
                | false =>
                    obtain ⟨⟨new, isNew⟩, -⟩ := try_backend_fails isFound tried
                    obtain ⟨rest, later⟩ :=
                      ih false (index :: attempted) dials.tail last new isNew
                    exact ⟨index :: rest, later.behind isFound healthy fresh tried⟩

/-- The backends that a first connect dials. -/
theorem connect_client_dials (found : lb.connections.lookup clientFd = some pair)
    (dials : List Dial) :
    ∃ tried, Attempts clientFd [] dials lb tried
      (lb.connectClientToBackend clientFd dials) := by
  unfold connectClientToBackend
  by_cases healthy : (!lb.backendPool.hasHealthyBackend) = true
  · rw [if_pos healthy]
    exact ⟨[], .none rfl⟩
  · simp only [if_neg healthy, found]
    obtain ⟨next, same⟩ := select_backend_same lb pair.clientIp
    generalize lb.selectBackend pair.clientIp = selected at same
    obtain ⟨initial, chosen⟩ := selected
    subst same
    cases initial with
    | none => exact ⟨[], .none rfl⟩
    | some initial =>
        obtain ⟨tried, attempts⟩ := connect_loop_dials initial lb.backendPool.length true [] dials
          { lb with nextBackendIndex := next } pair found
        have moved : SameOffers lb { lb with nextBackendIndex := next } :=
          ⟨connect_same fun _ => rfl, fun _ => rfl, rfl⟩
        exact ⟨tried, attempts.before moved rfl⟩

end Dialling

section Failover

variable {clientFd : Int} {lb : LoadBalancer} {pair : ConnectionPair}

theorem failover_order_nodup (count failedBackendIndex : Nat) :
    (failoverOrder count failedBackendIndex).Nodup := by
  unfold failoverOrder
  apply List.Nodup.map_on _ List.nodup_range
  intro first inFirst second inSecond same
  rw [List.mem_range] at inFirst inSecond
  have shifted : first % count = second % count := Nat.ModEq.add_left_cancel' _ same
  rw [Nat.mod_eq_of_lt inFirst, Nat.mod_eq_of_lt inSecond] at shifted
  exact shifted

theorem failover_order_bound {count failedBackendIndex index : Nat}
    (member : index ∈ failoverOrder count failedBackendIndex) : index < count := by
  unfold failoverOrder at member
  obtain ⟨attempt, inRange, rfl⟩ := List.mem_map.mp member
  exact Nat.mod_lt _ (Nat.zero_lt_of_lt (List.mem_range.mp inRange))

/-- The healthy backends in the order in which a failover comes to them. -/
def failoverCandidates (lb : LoadBalancer) (pair : ConnectionPair) : List Nat :=
  lb.candidates pair.backendIndex (failoverOrder lb.backendPool.length pair.backendIndex)

/-- Those of them that come before the first one that has been dialled for the client. -/
def freshCandidates (lb : LoadBalancer) (clientFd : Int) (pair : ConnectionPair) : List Nat :=
  (lb.failoverCandidates pair).takeWhile fun index => !(lb.dialled clientFd).contains index

/-- The other backends that have been dialled for the client are down, or a fresh one in
front of them gives a socket. -/
def FindsFresh (lb : LoadBalancer) (clientFd : Int) (pair : ConnectionPair) (dials : List Dial) :
    Prop :=
  (∀ index ∈ lb.dialled clientFd, index ≠ pair.backendIndex →
    lb.backendPool.isHealthy index = false) ∨
  ∃ place ∈ List.range (lb.freshCandidates clientFd pair).length,
    (lb.dropFailedBackend clientFd pair pair.backendIndex).givesSocket (dials.getD place {}) = true

theorem drop_failed_backend_lookup (found : lb.connections.lookup clientFd = some pair) :
    ∃ new, (lb.dropFailedBackend clientFd pair pair.backendIndex).connections.lookup clientFd =
      some new := by
  unfold dropFailedBackend
  split_ifs
  · exact ⟨_, lookup_set_pair _ _ _⟩
  · exact ⟨pair, found⟩

theorem drop_failed_backend_candidates (indices : List Nat) :
    (lb.dropFailedBackend clientFd pair pair.backendIndex).candidates pair.backendIndex indices =
      lb.candidates pair.backendIndex indices := by
  unfold dropFailedBackend
  split_ifs
  · unfold candidates
    congr
    funext index
    congr 1
    exact modify_healthy _ _ (fun backend => backend.releaseConnection.countFailedConnection)
      release_healthy index
  · rfl

theorem drop_failed_backend_dialled :
    (lb.dropFailedBackend clientFd pair pair.backendIndex).dialled = lb.dialled := by
  unfold dropFailedBackend
  split_ifs
  · rfl
  · rfl

theorem failover_dials (tables : Tables lb)
    (found : lb.connections.lookup clientFd = some pair) (attached : pair.backendFd ≠ -1)
    (dials : List Dial) :
    let after := lb.failoverConnection clientFd pair.backendIndex dials
    ∃ tried, Dials clientFd tried lb after ∧ tried <+: lb.failoverCandidates pair ∧
      (∀ place, (lb.dropFailedBackend clientFd pair pair.backendIndex).givesSocket
        (dials.getD place {}) = true → tried.length ≤ place + 1) ∧
      (after.connections.lookup clientFd = none ∨ DialledLast after clientFd tried) := by
  have tablesAfter : Tables (lb.dropFailedBackend clientFd pair pair.backendIndex) :=
    tables.detach found attached
  have dialable := drop_failed_dialable tables found attached
  have length : (lb.dropFailedBackend clientFd pair pair.backendIndex).backendPool.length =
      lb.backendPool.length := by
    unfold dropFailedBackend
    rw [if_pos attached]
    exact List.length_modify ..
  have dropped : Dials clientFd [] lb (lb.dropFailedBackend clientFd pair pair.backendIndex) :=
    dials_nothing drop_failed_backend_dialled
  obtain ⟨new, isNew⟩ := drop_failed_backend_lookup found
  have comes := failover_loop_dials pair.backendIndex
    (failoverOrder lb.backendPool.length pair.backendIndex) dials _ new isNew
  rw [drop_failed_backend_candidates] at comes
  unfold failoverConnection failoverCandidates
  simp only [found]
  rw [← length] at comes ⊢
  generalize lb.dropFailedBackend clientFd pair pair.backendIndex = start at *
  have closed : ∀ {last : LoadBalancer}, Tables last →
      Dials clientFd [] last (last.closeConnection clientFd .noBackend) ∧
        (last.closeConnection clientFd .noBackend).connections.lookup clientFd = none := by
    intro last tablesLast
    exact ⟨dials_nothing (close_connection_dialled last .noBackend),
      close_connection_missing tablesLast .noBackend⟩
  split_ifs
  · obtain ⟨nothing, gone⟩ := closed tablesAfter
    exact ⟨[], dropped.trans nothing, List.nil_prefix, fun _ _ => Nat.zero_le _, .inl gone⟩
  · obtain ⟨tried, recorded, front, short, ends⟩ := comes
    obtain ⟨moves, -⟩ := failover_loop_moves (show failing.dials from trivial) pair.backendIndex
      (failoverOrder start.backendPool.length pair.backendIndex) dials start dialable
    cases loop : failoverLoop clientFd pair.backendIndex
        (failoverOrder start.backendPool.length pair.backendIndex) dials start with
    | mk good last =>
        rw [loop] at recorded moves ends
        cases good with
        | true => exact ⟨tried, dropped.trans recorded, front, short, .inr (ends rfl)⟩
        | false =>
            obtain ⟨nothing, gone⟩ := closed (moves_tables tablesAfter moves)
            have recorded := (dropped.trans recorded).trans nothing
            rw [List.append_nil] at recorded
            exact ⟨tried, recorded, front, short, .inl gone⟩

theorem fresh_dials {dials : List Dial} {tried : List Nat}
    (front : tried <+: lb.failoverCandidates pair)
    (short : ∀ place, (lb.dropFailedBackend clientFd pair pair.backendIndex).givesSocket
      (dials.getD place {}) = true → tried.length ≤ place + 1)
    (fresh : lb.FindsFresh clientFd pair dials) :
    tried.Nodup ∧
      ∀ index ∈ tried, index < lb.backendPool.length ∧ index ∉ lb.dialled clientFd := by
  have distinct : (lb.failoverCandidates pair).Nodup := (failover_order_nodup _ _).filter _
  refine ⟨distinct.sublist front.sublist, fun index member => ?_⟩
  obtain ⟨ordered, chosen⟩ := List.mem_filter.mp (front.subset member)
  refine ⟨failover_order_bound ordered, fun again => ?_⟩
  rcases fresh with down | ⟨place, inRange, socket⟩
  · simp only [Bool.and_eq_true, decide_eq_true_eq] at chosen
    rw [down index again chosen.1] at chosen
    cases chosen.2
  · have untouched : tried <+: lb.freshCandidates clientFd pair :=
      List.prefix_of_prefix_length_le front (List.takeWhile_prefix _)
        ((short place socket).trans (List.mem_range.mp inRange))
    have unseen := List.mem_takeWhile_imp (untouched.subset member)
    rw [List.contains_iff_mem.mpr again] at unseen
    cases unseen

end Failover

/-! ### The size of the pool -/

theorem same_counts_length {left right : BackendPool} (same : SameCounts left right) :
    left.length = right.length := by
  have lengths := congrArg List.length same
  rw [List.length_map, List.length_map] at lengths
  exact lengths

theorem moves_pool_length {may : May} {clientFd : Int} {lb after : LoadBalancer}
    (moves : Moves may clientFd lb after) :
    after.backendPool.length = lb.backendPool.length := by
  induction moves with
  | refl => rfl
  | tail _ move ih =>
      rw [← ih]
      cases move with
      | counted after connections backends closed counts => exact same_counts_length counts
      | dialled dials pair index found detached plain => rfl
      | accepted accepts fd clientIp free => rfl
      | touched pair after found moves => rfl
      | attached pair fd index connecting found detached plain free => exact List.length_modify ..
      | detached pair found attached connecting detaches trouble =>
          unfold dropFailedBackend
          rw [if_pos attached]
          exact List.length_modify ..
      | closed pair reason found justified =>
          unfold closeConnection
          simp only [found]
          split_ifs
          · rfl
          · exact List.length_modify ..
          · rfl

theorem release_all_length (entries : List (Σ _ : Int, ConnectionPair)) (pool : BackendPool) :
    (entries.foldl (fun pool entry =>
      if entry.2.backendFd ≠ -1 then
        pool.modify entry.2.backendIndex Backend.releaseConnection
      else pool) pool).length = pool.length := by
  induction entries generalizing pool with
  | nil => rfl
  | cons entry entries ih =>
      rw [List.foldl_cons, ih]
      split_ifs
      · exact List.length_modify ..
      · rfl

theorem step_pool_length {lb : LoadBalancer} (sound : Sound lb) (input : Input) :
    (lb.step input).backendPool.length = lb.backendPool.length := by
  have stepped := sound.stepped input
  generalize lb.step input = after at stepped
  cases stepped with
  | quiet input after moves => exact moves_pool_length moves
  | relayed fd flags answers between last after reads settles ends =>
      have settled : Tables last := moves_tables (moves_tables sound.tables reads) settles
      rw [moves_pool_length (fails_over_moves settled ends), moves_pool_length settles,
        moves_pool_length reads]
  | stopped => exact release_all_length _ _

/-! ### The stages that dial nothing -/

section Stages

variable {may : May} {clientFd : Int} {lb after : LoadBalancer} {pair : ConnectionPair}

/-- The pair of a client, if it is still there, has the sockets it had. -/
def Keeps (clientFd : Int) (lb after : LoadBalancer) : Prop :=
  ∀ new, after.connections.lookup clientFd = some new →
    ∃ pair, lb.connections.lookup clientFd = some pair ∧ SameSockets pair new

theorem Keeps.refl (clientFd : Int) (lb : LoadBalancer) : Keeps clientFd lb lb := by
  intro pair found
  exact ⟨pair, found, rfl, rfl, rfl, fun _ => rfl, fun _ => rfl⟩

theorem Keeps.trans {first second third : LoadBalancer} (left : Keeps clientFd first second)
    (right : Keeps clientFd second third) : Keeps clientFd first third := by
  intro last isLast
  obtain ⟨between, isBetween, later⟩ := right last isLast
  obtain ⟨pair, found, earlier⟩ := left between isBetween
  exact ⟨pair, found, earlier.trans later⟩

theorem keeps_gone {after : LoadBalancer} (gone : after.connections.lookup clientFd = none) :
    Keeps clientFd lb after := by
  intro new isNew
  rw [gone] at isNew
  cases isNew

theorem keeps_set (found : lb.connections.lookup clientFd = some pair) {new : ConnectionPair}
    (same : SameSockets pair new) : Keeps clientFd lb (lb.setPair clientFd new) := by
  intro stored isStored
  rw [lookup_set_pair] at isStored
  cases isStored
  exact ⟨pair, found, same⟩

theorem close_connection_keeps (found : lb.connections.lookup clientFd = some pair)
    (reason : CloseReason) : Keeps clientFd lb (lb.closeConnection clientFd reason) := by
  rcases lb.close_connection_cases reason found with same | ⟨connections, -⟩
  · rw [same]
    exact .refl clientFd lb
  · apply keeps_gone
    rw [connections]
    exact AList.lookup_erase _ _

def Detached (clientFd : Int) (lb : LoadBalancer) : Prop :=
  ∀ pair, lb.connections.lookup clientFd = some pair → pair.backendFd = -1

/-- Nothing is dialled, and the pair of the client is closed or keeps its sockets; without
a backend socket it leaves the pool alone. -/
structure Rests (clientFd : Int) (lb after : LoadBalancer) : Prop where
  pair : Keeps clientFd lb after
  dialled : after.dialled = lb.dialled
  pool : Detached clientFd lb → after.backendPool = lb.backendPool

theorem Rests.refl (clientFd : Int) (lb : LoadBalancer) : Rests clientFd lb lb :=
  ⟨.refl clientFd lb, rfl, fun _ => rfl⟩

theorem Keeps.detached (keeps : Keeps clientFd lb after) (detached : Detached clientFd lb) :
    Detached clientFd after := by
  intro new isNew
  obtain ⟨pair, found, same⟩ := keeps new isNew
  rw [same.backend]
  exact detached pair found

theorem Rests.trans {first second third : LoadBalancer} (left : Rests clientFd first second)
    (right : Rests clientFd second third) : Rests clientFd first third where
  pair := left.pair.trans right.pair
  dialled := right.dialled.trans left.dialled
  pool detached := (right.pool (left.pair.detached detached)).trans (left.pool detached)

theorem set_pair_rests (found : lb.connections.lookup clientFd = some pair)
    {new : ConnectionPair} (same : SameSockets pair new) :
    Rests clientFd lb (lb.setPair clientFd new) :=
  ⟨keeps_set found same, rfl, fun _ => rfl⟩

theorem close_connection_rests (found : lb.connections.lookup clientFd = some pair)
    (reason : CloseReason) : Rests clientFd lb (lb.closeConnection clientFd reason) := by
  refine ⟨close_connection_keeps found reason, close_connection_dialled lb reason, ?_⟩
  intro detached
  unfold closeConnection
  simp only [found, detached pair found, ne_eq, not_true_eq_false, if_false]
  split_ifs
  · rfl
  · rfl

/-- A backend is dialled only for a pair that has none. -/
def Silent (may : May) (clientFd : Int) (lb : LoadBalancer) : Prop :=
  may.dials → ∀ pair, lb.connections.lookup clientFd = some pair → pair.backendFd ≠ -1

theorem Silent.kept (silent : Silent may clientFd lb) (keeps : Keeps clientFd lb after) :
    Silent may clientFd after := by
  intro dials new isNew
  obtain ⟨pair, found, same⟩ := keeps new isNew
  rw [same.backend]
  exact silent dials pair found

theorem move_rests (alone : ¬ may.accepts) (held : ¬ may.detaches)
    (silent : Silent may clientFd lb) (move : Move may clientFd lb after) :
    Rests clientFd lb after := by
  cases move with
  | counted after connections backends closed counts watch dialled pool =>
      refine ⟨fun new isNew => ⟨new, ?_, rfl, rfl, rfl, fun _ => rfl, fun _ => rfl⟩, dialled,
        fun detached => ?_⟩
      · rw [← connections]
        exact isNew
      · rcases pool with same | accepts | ⟨dials, stored⟩
        · exact same
        · exact absurd accepts alone
        · obtain ⟨pair, found⟩ := Option.isSome_iff_exists.mp (AList.lookup_isSome.mpr stored)
          exact absurd (detached pair found) (silent dials pair found)
  | dialled dials pair index found detached plain => exact absurd detached (silent dials pair found)
  | accepted accepts fd clientIp free => exact absurd accepts alone
  | touched pair new found moves => exact set_pair_rests found (pair_moves_sockets moves)
  | attached pair fd index connecting found detached plain free dials =>
      exact absurd detached (silent dials pair found)
  | detached pair found attached connecting detaches trouble => exact absurd detaches held
  | closed pair reason found justified => exact close_connection_rests found reason

theorem moves_rest (alone : ¬ may.accepts) (held : ¬ may.detaches)
    (silent : Silent may clientFd lb) (moves : Moves may clientFd lb after) :
    Rests clientFd lb after := by
  induction moves with
  | refl => exact .refl clientFd lb
  | tail _ move ih => exact ih.trans (move_rests alone held (silent.kept ih.pair) move)

/-- The pair has the sockets it had, and its connect is as far as it was. -/
structure SameConnect (before after : ConnectionPair) : Prop extends SameSockets before after where
  connecting : after.backendConnecting = before.backendConnecting

theorem SameConnect.refl (pair : ConnectionPair) : SameConnect pair pair :=
  ⟨⟨rfl, rfl, rfl, fun _ => rfl, fun _ => rfl⟩, rfl⟩

/-- Only the pair of the client changes, and only in what has come in. -/
def Retouched (clientFd : Int) (lb after : LoadBalancer) : Prop :=
  after = lb ∨ ∃ pair new, lb.connections.lookup clientFd = some pair ∧ SameConnect pair new ∧
    after = lb.setPair clientFd new

theorem Retouched.trans {first second third : LoadBalancer}
    (left : Retouched clientFd first second) (right : Retouched clientFd second third) :
    Retouched clientFd first third := by
  rcases left with rfl | ⟨pair, new, found, same, rfl⟩
  · exact right
  · rcases right with rfl | ⟨stored, last, isStored, later, rfl⟩
    · exact .inr ⟨pair, new, found, same, rfl⟩
    · rw [lookup_set_pair] at isStored
      cases isStored
      refine .inr ⟨pair, last, found, ⟨same.toSameSockets.trans later.toSameSockets,
        later.connecting.trans same.connecting⟩, ?_⟩
      simp only [setPair, AList.insert_insert]

theorem Retouched.lookup {last : LoadBalancer} (retouched : Retouched clientFd lb last)
    (found : lb.connections.lookup clientFd = some pair) :
    ∃ stored, last.connections.lookup clientFd = some stored ∧ SameConnect pair stored := by
  rcases retouched with rfl | ⟨known, new, isFound, same, rfl⟩
  · exact ⟨pair, found, .refl pair⟩
  · rw [found] at isFound
    cases isFound
    exact ⟨new, lookup_set_pair _ _ _, same⟩

theorem Retouched.pool {last : LoadBalancer} (retouched : Retouched clientFd lb last) :
    last.backendPool = lb.backendPool ∧ last.dialled = lb.dialled := by
  rcases retouched with rfl | ⟨known, new, isFound, same, rfl⟩
  · exact ⟨rfl, rfl⟩
  · exact ⟨rfl, rfl⟩

theorem forward_data_retouches (tables : Tables lb)
    (found : lb.connections.lookup clientFd = some pair) (side : Side) (drain : Bool)
    (recvs : List RecvResult) (attached : side = .backend → pair.backendFd ≠ -1)
    (going : lb.forwardData clientFd side drain recvs = .next after) :
    Retouched clientFd lb after := by
  have same : SameConnect pair (pair.forward drain recvs side).2 := by
    refine ⟨forward_same_sockets pair side drain recvs, ?_⟩
    cases side with
    | client => rfl
    | backend => rfl
  rw [forward_data_eq tables found side drain recvs attached] at going
  generalize pair.forward drain recvs side = outcome at same going
  obtain ⟨result, new⟩ := outcome
  cases result with
  | forwarded =>
      cases going
      exact .inr ⟨pair, new, found, same, rfl⟩
  | ended =>
      cases going
      have noted : SameSockets new (new.endRead side) := by
        cases side with
        | client => exact ⟨rfl, rfl, rfl, fun _ => rfl, fun _ => rfl⟩
        | backend => exact ⟨rfl, rfl, rfl, fun _ => rfl, fun _ => rfl⟩
      refine .inr ⟨pair, new.endRead side, found, ⟨same.toSameSockets.trans noted, ?_⟩, ?_⟩
      · rw [← same.connecting]
        cases side with
        | client => rfl
        | backend => rfl
      · simp only [setPair, AList.insert_insert]
  | overflowed => cases going
  | failed => cases going

theorem Retouched.finds_fresh {last : LoadBalancer} (retouched : Retouched clientFd lb last)
    {stored : ConnectionPair} (found : lb.connections.lookup clientFd = some pair)
    (isStored : last.connections.lookup clientFd = some stored) (attached : pair.backendFd ≠ -1)
    {dials : List Dial} (fresh : lb.FindsFresh clientFd pair dials) :
    last.FindsFresh clientFd stored dials := by
  rcases retouched with rfl | ⟨pair, new, isFound, same, rfl⟩
  · rw [found] at isStored
    cases isStored
    exact fresh
  · rw [found] at isFound
    cases isFound
    rw [lookup_set_pair] at isStored
    cases isStored
    have index := same.index attached
    have attachedNew : stored.backendFd ≠ -1 := by
      rw [same.backend]
      exact attached
    have sockets : ∀ dial,
        ((lb.setPair clientFd stored).dropFailedBackend clientFd stored pair.backendIndex).givesSocket
          dial = (lb.dropFailedBackend clientFd pair pair.backendIndex).givesSocket dial := by
      intro dial
      unfold givesSocket
      rw [connect_same fun fd => ?_]
      unfold dropFailedBackend
      rw [if_pos attached, if_pos attachedNew, same.backend]
      simp only [inUse, setPair, modifyBackend, AList.insert_insert]
      by_cases own : fd = clientFd
      · subst own
        rw [AList.lookup_insert, AList.lookup_insert]
        rfl
      · rw [AList.lookup_insert_ne own, AList.lookup_insert_ne own]
        rfl
    unfold FindsFresh freshCandidates failoverCandidates
    rw [index]
    simp only [sockets]
    exact fresh

end Stages

/-! ### The events of a pair -/

section Events

variable {clientFd : Int} {lb : LoadBalancer} {pair : ConnectionPair}
  (isBackendFd : Bool) (flags : EventMask) (answers : EventAnswers)

theorem read_phase_retouches (tables : Tables lb) (serves : Serves lb clientFd true)
    (found : lb.connections.lookup clientFd = some pair) {after : LoadBalancer}
    (going : readPhase clientFd true flags answers lb = .next after) :
    Retouched clientFd lb after := by
  simp only [readPhase, if_true] at going
  split_ifs at going
  · exact forward_data_retouches tables found .backend false answers.recvs
      (fun _ => serves.attached tables rfl found) going
  · cases going
    exact .inl rfl

theorem drain_phase_retouches (tables : Tables lb) (serves : Serves lb clientFd true)
    (found : lb.connections.lookup clientFd = some pair) {after : LoadBalancer}
    (going : drainPhase clientFd true flags answers lb = .next after) :
    Retouched clientFd lb after := by
  simp only [drainPhase, found, if_true] at going
  split_ifs at going
  · exact forward_data_retouches tables found .backend true answers.drains
      (fun _ => serves.attached tables rfl found) going
  · cases going
    exact .inl rfl

/-- A failover that an event of the pair's backend socket calls for. -/
structure FailsAt (clientFd : Int) (lb last : LoadBalancer) (pair stored : ConnectionPair)
    (isBackendFd : Bool) (flags : EventMask) (answers : EventAnswers) : Prop where
  backend : isBackendFd = true
  connecting : pair.backendConnecting = true
  fails : ConnectFails flags answers
  retouched : Retouched clientFd lb last
  tables : Tables last
  found : last.connections.lookup clientFd = some stored

theorem reads_rest (tables : Tables lb) (unopened : Unopened lb)
    (serves : Serves lb clientFd isBackendFd)
    (found : lb.connections.lookup clientFd = some pair)
    (silent : isBackendFd = false → flags.input = true → pair.backendFd ≠ -1) :
    Rests clientFd lb ((readPhase clientFd isBackendFd flags answers lb).andThen
      (drainPhase clientFd isBackendFd flags answers)).state ∧
    ∀ last, (readPhase clientFd isBackendFd flags answers lb).andThen
        (drainPhase clientFd isBackendFd flags answers) = .next last →
      Tables last ∧ Serves last clientFd isBackendFd := by
  have still : ∀ budget, Silent (reading isBackendFd flags answers budget) clientFd lb := by
    rintro budget ⟨client, input⟩ stored isStored
    rw [found] at isStored
    cases isStored
    exact silent client input
  obtain ⟨budget, reads⟩ :=
    read_phase_reaches isBackendFd flags answers tables unopened serves found
  have first := moves_rest id id (still budget) reads
  cases read : readPhase clientFd isBackendFd flags answers lb with
  | stop between =>
      rw [read] at first
      exact ⟨first, nofun⟩
  | next between =>
      rw [read, Flow.state] at reads first
      have tablesRead : Tables between := moves_tables tables reads
      have servesRead := read_phase_serves isBackendFd flags answers serves read
      obtain ⟨rest, drains⟩ := drain_phase_reaches isBackendFd flags answers tablesRead servesRead
      rw [Flow.next_and_then]
      refine ⟨first.trans (moves_rest id id ((still rest).kept first.pair) drains), ?_⟩
      intro last going
      rw [going, Flow.state] at drains
      exact ⟨moves_tables tablesRead drains,
        drain_phase_serves isBackendFd flags answers servesRead going⟩

theorem relay_event_rests (tables : Tables lb) (unopened : Unopened lb)
    (serves : Serves lb clientFd isBackendFd)
    (found : lb.connections.lookup clientFd = some pair)
    (silent : isBackendFd = false → flags.input = true → pair.backendFd ≠ -1) :
    Rests clientFd lb (relayEvent clientFd isBackendFd flags answers lb) ∨
      ∃ last stored, FailsAt clientFd lb last pair stored isBackendFd flags answers ∧
        relayEvent clientFd isBackendFd flags answers lb =
          last.failoverConnection clientFd stored.backendIndex answers.dials := by
  obtain ⟨rests, goesOn⟩ := reads_rest isBackendFd flags answers tables unopened serves found silent
  unfold relayEvent
  cases going : (readPhase clientFd isBackendFd flags answers lb).andThen
      (drainPhase clientFd isBackendFd flags answers) with
  | stop last =>
      rw [going] at rests
      exact .inl rests
  | next last =>
      rw [going, Flow.state] at rests
      obtain ⟨tablesLast, servesLast⟩ := goesOn last going
      rw [Flow.next_and_then]
      rcases connect_phase_cases isBackendFd flags answers tablesLast servesLast with
        connects | ⟨after, stops, ends⟩
      · have settles := settling_phases_moves isBackendFd flags answers tablesLast connects
        have silently : Silent (settling isBackendFd flags answers) clientFd last :=
          fun dials => False.elim dials
        exact .inl (rests.trans (moves_rest id id silently settles))
      · cases ends with
        | no =>
            simp only [stops, Flow.stop_and_then, Flow.state]
            exact .inl rests
        | yes stored isStored backend attached connecting fails =>
            subst backend
            have retouched : Retouched clientFd lb last := by
              cases read : readPhase clientFd true flags answers lb with
              | stop between =>
                  rw [read] at going
                  cases going
              | next between =>
                  rw [read, Flow.next_and_then] at going
                  have first := read_phase_retouches flags answers tables serves found read
                  obtain ⟨budget, reads⟩ :=
                    read_phase_reaches true flags answers tables unopened serves found
                  rw [read, Flow.state] at reads
                  obtain ⟨middle, isMiddle, -⟩ := first.lookup found
                  exact first.trans (drain_phase_retouches flags answers
                    (moves_tables tables reads)
                    (read_phase_serves true flags answers serves read) isMiddle going)
            obtain ⟨known, isKnown, same⟩ := retouched.lookup found
            rw [isStored] at isKnown
            cases isKnown
            refine .inr ⟨last, stored, ⟨rfl, ?_, fails, retouched, tablesLast, isStored⟩, ?_⟩
            · rw [← same.connecting]
              exact connecting
            · simp only [stops, Flow.stop_and_then, Flow.state]

theorem pair_event_rests (sound : Sound lb) (serves : Serves lb clientFd isBackendFd)
    (found : lb.connections.lookup clientFd = some pair)
    (silent : isBackendFd = false → flags.input = true → pair.backendFd ≠ -1)
    {after : LoadBalancer}
    (handled : after =
      if flags.error then handleFailure isBackendFd answers pair lb .clientFailed .backendFailed
      else if flags.hangup && !flags.input then
        handleFailure isBackendFd answers pair lb .clientHangup .backendHangup
      else relayEvent clientFd isBackendFd flags answers lb) :
    Rests clientFd lb after ∨
      ∃ last stored, FailsAt clientFd lb last pair stored isBackendFd flags answers ∧
        after = last.failoverConnection clientFd stored.backendIndex answers.dials := by
  have failure : ConnectFails flags answers → ∀ client backend : CloseReason,
      Rests clientFd lb (handleFailure isBackendFd answers pair lb client backend) ∨
        ∃ last stored, FailsAt clientFd lb last pair stored isBackendFd flags answers ∧
          handleFailure isBackendFd answers pair lb client backend =
            last.failoverConnection clientFd stored.backendIndex answers.dials := by
    intro fails client backend
    unfold handleFailure
    rw [(sound.tables.client_lookup found).1]
    by_cases dialling : (isBackendFd && pair.backendConnecting) = true
    · rw [if_pos dialling]
      simp only [Bool.and_eq_true] at dialling
      exact .inr ⟨lb, pair, ⟨dialling.1, dialling.2, fails, .inl rfl, sound.tables, found⟩, rfl⟩
    · rw [if_neg dialling]
      exact .inl (close_connection_rests found _)
  subst handled
  split_ifs with error hangup
  · exact failure (.inl error) _ _
  · simp only [Bool.and_eq_true, Bool.not_eq_true'] at hangup
    exact failure (.inr (.inl hangup)) _ _
  · exact relay_event_rests isBackendFd flags answers sound.tables sound.unopened serves found silent

/-- What admitting a client comes to: it waits, it is served the metrics, it is closed, or
a backend is dialled for it. -/
inductive Admits (clientFd : Int) (answers : EventAnswers) (pair : ConnectionPair)
    (lb : LoadBalancer) : Flow → Prop
  | waits (part : asksInPart answers.peek = true) : Admits clientFd answers pair lb (.stop lb)
  | marked : Admits clientFd answers pair lb
      (.next (lb.setPair clientFd { pair with metricsConnection := true }))
  | failed : Admits clientFd answers pair lb (.stop (lb.closeConnection clientFd .clientFailed))
  | refused (last : LoadBalancer)
      (connects : lb.connectClientToBackend clientFd answers.dials = (false, last)) :
      Admits clientFd answers pair lb (.stop (last.closeConnection clientFd .noBackend))
  | connected (last : LoadBalancer)
      (connects : lb.connectClientToBackend clientFd answers.dials = (true, last)) :
      Admits clientFd answers pair lb (.next last)

theorem admit_client_admits :
    Admits clientFd answers pair lb (admitClient clientFd answers pair lb) := by
  unfold admitClient
  extract_lets dial
  have dialled : Admits clientFd answers pair lb (dial lb) := by
    simp only [dial]
    cases connects : lb.connectClientToBackend clientFd answers.dials with
    | mk good last =>
        cases good with
        | true => exact .connected last connects
        | false => exact .refused last connects
  cases peeked : answers.peek with
  | received bytes =>
      simp only
      split_ifs with waits
      · refine .waits ?_
        rw [peeked]
        exact waits
      · exact .marked
      · exact dialled
  | wouldBlock => exact dialled
  | interrupted => exact dialled
  | failed => exact .failed

/-- What serving the metrics comes to: the pair is closed, or its request is answered. -/
inductive MetricsServed (clientFd : Int) (pair : ConnectionPair) (lb : LoadBalancer) :
    LoadBalancer → Prop
  | closed : MetricsServed clientFd pair lb (lb.closeConnection clientFd .metrics)
  | answered (response : RelayBuffer) (events : EventMask) (request : Bytes) :
      MetricsServed clientFd pair lb (lb.setPair clientFd ({ pair with
        backendToClient := response
        clientReadClosed := true
        currentClientEvents := events }.record [.read .client request]))

theorem serve_metrics_stops :
    ∃ after, serveMetrics clientFd answers pair lb = .stop after ∧
      MetricsServed clientFd pair lb after := by
  unfold serveMetrics
  cases answers.recvs.headD .wouldBlock with
  | received bytes =>
      simp only
      by_cases empty : (bytes.take 4095).isEmpty = true
      · rw [if_pos empty]
        exact ⟨_, rfl, .closed⟩
      · rw [if_neg empty]
        by_cases asked : metricsPrefix.isPrefixOf (bytes.take 4095) = true
        · rw [if_pos asked]
          exact ⟨_, rfl, .answered _ _ _⟩
        · rw [if_neg asked]
          exact ⟨_, rfl, .closed⟩
  | wouldBlock => exact ⟨_, rfl, .closed⟩
  | interrupted => exact ⟨_, rfl, .closed⟩
  | failed => exact ⟨_, rfl, .closed⟩

theorem MetricsServed.rests {after : LoadBalancer} (served : MetricsServed clientFd pair lb after)
    (found : lb.connections.lookup clientFd = some pair) : Rests clientFd lb after := by
  cases served with
  | closed => exact close_connection_rests found .metrics
  | answered response events request =>
      exact set_pair_rests found ⟨rfl, rfl, rfl, fun _ => rfl, fun _ => rfl⟩

theorem relay_event_metrics (found : lb.connections.lookup clientFd = some pair)
    (input : flags.input = true) (metrics : pair.metricsConnection = true) {after : LoadBalancer}
    (serves : serveMetrics clientFd answers pair lb = .stop after) :
    relayEvent clientFd false flags answers lb = after := by
  simp only [relayEvent, readPhase, input, if_true, Bool.false_eq_true, if_false, readClient, found,
    metrics, Bool.not_true, Bool.false_and, Flow.next_and_then, serves, Flow.stop_and_then,
    Flow.state]

/-- An admission is over before the client is read: the rest of the event goes on as if the
client had been admitted before. -/
theorem relay_event_admitted (found : lb.connections.lookup clientFd = some pair)
    (input : flags.input = true) (plain : pair.metricsConnection = false)
    (detached : pair.backendFd = -1) {last : LoadBalancer}
    (admits : admitClient clientFd answers pair lb = .next last) {stored : ConnectionPair}
    (isStored : last.connections.lookup clientFd = some stored)
    (settled : stored.metricsConnection = true ∨ stored.backendFd ≠ -1) :
    relayEvent clientFd false flags answers lb = relayEvent clientFd false flags answers last := by
  have admitted : (!stored.metricsConnection && stored.backendFd = -1) = false := by
    rcases settled with metrics | attached
    · rw [metrics, Bool.not_true, Bool.false_and]
    · rw [decide_eq_false attached, Bool.and_false]
  have reads : readPhase clientFd false flags answers lb =
      readPhase clientFd false flags answers last := by
    simp only [readPhase, input, if_true, Bool.false_eq_true, if_false, readClient, found, plain,
      detached, Bool.not_false, decide_true, Bool.and_self, admits, Flow.next_and_then, isStored,
      admitted]
  unfold relayEvent
  rw [reads]

theorem relay_event_stopped (found : lb.connections.lookup clientFd = some pair)
    (input : flags.input = true) (plain : pair.metricsConnection = false)
    (detached : pair.backendFd = -1) {after : LoadBalancer}
    (stops : admitClient clientFd answers pair lb = .stop after) :
    relayEvent clientFd false flags answers lb = after := by
  simp only [relayEvent, readPhase, input, if_true, Bool.false_eq_true, if_false, readClient, found,
    plain, detached, Bool.not_false, decide_true, Bool.and_self, stops, Flow.stop_and_then,
    Flow.state]

/-- Some backends are dialled, and the pair has the socket of the last one or is closed. -/
def Connects (clientFd : Int) (lb after : LoadBalancer) : Prop :=
  ∃ tried, Dials clientFd tried lb after ∧ tried.Nodup ∧
    (∀ index ∈ tried, index < lb.backendPool.length) ∧
    (after.connections.lookup clientFd = none ∨ DialledLast after clientFd tried)

theorem first_event_dials (sound : Sound lb) (found : lb.connections.lookup clientFd = some pair)
    (detached : pair.backendFd = -1) (input : flags.input = true) :
    Rests clientFd lb (relayEvent clientFd false flags answers lb) ∨
      Connects clientFd lb (relayEvent clientFd false flags answers lb) := by
  cases metrics : pair.metricsConnection with
  | true =>
      obtain ⟨after, serves, served⟩ := serve_metrics_stops answers
      rw [relay_event_metrics flags answers found input metrics serves]
      exact .inl (served.rests found)
  | false =>
      have dialable : Dialable lb clientFd := ⟨pair, found, detached, metrics⟩
      obtain ⟨moves, -⟩ := connect_client_moves
        (show (reading false { input := true } {} fun _ => 0).dials from ⟨rfl, rfl⟩) dialable
        answers.dials
      obtain ⟨tried, recorded, distinct, healthy, -, -, ends⟩ :=
        connect_client_dials found answers.dials
      have inside : ∀ index ∈ tried, index < lb.backendPool.length :=
        fun index member => BackendPool.healthy_below (healthy index member)
      have admits : Admits clientFd answers pair lb (admitClient clientFd answers pair lb) :=
        admit_client_admits answers
      cases flow : admitClient clientFd answers pair lb with
      | stop after =>
          rw [flow] at admits
          rw [relay_event_stopped flags answers found input metrics detached flow]
          cases admits with
          | waits part => exact .inl (.refl clientFd lb)
          | failed => exact .inl (close_connection_rests found .clientFailed)
          | refused last connects =>
              rw [connects] at recorded moves
              have closes : Dials clientFd [] last (last.closeConnection clientFd .noBackend) :=
                dials_nothing (close_connection_dialled last .noBackend)
              have closed := recorded.trans closes
              rw [List.append_nil] at closed
              exact .inr ⟨tried, closed, distinct, inside,
                .inl (close_connection_missing (moves_tables sound.tables moves) .noBackend)⟩
      | next last =>
          rw [flow] at admits
          cases admits with
          | marked =>
              have isMarked := lookup_set_pair lb clientFd { pair with metricsConnection := true }
              rw [relay_event_admitted flags answers found input metrics detached flow isMarked
                (.inl rfl)]
              obtain ⟨after, serves, served⟩ := serve_metrics_stops answers
              rw [relay_event_metrics flags answers isMarked input rfl serves]
              have marks : Rests clientFd lb
                  (lb.setPair clientFd { pair with metricsConnection := true }) :=
                set_pair_rests found ⟨rfl, rfl, rfl, fun _ => rfl,
                  fun attached => absurd detached attached⟩
              exact .inl (marks.trans (served.rests isMarked))
          | connected last connects =>
              rw [connects] at recorded moves ends
              obtain ⟨stored, isStored, attached, isLast⟩ := ends rfl
              have tables : Tables last := moves_tables sound.tables moves
              have unopened : Unopened last := moves_unopened id moves sound.unopened
              rw [relay_event_admitted flags answers found input metrics detached flow isStored
                (.inr attached)]
              rcases relay_event_rests false flags answers tables unopened nofun isStored
                fun _ _ => attached with rests | ⟨other, failed, fails, -⟩
              · have whole := recorded.trans (dials_nothing rests.dialled)
                rw [List.append_nil] at whole
                refine .inr ⟨tried, whole, distinct, inside, ?_⟩
                cases after : (relayEvent clientFd false flags answers last).connections.lookup
                    clientFd with
                | none => exact .inl rfl
                | some new =>
                    obtain ⟨old, isOld, same⟩ := rests.pair new after
                    rw [isStored] at isOld
                    cases isOld
                    refine .inr ⟨new, after, ?_, ?_⟩
                    · rw [same.backend]
                      exact attached
                    · rw [same.index attached]
                      exact isLast
              · cases fails.backend

end Events

/-! ### Whole runs -/

theorem moves_record_others {may : May} {clientFd : Int} {lb after : LoadBalancer}
    (alone : ¬ may.accepts) (moves : Moves may clientFd lb after) {other : Int}
    (differs : other ≠ clientFd) : after.dialled other = lb.dialled other := by
  induction moves with
  | refl => rfl
  | @tail between _ _ move ih =>
      rw [← ih]
      cases move with
      | counted after connections backends closed counts watch dialled => rw [dialled]
      | dialled dials pair index found detached plain => exact Function.update_of_ne differs _ _
      | accepted accepts fd clientIp free => exact absurd accepts alone
      | touched pair after found moves => rfl
      | attached pair fd index connecting found detached plain free dials => rfl
      | detached pair found attached connecting detaches trouble =>
          rw [drop_failed_backend_dialled]
      | closed pair reason found justified => rw [close_connection_dialled]

theorem handle_pair_event_records {lb : LoadBalancer} (sound : Sound lb) (fd : Int)
    (flags : EventMask) (answers : EventAnswers) {other : Int} (differs : other ≠ lb.clientOf fd) :
    (lb.handlePairEvent fd flags answers).dialled other = lb.dialled other := by
  obtain ⟨between, last, reads, settles, ends⟩ :=
    handle_pair_event_moves sound.tables sound.unopened fd flags answers
  have fails := fails_over_moves (moves_tables (moves_tables sound.tables reads) settles) ends
  rw [moves_record_others id fails differs, moves_record_others id settles differs,
    moves_record_others id reads differs]

/-- Whenever the connect of a client's backend fails, the failover finds a fresh backend. -/
def FailsFresh (lb : LoadBalancer) : Input → Prop
  | .event fd flags answers =>
      ∀ clientFd ∈ lb.backendToClient.lookup fd, ∀ pair ∈ lb.connections.lookup clientFd,
        pair.backendConnecting = true → ConnectFails flags answers →
          lb.FindsFresh clientFd pair answers.dials
  | _ => True

/-- The backends dialled for a client are distinct, and its pair has the socket of the
last of them. -/
structure Chain (count : Nat) (dialled : List Nat) (pair : Option ConnectionPair) : Prop where
  distinct : dialled.Nodup
  bounded : ∀ index ∈ dialled, index < count
  waiting : ∀ stored, pair = some stored → stored.backendFd = -1 → dialled = []
  last : ∀ stored, pair = some stored → stored.backendFd ≠ -1 →
    dialled.getLast? = some stored.backendIndex

section Chains

variable {count : Nat} {dialled : List Nat} {clientFd : Int} {lb after : LoadBalancer}

theorem closed_chain (distinct : dialled.Nodup) (bounded : ∀ index ∈ dialled, index < count) :
    Chain count dialled none := by
  refine ⟨distinct, bounded, fun stored same => ?_, fun stored same => ?_⟩
  · cases same
  · cases same

theorem accepted_chain (clientFd : Int) (clientIp : Bytes) :
    Chain count [] (some (acceptedPair clientFd clientIp)) := by
  refine ⟨List.nodup_nil, List.forall_mem_nil _, fun _ _ _ => rfl,
    fun stored same attached => ?_⟩
  cases same
  exact absurd rfl attached

theorem Chain.rests (chain : Chain count (lb.dialled clientFd) (lb.connections.lookup clientFd))
    (rests : Rests clientFd lb after) :
    Chain count (after.dialled clientFd) (after.connections.lookup clientFd) := by
  rw [rests.dialled]
  refine ⟨chain.distinct, chain.bounded, fun new isNew detached => ?_, fun new isNew attached => ?_⟩
  · obtain ⟨pair, found, same⟩ := rests.pair new isNew
    rw [same.backend] at detached
    exact chain.waiting pair found detached
  · obtain ⟨pair, found, same⟩ := rests.pair new isNew
    rw [same.backend] at attached
    rw [same.index attached]
    exact chain.last pair found attached

/-- Backends that were not dialled before are dialled, and the last one gives the pair
its socket or the pair is closed. -/
theorem Chain.extend (chain : Chain count (lb.dialled clientFd) (lb.connections.lookup clientFd))
    {tried : List Nat} (recorded : Dials clientFd tried lb after) (distinct : tried.Nodup)
    (fresh : ∀ index ∈ tried, index < count ∧ index ∉ lb.dialled clientFd)
    (ends : after.connections.lookup clientFd = none ∨ DialledLast after clientFd tried) :
    Chain count (after.dialled clientFd) (after.connections.lookup clientFd) := by
  have together : (lb.dialled clientFd ++ tried).Nodup := by
    rw [List.nodup_append]
    refine ⟨chain.distinct, distinct, fun first inFirst second inSecond same => ?_⟩
    subst same
    exact (fresh first inSecond).2 inFirst
  have inside : ∀ index ∈ lb.dialled clientFd ++ tried, index < count := by
    intro index member
    rcases List.mem_append.mp member with earlier | later
    · exact chain.bounded index earlier
    · exact (fresh index later).1
  rw [recorded.own]
  rcases ends with gone | ⟨stored, isStored, attached, isLast⟩
  · rw [gone]
    exact closed_chain together inside
  · rw [isStored]
    refine ⟨together, inside, fun other same detached => ?_, fun other same _ => ?_⟩
    · cases same
      exact absurd detached attached
    · cases same
      rw [List.getLast?_append, isLast]
      rfl

/-- An event extends the chain of its client. -/
theorem event_chain (sound : Sound lb) (fd : Int) (flags : EventMask) (answers : EventAnswers)
    (chain : Chain lb.backendPool.length (lb.dialled (lb.clientOf fd))
      (lb.connections.lookup (lb.clientOf fd)))
    (fresh : FailsFresh lb (.event fd flags answers)) :
    Chain lb.backendPool.length ((lb.handlePairEvent fd flags answers).dialled (lb.clientOf fd))
      ((lb.handlePairEvent fd flags answers).connections.lookup (lb.clientOf fd)) := by
  cases found : lb.connections.lookup (lb.clientOf fd) with
  | none =>
      rw [handle_pair_event_missing found]
      exact chain
  | some pair =>
      have serves := event_serves lb fd
      have owner : (lb.backendToClient.lookup fd).isSome = true →
          lb.backendToClient.lookup fd = some (lb.clientOf fd) := by
        intro backend
        obtain ⟨client, owns⟩ := Option.isSome_iff_exists.mp backend
        rw [clientOf, owns]
        rfl
      have handled := handle_pair_event_found found flags answers
      have fails := fun backend : (lb.backendToClient.lookup fd).isSome = true =>
        fresh (lb.clientOf fd) (owner backend) pair found
      generalize lb.handlePairEvent fd flags answers = after at handled ⊢
      generalize lb.clientOf fd = clientFd at *
      generalize (lb.backendToClient.lookup fd).isSome = isBackendFd at *
      by_cases first : isBackendFd = false ∧ flags.input = true ∧ pair.backendFd = -1
      · -- the first connect is made when the client is read
        obtain ⟨client, input, detached⟩ := first
        subst client
        rw [input, Bool.not_true, Bool.and_false] at handled
        simp only [Bool.false_eq_true, if_false] at handled
        by_cases error : flags.error = true
        · rw [if_pos error, handleFailure, (sound.tables.client_lookup found).1] at handled
          subst handled
          exact chain.rests (close_connection_rests found _)
        · rw [if_neg error] at handled
          subst handled
          rcases first_event_dials flags answers sound found detached input with
            rests | ⟨tried, recorded, distinct, inside, ends⟩
          · exact chain.rests rests
          · have nothing : lb.dialled clientFd = [] := chain.waiting pair found detached
            refine chain.extend recorded distinct (fun index member => ?_) ends
            rw [nothing]
            exact ⟨inside index member, List.not_mem_nil⟩
      · have silent : isBackendFd = false → flags.input = true → pair.backendFd ≠ -1 :=
          fun client input detached => first ⟨client, input, detached⟩
        rcases pair_event_rests isBackendFd flags answers sound serves found silent handled with
          rests | ⟨last, stored, failed, ends⟩
        · exact chain.rests rests
        · have attached : pair.backendFd ≠ -1 :=
            serves.attached sound.tables failed.backend found
          obtain ⟨known, isKnown, same⟩ := failed.retouched.lookup found
          rw [failed.found] at isKnown
          cases isKnown
          have attachedLast : stored.backendFd ≠ -1 := by
            rw [same.backend]
            exact attached
          have freshLast : last.FindsFresh clientFd stored answers.dials :=
            failed.retouched.finds_fresh found failed.found attached
              (fails failed.backend failed.connecting failed.fails)
          obtain ⟨tried, recorded, front, short, outcome⟩ :=
            failover_dials failed.tables failed.found attachedLast answers.dials
          obtain ⟨distinct, apart⟩ := fresh_dials front short freshLast
          obtain ⟨pool, unrecorded⟩ := failed.retouched.pool
          rw [pool, unrecorded] at apart
          rw [Dials, unrecorded] at recorded
          subst ends
          exact chain.extend recorded distinct apart outcome

/-- What a run keeps as long as every failover finds a fresh backend. -/
structure Chained (count : Nat) (lb : LoadBalancer) : Prop where
  sound : Sound lb
  size : lb.backendPool.length = count
  chains : ∀ clientFd, Chain count (lb.dialled clientFd) (lb.connections.lookup clientFd)

theorem step_chained (count : Nat) (lb : LoadBalancer) (input : Input)
    (chained : Chained count lb) (fresh : FailsFresh lb input) :
    Chained count (lb.step input) := by
  refine ⟨step_sound chained.sound input, ?_, fun clientFd => ?_⟩
  · exact (step_pool_length chained.sound input).trans chained.size
  · have chain := chained.chains clientFd
    cases input with
    | expire expired => exact chain
    | stop => exact closed_chain chain.distinct chain.bounded
    | event fd flags answers =>
        simp only [step, handleEvent]
        split_ifs
        · rcases handle_accept_cases answers.accepts lb clientFd with
            ⟨kept, unrecorded⟩ | ⟨-, empty, clientIp, isNew⟩
          · rw [kept, unrecorded]
            exact chain
          · rw [empty, isNew]
            exact accepted_chain clientFd clientIp
        · exact chain
        · exact chain
        · by_cases own : clientFd = lb.clientOf fd
          · subst own
            rw [← chained.size] at chain ⊢
            exact event_chain chained.sound fd flags answers chain fresh
          · rw [handle_pair_event_others fd flags answers chained.sound.tables
              chained.sound.unopened own,
              handle_pair_event_records chained.sound fd flags answers own]
            exact chain

end Chains

/-- In a run in which every failover finds a fresh backend, no backend is dialled twice
for a client, so that no more are dialled than there are; and the client, unless it is
closed, has the socket of the last one. -/
theorem failover_makes_progress (routingMode : RoutingMode) (configured : List (Bytes × Nat))
    (listenFd healthTimerFd : Int) (inputs : List Input)
    (throughout : Throughout step FailsFresh
      (create routingMode configured listenFd healthTimerFd) inputs) :
    let lb := run step (create routingMode configured listenFd healthTimerFd) inputs
    ∀ clientFd, (lb.dialled clientFd).Nodup ∧
      (lb.dialled clientFd).length ≤ configured.length ∧
      ∀ pair, lb.connections.lookup clientFd = some pair → lb.dialled clientFd ≠ [] →
        pair.backendFd ≠ -1 ∧ (lb.dialled clientFd).getLast? = some pair.backendIndex := by
  intro lb clientFd
  have start : Chained configured.length
      (create routingMode configured listenFd healthTimerFd) := by
    refine ⟨create_sound routingMode configured listenFd healthTimerFd, List.length_map ..,
      fun clientFd => closed_chain List.nodup_nil (List.forall_mem_nil _)⟩
  have chained : Chained configured.length lb :=
    run_invariant_throughout step (step_chained configured.length) start inputs throughout
  have chain := chained.chains clientFd
  refine ⟨chain.distinct, ?_, fun pair found some => ?_⟩
  · have inside : lb.dialled clientFd ⊆ List.range configured.length := by
      intro index member
      exact List.mem_range.mpr (chain.bounded index member)
    have fewer := (chain.distinct.subperm inside).length_le
    rw [List.length_range] at fewer
    exact fewer
  · have attached : pair.backendFd ≠ -1 := fun detached => some (chain.waiting pair found detached)
    exact ⟨attached, chain.last pair found attached⟩

instance (lb : LoadBalancer) (clientFd : Int) (pair : ConnectionPair) (dials : List Dial) :
    Decidable (FindsFresh lb clientFd pair dials) :=
  inferInstanceAs (Decidable (_ ∨ _))

instance (flags : EventMask) (answers : EventAnswers) : Decidable (ConnectFails flags answers) :=
  inferInstanceAs (Decidable (_ ∨ _))

instance (lb : LoadBalancer) (input : Input) : Decidable (FailsFresh lb input) :=
  match input with
  | .event _ _ _ => inferInstanceAs (Decidable (∀ clientFd ∈ (_ : Option _), _))
  | .expire _ => isTrue trivial
  | .stop => isTrue trivial

theorem refused_exchange_makes_progress :
    let lb := run step twoBackends (failoverExchange refusedAnswers)
    ∀ clientFd, (lb.dialled clientFd).Nodup ∧ (lb.dialled clientFd).length ≤ 2 ∧
      ∀ pair, lb.connections.lookup clientFd = some pair → lb.dialled clientFd ≠ [] →
        pair.backendFd ≠ -1 ∧ (lb.dialled clientFd).getLast? = some pair.backendIndex :=
  failover_makes_progress .roundRobin [(ascii "127.0.0.1", 8081), (ascii "127.0.0.1", 8082)] 3 4
    (failoverExchange refusedAnswers) (by decide)

/-- The connect of the first backend fails, then that of the second: the first one is
dialled again. Both are healthy all the time. -/
theorem second_failure_dials_first_backend_again :
    let inputs := dialledExchange ++
      [.event 6 { error := true } { dials := [{ sockets := [.inProgress 7] }] },
        .event 7 { error := true } { dials := [{ sockets := [.inProgress 6] }] }]
    (run step twoBackends inputs).dialled 5 = [0, 1, 0] ∧
      Throughout step (fun lb _ => lb.backendPool.all Backend.healthy = true)
        twoBackends inputs ∧
      ∃ pair, (run step twoBackends inputs).connections.lookup 5 = some pair ∧
        pair.backendFd = 6 ∧ pair.backendConnecting = true := by
  refine ⟨by decide, by decide, _, rfl, ?_⟩
  decide

end LoadBalancer

end Aorta.Lb
