import Aorta.Lb.FailoverChain
import Aorta.Lb.RoundRobin

/-!
# The first connect of a client

`connectClientToBackend` makes as many attempts as there are backends. In round robin
the attempts take the healthy backends in turn, so none is left out; in hash mode each
attempt takes one that has not been taken. A dial that fails is rolled back, but for the
counts of failures and the record of the dials.
-/

namespace Aorta.Lb.LoadBalancer

open Aorta.Library
open Aorta.Library.Ascii

set_option autoImplicit false

section Attempts

/-- Every healthy backend has been attempted, or the attempts that are left come to it. -/
def Due (lb : LoadBalancer) (attempted : List Nat) (attempts : Nat) : Prop :=
  match lb.routingMode with
  | .roundRobin => ∀ index, lb.backendPool.isHealthy index = true → index ∈ attempted ∨
      ∃ step < attempts, lb.backendPool.passed lb.nextBackendIndex + step ≡
        lb.backendPool.passed index [MOD lb.backendPool.healthyCount]
  | .consistentHash => attempted.Nodup ∧ (∀ index ∈ attempted, index < lb.backendPool.length) ∧
      lb.backendPool.length ≤ attempted.length + attempts

variable {lb : LoadBalancer} {attempted : List Nat} {attempts : Nat}

theorem due_exhausted (due : Due lb attempted 0) {index : Nat}
    (healthy : lb.backendPool.isHealthy index = true) : index ∈ attempted := by
  unfold Due at due
  cases mode : lb.routingMode with
  | roundRobin =>
      rw [mode] at due
      apply (due index healthy).resolve_right
      rintro ⟨step, below, -⟩
      exact Nat.not_lt_zero step below
  | consistentHash =>
      rw [mode] at due
      obtain ⟨distinct, bounded, many⟩ := due
      by_contra missing
      have inRange : (index :: attempted) ⊆ List.range lb.backendPool.length := by
        intro other member
        rw [List.mem_range]
        rcases List.mem_cons.mp member with rfl | earlier
        · exact BackendPool.healthy_below healthy
        · exact bounded other earlier
      have fits := (List.subperm_of_subset (List.nodup_cons.mpr ⟨missing, distinct⟩)
        inRange).length_le
      rw [List.length_cons, List.length_range] at fits
      omega

theorem due_round_robin (mode : lb.routingMode = .roundRobin)
    (due : Due lb attempted (attempts + 1)) (filled : lb.backendPool.hasHealthyBackend = true) :
    let (index, chosen) := lb.selectRoundRobinBackend
    lb.backendPool.isHealthy index = true ∧
      Due chosen (if index ∈ attempted then attempted else index :: attempted) attempts := by
  have turn := select_round_robin_turn lb filled
  obtain ⟨next, same⟩ := select_round_robin_same lb
  generalize lb.selectRoundRobinBackend = outcome at turn same
  obtain ⟨index, chosen⟩ := outcome
  subst same
  obtain ⟨healthy, _, own, onward⟩ := turn
  refine ⟨healthy, ?_⟩
  unfold Due at due ⊢
  simp only [mode] at due ⊢
  intro other otherHealthy
  rcases due other otherHealthy with earlier | ⟨step, below, comes⟩
  · left
    split_ifs
    · exact earlier
    · exact List.mem_cons_of_mem index earlier
  · cases step with
    | zero =>
        left
        have same : index = other :=
          (BackendPool.passed_modEq_iff healthy otherHealthy).mp (own.trans comes)
        split_ifs with already
        · exact same ▸ already
        · exact same ▸ List.mem_cons_self
    | succ step =>
        right
        have later := onward.add_right step
        rw [Nat.add_assoc, Nat.add_comm 1] at later
        exact ⟨step, Nat.lt_of_succ_lt_succ below, later.trans comes⟩

/-- The attempts end only when every healthy backend has been attempted, and each comes
to a healthy one. -/
theorem due_next (initial : Nat) (due : Due lb attempted (attempts + 1))
    (filled : lb.backendPool.hasHealthyBackend = true) :
    match lb.nextCandidate initial false attempted with
    | (none, _) => ∀ index, lb.backendPool.isHealthy index = true → index ∈ attempted
    | (some index, chosen) => lb.backendPool.isHealthy index = true ∧
        Due chosen (if index ∈ attempted then attempted else index :: attempted) attempts := by
  unfold nextCandidate
  simp only [Bool.false_eq_true, if_false]
  cases mode : lb.routingMode with
  | roundRobin =>
      have turn := due_round_robin mode due filled
      obtain ⟨next, same⟩ := select_round_robin_same lb
      generalize lb.selectRoundRobinBackend = outcome at turn same
      obtain ⟨index, chosen⟩ := outcome
      subst same
      have inside : ¬ index ≥ lb.backendPool.length :=
        Nat.not_le.mpr (BackendPool.healthy_below turn.1)
      simp only [if_neg inside]
      exact turn
  | consistentHash =>
      cases candidate : (List.range lb.backendPool.length).find? fun index =>
          !attempted.contains index && lb.backendPool.isHealthy index with
      | none =>
          intro index healthy
          have refused := List.find?_eq_none.mp candidate index
            (List.mem_range.mpr (BackendPool.healthy_below healthy))
          simpa [healthy] using refused
      | some index =>
          have accepted := List.find?_some candidate
          simp only [Bool.and_eq_true, Bool.not_eq_true', List.contains_eq_mem,
            decide_eq_false_iff_not] at accepted
          obtain ⟨fresh, healthy⟩ := accepted
          refine ⟨healthy, ?_⟩
          rw [if_neg fresh]
          unfold Due at due ⊢
          simp only [mode] at due ⊢
          obtain ⟨distinct, bounded, many⟩ := due
          refine ⟨List.nodup_cons.mpr ⟨fresh, distinct⟩, ?_, ?_⟩
          · intro other member
            rcases List.mem_cons.mp member with rfl | earlier
            · exact BackendPool.healthy_below healthy
            · exact bounded other earlier
          · rw [List.length_cons]
            omega

theorem due_start (lb : LoadBalancer) (filled : lb.backendPool.hasHealthyBackend = true) :
    Due lb [] lb.backendPool.length := by
  unfold Due
  cases lb.routingMode with
  | roundRobin =>
      intro index healthy
      right
      have positive : 0 < lb.backendPool.healthyCount := of_decide_eq_true filled
      have enough : lb.backendPool.healthyCount ≤ lb.backendPool.length := List.countP_le_length
      obtain ⟨step, below, comes⟩ := residue_reached (lb.backendPool.passed lb.nextBackendIndex)
        (Nat.mod_lt (lb.backendPool.passed index) positive)
      exact ⟨step, Nat.lt_of_lt_of_le below enough, comes⟩
  | consistentHash => exact ⟨List.nodup_nil, nofun, by simp⟩

theorem due_selected {clientIp : Bytes} {initial : Nat} {chosen : LoadBalancer}
    (selected : lb.selectBackend clientIp = (some initial, chosen)) :
    lb.backendPool.hasHealthyBackend = true ∧ lb.backendPool.isHealthy initial = true ∧
      Due chosen [initial] (lb.backendPool.length - 1) := by
  have start := due_start lb
  unfold selectBackend at selected
  cases filled : lb.backendPool.hasHealthyBackend with
  | false =>
      simp only [filled, Bool.not_false, if_true] at selected
      cases selected
  | true =>
      have due := start filled
      obtain ⟨index, healthy⟩ := lb.backendPool.has_healthy_backend_iff.mp filled
      have length : lb.backendPool.length - 1 + 1 = lb.backendPool.length :=
        Nat.sub_add_cancel (Nat.zero_lt_of_lt (BackendPool.healthy_below healthy))
      refine ⟨rfl, ?_⟩
      simp only [filled, Bool.not_true, Bool.false_eq_true, if_false] at selected
      cases mode : lb.routingMode with
      | roundRobin =>
          rw [← length] at due
          have turn := due_round_robin mode due filled
          simp only [mode] at selected
          generalize lb.selectRoundRobinBackend = outcome at turn selected
          obtain ⟨index, after⟩ := outcome
          simp only [List.not_mem_nil, if_false] at selected turn
          split_ifs at selected with outside
          · cases (Prod.mk.inj selected).1
          · obtain ⟨sameIndex, sameAfter⟩ := Prod.mk.inj selected
            have sameIndex := Option.some.inj sameIndex
            subst sameIndex sameAfter
            exact turn
      | consistentHash =>
          simp only [mode, Prod.mk.injEq] at selected
          obtain ⟨got, same⟩ := selected
          subst same
          have isHealthy := ConsistentHash.get_backend_healthy got
          refine ⟨isHealthy, ?_⟩
          unfold Due
          simp only [mode]
          refine ⟨List.nodup_singleton initial, ?_, ?_⟩
          · intro other member
            rw [List.mem_singleton.mp member]
            exact BackendPool.healthy_below isHealthy
          · rw [List.length_singleton]
            omega

end Attempts

section Dials

variable {clientFd : Int} {lb : LoadBalancer} {pair : ConnectionPair}

/-- What a failed attempt leaves: the open connections are counted as before, no backend
socket belongs to the client, and the same backends can be dialled. -/
structure RolledBack (clientFd : Int) (lb after : LoadBalancer) : Prop where
  counts : SameCounts after.backendPool lb.backendPool
  backends : after.backendToClient = lb.backendToClient
  mode : after.routingMode = lb.routingMode
  offers : SameOffers lb after
  detached : ∃ pair, after.connections.lookup clientFd = some pair ∧ pair.backendFd = -1

theorem RolledBack.trans {first second third : LoadBalancer}
    (left : RolledBack clientFd first second) (right : RolledBack clientFd second third) :
    RolledBack clientFd first third where
  counts := right.counts.trans left.counts
  backends := right.backends.trans left.backends
  mode := right.mode.trans left.mode
  offers := left.offers.trans right.offers
  detached := right.detached

/-- What a successful dial leaves: one connection more, with the backend of the pair. -/
def Connected (clientFd : Int) (lb after : LoadBalancer) : Prop :=
  ∃ pair, after.connections.lookup clientFd = some pair ∧
    pair.backendIndex < lb.backendPool.length ∧
    after.backendPool.map Backend.connectionCount =
      (lb.backendPool.map Backend.connectionCount).modify pair.backendIndex (· + 1)

theorem try_backend_rolled_back (found : lb.connections.lookup clientFd = some pair)
    (detached : pair.backendFd = -1) {index : Nat} {dial : Dial} {after : LoadBalancer}
    (tried : lb.tryBackend clientFd index dial dropBackend = (false, after)) :
    RolledBack clientFd lb after ∧ after.nextBackendIndex = lb.nextBackendIndex := by
  have offers := (try_backend_fails found tried).2
  have tries := try_backend_tries found index dial dropBackend
  rw [tried] at tries
  cases tries with
  | refused dialled =>
      have counts : SameCounts (lb.backendPool.modify index Backend.countFailedConnection)
          lb.backendPool := .modify _ _ fun _ => rfl
      exact ⟨⟨counts, rfl, rfl, offers, pair, found, detached⟩, rfl⟩
  | unwatched fd connecting dialled added =>
      have counts := SameCounts.take_release lb.backendPool index
      exact ⟨⟨counts, rfl, rfl, offers, _, lookup_set_pair _ _ _, rfl⟩, rfl⟩

theorem map_modify_counts (pool : BackendPool) (index : Nat) :
    (pool.modify index Backend.takeConnection).map Backend.connectionCount =
      (pool.map Backend.connectionCount).modify index (· + 1) := by
  apply List.ext_getElem?
  intro position
  rw [List.getElem?_map, List.getElem?_modify, List.getElem?_modify, List.getElem?_map]
  cases pool[position]? with
  | none => rfl
  | some backend =>
      by_cases here : index = position
      · simp [here, Backend.takeConnection]
      · simp [here]

theorem try_backend_connected (found : lb.connections.lookup clientFd = some pair) {index : Nat}
    (inside : index < lb.backendPool.length) {dial : Dial} {after : LoadBalancer}
    (tried : lb.tryBackend clientFd index dial dropBackend = (true, after)) :
    Connected clientFd lb after := by
  have tries := try_backend_tries found index dial dropBackend
  rw [tried] at tries
  cases tries with
  | connected fd connecting dialled added =>
      exact ⟨_, lookup_set_pair _ _ _, inside, map_modify_counts _ _⟩

theorem RolledBack.of_cursor (found : lb.connections.lookup clientFd = some pair)
    (detached : pair.backendFd = -1) (next : Nat) :
    RolledBack clientFd lb { lb with nextBackendIndex := next } where
  counts := SameCounts.refl _
  backends := rfl
  mode := rfl
  offers := ⟨connect_same fun _ => rfl, fun _ => rfl, rfl⟩
  detached := ⟨pair, found, detached⟩

theorem RolledBack.connected {before after : LoadBalancer}
    (rolledBack : RolledBack clientFd lb before) (connected : Connected clientFd before after) :
    Connected clientFd lb after := by
  obtain ⟨pair, found, inside, counts⟩ := connected
  refine ⟨pair, found, ?_, ?_⟩
  · rw [← rolledBack.offers.length]
    exact inside
  · rw [counts, rolledBack.counts]

/-- What the attempts can come to. -/
def Concludes (clientFd : Int) (lb : LoadBalancer) : Bool × LoadBalancer → Prop
  | (true, after) => Connected clientFd lb after
  | (false, after) => RolledBack clientFd lb after

theorem RolledBack.outcome {before : LoadBalancer} (rolledBack : RolledBack clientFd lb before)
    {outcome : Bool × LoadBalancer} (comes : Concludes clientFd before outcome) :
    Concludes clientFd lb outcome := by
  obtain ⟨connected, after⟩ := outcome
  cases connected with
  | true => exact rolledBack.connected comes
  | false => exact rolledBack.trans comes

theorem connect_loop_outcome (initial attempts : Nat) (first : Bool) (attempted : List Nat)
    (dials : List Dial) (found : lb.connections.lookup clientFd = some pair)
    (detached : pair.backendFd = -1) :
    Concludes clientFd lb (connectLoop clientFd initial attempts first attempted dials lb) := by
  induction attempts generalizing first attempted dials lb pair with
  | zero => exact .of_cursor found detached lb.nextBackendIndex
  | succ attempts ih =>
      obtain ⟨next, same⟩ := next_candidate_same lb initial first attempted
      have moved := RolledBack.of_cursor found detached next
      unfold connectLoop
      generalize lb.nextCandidate initial first attempted = candidate at same
      obtain ⟨index, chosen⟩ := candidate
      subst same
      have isFound : { lb with nextBackendIndex := next }.connections.lookup clientFd =
          some pair := found
      generalize { lb with nextBackendIndex := next } = chosen at moved isFound
      cases index with
      | none => exact moved
      | some index =>
          simp only
          split_ifs with outside again unhealthy
          · exact moved.outcome (ih false attempted dials isFound detached)
          · exact moved.outcome (ih false attempted dials isFound detached)
          · exact moved.outcome (ih false (index :: attempted) dials isFound detached)
          · cases tried : chosen.tryBackend clientFd index (dials.headD {}) dropBackend with
            | mk good last =>
                cases good with
                | true =>
                    exact moved.connected
                      (try_backend_connected isFound (Nat.lt_of_not_le outside) tried)
                | false =>
                    obtain ⟨rolledBack, -⟩ := try_backend_rolled_back isFound detached tried
                    obtain ⟨new, isNew, free⟩ := rolledBack.detached
                    exact (moved.trans rolledBack).outcome
                      (ih false (index :: attempted) dials.tail isNew free)

theorem healthy_count_same {left right : BackendPool} (length : left.length = right.length)
    (healthy : ∀ index, left.isHealthy index = right.isHealthy index) :
    left.passed = right.passed ∧ left.healthyCount = right.healthyCount := by
  have same : left.passed = right.passed := by
    unfold BackendPool.passed
    rw [length, funext healthy]
  refine ⟨same, ?_⟩
  rw [← BackendPool.passed_length, ← BackendPool.passed_length, same, length]

theorem RolledBack.due {after : LoadBalancer} (rolledBack : RolledBack clientFd lb after)
    (cursor : after.nextBackendIndex = lb.nextBackendIndex) {attempted : List Nat}
    {attempts : Nat} (due : Due lb attempted attempts) : Due after attempted attempts := by
  obtain ⟨passed, count⟩ :=
    healthy_count_same rolledBack.offers.length rolledBack.offers.healthy
  unfold Due at due ⊢
  simp only [rolledBack.mode, rolledBack.offers.healthy, rolledBack.offers.length, passed, count,
    cursor]
  exact due

/-- The attempts fail only when they have come to every healthy backend. -/
theorem connect_loop_covers (initial attempts : Nat) {attempted : List Nat} (dials : List Dial)
    (found : lb.connections.lookup clientFd = some pair) (detached : pair.backendFd = -1)
    (filled : lb.backendPool.hasHealthyBackend = true) (due : Due lb attempted attempts)
    (fails : (connectLoop clientFd initial attempts false attempted dials lb).1 = false)
    {tried : List Nat}
    (recorded : Dials clientFd tried lb
      (connectLoop clientFd initial attempts false attempted dials lb).2)
    {sought : Nat} (healthy : lb.backendPool.isHealthy sought = true) :
    sought ∈ attempted ∨ sought ∈ tried := by
  induction attempts generalizing attempted dials lb pair tried with
  | zero => exact .inl (due_exhausted due healthy)
  | succ attempts ih =>
      have comes := due_next initial due filled
      obtain ⟨next, same⟩ := next_candidate_same lb initial false attempted
      have moved := RolledBack.of_cursor found detached next
      unfold connectLoop at fails recorded
      generalize lb.nextCandidate initial false attempted = candidate at comes same fails recorded
      obtain ⟨index, chosen⟩ := candidate
      subst same
      have isFound : { lb with nextBackendIndex := next }.connections.lookup clientFd =
          some pair := found
      have unrecorded : { lb with nextBackendIndex := next }.dialled = lb.dialled := rfl
      rw [Dials, ← unrecorded] at recorded
      generalize { lb with nextBackendIndex := next } = chosen at comes moved isFound fails recorded
      cases index with
      | none => exact .inl (comes sought healthy)
      | some index =>
          obtain ⟨isHealthy, stillDue⟩ := comes
          rw [← moved.offers.healthy] at isHealthy healthy
          have chosenFilled : chosen.backendPool.hasHealthyBackend = true :=
            chosen.backendPool.has_healthy_backend_iff.mpr ⟨sought, healthy⟩
          have inside : ¬ index ≥ chosen.backendPool.length :=
            Nat.not_le.mpr (BackendPool.healthy_below isHealthy)
          simp only [if_neg inside, isHealthy, Bool.not_true, Bool.false_eq_true, if_false,
            List.contains_eq_mem, decide_eq_true_eq] at fails recorded
          by_cases again : index ∈ attempted
          · rw [if_pos again] at fails stillDue recorded
            exact ih dials isFound detached chosenFilled stillDue fails recorded healthy
          · rw [if_neg again] at fails stillDue recorded
            have dialled := try_backend_dials isFound index (dials.headD {}) dropBackend
            cases attempt : chosen.tryBackend clientFd index (dials.headD {}) dropBackend with
            | mk good last =>
                rw [attempt] at fails recorded dialled
                cases good with
                | true => cases fails
                | false =>
                    obtain ⟨rolledBack, cursor⟩ := try_backend_rolled_back isFound detached attempt
                    obtain ⟨new, isNew, free⟩ := rolledBack.detached
                    rw [← rolledBack.offers.healthy] at healthy
                    obtain ⟨rest, later, -⟩ := connect_loop_dials initial attempts false
                      (index :: attempted) dials.tail last new isNew
                    obtain rfl : tried = [index] ++ rest :=
                      Dials.unique recorded (dialled.trans later)
                    have sooner := ih dials.tail isNew free
                      (last.backendPool.has_healthy_backend_iff.mpr ⟨sought, healthy⟩)
                      (rolledBack.due cursor stillDue) fails later healthy
                    simp only [List.cons_append, List.nil_append, List.mem_cons] at sooner ⊢
                    rw [or_assoc, or_left_comm] at sooner
                    exact sooner

theorem connect_loop_covers_first {initial attempts : Nat} (dials : List Dial)
    (found : lb.connections.lookup clientFd = some pair) (detached : pair.backendFd = -1)
    (initialHealthy : lb.backendPool.isHealthy initial = true)
    (due : Due lb [initial] attempts)
    (fails : (connectLoop clientFd initial (attempts + 1) true [] dials lb).1 = false)
    {tried : List Nat}
    (recorded : Dials clientFd tried lb
      (connectLoop clientFd initial (attempts + 1) true [] dials lb).2)
    {sought : Nat} (healthy : lb.backendPool.isHealthy sought = true) : sought ∈ tried := by
  have inside : ¬ initial ≥ lb.backendPool.length :=
    Nat.not_le.mpr (BackendPool.healthy_below initialHealthy)
  unfold connectLoop at fails recorded
  simp only [nextCandidate, if_true, if_neg inside, initialHealthy, Bool.not_true,
    Bool.false_eq_true, if_false, List.contains_nil] at fails recorded
  have dialled := try_backend_dials found initial (dials.headD {}) dropBackend
  cases attempt : lb.tryBackend clientFd initial (dials.headD {}) dropBackend with
  | mk good last =>
      rw [attempt] at fails recorded dialled
      cases good with
      | true => cases fails
      | false =>
          obtain ⟨rolledBack, cursor⟩ := try_backend_rolled_back found detached attempt
          obtain ⟨new, isNew, free⟩ := rolledBack.detached
          rw [← rolledBack.offers.healthy] at healthy
          obtain ⟨rest, later, -⟩ :=
            connect_loop_dials initial attempts false [initial] dials.tail last new isNew
          obtain rfl : tried = [initial] ++ rest := recorded.unique (dialled.trans later)
          have sooner := connect_loop_covers initial attempts dials.tail isNew free
            (last.backendPool.has_healthy_backend_iff.mpr ⟨sought, healthy⟩)
            (rolledBack.due cursor due) fails later healthy
          rw [List.mem_singleton] at sooner
          exact List.mem_cons.mpr sooner

end Dials

/-- A first connect for which a backend is selected dials healthy backends only, each at
most once. It fails only when it has dialled all of them in vain, and leaves the counts
of open connections and the backend sockets as they were; when it succeeds, it is the
backend dialled last, which is the one of the pair, that has one connection more. -/
theorem first_connect_tries_healthy_backends (lb : LoadBalancer) (clientFd : Int)
    (dials : List Dial) (pair : ConnectionPair)
    (found : lb.connections.lookup clientFd = some pair) (detached : pair.backendFd = -1)
    (selected : (lb.selectBackend pair.clientIp).1.isSome = true) :
    let (connected, after) := lb.connectClientToBackend clientFd dials
    ∃ tried, after.dialled =
        Function.update lb.dialled clientFd (lb.dialled clientFd ++ tried) ∧
      tried.Nodup ∧ (∀ index ∈ tried, lb.backendPool.isHealthy index = true) ∧
      (connected = false →
        (∀ index, lb.backendPool.isHealthy index = true → index ∈ tried) ∧
          (∀ place < tried.length, lb.givesSocket (dials.getD place {}) = false) ∧
          after.backendPool.map Backend.connectionCount =
            lb.backendPool.map Backend.connectionCount ∧
          after.backendToClient = lb.backendToClient ∧
          ∃ pair, after.connections.lookup clientFd = some pair ∧ pair.backendFd = -1) ∧
      (connected = true →
        ∃ pair, after.connections.lookup clientFd = some pair ∧
          tried.getLast? = some pair.backendIndex ∧
          pair.backendIndex < lb.backendPool.length ∧
          after.backendPool.map Backend.connectionCount =
            (lb.backendPool.map Backend.connectionCount).modify pair.backendIndex (· + 1)) := by
  obtain ⟨tried, recorded, distinct, healthy, -, inVain, ends⟩ := connect_client_dials found dials
  obtain ⟨next, same⟩ := select_backend_same lb pair.clientIp
  unfold connectClientToBackend at *
  cases selects : lb.selectBackend pair.clientIp with
  | mk index chosen =>
      cases index with
      | none =>
          rw [selects] at selected
          cases selected
      | some initial =>
          obtain ⟨filled, initialHealthy, due⟩ := due_selected selects
          rw [selects] at same
          simp only [filled, Bool.not_true, Bool.false_eq_true, if_false, found, selects]
            at recorded inVain ends ⊢
          subst same
          have moved := RolledBack.of_cursor found detached next
          have isFound : { lb with nextBackendIndex := next }.connections.lookup clientFd =
              some pair := found
          have length : { lb with nextBackendIndex := next }.backendPool.length =
              lb.backendPool.length - 1 + 1 :=
            (Nat.sub_add_cancel
              (Nat.zero_lt_of_lt (BackendPool.healthy_below initialHealthy))).symm
          have comes := connect_loop_outcome initial
            { lb with nextBackendIndex := next }.backendPool.length true [] dials isFound detached
          have all := fun index (isHealthy : lb.backendPool.isHealthy index = true) fails tried
              (recorded : Dials clientFd tried { lb with nextBackendIndex := next } _) =>
            connect_loop_covers_first dials isFound detached initialHealthy due fails recorded
              isHealthy
          rw [← length] at all
          have outcome := moved.outcome comes
          refine ⟨tried, recorded, distinct, healthy, ?_⟩
          cases loop : connectLoop clientFd initial
              { lb with nextBackendIndex := next }.backendPool.length true [] dials
              { lb with nextBackendIndex := next } with
          | mk connected after =>
              rw [loop] at outcome all recorded inVain ends
              constructor
              · intro fails
                subst fails
                have back : RolledBack clientFd lb after := outcome
                exact ⟨fun index isHealthy => all index isHealthy rfl tried recorded, inVain rfl,
                  back.counts, back.backends, back.detached⟩
              · intro succeeds
                subst succeeds
                obtain ⟨stored, isStored, inside, counts⟩ := outcome
                obtain ⟨last, isLast, -, dialledLast⟩ := ends rfl
                rw [isStored] at isLast
                cases isLast
                exact ⟨stored, isStored, dialledLast, inside, counts⟩

def gappedClient : LoadBalancer :=
  { gappedPool with connections := AList.insert 9 { clientFd := 9 } ∅ }

theorem gapped_client_tried :
    ∃ tried, (gappedClient.connectClientToBackend 9 []).2.dialled 9 = tried ∧
      0 ∈ tried ∧ 2 ∈ tried := by
  obtain ⟨tried, recorded, _, _, fails, _⟩ :=
    first_connect_tries_healthy_backends gappedClient 9 [] { clientFd := 9 } rfl rfl rfl
  have all := (fails rfl).1
  refine ⟨tried, ?_, all 0 rfl, all 2 rfl⟩
  exact (congrFun recorded 9).trans (Function.update_self _ _ _)

end Aorta.Lb.LoadBalancer
