import Aorta.Lb.Selection
import Aorta.Library.Circular

/-!
# What round robin answers in the long run

The cursor goes round the pool and stops behind every healthy backend it comes to, so
the answers take the healthy backends in turn. How many of them the cursor has come
past, whole rounds apart, goes up by one with each call.
-/

namespace Aorta.Lb

open Aorta.Library

set_option autoImplicit false

namespace BackendPool

/-- How many healthy backends a cursor comes past in so many steps from the first. -/
def passed (pool : BackendPool) (steps : Nat) : Nat :=
  Circular.passed pool.isHealthy pool.length steps

theorem passed_length (pool : BackendPool) : pool.passed pool.length = pool.healthyCount := by
  have round : ∀ steps, steps ≤ pool.length →
      pool.passed steps = (pool.take steps).countP Backend.healthy := by
    intro steps bound
    induction steps with
    | zero => rfl
    | succ steps ih =>
        have inside : steps < pool.length := bound
        unfold passed at ih ⊢
        rw [Circular.passed_succ, ih (Nat.le_of_lt inside), Nat.mod_eq_of_lt inside,
          List.take_add_one, List.countP_append]
        unfold isHealthy
        simp [List.getElem?_eq_getElem inside, List.countP_cons]
  rw [round pool.length le_rfl, List.take_length]
  rfl

theorem passed_mod (pool : BackendPool) (steps : Nat) :
    pool.passed (steps % pool.length) ≡ pool.passed steps [MOD pool.healthyCount] := by
  rw [← passed_length]
  exact Circular.passed_mod steps

/-- Healthy backends are told apart by how many of them the cursor has come past. -/
theorem passed_modEq_iff {pool : BackendPool} {first second : Nat}
    (firstHealthy : pool.isHealthy first = true) (secondHealthy : pool.isHealthy second = true) :
    pool.passed first ≡ pool.passed second [MOD pool.healthyCount] ↔ first = second := by
  have firstBelow := healthy_below firstHealthy
  have secondBelow := healthy_below secondHealthy
  have apart : pool.passed first ≡ pool.passed second [MOD pool.passed pool.length] ↔
      first % pool.length = second % pool.length := by
    apply Circular.passed_modEq_iff (Nat.zero_lt_of_lt firstBelow)
    · rwa [Nat.mod_eq_of_lt firstBelow]
    · rwa [Nat.mod_eq_of_lt secondBelow]
  rwa [Nat.mod_eq_of_lt firstBelow, Nat.mod_eq_of_lt secondBelow, passed_length] at apart

end BackendPool

namespace LoadBalancer

theorem round_robin_stops {pool : BackendPool} {attempts next : Nat}
    (found : pool.isHealthy (roundRobin pool attempts next).1 = true) :
    ∃ stop, roundRobin pool attempts next = (stop % pool.length, (stop + 1) % pool.length) ∧
      pool.passed stop ≡ pool.passed next [MOD pool.healthyCount] := by
  induction attempts generalizing next with
  | zero =>
      have bound := BackendPool.healthy_below found
      exact absurd bound (Nat.lt_irrefl _)
  | succ attempts ih =>
      unfold roundRobin at found ⊢
      by_cases healthy : pool.isHealthy (next % pool.length) = true
      · simp only [if_pos healthy]
        exact ⟨next, rfl, Nat.ModEq.refl _⟩
      · simp only [if_neg healthy] at found ⊢
        obtain ⟨stop, outcome, congruent⟩ := ih found
        have still : pool.passed (next + 1) = pool.passed next := by
          unfold BackendPool.passed
          rw [Circular.passed_succ, if_neg healthy, Nat.add_zero]
        exact ⟨stop, outcome, congruent.trans (still ▸ pool.passed_mod (next + 1))⟩

/-- One call: it answers the healthy backend whose turn it is, and the next turn is that
of the next one. -/
theorem select_round_robin_turn (lb : LoadBalancer)
    (some : lb.backendPool.hasHealthyBackend = true) :
    let pool := lb.backendPool
    let (index, after) := lb.selectRoundRobinBackend
    pool.isHealthy index = true ∧ after.backendPool = pool ∧
      pool.passed index ≡ pool.passed lb.nextBackendIndex [MOD pool.healthyCount] ∧
      pool.passed after.nextBackendIndex ≡ pool.passed lb.nextBackendIndex + 1
        [MOD pool.healthyCount] := by
  intro pool
  have found := round_robin_finds lb.nextBackendIndex some
  have filled : pool.length ≠ 0 :=
    Nat.ne_of_gt (Nat.zero_lt_of_lt (BackendPool.healthy_below found))
  obtain ⟨stop, outcome, congruent⟩ := round_robin_stops found
  rw [outcome] at found
  unfold selectRoundRobinBackend
  rw [if_neg filled]
  simp only [outcome]
  have behind : pool.passed (stop + 1) = pool.passed stop + 1 := by
    unfold BackendPool.passed
    rw [Circular.passed_succ, if_pos found]
  refine ⟨found, rfl, (pool.passed_mod stop).trans congruent, ?_⟩
  have next := pool.passed_mod (stop + 1)
  rw [behind] at next
  exact next.trans (congruent.add_right 1)

/-- The answers of so many calls, one after the other. -/
def roundRobinAnswers : Nat → LoadBalancer → List Nat
  | 0, _ => []
  | calls + 1, lb =>
      let (index, lb) := lb.selectRoundRobinBackend
      index :: roundRobinAnswers calls lb

theorem round_robin_answers_healthy (calls : Nat) {lb : LoadBalancer}
    (some : lb.backendPool.hasHealthyBackend = true) :
    ∀ index ∈ roundRobinAnswers calls lb, lb.backendPool.isHealthy index = true := by
  induction calls generalizing lb with
  | zero => simp [roundRobinAnswers]
  | succ calls ih =>
      have turn := select_round_robin_turn lb some
      unfold roundRobinAnswers
      generalize lb.selectRoundRobinBackend = outcome at turn
      obtain ⟨index, after⟩ := outcome
      obtain ⟨healthy, same, _⟩ := turn
      intro other member
      rcases List.mem_cons.mp member with rfl | later
      · exact healthy
      · rw [← same]
        exact ih (same ▸ some) other later

theorem round_robin_answers_count (calls : Nat) {lb : LoadBalancer}
    (some : lb.backendPool.hasHealthyBackend = true) {index : Nat}
    (healthy : lb.backendPool.isHealthy index = true) :
    (roundRobinAnswers calls lb).count index =
      Nat.count (fun call => lb.backendPool.passed lb.nextBackendIndex + call ≡
        lb.backendPool.passed index [MOD lb.backendPool.healthyCount]) calls := by
  induction calls generalizing lb with
  | zero => rfl
  | succ calls ih =>
      have turn := select_round_robin_turn lb some
      unfold roundRobinAnswers
      generalize lb.selectRoundRobinBackend = outcome at turn
      obtain ⟨answer, after⟩ := outcome
      obtain ⟨answered, same, own, next⟩ := turn
      have first : answer = index ↔ lb.backendPool.passed lb.nextBackendIndex + 0 ≡
          lb.backendPool.passed index [MOD lb.backendPool.healthyCount] := by
        rw [← BackendPool.passed_modEq_iff answered healthy]
        exact ⟨own.symm.trans, own.trans⟩
      have rest : ∀ call, after.backendPool.passed after.nextBackendIndex + call ≡
            after.backendPool.passed index [MOD after.backendPool.healthyCount] ↔
          lb.backendPool.passed lb.nextBackendIndex + (call + 1) ≡
            lb.backendPool.passed index [MOD lb.backendPool.healthyCount] := by
        intro call
        have shifted := next.add_right call
        rw [Nat.add_assoc, Nat.add_comm 1] at shifted
        rw [same]
        exact ⟨shifted.symm.trans, shifted.trans⟩
      rw [List.count_cons, Nat.count_succ', ih (same ▸ some) (same ▸ healthy)]
      simp only [rest, beq_iff_eq, first]

/-- In any number of consecutive calls, from any cursor on, no unhealthy backend is
answered and every healthy one equally often, but for one. -/
theorem round_robin_is_fair (lb : LoadBalancer) (calls : Nat)
    (some : lb.backendPool.hasHealthyBackend = true) :
    let answers := roundRobinAnswers calls lb
    let healthy := lb.backendPool.healthyCount
    (∀ index ∈ answers, lb.backendPool.isHealthy index = true) ∧
      ∀ index, lb.backendPool.isHealthy index = true →
        answers.count index = calls / healthy ∨
          answers.count index = (calls + healthy - 1) / healthy := by
  intro answers healthy
  constructor
  · exact round_robin_answers_healthy calls some
  · intro index isHealthy
    have filled : 0 < healthy := of_decide_eq_true some
    have share := Circular.even_share filled (lb.backendPool.passed lb.nextBackendIndex)
      (lb.backendPool.passed index) calls
    rw [← round_robin_answers_count calls some isHealthy] at share
    exact share

def gappedPool : LoadBalancer where
  backendPool := [{ host := [], port := 1 }, { host := [], port := 2, healthy := false },
    { host := [], port := 3 }]
  ring := []
  listenFd := 3
  healthTimerFd := 4

theorem gapped_pool_is_fair :
    (∀ index ∈ roundRobinAnswers 3 gappedPool,
      gappedPool.backendPool.isHealthy index = true) ∧
      ∀ index, gappedPool.backendPool.isHealthy index = true →
        (roundRobinAnswers 3 gappedPool).count index = 1 ∨
          (roundRobinAnswers 3 gappedPool).count index = 2 :=
  round_robin_is_fair gappedPool 3 rfl

end LoadBalancer

end Aorta.Lb
