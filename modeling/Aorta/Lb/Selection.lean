import Aorta.Lb.BackendConfig
import Aorta.Lb.LoadBalancer

/-!
# Which backend is selected

Round robin comes past every backend. The ring comes past every backend that is on
it: of the virtual nodes with one hash only the first that was emplaced is there, so
a backend that is configured twice is on the ring once, under the first of its
indices.
-/

namespace Aorta.Lb

open Aorta.Library Aorta.Library.Ascii

set_option autoImplicit false

namespace ConsistentHash

/-- The hashes increase along the ring. -/
def Ordered (ring : Ring) : Prop := ring.Pairwise fun first second => first.1 < second.1

/-- The first of the nodes with that hash. -/
def firstOf (sought : UInt64) (nodes : List (UInt64 × Nat)) : Option (UInt64 × Nat) :=
  nodes.find? fun node => node.1 = sought

theorem first_of_append (sought : UInt64) (left right : List (UInt64 × Nat)) :
    firstOf sought (left ++ right) = (firstOf sought left).or (firstOf sought right) :=
  List.find?_append

theorem first_of_single (sought : UInt64) (node : UInt64 × Nat) :
    firstOf sought [node] = if node.1 = sought then some node else none := by
  simp [firstOf]

theorem first_of_cons (sought : UInt64) (node : UInt64 × Nat) (nodes : List (UInt64 × Nat)) :
    firstOf sought (node :: nodes) =
      if node.1 = sought then some node else firstOf sought nodes := by
  by_cases same : node.1 = sought <;> simp [firstOf, same]

theorem first_of_eq_none {sought : UInt64} {nodes : List (UInt64 × Nat)}
    (apart : ∀ node ∈ nodes, node.1 ≠ sought) : firstOf sought nodes = none := by
  simpa [firstOf] using apart

theorem emplace_mem {key : UInt64} {index : Nat} {ring : Ring} {entry : UInt64 × Nat}
    (member : entry ∈ emplace key index ring) : entry = (key, index) ∨ entry ∈ ring := by
  induction ring with
  | nil => exact .inl (List.mem_singleton.mp member)
  | cons head ring ih =>
      unfold emplace at member
      split_ifs at member
      · exact List.mem_cons.mp member
      · exact .inr member
      · rcases List.mem_cons.mp member with rfl | later
        · exact .inr List.mem_cons_self
        · exact (ih later).imp_right (List.mem_cons_of_mem head)

theorem emplace_ordered (key : UInt64) (index : Nat) {ring : Ring} (ordered : Ordered ring) :
    Ordered (emplace key index ring) := by
  induction ring with
  | nil => exact List.pairwise_singleton _ _
  | cons head ring ih =>
      obtain ⟨first, rest⟩ := List.pairwise_cons.mp ordered
      unfold emplace
      split_ifs with below same
      · apply List.pairwise_cons.mpr
        refine ⟨fun entry member => ?_, ordered⟩
        rcases List.mem_cons.mp member with rfl | later
        · exact below
        · exact UInt64.lt_trans below (first entry later)
      · exact ordered
      · apply List.pairwise_cons.mpr
        refine ⟨fun entry member => ?_, ih rest⟩
        rcases emplace_mem member with rfl | earlier
        · apply UInt64.lt_of_le_of_ne (UInt64.not_lt.mp below)
          exact fun equal => same equal.symm
        · exact first entry earlier

/-- An entry is emplaced behind all those of the same hash that are there already. -/
theorem first_of_emplace (sought key : UInt64) (index : Nat) {ring : Ring}
    (ordered : Ordered ring) :
    firstOf sought (emplace key index ring) = firstOf sought (ring ++ [(key, index)]) := by
  induction ring with
  | nil => rfl
  | cons head ring ih =>
      obtain ⟨first, rest⟩ := List.pairwise_cons.mp ordered
      unfold emplace
      split_ifs with below same
      · rw [first_of_append, first_of_single, first_of_cons sought (key, index)]
        by_cases here : key = sought
        · have apart : firstOf sought (head :: ring) = none := by
            apply first_of_eq_none
            intro node member
            apply Ne.symm
            apply UInt64.ne_of_lt
            rcases List.mem_cons.mp member with rfl | later
            · exact here ▸ below
            · exact here ▸ UInt64.lt_trans below (first node later)
          simp [apart, here]
        · simp [here]
      · rw [first_of_append, first_of_single]
        by_cases here : key = sought
        · simp [first_of_cons, ← same, here]
        · simp [here]
      · rw [List.cons_append, first_of_cons, first_of_cons, ih rest]

theorem first_of_earliest {sought : UInt64} {nodes : List (UInt64 × Nat)}
    (sorted : nodes.Pairwise fun first second => first.2 ≤ second.2) {first node : UInt64 × Nat}
    (found : firstOf sought nodes = some first) (member : node ∈ nodes)
    (same : node.1 = sought) : first.2 ≤ node.2 := by
  induction nodes with
  | nil => cases member
  | cons head nodes ih =>
      obtain ⟨later, rest⟩ := List.pairwise_cons.mp sorted
      rw [first_of_cons] at found
      split_ifs at found with here
      · cases found
        rcases List.mem_cons.mp member with rfl | inRest
        · exact le_refl node.2
        · exact later node inRest
      · rcases List.mem_cons.mp member with rfl | inRest
        · exact absurd same here
        · exact ih rest found inRest

theorem mem_iff_first_of {ring : Ring} (ordered : Ordered ring) (entry : UInt64 × Nat) :
    entry ∈ ring ↔ firstOf entry.1 ring = some entry := by
  constructor
  · intro member
    induction ring with
    | nil => cases member
    | cons head ring ih =>
        obtain ⟨first, rest⟩ := List.pairwise_cons.mp ordered
        rw [first_of_cons]
        rcases List.mem_cons.mp member with rfl | later
        · exact if_pos rfl
        · rw [if_neg (UInt64.ne_of_lt (first entry later))]
          exact ih rest later
  · exact List.mem_of_find?_eq_some

/-- The virtual nodes in the order in which `build` emplaces them. -/
def virtualNodes (pool : BackendPool) : List (UInt64 × Nat) :=
  pool.zipIdx.flatMap fun entry =>
    (List.range virtualNodesPerBackend).map fun virtualNode =>
      (hash (virtualKey entry.1 virtualNode), entry.2)

def emplaceAll (ring : Ring) (nodes : List (UInt64 × Nat)) : Ring :=
  nodes.foldl (fun ring node => emplace node.1 node.2 ring) ring

theorem build_eq (pool : BackendPool) : build pool = emplaceAll [] (virtualNodes pool) := by
  unfold build emplaceAll virtualNodes addBackend
  rw [List.foldl_flatMap]
  simp only [List.foldl_map]

theorem emplace_all_ordered (nodes : List (UInt64 × Nat)) {ring : Ring}
    (ordered : Ordered ring) : Ordered (emplaceAll ring nodes) := by
  induction nodes generalizing ring with
  | nil => exact ordered
  | cons node nodes ih => exact ih (emplace_ordered node.1 node.2 ordered)

theorem first_of_emplace_all (sought : UInt64) (nodes : List (UInt64 × Nat)) {ring : Ring}
    (ordered : Ordered ring) :
    firstOf sought (emplaceAll ring nodes) = firstOf sought (ring ++ nodes) := by
  induction nodes generalizing ring with
  | nil => rw [List.append_nil]; rfl
  | cons node nodes ih =>
      have next := ih (emplace_ordered node.1 node.2 ordered)
      rw [first_of_append, first_of_emplace _ _ _ ordered, ← first_of_append] at next
      rw [List.append_assoc] at next
      exact next

/-- Of the virtual nodes with one hash the first is on the ring. -/
theorem mem_build_iff (pool : BackendPool) (entry : UInt64 × Nat) :
    entry ∈ build pool ↔ firstOf entry.1 (virtualNodes pool) = some entry := by
  have ordered : Ordered (emplaceAll [] (virtualNodes pool)) :=
    emplace_all_ordered _ List.Pairwise.nil
  rw [build_eq, mem_iff_first_of ordered, first_of_emplace_all _ _ List.Pairwise.nil,
    List.nil_append]

theorem mem_virtual_nodes_iff (pool : BackendPool) (entry : UInt64 × Nat) :
    entry ∈ virtualNodes pool ↔
      ∃ backend virtualNode, pool[entry.2]? = some backend ∧
        virtualNode < virtualNodesPerBackend ∧ entry.1 = hash (virtualKey backend virtualNode) := by
  unfold virtualNodes
  simp only [List.mem_flatMap, List.mem_map, List.mem_range, Prod.exists,
    List.mem_zipIdx_iff_getElem?]
  constructor
  · rintro ⟨backend, index, found, virtualNode, below, rfl⟩
    exact ⟨backend, virtualNode, found, below, rfl⟩
  · rintro ⟨backend, virtualNode, found, below, same⟩
    exact ⟨backend, entry.2, found, virtualNode, below, Prod.ext same.symm rfl⟩

theorem virtual_nodes_sorted (pool : BackendPool) :
    (virtualNodes pool).Pairwise fun first second => first.2 ≤ second.2 := by
  have increasing : (pool.zipIdx.map Prod.snd).Pairwise (· < ·) := by
    rw [List.zipIdx_map_snd]
    exact List.pairwise_lt_range'
  apply List.pairwise_flatMap.mpr
  constructor
  · intro entry _
    apply List.pairwise_map.mpr
    exact List.pairwise_of_forall fun _ _ => le_refl entry.2
  · apply (List.pairwise_map.mp increasing).imp
    intro first second below left leftMember right rightMember
    obtain ⟨_, _, leftSame⟩ := List.mem_map.mp leftMember
    obtain ⟨_, _, rightSame⟩ := List.mem_map.mp rightMember
    rw [← leftSame, ← rightSame]
    exact Nat.le_of_lt below

/-- A virtual node of the backend has a hash that no virtual node of an earlier index
has. -/
def OwnsPosition (pool : BackendPool) (index : Nat) : Prop :=
  ∃ backend virtualNode, pool[index]? = some backend ∧ virtualNode < virtualNodesPerBackend ∧
    ∀ earlier, earlier < index → ∀ other otherNode, pool[earlier]? = some other →
      otherNode < virtualNodesPerBackend →
        hash (virtualKey other otherNode) ≠ hash (virtualKey backend virtualNode)

/-- An index is on the ring if and only if it owns a position. -/
theorem on_ring_iff (pool : BackendPool) (index : Nat) :
    (∃ key, (key, index) ∈ build pool) ↔ OwnsPosition pool index := by
  constructor
  · rintro ⟨key, member⟩
    have first := (mem_build_iff pool (key, index)).mp member
    obtain ⟨backend, virtualNode, found, below, same⟩ :=
      (mem_virtual_nodes_iff pool _).mp (List.mem_of_find?_eq_some first)
    refine ⟨backend, virtualNode, found, below, ?_⟩
    intro earlier less other otherNode otherFound otherBelow equal
    have listed : (key, earlier) ∈ virtualNodes pool :=
      (mem_virtual_nodes_iff pool _).mpr
        ⟨other, otherNode, otherFound, otherBelow, same.trans equal.symm⟩
    have least := first_of_earliest (virtual_nodes_sorted pool) first listed rfl
    exact absurd less (Nat.not_lt.mpr least)
  · rintro ⟨backend, virtualNode, found, below, fresh⟩
    let key := hash (virtualKey backend virtualNode)
    have listed : (key, index) ∈ virtualNodes pool :=
      (mem_virtual_nodes_iff pool _).mpr ⟨backend, virtualNode, found, below, rfl⟩
    obtain ⟨first, firstFound⟩ : ∃ first, firstOf key (virtualNodes pool) = some first :=
      Option.isSome_iff_exists.mp (List.find?_isSome.mpr ⟨_, listed, decide_eq_true rfl⟩)
    have sameKey : first.1 = key := by
      simpa [firstOf] using List.find?_some firstFound
    have least := first_of_earliest (virtual_nodes_sorted pool) firstFound listed rfl
    have notEarlier : ¬first.2 < index := by
      intro less
      obtain ⟨other, otherNode, otherFound, otherBelow, same⟩ :=
        (mem_virtual_nodes_iff pool first).mp (List.mem_of_find?_eq_some firstFound)
      exact fresh first.2 less other otherNode otherFound otherBelow (same.symm.trans sameKey)
    have sameIndex : first.2 = index := Nat.le_antisymm least (Nat.not_lt.mp notEarlier)
    refine ⟨key, (mem_build_iff pool _).mpr ?_⟩
    rw [firstFound]
    exact congrArg some (Prod.ext sameKey sameIndex)

theorem repeated_owns_nothing {pool : BackendPool} {earlier index : Nat} (less : earlier < index)
    {first second : Backend} (isFirst : pool[earlier]? = some first)
    (isSecond : pool[index]? = some second) (same : backendKey first = backendKey second) :
    ¬ OwnsPosition pool index := by
  intro ⟨backend, virtualNode, found, below, fresh⟩
  rw [isSecond] at found
  cases found
  apply fresh earlier less first virtualNode isFirst below
  unfold virtualKey
  rw [same]

/-- The ring as it is walked: from `lower_bound` to its end, then from its beginning. -/
def walk (ring : Ring) (clientHash : UInt64) : Ring :=
  ring.dropWhile (fun entry => entry.1 < clientHash) ++
    ring.takeWhile fun entry => entry.1 < clientHash

theorem walk_perm (ring : Ring) (clientHash : UInt64) : (walk ring clientHash).Perm ring := by
  unfold walk
  apply List.perm_append_comm.trans
  rw [List.takeWhile_append_dropWhile]

theorem walk_eq_rotate (ring : Ring) (clientHash : UInt64) :
    walk ring clientHash = ring.rotate
      (if lowerBound ring clientHash = ring.length then 0 else lowerBound ring clientHash) := by
  have split : walk ring clientHash =
      ring.drop (lowerBound ring clientHash) ++ ring.take (lowerBound ring clientHash) := by
    unfold walk lowerBound
    rw [List.dropWhile_eq_drop_findIdx_not, List.takeWhile_eq_take_findIdx_not]
  rw [split]
  split_ifs with last
  · rw [last, List.drop_length, List.take_length, List.nil_append, List.rotate_zero]
  · exact (List.rotate_eq_drop_append_take List.findIdx_le_length).symm

/-- The iterator comes past the walk, and its loop ends. -/
theorem get_backend_walks (ring : Ring) (clientKey : Bytes) (pool : BackendPool) :
    getBackend ring clientKey pool =
      ((walk ring (hash clientKey)).find? fun entry => pool.isHealthy entry.2).map Prod.snd := by
  unfold getBackend
  cases ring with
  | nil => rfl
  | cons head ring =>
      by_cases empty : pool.length = 0
      · have none : pool.isHealthy = fun _ => false := by
          funext index
          rw [List.eq_nil_of_length_eq_zero empty]
          rfl
        simp [empty, none]
      · have inside : (if lowerBound (head :: ring) (hash clientKey) = (head :: ring).length then 0
            else lowerBound (head :: ring) (hash clientKey)) < (head :: ring).length := by
          have bound : lowerBound (head :: ring) (hash clientKey) ≤ (head :: ring).length :=
            List.findIdx_le_length
          split_ifs with last
          · exact Nat.succ_pos _
          · omega
        simp only [List.isEmpty_cons, empty, Bool.false_or, decide_false, Bool.false_eq_true,
          if_false]
        rw [Circular.loop_finds _ inside, walk_eq_rotate]

/-- Wherever the walk begins, it comes past every entry of the ring. -/
theorem get_backend_eq_none_iff (ring : Ring) (clientKey : Bytes) (pool : BackendPool) :
    getBackend ring clientKey pool = none ↔
      ∀ index, (∃ key, (key, index) ∈ ring) → pool.isHealthy index = false := by
  rw [get_backend_walks, Option.map_eq_none_iff, List.find?_eq_none]
  simp only [(walk_perm ring _).mem_iff, Bool.not_eq_true]
  constructor
  · rintro none index ⟨key, member⟩
    exact none (key, index) member
  · intro none entry member
    exact none entry.2 ⟨entry.1, member⟩

theorem get_backend_healthy {ring : Ring} {clientKey : Bytes} {pool : BackendPool} {index : Nat}
    (got : getBackend ring clientKey pool = some index) : pool.isHealthy index = true := by
  rw [get_backend_walks] at got
  obtain ⟨entry, found, same⟩ := Option.map_eq_some_iff.mp got
  have healthy : pool.isHealthy entry.2 = true := by simpa using List.find?_some found
  exact same ▸ healthy

end ConsistentHash

namespace BackendPool

theorem has_healthy_backend_iff (pool : BackendPool) :
    pool.hasHealthyBackend = true ↔ ∃ index, pool.isHealthy index = true := by
  unfold hasHealthyBackend healthyCount isHealthy
  rw [decide_eq_true_iff, gt_iff_lt, List.countP_pos_iff]
  constructor
  · rintro ⟨backend, member, healthy⟩
    obtain ⟨index, found⟩ := List.mem_iff_getElem?.mp member
    exact ⟨index, by rw [found]; exact healthy⟩
  · rintro ⟨index, healthy⟩
    split at healthy
    · cases healthy
    · next backend found => exact ⟨backend, List.mem_of_getElem? found, healthy⟩

theorem healthy_below {pool : BackendPool} {index : Nat} (healthy : pool.isHealthy index = true) :
    index < pool.length := by
  unfold isHealthy at healthy
  split at healthy
  · cases healthy
  · next found => exact (List.getElem?_eq_some_iff.mp found).1

/-- The same backends, each as healthy as it is said to be. -/
def assign (configured : BackendPool) (healthy : Nat → Bool) : BackendPool :=
  configured.mapIdx fun index backend => { backend with healthy := healthy index }

end BackendPool

namespace LoadBalancer

theorem round_robin_cases (pool : BackendPool) (attempts next : Nat) :
    pool.isHealthy (roundRobin pool attempts next).1 = true ∨
      (roundRobin pool attempts next).1 = pool.length ∧
        ∀ step < attempts, pool.isHealthy ((next + step) % pool.length) = false := by
  induction attempts generalizing next with
  | zero =>
      right
      exact ⟨rfl, fun step below => absurd below (Nat.not_lt_zero step)⟩
  | succ attempts ih =>
      unfold roundRobin
      by_cases healthy : pool.isHealthy (next % pool.length) = true
      · simp only [if_pos healthy]
        exact .inl healthy
      · simp only [if_neg healthy]
        apply (ih ((next + 1) % pool.length)).imp_right
        rintro ⟨exhausted, rest⟩
        refine ⟨exhausted, ?_⟩
        intro step below
        cases step with
        | zero => simpa using healthy
        | succ step =>
            have passed := rest step (by omega)
            rw [Nat.mod_add_mod] at passed
            rw [show next + (step + 1) = next + 1 + step by omega]
            exact passed

/-- As many steps as there are backends come past all of them. -/
theorem residue_reached {count index : Nat} (next : Nat) (below : index < count) :
    ∃ step < count, (next + step) % count = index := by
  have rest : next % count < count := Nat.mod_lt _ (by omega)
  refine ⟨(index + (count - next % count)) % count, Nat.mod_lt _ (by omega), ?_⟩
  have whole : next + (index + (count - next % count)) = index + count * (next / count + 1) := by
    have parts := Nat.div_add_mod next count
    rw [Nat.mul_succ]
    omega
  rw [Nat.add_mod_mod, whole, Nat.add_mul_mod_self_left, Nat.mod_eq_of_lt below]

theorem round_robin_finds {pool : BackendPool} (next : Nat)
    (some : pool.hasHealthyBackend = true) :
    pool.isHealthy (roundRobin pool pool.length next).1 = true := by
  apply (round_robin_cases pool pool.length next).resolve_right
  rintro ⟨-, passed⟩
  obtain ⟨index, healthy⟩ := pool.has_healthy_backend_iff.mp some
  obtain ⟨step, below, reached⟩ := residue_reached next (BackendPool.healthy_below healthy)
  have unhealthy := passed step below
  rw [reached, healthy] at unhealthy
  cases unhealthy

/-- What is asked of a selection: an index that it answers is that of a healthy
backend, and it answers none only if there is no healthy backend. -/
def SoundAndComplete (pool : BackendPool) (selected : Option Nat) : Prop :=
  (∀ index, selected = some index → index < pool.length ∧ pool.isHealthy index = true) ∧
    (selected = none → pool.hasHealthyBackend = false)

theorem select_round_robin (lb : LoadBalancer) (clientIp : Bytes)
    (mode : lb.routingMode = .roundRobin) :
    SoundAndComplete lb.backendPool (lb.selectBackend clientIp).1 := by
  unfold selectBackend
  by_cases some : lb.backendPool.hasHealthyBackend = true
  · have found := round_robin_finds lb.nextBackendIndex some
    have below := BackendPool.healthy_below found
    have filled : lb.backendPool.length ≠ 0 := by omega
    simp only [some, mode, selectRoundRobinBackend, if_neg filled, if_neg (Nat.not_le.mpr below),
      Bool.not_true, Bool.false_eq_true, if_false, ge_iff_le]
    constructor
    · rintro index ⟨⟩
      exact ⟨below, found⟩
    · intro none
      cases none
  · rw [Bool.not_eq_true] at some
    simp only [some, Bool.not_false, if_true]
    exact ⟨fun index same => (by cases same), fun _ => some⟩

/-- Consistent hashing answers what it should unless no healthy backend is on the
ring. -/
theorem select_consistent_hash (lb : LoadBalancer) (clientIp : Bytes)
    (mode : lb.routingMode = .consistentHash) :
    SoundAndComplete lb.backendPool (lb.selectBackend clientIp).1 ↔
      (lb.backendPool.hasHealthyBackend = false ∨
        ∃ index, lb.backendPool.isHealthy index = true ∧ ∃ key, (key, index) ∈ lb.ring) := by
  unfold selectBackend
  by_cases some : lb.backendPool.hasHealthyBackend = true
  · simp only [some, mode, Bool.not_true, Bool.false_eq_true, if_false]
    constructor
    · intro good
      by_contra absent
      have unanswered : ConsistentHash.getBackend lb.ring clientIp lb.backendPool = none := by
        rw [ConsistentHash.get_backend_eq_none_iff]
        intro index onRing
        by_contra healthy
        exact absent (.inr ⟨index, by simpa using healthy, onRing⟩)
      rw [good.2 unanswered] at some
      cases some
    · intro reachable
      obtain ⟨index, healthy, onRing⟩ := reachable.resolve_left Bool.noConfusion
      constructor
      · intro selected same
        have found := ConsistentHash.get_backend_healthy same
        exact ⟨BackendPool.healthy_below found, found⟩
      · intro none
        have unhealthy := (ConsistentHash.get_backend_eq_none_iff _ _ _).mp none index onRing
        rw [healthy] at unhealthy
        cases unhealthy
  · rw [Bool.not_eq_true] at some
    simp only [some, Bool.not_false, if_true, true_or, iff_true]
    exact ⟨fun index same => (by cases same), fun _ => some⟩

/-- The ring is built once, from the configured backends; their health changes. A
selection is right if and only if it is round robin, or there is no healthy backend to
be found, or a healthy one owns a position of the ring. -/
theorem selection_is_sound_and_complete (lb : LoadBalancer) (configured : BackendPool)
    (healthy : Nat → Bool) (clientIp : Bytes) :
    let pool := BackendPool.assign configured healthy
    let balancer := { lb with backendPool := pool, ring := ConsistentHash.build configured }
    SoundAndComplete pool (balancer.selectBackend clientIp).1 ↔
      (lb.routingMode = .roundRobin ∨ pool.hasHealthyBackend = false ∨
        ∃ index, pool.isHealthy index = true ∧
          ConsistentHash.OwnsPosition configured index) := by
  intro pool balancer
  cases mode : lb.routingMode with
  | roundRobin =>
      simp only [true_or, iff_true]
      exact select_round_robin balancer clientIp mode
  | consistentHash =>
      simp only [← ConsistentHash.on_ring_iff, reduceCtorEq, false_or]
      exact select_consistent_hash balancer clientIp mode

/-- A backend that is configured twice, the first of them down. -/
def repeatedLine : LoadBalancer :=
  let configured := BackendConfig.load (some (ascii "127.0.0.1:8081\n127.0.0.1:8081\n"))
  { routingMode := .consistentHash
    backendPool := BackendPool.assign configured fun index => index = 1
    ring := ConsistentHash.build configured
    listenFd := 3
    healthTimerFd := 4 }

theorem repeated_line_is_not_selected :
    repeatedLine.backendPool.hasHealthyBackend = true ∧
      (repeatedLine.selectBackend (ascii "10.0.0.1")).1 = none ∧
        ¬SoundAndComplete repeatedLine.backendPool
          (repeatedLine.selectBackend (ascii "10.0.0.1")).1 := by
  let configured := BackendConfig.load (some (ascii "127.0.0.1:8081\n127.0.0.1:8081\n"))
  have healthy : repeatedLine.backendPool.hasHealthyBackend = true := by decide
  have onlySecond : ∀ index, repeatedLine.backendPool.isHealthy index = true → index = 1 := by
    intro index isHealthy
    have below : index < 2 := BackendPool.healthy_below isHealthy
    interval_cases index
    · cases isHealthy
    · rfl
  have unreached : ¬ ConsistentHash.OwnsPosition configured 1 :=
    ConsistentHash.repeated_owns_nothing Nat.zero_lt_one rfl rfl rfl
  have mode : repeatedLine.routingMode = .consistentHash := rfl
  have built : repeatedLine.ring = ConsistentHash.build configured := by
    simp only [repeatedLine, configured]
  have nobody : ConsistentHash.getBackend repeatedLine.ring (ascii "10.0.0.1")
      repeatedLine.backendPool = none := by
    rw [ConsistentHash.get_backend_eq_none_iff]
    intro index onRing
    rw [Bool.eq_false_iff]
    intro isHealthy
    cases onlySecond index isHealthy
    rw [built] at onRing
    exact unreached ((ConsistentHash.on_ring_iff configured 1).mp onRing)
  have unanswered : (repeatedLine.selectBackend (ascii "10.0.0.1")).1 = none := by
    unfold selectBackend
    simp only [healthy, mode, nobody, Bool.not_true, Bool.false_eq_true, if_false]
  refine ⟨healthy, unanswered, fun good => ?_⟩
  rw [good.2 unanswered] at healthy
  cases healthy

end LoadBalancer

end Aorta.Lb
