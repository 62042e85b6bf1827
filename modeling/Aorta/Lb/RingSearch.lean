import Aorta.Lb.Selection
import Aorta.Library.Circular

/-!
# Who is moved on the ring

`getBackend` answers the first healthy entry from the client's hash on, round the ring.
What takes entries of one backend off the walk, or puts them on it, moves no other
client: a change of health leaves the ring as it is, and a backend that is appended
only adds entries of its own.
-/

namespace Aorta.Lb.ConsistentHash

open Aorta.Library Aorta.Library.Ascii

set_option autoImplicit false

section Walk

theorem walk_eq_filter {ring : Ring} (ordered : Ordered ring) (clientHash : UInt64) :
    walk ring clientHash =
      (ring.filter fun entry => !decide (entry.1 < clientHash)) ++
        ring.filter fun entry => decide (entry.1 < clientHash) := by
  have front : ring.Pairwise fun first second =>
      decide (second.1 < clientHash) = true → decide (first.1 < clientHash) = true := by
    apply ordered.imp
    intro first second less below
    exact decide_eq_true (UInt64.lt_trans less (of_decide_eq_true below))
  obtain ⟨taken, dropped⟩ := Circular.while_eq_filter _ front
  unfold walk
  rw [taken, dropped]

theorem walk_filter {ring : Ring} (ordered : Ordered ring) (clientHash : UInt64)
    (keeps : UInt64 × Nat → Bool) :
    walk (ring.filter keeps) clientHash = (walk ring clientHash).filter keeps := by
  rw [walk_eq_filter (ordered.filter keeps), walk_eq_filter ordered, List.filter_append]
  simp only [List.filter_filter, Bool.and_comm]

/-- The first index on the walk that passes for healthy. -/
def firstHealthy (healthy : Nat → Bool) (ring : Ring) (clientHash : UInt64) : Option Nat :=
  ((walk ring clientHash).find? fun entry => healthy entry.2).map Prod.snd

theorem get_backend_first (ring : Ring) (clientKey : Bytes) (pool : BackendPool) :
    getBackend ring clientKey pool = firstHealthy pool.isHealthy ring (hash clientKey) :=
  get_backend_walks ring clientKey pool

/-- The walk ends at the backend, or where it would end if that were not healthy. -/
theorem first_healthy_without (healthy : Nat → Bool) (ring : Ring) (clientHash : UInt64)
    (index : Nat) :
    firstHealthy healthy ring clientHash = some index ∨
      firstHealthy (fun other => decide (other ≠ index) && healthy other) ring clientHash =
        firstHealthy healthy ring clientHash := by
  unfold firstHealthy
  rcases Circular.find_keeps (fun entry => healthy entry.2)
      (fun entry => decide (entry.2 ≠ index)) (walk ring clientHash) with ⟨entry, found, own⟩ | same
  · left
    have isIndex : entry.2 = index := by simpa using own
    rw [found, Option.map_some, isIndex]
  · right
    rw [same]

theorem first_healthy_filter {ring : Ring} (ordered : Ordered ring) (healthy : Nat → Bool)
    (clientHash : UInt64) (index : Nat) :
    firstHealthy healthy (ring.filter fun entry => decide (entry.2 ≠ index)) clientHash =
      firstHealthy (fun other => decide (other ≠ index) && healthy other) ring clientHash := by
  unfold firstHealthy
  rw [walk_filter ordered, List.find?_filter]
  simp only [Bool.decide_and, Bool.decide_eq_true]

theorem first_healthy_congr {left right : Nat → Bool} {ring : Ring} (clientHash : UInt64)
    (agree : ∀ entry ∈ ring, left entry.2 = right entry.2) :
    firstHealthy left ring clientHash = firstHealthy right ring clientHash := by
  have along : ∀ entry ∈ walk ring clientHash, left entry.2 = right entry.2 := by
    intro entry member
    exact agree entry ((walk_perm ring clientHash).mem_iff.mp member)
  unfold firstHealthy
  rw [← List.head?_filter, ← List.head?_filter, List.filter_congr along]

end Walk

section Health

theorem is_healthy_assign (configured : BackendPool) (healthy : Nat → Bool) (index : Nat) :
    (BackendPool.assign configured healthy).isHealthy index =
      (decide (index < configured.length) && healthy index) := by
  unfold BackendPool.isHealthy BackendPool.assign
  rw [List.getElem?_mapIdx]
  by_cases below : index < configured.length
  · simp [below]
  · simp [below]

theorem build_ordered (pool : BackendPool) : Ordered (build pool) := by
  rw [build_eq]
  exact emplace_all_ordered _ List.Pairwise.nil

theorem mem_build_below {pool : BackendPool} {entry : UInt64 × Nat} (member : entry ∈ build pool) :
    entry.2 < pool.length := by
  have listed := List.mem_of_find?_eq_some ((mem_build_iff pool entry).mp member)
  obtain ⟨backend, _, found, _⟩ := (mem_virtual_nodes_iff pool entry).mp listed
  exact (List.getElem?_eq_some_iff.mp found).1

/-- Where two pools differ in one backend alone, and that is down in one of them, the
other answers that backend or the same as the one. -/
theorem get_backend_agrees (ring : Ring) (clientKey : Bytes) {left right : BackendPool}
    {index : Nat} (agree : ∀ other, other ≠ index → left.isHealthy other = right.isHealthy other)
    (down : right.isHealthy index = false) :
    getBackend ring clientKey left = some index ∨
      getBackend ring clientKey right = getBackend ring clientKey left := by
  have others : (fun other => decide (other ≠ index) && left.isHealthy other) =
      right.isHealthy := by
    funext other
    by_cases same : other = index
    · simp [same, down]
    · simp [same, agree other same]
  have ends := first_healthy_without left.isHealthy ring (hash clientKey) index
  rw [others] at ends
  rw [get_backend_first, get_backend_first]
  exact ends

end Health

/-- A backend that fails moves its own clients alone, and one that recovers moves
clients to itself alone. -/
theorem health_moves_own_clients (configured : BackendPool) (healthy : Nat → Bool) (index : Nat)
    (clientKey : Bytes) :
    let up := BackendPool.assign configured (Function.update healthy index true)
    let down := BackendPool.assign configured (Function.update healthy index false)
    let answer := getBackend (build configured) clientKey
    (answer up ≠ some index → answer down = answer up) ∧
      (answer up = answer down ∨ answer up = some index) := by
  intro up down answer
  have agree : ∀ other, other ≠ index → up.isHealthy other = down.isHealthy other := by
    intro other apart
    simp only [up, down, is_healthy_assign, Function.update_of_ne apart]
  have unhealthy : down.isHealthy index = false := by
    simp only [down, is_healthy_assign, Function.update_self, Bool.and_false]
  have moves := get_backend_agrees (build configured) clientKey agree unhealthy
  constructor
  · intro other
    exact moves.resolve_left other
  · exact moves.symm.imp_left Eq.symm

section Growth

theorem emplace_others (key : UInt64) (index : Nat) (ring : Ring) :
    (emplace key index ring).filter (fun entry => decide (entry.2 ≠ index)) =
      ring.filter fun entry => decide (entry.2 ≠ index) := by
  induction ring with
  | nil => simp [emplace]
  | cons head ring ih =>
      unfold emplace
      split_ifs
      · rw [List.filter_cons_of_neg (by simp)]
      · rfl
      · rw [List.filter_cons, List.filter_cons, ih]

theorem emplace_all_others {nodes : List (UInt64 × Nat)} {index : Nat}
    (own : ∀ node ∈ nodes, node.2 = index) (ring : Ring) :
    (emplaceAll ring nodes).filter (fun entry => decide (entry.2 ≠ index)) =
      ring.filter fun entry => decide (entry.2 ≠ index) := by
  induction nodes generalizing ring with
  | nil => rfl
  | cons node nodes ih =>
      have rest : ∀ other ∈ nodes, other.2 = index := fun other member =>
        own other (List.mem_cons_of_mem node member)
      have step : emplaceAll ring (node :: nodes) =
          emplaceAll (emplace node.1 index ring) nodes := by
        rw [← own node List.mem_cons_self]
        rfl
      rw [step, ih rest, emplace_others]

theorem virtual_nodes_append (pool : BackendPool) (backend : Backend) :
    ∃ nodes, virtualNodes (pool ++ [backend]) = virtualNodes pool ++ nodes ∧
      ∀ node ∈ nodes, node.2 = pool.length := by
  refine ⟨(List.range virtualNodesPerBackend).map fun virtualNode =>
    (hash (virtualKey backend virtualNode), pool.length), ?_, ?_⟩
  · unfold virtualNodes
    rw [List.zipIdx_append, List.flatMap_append]
    simp
  · intro node member
    obtain ⟨_, _, same⟩ := List.mem_map.mp member
    rw [← same]

/-- The ring of the longer pool is the old one with entries of the new backend. -/
theorem build_append (pool : BackendPool) (backend : Backend) :
    (build (pool ++ [backend])).filter (fun entry => decide (entry.2 ≠ pool.length)) =
      build pool := by
  obtain ⟨nodes, appended, own⟩ := virtual_nodes_append pool backend
  have old : (build pool).filter (fun entry => decide (entry.2 ≠ pool.length)) = build pool := by
    apply List.filter_eq_self.mpr
    intro entry member
    exact decide_eq_true (Nat.ne_of_lt (mem_build_below member))
  have grown : build (pool ++ [backend]) = emplaceAll (build pool) nodes := by
    rw [build_eq, build_eq, appended]
    exact List.foldl_append
  rw [grown, emplace_all_others own, old]

end Growth

/-- When a backend is appended, a client stays where it was or goes to the new one. -/
theorem growth_moves_to_new_backend (configured : BackendPool) (backend : Backend)
    (healthy : Nat → Bool) (clientKey : Bytes) :
    let before := getBackend (build configured) clientKey (BackendPool.assign configured healthy)
    let after := getBackend (build (configured ++ [backend])) clientKey
      (BackendPool.assign (configured ++ [backend]) healthy)
    after = before ∨ after = some configured.length := by
  intro before after
  let grown := BackendPool.assign (configured ++ [backend]) healthy
  have ends := first_healthy_without grown.isHealthy (build (configured ++ [backend]))
    (hash clientKey) configured.length
  rw [← first_healthy_filter (build_ordered _), build_append] at ends
  have same : firstHealthy grown.isHealthy (build configured) (hash clientKey) = before := by
    rw [show before = _ from get_backend_first _ _ _]
    apply first_healthy_congr
    intro entry member
    have below := mem_build_below member
    simp only [grown, is_healthy_assign, List.length_append, below,
      Nat.lt_add_right _ below]
  rw [same, show firstHealthy _ _ _ = after from (get_backend_first _ _ _).symm] at ends
  exact ends.symm.imp_left Eq.symm

end Aorta.Lb.ConsistentHash
