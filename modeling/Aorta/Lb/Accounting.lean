import Aorta.Library.FiniteMap
import Aorta.Lb.Moves

/-!
# The pair tables and the connection counts

`backend_to_client` is the inverse of the pairs' `backend_fd`, and each backend
counts the pairs that are attached to it. Every move keeps this.
-/

namespace Aorta.Lb

open Relation Aorta.Library.Ascii Aorta.Library.FiniteMap Aorta.Net

set_option autoImplicit false

/-- The pair has an open socket to the backend of that index. -/
def attachedTo (index : Nat) (pair : ConnectionPair) : Bool :=
  pair.backendFd ≠ -1 && pair.backendIndex = index

/-- The pairs by client and the owners of the backend sockets fit together. -/
structure Wiring (pairs : Int → Option ConnectionPair) (owner : Int → Option Int) : Prop where
  mapped : ∀ backendFd clientFd, owner backendFd = some clientFd ↔
    ∃ pair, pairs clientFd = some pair ∧ pair.backendFd = backendFd ∧ backendFd ≠ -1
  keyed : ∀ clientFd pair, pairs clientFd = some pair → pair.clientFd = clientFd
  apart : ∀ fd, pairs fd = none ∨ owner fd = none
  plain : ∀ clientFd pair, pairs clientFd = some pair → pair.backendFd ≠ -1 →
    pair.metricsConnection = false
  alive : ∀ clientFd pair, pairs clientFd = some pair → pair.closing = false

/-- The owners once a backend socket is given to a client or to nobody. -/
def setOwner (owner : Int → Option Int) (backendFd : Int) (clientFd : Option Int) :
    Int → Option Int :=
  if backendFd = -1 then owner else Function.update owner backendFd clientFd

theorem set_owner_apply (owner : Int → Option Int) (backendFd : Int) (clientFd : Option Int)
    (fd : Int) :
    setOwner owner backendFd clientFd fd =
      if backendFd ≠ -1 ∧ fd = backendFd then clientFd else owner fd := by
  unfold setOwner
  by_cases detached : backendFd = -1
  · rw [if_pos detached, if_neg fun both => both.1 detached]
  · rw [if_neg detached, Function.update_apply]
    simp only [detached, ne_eq, not_false_eq_true, true_and]

theorem stored_update {pairs : Int → Option ConnectionPair} {clientFd : Int}
    {value : Option ConnectionPair} {Good : Int → ConnectionPair → Prop}
    (before : ∀ other stored, pairs other = some stored → Good other stored)
    (new : ∀ stored, value = some stored → Good clientFd stored) :
    ∀ other stored, Function.update pairs clientFd value other = some stored →
      Good other stored := by
  intro other stored isStored
  by_cases same : other = clientFd
  · rw [same, Function.update_self] at isStored
    rw [same]
    exact new stored isStored
  · rw [Function.update_of_ne same] at isStored
    exact before other stored isStored

namespace Wiring

variable {pairs : Int → Option ConnectionPair} {owner : Int → Option Int}
  (wiring : Wiring pairs owner) {clientFd : Int} {pair : ConnectionPair}

include wiring

theorem owned (found : pairs clientFd = some pair) (attached : pair.backendFd ≠ -1) :
    owner pair.backendFd = some clientFd :=
  (wiring.mapped _ _).mpr ⟨pair, found, rfl, attached⟩

theorem unowned (found : pairs clientFd = some pair) : owner clientFd = none := by
  rcases wiring.apart clientFd with missing | free
  · rw [missing] at found
    cases found
  · exact free

theorem unplug (found : pairs clientFd = some pair) :
    Wiring (Function.update pairs clientFd none) (setOwner owner pair.backendFd none) := by
  have gone : ∀ backendFd, owner backendFd = some clientFd → backendFd = pair.backendFd := by
    intro backendFd owns
    obtain ⟨other, stored, same, -⟩ := (wiring.mapped _ _).mp owns
    rw [found] at stored
    cases stored
    exact same.symm
  have kept : ∀ backendFd, setOwner owner pair.backendFd none backendFd =
      if owner backendFd = some clientFd then none else owner backendFd := by
    intro backendFd
    rw [set_owner_apply]
    by_cases owns : owner backendFd = some clientFd
    · obtain ⟨-, -, -, attached⟩ := (wiring.mapped _ _).mp owns
      have same := gone backendFd owns
      rw [if_pos owns, if_pos ⟨same ▸ attached, same⟩]
    · rw [if_neg owns, if_neg]
      rintro ⟨attached, rfl⟩
      exact owns (wiring.owned found attached)
  constructor
  · intro backendFd other
    rw [kept]
    by_cases same : other = clientFd
    · subst same
      simp only [Function.update_self, reduceCtorEq, false_and, exists_false, iff_false]
      split_ifs with owns
      · simp
      · exact owns
    · rw [Function.update_of_ne same, ← wiring.mapped]
      split_ifs with owns
      · rw [owns]
        simp only [Option.some.injEq, false_iff]
        exact fun equal => same equal.symm
      · exact Iff.rfl
  · apply stored_update wiring.keyed
    rintro _ ⟨⟩
  · intro fd
    rw [kept]
    by_cases same : fd = clientFd
    · left
      rw [same, Function.update_self]
    · rw [Function.update_of_ne same]
      rcases wiring.apart fd with missing | free
      · exact .inl missing
      · right
        rw [free]
        simp
  · apply stored_update wiring.plain
    rintro _ ⟨⟩
  · apply stored_update wiring.alive
    rintro _ ⟨⟩

theorem plug (missing : pairs clientFd = none) (unowned : owner clientFd = none)
    (client : pair.clientFd = clientFd) (alive : pair.closing = false)
    (plain : pair.backendFd ≠ -1 → pair.metricsConnection = false)
    (free : pair.backendFd ≠ -1 → pairs pair.backendFd = none ∧ owner pair.backendFd = none ∧
      pair.backendFd ≠ clientFd) :
    Wiring (Function.update pairs clientFd (some pair))
      (setOwner owner pair.backendFd (some clientFd)) := by
  have noOwner : ∀ backendFd, owner backendFd ≠ some clientFd := by
    intro backendFd owns
    obtain ⟨other, stored, -⟩ := (wiring.mapped _ _).mp owns
    rw [missing] at stored
    cases stored
  constructor
  · intro backendFd other
    rw [set_owner_apply]
    by_cases same : other = clientFd
    · subst same
      rw [Function.update_self]
      split_ifs with here
      · obtain ⟨attached, rfl⟩ := here
        exact ⟨fun _ => ⟨pair, rfl, rfl, attached⟩, fun _ => rfl⟩
      · constructor
        · exact fun owns => absurd owns (noOwner backendFd)
        · intro found
          obtain ⟨stored, equal, socket, attached⟩ := found
          cases equal
          exact absurd ⟨socket ▸ attached, socket.symm⟩ here
    · rw [Function.update_of_ne same, ← wiring.mapped]
      split_ifs with here
      · obtain ⟨attached, rfl⟩ := here
        rw [(free attached).2.1]
        simp only [Option.some.injEq, reduceCtorEq, iff_false]
        exact fun equal => same equal.symm
      · exact Iff.rfl
  · apply stored_update wiring.keyed
    rintro _ ⟨⟩
    exact client
  · intro fd
    rw [set_owner_apply]
    split_ifs with here
    · obtain ⟨attached, rfl⟩ := here
      rw [Function.update_of_ne (free attached).2.2]
      exact .inl (free attached).1
    · by_cases same : fd = clientFd
      · rw [same]
        exact .inr unowned
      · rw [Function.update_of_ne same]
        exact wiring.apart fd
  · apply stored_update wiring.plain
    rintro _ ⟨⟩
    exact plain
  · apply stored_update wiring.alive
    rintro _ ⟨⟩
    exact alive

/-- A pair is replaced by one with the same backend socket, an unused one, or none. -/
theorem replace (found : pairs clientFd = some pair) {new : ConnectionPair}
    (client : new.clientFd = clientFd) (alive : new.closing = false)
    (plain : new.backendFd ≠ -1 → new.metricsConnection = false)
    (free : new.backendFd ≠ -1 → new.backendFd = pair.backendFd ∨
      pairs new.backendFd = none ∧ owner new.backendFd = none) :
    Wiring (Function.update pairs clientFd (some new))
      (setOwner (setOwner owner pair.backendFd none) new.backendFd (some clientFd)) := by
  have unowned := wiring.unowned found
  have cleared : ∀ fd, owner fd = none → setOwner owner pair.backendFd none fd = none := by
    intro fd free
    rw [set_owner_apply]
    split_ifs
    · rfl
    · exact free
  have plugged := (wiring.unplug found).plug (Function.update_self ..)
    (cleared clientFd unowned) client alive plain
  rw [Function.update_idem] at plugged
  apply plugged
  intro attached
  rcases free attached with same | ⟨noPair, noOwner⟩
  · have owns := wiring.owned found (same ▸ attached)
    have differs : pair.backendFd ≠ clientFd := by
      intro equal
      rw [equal, unowned] at owns
      cases owns
    rw [same]
    refine ⟨?_, ?_, differs⟩
    · rw [Function.update_of_ne differs]
      rcases wiring.apart pair.backendFd with missing | noOwner
      · exact missing
      · rw [noOwner] at owns
        cases owns
    · rw [set_owner_apply, if_pos ⟨same ▸ attached, rfl⟩]
  · have differs : new.backendFd ≠ clientFd := by
      intro equal
      rw [equal, found] at noPair
      cases noPair
    rw [Function.update_of_ne differs]
    exact ⟨noPair, cleared _ noOwner, differs⟩

end Wiring

structure Tables (lb : LoadBalancer) : Prop where
  wiring : Wiring (find lb.connections) (find lb.backendToClient)
  counted : ∀ index backend, lb.backendPool[index]? = some backend →
    backend.connectionCount = count (attachedTo index) lb.connections

/-- The parts of a pair the tables depend on. -/
structure SameSockets (before after : ConnectionPair) : Prop where
  client : after.clientFd = before.clientFd
  closing : after.closing = before.closing
  backend : after.backendFd = before.backendFd
  index : before.backendFd ≠ -1 → after.backendIndex = before.backendIndex
  metrics : before.backendFd ≠ -1 → after.metricsConnection = before.metricsConnection

theorem SameSockets.trans {first second third : ConnectionPair}
    (left : SameSockets first second) (right : SameSockets second third) :
    SameSockets first third where
  client := right.client.trans left.client
  closing := right.closing.trans left.closing
  backend := right.backend.trans left.backend
  index := fun attached =>
    (right.index (by rw [left.backend]; exact attached)).trans (left.index attached)
  metrics := fun attached =>
    (right.metrics (by rw [left.backend]; exact attached)).trans (left.metrics attached)

theorem pair_move_sockets {may : May} {before after : ConnectionPair}
    (move : PairMove may before after) : SameSockets before after := by
  cases move with
  | read side bytes fits within client backend =>
      cases side <;> exact ⟨rfl, rfl, rfl, fun _ => rfl, fun _ => rfl⟩
  | ended side backend => cases side <;> exact ⟨rfl, rfl, rfl, fun _ => rfl, fun _ => rfl⟩
  | sent writes side count within backend =>
      cases side <;> exact ⟨rfl, rfl, rfl, fun _ => rfl, fun _ => rfl⟩
  | clear => exact ⟨rfl, rfl, rfl, fun _ => rfl, fun _ => rfl⟩
  | shutBackend writes ended once nothing attached connected =>
      exact ⟨rfl, rfl, rfl, fun _ => rfl, fun _ => rfl⟩
  | shutClient writes ended once nothing => exact ⟨rfl, rfl, rfl, fun _ => rfl, fun _ => rfl⟩
  | connected => exact ⟨rfl, rfl, rfl, fun _ => rfl, fun _ => rfl⟩
  | watched client backend => exact ⟨rfl, rfl, rfl, fun _ => rfl, fun _ => rfl⟩
  | redialled detached index connecting events =>
      exact ⟨rfl, rfl, rfl, fun attached => absurd detached attached, fun _ => rfl⟩
  | admitted detached unopened =>
      exact ⟨rfl, rfl, rfl, fun _ => rfl, fun attached => absurd detached attached⟩
  | answered metrics response request events within =>
      exact ⟨rfl, rfl, rfl, fun _ => rfl, fun _ => rfl⟩

theorem pair_moves_sockets {may : May} {before after : ConnectionPair}
    (moves : ReflTransGen (PairMove may) before after) : SameSockets before after := by
  induction moves with
  | refl => exact ⟨rfl, rfl, rfl, fun _ => rfl, fun _ => rfl⟩
  | tail _ move ih => exact ih.trans (pair_move_sockets move)

theorem SameSockets.attached {before after : ConnectionPair} (same : SameSockets before after)
    (index : Nat) : attachedTo index after = attachedTo index before := by
  unfold attachedTo
  rw [same.backend]
  by_cases detached : before.backendFd = -1
  · simp [detached]
  · rw [same.index detached]

theorem modify_counted {pool : BackendPool} {index : Nat} {change : Backend → Backend}
    {before after : Nat → Nat}
    (counted : ∀ position backend, pool[position]? = some backend →
      backend.connectionCount = before position)
    (here : ∀ backend, backend.connectionCount = before index →
      (change backend).connectionCount = after index)
    (elsewhere : ∀ position, position ≠ index → after position = before position) :
    ∀ position backend, (pool.modify index change)[position]? = some backend →
      backend.connectionCount = after position := by
  intro position backend found
  rw [List.getElem?_modify] at found
  by_cases same : index = position
  · subst same
    cases stored : pool[index]? with
    | none => simp [stored] at found
    | some old =>
        simp only [stored, if_true, Option.map_eq_map, Option.map_some, Option.some.injEq] at found
        rw [← found]
        exact here old (counted index old stored)
  · rw [elsewhere position (fun equal => same equal.symm)]
    apply counted position backend
    simpa [same] using found

theorem unused {lb : LoadBalancer} {fd : Int} (free : lb.inUse fd = false) :
    find lb.connections fd = none ∧ find lb.backendToClient fd = none ∧ fd ≠ -1 := by
  simp only [LoadBalancer.inUse, Bool.or_eq_false_iff, decide_eq_false_iff_not,
    Option.isSome_eq_false_iff, Option.isNone_iff_eq_none] at free
  refine ⟨free.1.2, free.2, ?_⟩
  omega

namespace Tables

variable {lb : LoadBalancer} (tables : Tables lb) {clientFd : Int} {pair : ConnectionPair}

include tables

theorem same_counts {after : LoadBalancer} (connections : after.connections = lb.connections)
    (backends : after.backendToClient = lb.backendToClient)
    (counts : SameCounts after.backendPool lb.backendPool) : Tables after where
  wiring := by
    rw [connections, backends]
    exact tables.wiring
  counted := by
    intro index backend found
    have same := congrArg (fun counts => counts[index]?) counts
    simp only [List.getElem?_map, found, Option.map_some] at same
    obtain ⟨old, stored, equal⟩ := Option.map_eq_some_iff.mp same.symm
    rw [connections, ← equal]
    exact tables.counted index old stored

theorem accept {fd : Int} (free : lb.inUse fd = false) (clientIp : Bytes) :
    Tables (lb.acceptClient fd clientIp) := by
  obtain ⟨noPair, noOwner, -⟩ := unused free
  unfold LoadBalancer.acceptClient LoadBalancer.setPair
  constructor
  · rw [find_insert]
    exact tables.wiring.plug noPair noOwner rfl rfl (fun attached => absurd rfl attached)
      fun attached => absurd rfl attached
  · intro index backend found
    rw [count_add _ noPair, tables.counted index backend found]
    rfl

theorem touch (found : find lb.connections clientFd = some pair) {after : ConnectionPair}
    (same : SameSockets pair after) : Tables (lb.setPair clientFd after) := by
  unfold LoadBalancer.setPair
  constructor
  · have replaced := tables.wiring.replace found
      (same.client.trans (tables.wiring.keyed clientFd pair found))
      (same.closing.trans (tables.wiring.alive clientFd pair found))
      (fun attached => by
        rw [same.backend] at attached
        rw [same.metrics attached]
        exact tables.wiring.plain clientFd pair found attached)
      (fun _ => .inl same.backend)
    rw [find_insert]
    convert replaced using 1
    rw [same.backend]
    unfold setOwner
    by_cases detached : pair.backendFd = -1
    · simp only [if_pos detached]
    · simp only [if_neg detached]
      rw [Function.update_idem, ← tables.wiring.owned found detached, Function.update_eq_self]
  · intro index backend stored
    rw [count_replace _ found (same.attached index)]
    exact tables.counted index backend stored

theorem attach (found : find lb.connections clientFd = some pair)
    (detached : pair.backendFd = -1) {fd : Int} (free : lb.inUse fd = false) (index : Nat)
    {after : ConnectionPair} (client : after.clientFd = pair.clientFd)
    (socket : after.backendFd = fd) (backend : after.backendIndex = index)
    (closing : after.closing = pair.closing) (plain : after.metricsConnection = false) :
    Tables { (lb.modifyBackend index Backend.takeConnection).setPair clientFd after with
      backendToClient := lb.backendToClient.insert fd clientFd } := by
  obtain ⟨noPair, noOwner, attached⟩ := unused free
  constructor
  · have replaced := tables.wiring.replace found
      (client.trans (tables.wiring.keyed clientFd pair found))
      (closing.trans (tables.wiring.alive clientFd pair found)) (fun _ => plain)
      (fun _ => .inr (by rw [socket]; exact ⟨noPair, noOwner⟩))
    simp only [LoadBalancer.setPair, LoadBalancer.modifyBackend, find_insert]
    convert replaced using 1
    unfold setOwner
    rw [if_pos detached, socket, if_neg attached]
  · have before : ∀ position, attachedTo position pair = false := by
      intro position
      simp [attachedTo, detached]
    apply modify_counted tables.counted
    · intro old counts
      have here : attachedTo index after = true := by
        simp [attachedTo, socket, backend, attached]
      simp only [Backend.takeConnection, LoadBalancer.setPair, LoadBalancer.modifyBackend]
      rw [count_insert, counts, count_erase_found _ found, here, before]
      rfl
    · intro position differs
      have elsewhere : attachedTo position after = false := by
        simp [attachedTo, backend, differs.symm]
      simp only [LoadBalancer.setPair, LoadBalancer.modifyBackend]
      rw [count_replace _ found (by rw [elsewhere, before])]

theorem release_counted (found : find lb.connections clientFd = some pair)
    (attached : pair.backendFd ≠ -1) {after : Nat → Nat}
    (remaining : ∀ position,
      after position = count (attachedTo position) (lb.connections.erase clientFd))
    {change : Backend → Backend}
    (released : ∀ backend, (change backend).connectionCount =
      backend.releaseConnection.connectionCount) :
    ∀ position backend, (lb.backendPool.modify pair.backendIndex change)[position]? =
      some backend → backend.connectionCount = after position := by
  have before := fun position => count_erase_found (attachedTo position) found
  apply modify_counted tables.counted
  · intro old counts
    have here : attachedTo pair.backendIndex pair = true := by
      simp [attachedTo, attached]
    rw [before, here, if_pos rfl, ← remaining] at counts
    rw [released, Backend.release_connection_count, counts]
    omega
  · intro position differs
    have elsewhere : attachedTo position pair = false := by
      simp [attachedTo, differs.symm]
    rw [remaining, before position, elsewhere]
    rfl

theorem detach (found : find lb.connections clientFd = some pair)
    (attached : pair.backendFd ≠ -1) :
    Tables (lb.dropFailedBackend clientFd pair pair.backendIndex) := by
  unfold LoadBalancer.dropFailedBackend
  rw [if_pos attached]
  constructor
  · have client : (LoadBalancer.resetBackend pair).clientFd = clientFd :=
      tables.wiring.keyed clientFd pair found
    have alive : (LoadBalancer.resetBackend pair).closing = false :=
      tables.wiring.alive clientFd pair found
    have replaced := tables.wiring.replace found client alive (fun other => absurd rfl other)
      (fun other => absurd rfl other)
    simp only [LoadBalancer.setPair, LoadBalancer.modifyBackend, find_insert, find_erase]
    convert replaced using 1
    unfold setOwner
    rw [if_neg attached]
    rfl
  · apply tables.release_counted found attached
    · intro position
      have reset : attachedTo position (LoadBalancer.resetBackend pair) = false := by
        simp [attachedTo, LoadBalancer.resetBackend]
      simp only [LoadBalancer.setPair, LoadBalancer.modifyBackend]
      rw [count_insert, reset]
      rfl
    · exact fun backend => rfl

theorem close (found : find lb.connections clientFd = some pair) (reason : CloseReason) :
    Tables (lb.closeConnection clientFd reason) := by
  have unplugged := tables.wiring.unplug found
  unfold LoadBalancer.closeConnection
  rw [show lb.connections.lookup clientFd = some pair from found]
  simp only
  rw [if_neg (by rw [tables.wiring.alive clientFd pair found]; exact Bool.false_ne_true)]
  by_cases detached : pair.backendFd = -1
  · rw [if_neg (not_not.mpr detached)]
    constructor
    · rw [find_erase]
      convert unplugged using 1
      rw [setOwner, if_pos detached]
    · intro position backend stored
      have elsewhere : attachedTo position pair = false := by
        simp [attachedTo, detached]
      rw [tables.counted position backend stored, count_erase_found _ found, elsewhere]
      rfl
  · rw [if_pos detached]
    constructor
    · simp only [LoadBalancer.modifyBackend, find_erase]
      convert unplugged using 1
      rw [setOwner, if_neg detached]
    · exact tables.release_counted found detached (fun position => rfl) fun backend => rfl

end Tables

theorem move_tables {may : May} {clientFd : Int} {lb after : LoadBalancer} (tables : Tables lb)
    (move : Move may clientFd lb after) : Tables after := by
  cases move with
  | counted after connections backends closed counts =>
      exact tables.same_counts connections backends counts
  | dialled dials pair index found detached plain =>
      exact tables.same_counts rfl rfl (SameCounts.refl _)
  | accepted accepts fd clientIp free => exact tables.accept free clientIp
  | touched pair after found moves => exact tables.touch found (pair_moves_sockets moves)
  | attached pair fd index connecting found detached plain free =>
      exact tables.attach found detached free index rfl rfl rfl rfl plain
  | detached pair found attached connecting detaches trouble => exact tables.detach found attached
  | closed pair reason found justified => exact tables.close found reason

theorem moves_tables {may : May} {clientFd : Int} {lb after : LoadBalancer} (tables : Tables lb)
    (moves : Moves may clientFd lb after) : Tables after := by
  induction moves with
  | refl => exact tables
  | tail _ move ih => exact move_tables ih move

end Aorta.Lb
