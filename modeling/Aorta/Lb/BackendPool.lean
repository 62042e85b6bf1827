import Aorta.Library.Ascii

/-!
# `BackendPool`
-/

namespace Aorta.Lb

open Aorta.Library.Ascii

set_option autoImplicit false

structure Backend where
  host : Bytes
  port : Nat
  healthy : Bool := true
  consecutiveFailures : Nat := 0
  connectionCount : Nat := 0
  totalConnections : Nat := 0
  failedConnections : Nat := 0
  failovers : Nat := 0
deriving DecidableEq, Repr

abbrev BackendPool := List Backend

namespace BackendPool

def healthyCount (pool : BackendPool) : Nat := pool.countP Backend.healthy

def hasHealthyBackend (pool : BackendPool) : Bool := pool.healthyCount > 0

def isHealthy (pool : BackendPool) (index : Nat) : Bool :=
  match pool[index]? with
  | none => false
  | some backend => backend.healthy

end BackendPool

namespace Backend

/-- `if(connection_count > 0) connection_count--`. -/
def releaseConnection (backend : Backend) : Backend :=
  if backend.connectionCount > 0 then
    { backend with connectionCount := backend.connectionCount - 1 }
  else backend

theorem release_connection_count (backend : Backend) :
    backend.releaseConnection.connectionCount = backend.connectionCount - 1 := by
  unfold releaseConnection
  split_ifs with some
  · rfl
  · omega

def takeConnection (backend : Backend) : Backend :=
  { backend with
    connectionCount := backend.connectionCount + 1
    totalConnections := backend.totalConnections + 1 }

def countFailedConnection (backend : Backend) : Backend :=
  { backend with failedConnections := backend.failedConnections + 1 }

def countFailover (backend : Backend) : Backend :=
  { backend with failovers := backend.failovers + 1 }

/-- Two failures in a row make a backend unhealthy. -/
def countFailure (backend : Backend) : Backend :=
  let failures := backend.consecutiveFailures + 1
  { backend with
    consecutiveFailures := failures
    healthy := if failures ≥ 2 then false else backend.healthy }

def countSuccess (backend : Backend) : Backend :=
  { backend with healthy := true, consecutiveFailures := 0 }

end Backend

/-- The pools that differ in nothing that counts open connections. -/
def SameCounts (left right : BackendPool) : Prop :=
  left.map Backend.connectionCount = right.map Backend.connectionCount

namespace SameCounts

theorem refl (pool : BackendPool) : SameCounts pool pool := rfl

theorem trans {first second third : BackendPool} (left : SameCounts first second)
    (right : SameCounts second third) : SameCounts first third := Eq.trans left right

theorem modify (pool : BackendPool) (index : Nat) {change : Backend → Backend}
    (same : ∀ backend, (change backend).connectionCount = backend.connectionCount) :
    SameCounts (pool.modify index change) pool := by
  unfold SameCounts
  apply List.ext_getElem?
  intro position
  rw [List.getElem?_map, List.getElem?_map, List.getElem?_modify]
  by_cases here : index = position
  · cases pool[position]? with
    | none => simp
    | some backend => simp [here, same]
  · simp [here]

/-- A place that is taken is given back at once. -/
theorem take_release (pool : BackendPool) (index : Nat) :
    SameCounts ((pool.modify index Backend.takeConnection).modify index
      Backend.releaseConnection) pool := by
  rw [List.modify_modify_eq]
  apply modify
  intro backend
  rw [Function.comp_apply, Backend.release_connection_count]
  rfl

end SameCounts

end Aorta.Lb
