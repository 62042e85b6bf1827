import Aorta.Library.Circular
import Aorta.Library.Decimal
import Aorta.Lb.BackendPool

/-!
# `ConsistentHash`

The ring is a map ordered by hash. It is kept as the list of its entries by
increasing hash.
-/

namespace Aorta.Lb

open Aorta.Library Aorta.Library.Ascii Aorta.Library.Decimal

set_option autoImplicit false

abbrev Ring := List (UInt64 × Nat)

namespace ConsistentHash

/-- 64-bit FNV-1a. -/
def hash (key : Bytes) : UInt64 :=
  key.foldl (fun value byte => (value ^^^ byte.toUInt64) * 1099511628211) 14695981039346656037

def virtualNodesPerBackend : Nat := 128

def backendKey (backend : Backend) : Bytes :=
  backend.host ++ ascii ":" ++ decimal backend.port

def virtualKey (backend : Backend) (virtualNode : Nat) : Bytes :=
  backendKey backend ++ ascii "#" ++ decimal virtualNode

/-- `ring.emplace`: an entry of the same hash stays as it is. -/
def emplace (key : UInt64) (index : Nat) : Ring → Ring
  | [] => [(key, index)]
  | entry :: ring =>
      if key < entry.1 then (key, index) :: entry :: ring
      else if key = entry.1 then entry :: ring
      else entry :: emplace key index ring

def addBackend (ring : Ring) (index : Nat) (backend : Backend) : Ring :=
  (List.range virtualNodesPerBackend).foldl
    (fun ring virtualNode => emplace (hash (virtualKey backend virtualNode)) index ring) ring

def build (pool : BackendPool) : Ring :=
  pool.zipIdx.foldl (fun ring entry => addBackend ring entry.2 entry.1) []

/-- `ring.lower_bound`. -/
def lowerBound (ring : Ring) (clientHash : UInt64) : Nat :=
  ring.findIdx fun entry => !decide (entry.1 < clientHash)

def getBackend (ring : Ring) (clientKey : Bytes) (pool : BackendPool) : Option Nat :=
  if ring.isEmpty || pool.length = 0 then none
  else
    let lower := lowerBound ring (hash clientKey)
    let start := if lower = ring.length then 0 else lower
    (Circular.loop (fun entry => pool.isHealthy entry.2) ring start ring.length start).map Prod.snd

end ConsistentHash

end Aorta.Lb
