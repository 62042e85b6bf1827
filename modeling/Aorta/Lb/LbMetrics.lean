import Aorta.Library.Decimal
import Aorta.Lb.BackendPool

/-!
# `LbMetrics`
-/

namespace Aorta.Lb.LbMetrics

open Aorta.Library.Ascii Aorta.Library.Decimal

set_option autoImplicit false

def newline : Bytes := [10]

def heading (name help kind : String) : Bytes :=
  ascii "# HELP " ++ ascii name ++ ascii " " ++ ascii help ++ newline ++
    ascii "# TYPE " ++ ascii name ++ ascii " " ++ ascii kind ++ newline

/-- A metric of the load balancer as a whole. -/
def total (name help : String) (value : Nat) : Bytes :=
  heading name help "gauge" ++ ascii name ++ ascii " " ++ decimal value ++ newline ++ newline

/-- A metric with one line a backend. -/
def perBackend (name help kind : String) (value : Backend → Nat) (pool : BackendPool) : Bytes :=
  heading name help kind ++ pool.flatMap fun backend =>
    ascii name ++ ascii "\x7bbackend=\"" ++ backend.host ++ ascii "\",port=\"" ++
      decimal backend.port ++ ascii "\"\x7d " ++ decimal (value backend) ++ newline

def render (pool : BackendPool) (activeConnections : Nat) : Bytes :=
  total "aorta_lb_active_connections"
    "Number of active client TCP connections at the load balancer." activeConnections ++
  total "aorta_lb_healthy_backends" "Number of healthy backend servers." pool.healthyCount ++
  total "aorta_lb_total_backends" "Total number of configured backend servers." pool.length ++
  perBackend "aorta_lb_backend_healthy" "Whether a backend is healthy (1) or unhealthy (0)."
    "gauge" (fun backend => if backend.healthy then 1 else 0) pool ++ newline ++
  perBackend "aorta_lb_backend_connections" "Current active connections to a backend."
    "gauge" Backend.connectionCount pool ++ newline ++
  perBackend "aorta_lb_backend_total_connections" "Total connections handled by a backend."
    "counter" Backend.totalConnections pool ++ newline ++
  perBackend "aorta_lb_backend_failed_connections" "Total failed backend connections."
    "counter" Backend.failedConnections pool ++ newline ++
  perBackend "aorta_lb_backend_failovers" "Total backend failovers."
    "counter" Backend.failovers pool

end Aorta.Lb.LbMetrics
