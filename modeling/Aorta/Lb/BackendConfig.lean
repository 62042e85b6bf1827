import Aorta.Library.Decimal
import Aorta.Lb.BackendPool

/-!
# `BackendConfig`

One backend a line, a host and a port. Lines that do not make sense are passed
over, and nothing keeps a line from being repeated.
-/

namespace Aorta.Lb.BackendConfig

open Aorta.Library.Ascii Aorta.Library.Decimal

set_option autoImplicit false

def loadLine (line : Bytes) : Option Backend :=
  if line.isEmpty || line.head? = some 35 then none
  else
    let host := line.takeWhile (· ≠ 58)
    let portString := line.drop (host.length + 1)
    -- the second `getline` fails at the end of the line
    if portString.isEmpty then none
    else
      match stoi portString with
      | none => none
      | some port =>
          if port ≤ 0 ∨ port > 65535 then none else some { host := host, port := port.toNat }

/-- `contents` is `none` for a file that cannot be opened. -/
def load (contents : Option Bytes) : BackendPool :=
  match contents with
  | none => []
  | some text => (text.splitOn 10).filterMap loadLine

end Aorta.Lb.BackendConfig
