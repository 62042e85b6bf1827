import Mathlib.Data.List.AList

/-!
# Descriptors and epoll
-/

namespace Aorta.Net

set_option autoImplicit false

/-- A map keyed by file descriptors. -/
abbrev Table (Value : Type) := AList fun _ : Int => Value

/-- The epoll event bits the program uses. -/
structure EventMask where
  input : Bool := false
  output : Bool := false
  readHangup : Bool := false
  error : Bool := false
  hangup : Bool := false
deriving DecidableEq, Repr

end Aorta.Net
