import Mathlib.Tactic.Common

/-!
# Traces

What a trace says about the order of its events: what every event of a kind was
preceded by, and what has happened since the last event of a kind. Both are read
off event by event.
-/

namespace Aorta.Library.Trace

set_option autoImplicit false

variable {Event : Type*}

/-- Whatever came before an event of the kind met the condition. -/
def Preceded (kind : Event → Prop) (condition : List Event → Prop) (trace : List Event) : Prop :=
  ∀ before event after, trace = before ++ event :: after → kind event → condition before

variable {kind : Event → Prop} {condition : List Event → Prop}

theorem preceded_nil : Preceded kind condition [] := by
  intro before event after split
  simp at split

theorem preceded_snoc {trace : List Event} {event : Event}
    (earlier : Preceded kind condition trace) (last : kind event → condition trace) :
    Preceded kind condition (trace ++ [event]) := by
  intro before other after split isKind
  rcases List.eq_nil_or_concat after with empty | ⟨rest, final, tail⟩
  · subst empty
    obtain ⟨front, same⟩ := List.append_inj' split rfl
    cases same
    rw [← front]
    exact last isKind
  · subst tail
    rw [List.concat_eq_append, ← List.cons_append, ← List.append_assoc] at split
    obtain ⟨front, -⟩ := List.append_inj' split rfl
    exact earlier before other rest front isKind

/-- The events behind the last one that starts something. -/
def since (starts : Event → Bool) (trace : List Event) : List Event :=
  trace.foldl (fun events event => if starts event then [] else events ++ [event]) []

theorem since_snoc (starts : Event → Bool) (trace : List Event) (event : Event) :
    since starts (trace ++ [event]) =
      if starts event then [] else since starts trace ++ [event] := by
  simp [since, List.foldl_append]

end Aorta.Library.Trace
