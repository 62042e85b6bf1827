import Aorta.Server.Ledger

/-!
# Requests without a response

On a descriptor without an outstanding job every request has been answered, and one
with a job waits for that job only. This is kept together with the ledger, which
says that no generation is used twice and has two jobs.
-/

namespace Aorta.Server

open Aorta.Http (HttpRequest)

set_option autoImplicit false

/-- `clean` says that no stream has ended with something owed. -/
structure Arrears (next : Nat) (slots : Int → Option (Nat × Bool))
    (outstanding : List Callback) (history : History) : Prop where
  dated : ∀ entry ∈ history.dispatched, entry.generation ≤ next
  answered : ∀ fd generation, slots fd = some (generation, false) →
    ∀ entry ∈ history.dispatched, entry.generation = generation → entry ∈ history.queued
  awaited : ∀ callback ∈ outstanding, ∀ entry ∈ history.dispatched,
    entry.generation = callback.generation → entry ∈ history.queued ∨ entry = callback.entry
  clean : ∀ ending ∈ history.endings, ending.unsent = [] ∧ ending.unanswered = []

namespace Arrears

variable {next : Nat} {slots : Int → Option (Nat × Bool)} {outstanding : List Callback}
  {serial : Nat} {history : History}

theorem start (next : Nat) : Arrears next (fun _ => none) [] {} := by
  constructor <;> simp

theorem narrow (arrears : Arrears next slots outstanding history)
    {fewer : Int → Option (Nat × Bool)}
    (still : ∀ fd slot, fewer fd = some slot → slots fd = some slot) :
    Arrears next fewer outstanding history :=
  { arrears with answered := fun fd generation found =>
      arrears.answered fd generation (still fd _ found) }

theorem fewer (arrears : Arrears next slots outstanding history) {others : List Callback}
    (subset : ∀ callback ∈ others, callback ∈ outstanding) :
    Arrears next slots others history :=
  { arrears with awaited := fun callback member =>
      arrears.awaited callback (subset callback member) }

theorem accept (arrears : Arrears next slots outstanding history) (fd : Int) :
    Arrears (next + 1) (Function.update slots fd (some (next + 1, false))) outstanding
      history := by
  refine { arrears with dated := ?_, answered := ?_ }
  · intro entry member
    exact Nat.le_succ_of_le (arrears.dated entry member)
  · intro other generation found entry member same
    by_cases here : other = fd
    · rw [here, Function.update_self] at found
      cases found
      have old := arrears.dated entry member
      omega
    · rw [Function.update_of_ne here] at found
      exact arrears.answered other generation found entry member same

section Dispatch

variable (arrears : Arrears next slots outstanding history)
  (ledger : Ledger next slots outstanding serial history) {fd : Int} {generation : Nat}
  (slot : slots fd = some (generation, false)) (request : HttpRequest)

include arrears ledger slot

theorem dispatched_dated : ∀ entry ∈ history.dispatched ++ [⟨serial, fd, generation⟩],
    entry.generation ≤ next := by
  intro entry member
  rw [List.mem_append, List.mem_singleton] at member
  rcases member with earlier | rfl
  · exact arrears.dated entry earlier
  · exact ledger.current fd generation false slot

theorem serve :
    Arrears next slots outstanding { history.dispatch ⟨serial, fd, generation⟩ request with
      queued := history.queued ++ [⟨serial, fd, generation⟩] } := by
  refine { arrears with
    dated := dispatched_dated arrears ledger slot, answered := ?_, awaited := ?_ }
  · intro other otherGeneration found entry member same
    simp only [History.dispatch, List.mem_append, List.mem_singleton] at member ⊢
    rcases member with earlier | new
    · exact .inl (arrears.answered other otherGeneration found entry earlier same)
    · exact .inr new
  · intro callback waits entry member same
    simp only [History.dispatch, List.mem_append, List.mem_singleton] at member ⊢
    rcases member with earlier | new
    · rcases arrears.awaited callback waits entry earlier same with queued | asked
      · exact .inl (.inl queued)
      · exact .inr asked
    · exact .inl (.inr new)

theorem dispatched_elsewhere {other : Int} {otherGeneration : Nat} (differs : other ≠ fd)
    (found : slots other = some (otherGeneration, false)) :
    ∀ entry ∈ history.dispatched ++ [⟨serial, fd, generation⟩],
      entry.generation = otherGeneration → entry ∈ history.queued := by
  intro entry member same
  rw [List.mem_append, List.mem_singleton] at member
  rcases member with earlier | rfl
  · exact arrears.answered other otherGeneration found entry earlier same
  · cases same
    exact absurd (ledger.distinct other fd generation false false found slot) differs

theorem dispatched_awaited :
    ∀ callback ∈ outstanding, ∀ entry ∈ history.dispatched ++ [⟨serial, fd, generation⟩],
      entry.generation = callback.generation → entry ∈ history.queued ∨ entry = callback.entry := by
  intro callback waits entry member same
  rw [List.mem_append, List.mem_singleton] at member
  rcases member with earlier | rfl
  · exact arrears.awaited callback waits entry earlier same
  · exact absurd same.symm (ledger.unmarked_free slot callback waits)

theorem refuse :
    Arrears next (Function.update slots fd none) outstanding
      (history.dispatch ⟨serial, fd, generation⟩ request) := by
  refine { arrears with
    dated := dispatched_dated arrears ledger slot
    answered := ?_
    awaited := dispatched_awaited arrears ledger slot }
  intro other otherGeneration found
  by_cases here : other = fd
  · rw [here, Function.update_self] at found
    cases found
  · rw [Function.update_of_ne here] at found
    exact dispatched_elsewhere arrears ledger slot here found

theorem submit (close : Bool) :
    Arrears next (Function.update slots fd (some (generation, true)))
      (outstanding ++ [⟨fd, generation, close, serial⟩])
      (history.dispatch ⟨serial, fd, generation⟩ request) := by
  refine { arrears with
    dated := dispatched_dated arrears ledger slot, answered := ?_, awaited := ?_ }
  · intro other otherGeneration found
    by_cases here : other = fd
    · rw [here, Function.update_self] at found
      cases found
    · rw [Function.update_of_ne here] at found
      exact dispatched_elsewhere arrears ledger slot here found
  · intro callback waits
    rw [List.mem_append, List.mem_singleton] at waits
    rcases waits with earlier | rfl
    · exact dispatched_awaited arrears ledger slot callback earlier
    · intro entry member same
      simp only [History.dispatch, List.mem_append, List.mem_singleton] at member
      rcases member with older | new
      · exact .inl (arrears.answered fd generation slot entry older same)
      · exact .inr new

end Dispatch

theorem complete {callback : Callback}
    (arrears : Arrears next slots (callback :: outstanding) history) :
    Arrears next (Function.update slots callback.fd (some (callback.generation, false)))
      outstanding { history with queued := history.queued ++ [callback.entry] } := by
  refine { arrears with answered := ?_, awaited := ?_ }
  · intro other generation found entry member same
    rw [List.mem_append, List.mem_singleton]
    by_cases here : other = callback.fd
    · rw [here, Function.update_self] at found
      cases found
      exact arrears.awaited callback (by simp) entry member same
    · rw [Function.update_of_ne here] at found
      exact .inl (arrears.answered other generation found entry member same)
  · intro other waits entry member same
    rw [List.mem_append]
    rcases arrears.awaited other (by simp [waits]) entry member same with queued | asked
    · exact .inl (.inl queued)
    · exact .inr asked

theorem all_answered (arrears : Arrears next slots outstanding history) {fd : Int}
    {generation : Nat} (slot : slots fd = some (generation, false)) :
    history.unanswered generation = [] := by
  unfold History.unanswered
  rw [List.filter_eq_nil_iff]
  intro entry member owed
  have missing := of_decide_eq_true owed
  exact missing.2 (arrears.answered fd generation slot entry member missing.1)

theorem ended (arrears : Arrears next slots outstanding history) {fd : Int} {generation : Nat}
    (slot : slots fd = some (generation, false)) :
    Arrears next slots outstanding { history with
      endings := history.endings ++ [⟨fd, generation, [], history.unanswered generation⟩] } := by
  refine { arrears with clean := ?_ }
  intro ending member
  rw [List.mem_append, List.mem_singleton] at member
  rcases member with earlier | rfl
  · exact arrears.clean ending earlier
  · exact ⟨rfl, arrears.all_answered slot⟩

end Arrears

end Aorta.Server
