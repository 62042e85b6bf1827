import Mathlib.Tactic.Common

/-!
# Runs of a step function

A system is a step function over inputs; a run is the fold of the step over a
list of inputs. What every step keeps, every run keeps. Where a step keeps it
only under a condition on the state it starts from, the run has to meet the
condition throughout.
-/

namespace Aorta.Library.Run

set_option autoImplicit false

variable {State Input : Type*} (step : State → Input → State)

def run (start : State) (inputs : List Input) : State := inputs.foldl step start

@[simp] theorem run_nil (start : State) : run step start [] = start := rfl

@[simp] theorem run_cons (start : State) (input : Input) (inputs : List Input) :
    run step start (input :: inputs) = run step (step start input) inputs := rfl

theorem run_append (start : State) (first second : List Input) :
    run step start (first ++ second) = run step (run step start first) second :=
  List.foldl_append

/-- An input that changes nothing changes nothing however often it comes. -/
theorem run_replicate {start : State} {input : Input} (same : step start input = start)
    (times : Nat) : run step start (List.replicate times input) = start := by
  induction times with
  | zero => rfl
  | succ times ih => rw [List.replicate_succ, run_cons, same, ih]

/-- Each input meets the condition in the state it is applied to. -/
def Throughout (condition : State → Input → Prop) : State → List Input → Prop
  | _, [] => True
  | state, input :: inputs =>
      condition state input ∧ Throughout condition (step state input) inputs

instance decidableThroughout (condition : State → Input → Prop)
    [∀ state input, Decidable (condition state input)] :
    ∀ start inputs, Decidable (Throughout step condition start inputs)
  | _, [] => isTrue trivial
  | start, input :: inputs =>
      have := decidableThroughout condition (step start input) inputs
      inferInstanceAs (Decidable (_ ∧ _))

theorem throughout_of_always {condition : State → Input → Prop}
    (always : ∀ state input, condition state input) (start : State) (inputs : List Input) :
    Throughout step condition start inputs := by
  induction inputs generalizing start with
  | nil => trivial
  | cons input inputs ih => exact ⟨always start input, ih (step start input)⟩

theorem throughout_of_invariant {invariant : State → Prop} {condition : State → Input → Prop}
    (keeps : ∀ state input, invariant state → invariant (step state input))
    (meets : ∀ state input, invariant state → condition state input)
    {start : State} (holds : invariant start) (inputs : List Input) :
    Throughout step condition start inputs := by
  induction inputs generalizing start with
  | nil => trivial
  | cons input inputs ih => exact ⟨meets start input holds, ih (keeps start input holds)⟩

/-- Where a condition keeps an invariant, it implies throughout what it implies in every
state that meets the invariant. -/
theorem throughout_of_throughout {invariant : State → Prop}
    {condition property : State → Input → Prop}
    (keeps : ∀ state input, invariant state → condition state input →
      invariant (step state input))
    (meets : ∀ state input, invariant state → condition state input → property state input)
    {start : State} (holds : invariant start) (inputs : List Input)
    (throughout : Throughout step condition start inputs) :
    Throughout step property start inputs := by
  induction inputs generalizing start with
  | nil => trivial
  | cons input inputs ih =>
      obtain ⟨first, rest⟩ := throughout
      exact ⟨meets start input holds first, ih (keeps start input holds first) rest⟩

theorem throughout_of_forall {allowed : Input → Prop} {inputs : List Input}
    (all : ∀ input ∈ inputs, allowed input) (start : State) :
    Throughout step (fun _ input => allowed input) start inputs := by
  induction inputs generalizing start with
  | nil => trivial
  | cons input inputs ih =>
      obtain ⟨first, rest⟩ := List.forall_mem_cons.mp all
      exact ⟨first, ih rest (step start input)⟩

/-- A condition on the inputs alone is met throughout if each input meets it. -/
theorem throughout_and_forall {condition : State → Input → Prop} {allowed : Input → Prop}
    {start : State} {inputs : List Input} (throughout : Throughout step condition start inputs)
    (all : ∀ input ∈ inputs, allowed input) :
    Throughout step (fun state input => condition state input ∧ allowed input) start inputs := by
  induction inputs generalizing start with
  | nil => trivial
  | cons input inputs ih =>
      obtain ⟨first, rest⟩ := List.forall_mem_cons.mp all
      exact ⟨⟨throughout.1, first⟩, ih throughout.2 rest⟩

theorem run_invariant_throughout {invariant : State → Prop} {condition : State → Input → Prop}
    (keeps : ∀ state input, invariant state → condition state input →
      invariant (step state input))
    {start : State} (holds : invariant start) (inputs : List Input)
    (throughout : Throughout step condition start inputs) :
    invariant (run step start inputs) := by
  induction inputs generalizing start with
  | nil => exact holds
  | cons input inputs ih =>
      rw [run_cons]
      exact ih (keeps start input holds throughout.1) throughout.2

theorem run_invariant {invariant : State → Prop}
    (keeps : ∀ state input, invariant state → invariant (step state input))
    {start : State} (holds : invariant start) (inputs : List Input) :
    invariant (run step start inputs) := by
  induction inputs generalizing start with
  | nil => exact holds
  | cons input inputs ih =>
      rw [run_cons]
      exact ih (keeps start input holds)

end Aorta.Library.Run
