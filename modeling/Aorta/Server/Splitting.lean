import Aorta.Server.Reactor

/-!
# Events with one condition

`handleEvent` looks at the conditions of an event one after the other. An event with
several of them is as good as several events with one each, so whatever is kept under a
condition on the state in which a handler is called is stated for events with one.
-/

namespace Aorta.Server.Reactor

open Aorta.Library.Run Aorta.Http Aorta.Net

set_option autoImplicit false

/-- The conditions of an event in the order in which `handleEvent` looks at them, each
as an event of its own. -/
def Input.split : Input → List Input
  | .client fd events answers =>
      if events.error then [.client fd { error := true } answers]
      else if events.hangup then [.client fd { hangup := true } answers]
      else
        (if events.input then [.client fd { input := true } answers] else []) ++
          (if events.output then [.client fd { output := true } answers] else []) ++
          (if events.readHangup then [.client fd { readHangup := true } answers] else [])
  | input => [input]

/-- At most one condition is reported. -/
inductive Input.Simple : Input → Prop
  | error (fd : Int) (answers : ClientAnswers) : Simple (.client fd { error := true } answers)
  | hangup (fd : Int) (answers : ClientAnswers) : Simple (.client fd { hangup := true } answers)
  | input (fd : Int) (answers : ClientAnswers) : Simple (.client fd { input := true } answers)
  | output (fd : Int) (answers : ClientAnswers) : Simple (.client fd { output := true } answers)
  | readHangup (fd : Int) (answers : ClientAnswers) :
      Simple (.client fd { readHangup := true } answers)
  | accept (answers : List AcceptAnswer) : Simple (.accept answers)
  | timer (expired : List Int) : Simple (.timer expired)
  | completions (answers : List WriteAnswers) : Simple (.completions answers)
  | worker (job : Nat) (response : Option HttpResponse) : Simple (.worker job response)

theorem mem_reported {reported : Bool} {input part : Input}
    (member : part ∈ if reported then [input] else []) : part = input := by
  cases reported with
  | false => cases member
  | true => exact List.mem_singleton.mp member

theorem split_simple {input part : Input} (member : part ∈ input.split) : part.Simple := by
  cases input with
  | client fd events answers =>
      simp only [Input.split] at member
      by_cases error : events.error = true
      · rw [if_pos error] at member
        rw [List.mem_singleton.mp member]
        exact .error fd answers
      · rw [if_neg error] at member
        by_cases hangup : events.hangup = true
        · rw [if_pos hangup] at member
          rw [List.mem_singleton.mp member]
          exact .hangup fd answers
        · rw [if_neg hangup] at member
          rcases List.mem_append.mp member with first | last
          · rcases List.mem_append.mp first with read | written
            · rw [mem_reported read]
              exact .input fd answers
            · rw [mem_reported written]
              exact .output fd answers
          · rw [mem_reported last]
            exact .readHangup fd answers
  | accept answers =>
      rw [List.mem_singleton.mp member]
      exact .accept answers
  | timer expired =>
      rw [List.mem_singleton.mp member]
      exact .timer expired
  | completions answers =>
      rw [List.mem_singleton.mp member]
      exact .completions answers
  | worker job response =>
      rw [List.mem_singleton.mp member]
      exact .worker job response

variable (handle : Nat → HttpRequest → HandleResult)

theorem run_split (reactor : Reactor) (input : Input) :
    run (step handle) reactor input.split = reactor.step handle input := by
  cases input with
  | client fd events answers =>
      obtain ⟨input, output, readHangup, error, hangup⟩ := events
      cases error with
      | true => rfl
      | false =>
          cases hangup with
          | true => rfl
          | false => cases input <;> cases output <;> cases readHangup <;> rfl
  | accept answers => rfl
  | timer expired => rfl
  | completions answers => rfl
  | worker job response => rfl

theorem run_splits (reactor : Reactor) (inputs : List Input) :
    run (step handle) reactor (inputs.flatMap Input.split) = run (step handle) reactor inputs := by
  induction inputs generalizing reactor with
  | nil => rfl
  | cons input inputs ih =>
      rw [List.flatMap_cons, run_append, run_split, ih, run_cons]

/-- What every event with one condition keeps, every run keeps. -/
theorem run_simple_invariant {invariant : Reactor → Prop} {condition : Reactor → Input → Prop}
    (keeps : ∀ reactor input, input.Simple → invariant reactor → condition reactor input →
      invariant (reactor.step handle input))
    {reactor : Reactor} (holds : invariant reactor) (inputs : List Input)
    (throughout : Throughout (step handle) condition reactor (inputs.flatMap Input.split)) :
    invariant (run (step handle) reactor inputs) := by
  rw [← run_splits]
  have simple : ∀ part ∈ inputs.flatMap Input.split, part.Simple := by
    intro part member
    obtain ⟨_, _, inSplit⟩ := List.mem_flatMap.mp member
    exact split_simple inSplit
  apply run_invariant_throughout (step handle) _ holds _
    (throughout_and_forall (step handle) throughout simple)
  intro reactor input holds both
  exact keeps reactor input both.2 holds both.1

theorem run_simple_always {invariant : Reactor → Prop}
    (keeps : ∀ reactor input, input.Simple → invariant reactor →
      invariant (reactor.step handle input))
    {reactor : Reactor} (holds : invariant reactor) (inputs : List Input) :
    invariant (run (step handle) reactor inputs) := by
  apply run_simple_invariant handle _ holds inputs
    (throughout_of_always (step handle) (fun _ _ => trivial) _ _)
  intro reactor input simple holds _
  exact keeps reactor input simple holds

end Aorta.Server.Reactor
