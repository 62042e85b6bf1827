import Mathlib.Data.List.TakeDrop
import Mathlib.Tactic.Common

/-!
# Readers that can be suspended and resumed

A reader looks at the unread items and either answers or takes some of them and
looks again. One answer, `hungry`, asks for more items: the caller drops what
was used, keeps the rest, and calls again when the input has grown. The laws in
`Reader` are local (one step each). The library derives from them that a
suspended and resumed run cannot be told apart from one run over all the items
fed so far, except for the state left behind by a rejection.
-/

namespace Aorta.Library.Resume

set_option autoImplicit false

/-- What one look at the unread items leads to. -/
inductive Outcome (State Answer : Type*) where
  | answer (result : Answer) (state : State) (used : Nat)
  | again (state : State) (used : Nat)

namespace Outcome

variable {State Answer : Type*}

def delay (count : Nat) : Outcome State Answer → Outcome State Answer
  | .answer result state used => .answer result state (count + used)
  | .again state used => .again state (count + used)

@[simp] theorem delay_zero (outcome : Outcome State Answer) : outcome.delay 0 = outcome := by
  cases outcome <;> simp [delay]

end Outcome

/-- The outcome of a whole run. -/
structure Reading (State Answer : Type*) where
  answer : Answer
  state : State
  used : Nat

namespace Reading

variable {State Answer : Type*}

def delay (count : Nat) (reading : Reading State Answer) : Reading State Answer :=
  { reading with used := count + reading.used }

@[simp] theorem delay_answer (count : Nat) (reading : Reading State Answer) :
    (reading.delay count).answer = reading.answer := rfl

@[simp] theorem delay_state (count : Nat) (reading : Reading State Answer) :
    (reading.delay count).state = reading.state := rfl

@[simp] theorem delay_used (count : Nat) (reading : Reading State Answer) :
    (reading.delay count).used = count + reading.used := rfl

theorem delay_delay (outer inner : Nat) (reading : Reading State Answer) :
    (reading.delay inner).delay outer = reading.delay (outer + inner) := by
  simp [delay, Nat.add_assoc]

end Reading

/-- A resumable reader. `accepted` and `hungry` are the two answers a caller
goes on from; every other answer is a rejection. -/
structure Reader (Item State Answer : Type*) where
  step : State → List Item → Outcome State Answer
  size : State → List Item → Nat
  hungry : Answer
  accepted : Answer
  hungry_ne_accepted : hungry ≠ accepted
  again_used : ∀ {state items next used},
    step state items = .again next used → used ≤ items.length
  again_smaller : ∀ {state items next used},
    step state items = .again next used → size next (items.drop used) < size state items
  again_extends : ∀ {state items next used} (more : List Item),
    step state items = .again next used → step state (items ++ more) = .again next used
  hungry_used : ∀ {state items next used},
    step state items = .answer hungry next used → used ≤ items.length
  accepted_used : ∀ {state items next used},
    step state items = .answer accepted next used → used ≤ items.length
  accepted_extends : ∀ {state items next used} (more : List Item),
    step state items = .answer accepted next used →
      step state (items ++ more) = .answer accepted next used
  resumes : ∀ {state items next used} (more : List Item),
    step state items = .answer hungry next used →
      step state (items ++ more) = (step next (items.drop used ++ more)).delay used ∨
        ∃ result left right leftUsed rightUsed,
          result ≠ hungry ∧ result ≠ accepted ∧
            step state (items ++ more) = .answer result left leftUsed ∧
            step next (items.drop used ++ more) = .answer result right rightUsed

namespace Reader

variable {Item State Answer : Type*} (reader : Reader Item State Answer)

def runFuel : Nat → State → List Item → Reading State Answer
  | 0, state, _ => ⟨reader.hungry, state, 0⟩
  | fuel + 1, state, items =>
      match reader.step state items with
      | .answer result next used => ⟨result, next, used⟩
      | .again next used => (runFuel fuel next (items.drop used)).delay used

/-- A whole run. The fuel is enough for every run (`run_unfold`). -/
def run (state : State) (items : List Item) : Reading State Answer :=
  reader.runFuel (reader.size state items + 1) state items

theorem run_fuel_enough (fuel : Nat) (state : State) (items : List Item)
    (enough : reader.size state items < fuel) :
    reader.runFuel fuel state items = reader.run state items := by
  induction fuel using Nat.strongRecOn generalizing state items with
  | _ fuel ih =>
      obtain ⟨fuel, rfl⟩ : ∃ smaller, fuel = smaller + 1 := ⟨fuel - 1, by omega⟩
      unfold run runFuel
      cases looked : reader.step state items with
      | answer result next used => rfl
      | again next used =>
          have smaller := reader.again_smaller looked
          simp only
          rw [ih fuel (by omega) next (items.drop used) (by omega)]
          by_cases same : reader.size state items = fuel
          · rw [same, ih fuel (by omega) next (items.drop used) (by omega)]
          · rw [ih (reader.size state items) (by omega) next (items.drop used) smaller]

/-- The loop: look, and look again at what is left. -/
theorem run_unfold (state : State) (items : List Item) :
    reader.run state items =
      match reader.step state items with
      | .answer result next used => ⟨result, next, used⟩
      | .again next used => (reader.run next (items.drop used)).delay used := by
  conv_lhs => unfold run runFuel
  cases looked : reader.step state items with
  | answer result next used => rfl
  | again next used =>
      simp only
      rw [reader.run_fuel_enough _ _ _ (reader.again_smaller looked)]

theorem run_answer {state next : State} {items : List Item} {result : Answer} {used : Nat}
    (looked : reader.step state items = .answer result next used) :
    reader.run state items = ⟨result, next, used⟩ := by
  rw [run_unfold, looked]

theorem run_again {state next : State} {items : List Item} {used : Nat}
    (looked : reader.step state items = .again next used) :
    reader.run state items = (reader.run next (items.drop used)).delay used := by
  rw [run_unfold, looked]

/-- Induction along a run: a step may use the claim for the state it moves to. -/
theorem run_induction {motive : State → List Item → Prop}
    (advance : ∀ state items,
      (∀ next used, reader.step state items = .again next used →
        motive next (items.drop used)) → motive state items)
    (state : State) (items : List Item) : motive state items := by
  induction size : reader.size state items using Nat.strongRecOn
    generalizing state items with
  | _ bound ih =>
      apply advance
      intro next used looked
      exact ih _ (size ▸ reader.again_smaller looked) next _ rfl

theorem run_used_le (state : State) (items : List Item)
    (goesOn : (reader.run state items).answer = reader.hungry ∨
      (reader.run state items).answer = reader.accepted) :
    (reader.run state items).used ≤ items.length := by
  induction state, items using reader.run_induction with
  | _ state items ih =>
      cases looked : reader.step state items with
      | answer result next used =>
          rw [reader.run_answer looked] at goesOn ⊢
          rcases goesOn with rfl | rfl
          · exact reader.hungry_used looked
          · exact reader.accepted_used looked
      | again next used =>
          rw [reader.run_again looked] at goesOn ⊢
          have rest := ih next used looked goesOn
          have bound := reader.again_used looked
          simp only [List.length_drop] at rest
          simp only [Reading.delay_used]
          omega

theorem run_rest_le {bound : Nat}
    (rest : ∀ {state items next used}, reader.step state items = .answer reader.hungry next used →
      items.length ≤ used + bound)
    (state : State) (items : List Item)
    (suspended : (reader.run state items).answer = reader.hungry) :
    items.length ≤ (reader.run state items).used + bound := by
  induction state, items using reader.run_induction with
  | _ state items ih =>
      cases looked : reader.step state items with
      | answer result next used =>
          rw [reader.run_answer looked] at suspended ⊢
          simp only at suspended
          subst suspended
          exact rest looked
      | again next used =>
          rw [reader.run_again looked] at suspended ⊢
          have later := ih next used looked suspended
          simp only [List.length_drop] at later
          simp only [Reading.delay_used]
          omega

/-- Two readings a caller cannot tell apart: equal, or the same rejection. -/
def Agree (left right : Reading State Answer) : Prop :=
  left = right ∨
    (left.answer = right.answer ∧ left.answer ≠ reader.hungry ∧
      left.answer ≠ reader.accepted)

theorem Agree.answer_eq {left right : Reading State Answer}
    (agree : reader.Agree left right) : left.answer = right.answer := by
  rcases agree with same | ⟨same, -, -⟩
  · rw [same]
  · exact same

theorem Agree.eq_of_accepted {left right : Reading State Answer}
    (agree : reader.Agree left right) (accepts : right.answer = reader.accepted) :
    left = right := by
  rcases agree with same | ⟨same, -, rejected⟩
  · exact same
  · exact absurd (same.trans accepts) rejected

theorem Agree.delay {left right : Reading State Answer} (count : Nat)
    (agree : reader.Agree left right) :
    reader.Agree (left.delay count) (right.delay count) := by
  rcases agree with same | ⟨same, notHungry, notAccepted⟩
  · exact .inl (by rw [same])
  · exact .inr ⟨by simpa using same, by simpa using notHungry, by simpa using notAccepted⟩

theorem Agree.trans {left middle right : Reading State Answer}
    (first : reader.Agree left middle) (second : reader.Agree middle right) :
    reader.Agree left right := by
  rcases first with rfl | ⟨same, notHungry, notAccepted⟩
  · exact second
  · exact .inr ⟨same.trans (Agree.answer_eq reader second), notHungry, notAccepted⟩

/-- Resuming a suspended run on the grown input agrees with having had the
grown input from the start. -/
theorem run_resumes (state : State) (items more : List Item)
    (suspended : (reader.run state items).answer = reader.hungry) :
    reader.Agree (reader.run state (items ++ more))
      ((reader.run (reader.run state items).state
        (items.drop (reader.run state items).used ++ more)).delay
          (reader.run state items).used) := by
  induction state, items using reader.run_induction with
  | _ state items ih =>
      cases looked : reader.step state items with
      | answer result next used =>
          rw [reader.run_answer looked] at suspended ⊢
          simp only at suspended ⊢
          subst suspended
          rcases reader.resumes more looked with same |
            ⟨result, left, right, leftUsed, rightUsed, notHungry, notAccepted, onLeft, onRight⟩
          · left
            rw [reader.run_unfold, same]
            cases second : reader.step next (items.drop used ++ more) with
            | answer result final finalUsed =>
                rw [reader.run_answer second]
                rfl
            | again final finalUsed =>
                rw [reader.run_again second, Reading.delay_delay]
                simp only [Outcome.delay]
                have bound := reader.hungry_used looked
                have grown : (items ++ more).drop used = items.drop used ++ more :=
                  List.drop_append_of_le_length bound
                rw [← grown, List.drop_drop]
          · right
            rw [reader.run_answer onLeft, reader.run_answer onRight]
            exact ⟨rfl, notHungry, notAccepted⟩
      | again next used =>
          have bound := reader.again_used looked
          rw [reader.run_again looked] at suspended ⊢
          rw [reader.run_again (reader.again_extends more looked),
            List.drop_append_of_le_length bound]
          have rest := Agree.delay reader used (ih next used looked suspended)
          rw [Reading.delay_delay, List.drop_drop] at rest
          exact rest

/-- `state` with `unread` pending stands where a run over everything `fed` to
`start` would stand, whatever arrives next. -/
def CaughtUp (start : State) (fed : List Item) (state : State) (unread : List Item) : Prop :=
  ∃ used, used ≤ fed.length ∧ unread = fed.drop used ∧
    ∀ more, reader.Agree (reader.run start (fed ++ more))
      ((reader.run state (unread ++ more)).delay used)

theorem caught_up_start (start : State) : reader.CaughtUp start [] start [] :=
  ⟨0, by simp, by simp, fun more => .inl (by simp [Reading.delay])⟩

theorem caught_up_hungry {start state : State} {fed unread : List Item}
    (fragment : List Item) (caughtUp : reader.CaughtUp start fed state unread)
    (suspended : (reader.run state (unread ++ fragment)).answer = reader.hungry) :
    reader.CaughtUp start (fed ++ fragment) (reader.run state (unread ++ fragment)).state
      ((unread ++ fragment).drop (reader.run state (unread ++ fragment)).used) := by
  obtain ⟨used, bound, rfl, agree⟩ := caughtUp
  have within := reader.run_used_le _ _ (.inl suspended)
  have grown : fed.drop used ++ fragment = (fed ++ fragment).drop used :=
    (List.drop_append_of_le_length bound).symm
  refine ⟨used + (reader.run state (fed.drop used ++ fragment)).used, ?_, ?_, ?_⟩
  · simp only [List.length_append, List.length_drop] at within ⊢
    omega
  · rw [grown, List.drop_drop]
  · intro more
    have whole := agree (fragment ++ more)
    rw [← List.append_assoc, ← List.append_assoc] at whole
    have rest := Agree.delay reader used (reader.run_resumes state _ more suspended)
    rw [Reading.delay_delay] at rest
    exact Agree.trans reader whole rest

/-- The next answer is the one a single run over all fed items gives. -/
theorem caught_up_answer {start state : State} {fed unread : List Item}
    (fragment : List Item) (caughtUp : reader.CaughtUp start fed state unread) :
    (reader.run start (fed ++ fragment)).answer =
      (reader.run state (unread ++ fragment)).answer := by
  obtain ⟨used, -, -, agree⟩ := caughtUp
  simpa using Agree.answer_eq reader (agree fragment)

/-- On acceptance the two runs also agree on the state and on what is left. -/
theorem caught_up_accepted {start state : State} {fed unread : List Item}
    (fragment : List Item) (caughtUp : reader.CaughtUp start fed state unread)
    (accepts : (reader.run state (unread ++ fragment)).answer = reader.accepted) :
    (reader.run start (fed ++ fragment)).state =
        (reader.run state (unread ++ fragment)).state ∧
      (fed ++ fragment).drop (reader.run start (fed ++ fragment)).used =
        (unread ++ fragment).drop (reader.run state (unread ++ fragment)).used := by
  obtain ⟨used, bound, rfl, agree⟩ := caughtUp
  have same := Agree.eq_of_accepted reader (agree fragment) (by simpa using accepts)
  rw [same]
  refine ⟨rfl, ?_⟩
  have grown : fed.drop used ++ fragment = (fed ++ fragment).drop used :=
    (List.drop_append_of_le_length bound).symm
  rw [Reading.delay_used, grown, List.drop_drop]

end Reader

end Aorta.Library.Resume
