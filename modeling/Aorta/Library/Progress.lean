import Aorta.Library.Run

/-!
# Fair rounds

Steps are taken in turns. A round is fair when every turn is taken in it, in any order and
among any other steps. Where some turn can always bring the end nearer, and stays able to
until it does, each fair round brings the end nearer.
-/

namespace Aorta.Library.Progress

open Aorta.Library.Run

set_option autoImplicit false

section Weights

variable {Place : Type*} (weight : Place → Nat)

def weigh (places : List Place) : Nat :=
  places.foldr (fun place total => weight place + total) 0

@[simp] theorem weigh_nil : weigh weight [] = 0 := rfl

theorem weigh_cons (place : Place) (places : List Place) :
    weigh weight (place :: places) = weight place + weigh weight places :=
  rfl

theorem weigh_set {places : List Place} {index : Nat} {old : Place}
    (here : places[index]? = some old) (new : Place) :
    weight old + weigh weight (places.set index new) = weight new + weigh weight places := by
  induction places generalizing index with
  | nil => cases here
  | cons place places ih =>
      cases index with
      | zero =>
          cases here
          rw [List.set_cons_zero, weigh_cons, weigh_cons]
          omega
      | succ index =>
          have rest := ih here
          rw [List.set_cons_succ, weigh_cons, weigh_cons]
          omega

theorem weigh_le {most : Nat} (bound : ∀ place, weight place ≤ most) (places : List Place) :
    weigh weight places ≤ most * places.length := by
  induction places with
  | nil => exact Nat.zero_le _
  | cons place places ih =>
      have first := bound place
      rw [weigh_cons, List.length_cons, Nat.mul_succ]
      omega

theorem countP_eq_weigh (counts : Place → Bool) (places : List Place) :
    places.countP counts = weigh (fun place => (counts place).toNat) places := by
  induction places with
  | nil => rfl
  | cons place places ih =>
      rw [List.countP_cons, weigh_cons, ih, Nat.add_comm]
      cases counts place with
      | false => rfl
      | true => rfl

theorem weigh_map_le (change : Place → Place)
    (lighter : ∀ place, weight (change place) ≤ weight place) (places : List Place) :
    weigh weight (places.map change) ≤ weigh weight places := by
  induction places with
  | nil => exact Nat.le_refl _
  | cons place places ih =>
      have first := lighter place
      rw [List.map_cons, weigh_cons, weigh_cons]
      omega

end Weights

section Pairs

variable {Left Right : Type*}

theorem zip_set (left : List Left) (right : List Right) (index : Nat) (first : Left)
    (second : Right) :
    (left.set index first).zip (right.set index second) =
      (left.zip right).set index (first, second) := by
  induction left generalizing right index with
  | nil => rfl
  | cons head left ih =>
      cases right with
      | nil => rw [List.set_nil, List.zip_nil_right, List.zip_nil_right, List.set_nil]
      | cons other right =>
          cases index with
          | zero => rfl
          | succ index => exact congrArg (List.cons _) (ih right index)

theorem set_same {Place : Type*} {places : List Place} {index : Nat} {place : Place}
    (here : places[index]? = some place) : places.set index place = places := by
  obtain ⟨inside, same⟩ := List.getElem?_eq_some_iff.mp here
  rw [← same, List.set_getElem_self]

theorem weigh_zip_set (weight : Left × Right → Nat) {left : List Left} {right : List Right}
    {index : Nat} {old : Left} {other : Right} (here : left[index]? = some old)
    (beside : right[index]? = some other) (new : Left) (next : Right) :
    weight (old, other) + weigh weight ((left.set index new).zip (right.set index next)) =
      weight (new, next) + weigh weight (left.zip right) := by
  have pair : (left.zip right)[index]? = some (old, other) :=
    List.getElem?_zip_eq_some.mpr ⟨here, beside⟩
  rw [zip_set, weigh_set weight pair]

end Pairs

section Rounds

variable {State Input Turn : Type*} (step : State → Input → State)

/-- Every turn of the round is taken. -/
def Fair (turns : Turn → Prop) (takes : Input → Turn → Prop) (round : List Input) : Prop :=
  ∀ turn, turns turn → ∃ input ∈ round, takes input turn

/-- What lets fair rounds end: how far the end is, and which turns bring it nearer. -/
structure Advances (invariant : State → Prop) (distance : State → Nat)
    (enabled : State → Turn → Prop) (takes : Input → Turn → Prop) (turns : Turn → Prop) :
    Prop where
  keeps : ∀ state input, invariant state → invariant (step state input)
  never_farther : ∀ state input, invariant state → distance (step state input) ≤ distance state
  some_enabled : ∀ state, invariant state → 0 < distance state →
    ∃ turn, turns turn ∧ enabled state turn
  nearer : ∀ state input turn, invariant state → enabled state turn → takes input turn →
    0 < distance state → distance (step state input) < distance state
  stays : ∀ state input turn, invariant state → enabled state turn → 0 < distance state →
    distance (step state input) < distance state ∨ enabled (step state input) turn

variable {step}
variable {invariant : State → Prop} {distance : State → Nat} {enabled : State → Turn → Prop}
  {takes : Input → Turn → Prop} {turns : Turn → Prop}
  (advances : Advances step invariant distance enabled takes turns)

include advances

theorem Advances.run_never_farther (inputs : List Input) {start : State}
    (holds : invariant start) : distance (run step start inputs) ≤ distance start := by
  induction inputs generalizing start with
  | nil => exact Nat.le_refl _
  | cons input inputs ih =>
      have rest := ih (advances.keeps start input holds)
      have first := advances.never_farther start input holds
      rw [run_cons]
      exact Nat.le_trans rest first

theorem Advances.run_nearer {turn : Turn} (inputs : List Input) {start : State}
    (holds : invariant start) (able : enabled start turn) (far : 0 < distance start)
    (taken : ∃ input ∈ inputs, takes input turn) :
    distance (run step start inputs) < distance start := by
  induction inputs generalizing start with
  | nil =>
      obtain ⟨input, member, -⟩ := taken
      cases member
  | cons input inputs ih =>
      have kept := advances.keeps start input holds
      have rest := advances.run_never_farther inputs kept
      have first := advances.never_farther start input holds
      rw [run_cons]
      rcases advances.stays start input turn holds able far with near | still
      · exact Nat.lt_of_le_of_lt rest near
      · obtain ⟨other, member, takes_turn⟩ := taken
        rcases List.mem_cons.mp member with same | later
        · subst same
          have near := advances.nearer start other turn holds able takes_turn far
          exact Nat.lt_of_le_of_lt rest near
        · rcases Nat.eq_zero_or_pos (distance (step start input)) with done | more
          · omega
          · exact Nat.lt_of_lt_of_le (ih kept still more ⟨other, later, takes_turn⟩) first

theorem Advances.round_nearer {round : List Input} (fair : Fair turns takes round)
    {start : State} (holds : invariant start) (far : 0 < distance start) :
    distance (run step start round) < distance start := by
  obtain ⟨turn, belongs, able⟩ := advances.some_enabled start holds far
  exact advances.run_nearer round holds able far (fair turn belongs)

/-- As many fair rounds as the end is far away reach it. -/
theorem Advances.rounds_end (rounds : List (List Input))
    (fair : ∀ round ∈ rounds, Fair turns takes round) {start : State} (holds : invariant start)
    (enough : distance start ≤ rounds.length) :
    distance (run step start rounds.flatten) = 0 := by
  induction rounds generalizing start with
  | nil => exact Nat.le_zero.mp enough
  | cons round rounds ih =>
      obtain ⟨first, rest⟩ := List.forall_mem_cons.mp fair
      have kept := run_invariant step advances.keeps holds round
      rw [List.flatten_cons, run_append]
      apply ih rest kept
      rw [List.length_cons] at enough
      have farther := advances.run_never_farther round holds
      rcases Nat.eq_zero_or_pos (distance start) with done | far
      · omega
      · have near := advances.round_nearer first holds far
        omega

end Rounds

end Aorta.Library.Progress
