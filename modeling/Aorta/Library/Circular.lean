import Mathlib.Data.Int.CardIntervalMod
import Mathlib.Data.List.Rotate
import Mathlib.Tactic.Common

/-!
# Going round a circle

An iterator that starts anywhere in a list and begins again at its end comes past
the rotated list. A cursor that goes round the numbers below `size` and stops behind
every number it accepts takes the accepted ones in turn: what it takes next is told by
how many of them it has come past, so in any number of steps each is taken equally
often, but for one.
-/

namespace Aorta.Library.Circular

set_option autoImplicit false

section Iterator

variable {Item : Type*} (accepts : Item → Bool) (items : List Item)

/-- The iterator is incremented; at the end it is set to the beginning. -/
def advance (position : Nat) : Nat := if position + 1 = items.length then 0 else position + 1

/-- The loop `do { ... } while(iterator != start)`, left at the first accepted item. -/
def loop (start : Nat) : Nat → Nat → Option Item
  | 0, _ => none
  | fuel + 1, position =>
      match items[position]? with
      | none => none
      | some item =>
          if accepts item then some item
          else if advance items position = start then none
          else loop start fuel (advance items position)

variable {items}

theorem advance_eq {position : Nat} (inside : position < items.length) :
    advance items position = (position + 1) % items.length := by
  unfold advance
  split_ifs with last
  · rw [last, Nat.mod_self]
  · rw [Nat.mod_eq_of_lt (by omega)]

theorem mod_returns_iff {size steps : Nat} (position : Nat) (below : steps < size) :
    (position + steps) % size = position % size ↔ steps = 0 := by
  constructor
  · intro same
    have zero : steps % size = 0 % size := Nat.ModEq.add_left_cancel' position same
    rwa [Nat.mod_eq_of_lt below, Nat.zero_mod] at zero
  · intro zero
    rw [zero, Nat.add_zero]

theorem rotate_take_succ {position : Nat} (inside : position < items.length) {steps : Nat}
    (below : steps < items.length) :
    (items.rotate position).take (steps + 1) =
      items[position] :: (items.rotate (position + 1)).take steps := by
  apply List.ext_getElem?
  intro index
  cases index with
  | zero =>
      rw [List.getElem?_take_of_lt (Nat.succ_pos steps),
        List.getElem?_rotate (Nat.zero_lt_of_lt inside), Nat.zero_add, Nat.mod_eq_of_lt inside,
        List.getElem?_eq_getElem inside]
      rfl
  | succ index =>
      rw [List.getElem?_cons_succ]
      by_cases within : index < steps
      · rw [List.getElem?_take_of_lt (Nat.succ_lt_succ within), List.getElem?_take_of_lt within,
          List.getElem?_rotate (by omega), List.getElem?_rotate (by omega),
          Nat.succ_add_eq_add_succ]
      · rw [List.getElem?_take_eq_none (by omega), List.getElem?_take_eq_none (by omega)]

theorem loop_eq_find {start fuel steps position : Nat} (inside : position < items.length)
    (bound : steps < items.length) (enough : steps < fuel)
    (ends : (position + 1 + steps) % items.length = start) :
    loop accepts items start fuel position =
      ((items.rotate position).take (steps + 1)).find? accepts := by
  induction fuel generalizing steps position with
  | zero => cases enough
  | succ fuel ih =>
      rw [rotate_take_succ inside bound, List.find?_cons]
      unfold loop
      rw [List.getElem?_eq_getElem inside]
      cases accepted : accepts items[position] with
      | true => simp [accepted]
      | false =>
          simp only [accepted, Bool.false_eq_true, if_false, advance_eq inside]
          cases steps with
          | zero =>
              rw [if_pos ends, List.take_zero, List.find?_nil]
          | succ steps =>
              have onward : (position + 1) % items.length ≠ start := by
                intro same
                have returns := (mod_returns_iff (position + 1) bound).mp (ends.trans same.symm)
                cases returns
              have next : (position + 1) % items.length < items.length :=
                Nat.mod_lt _ (Nat.zero_lt_of_lt inside)
              have rest : ((position + 1) % items.length + 1 + steps) % items.length = start := by
                rw [← ends, Nat.add_assoc, Nat.mod_add_mod, Nat.add_comm 1 steps]
              rw [if_neg onward, ih next (by omega) (by omega) rest, List.rotate_mod]

/-- From wherever it starts, the loop comes past the whole list. -/
theorem loop_finds {start : Nat} (inside : start < items.length) :
    loop accepts items start items.length start = (items.rotate start).find? accepts := by
  have whole : items.length - 1 + 1 = items.length := Nat.sub_add_cancel (by omega)
  have ends : (start + 1 + (items.length - 1)) % items.length = start := by
    rw [Nat.add_assoc, Nat.add_comm 1, whole, Nat.add_mod_right, Nat.mod_eq_of_lt inside]
  rw [loop_eq_find accepts inside (by omega) (by omega) ends, whole,
    List.take_of_length_le (by rw [List.length_rotate])]

/-- An item is accepted that is not kept, or the others alone are what counts. -/
theorem find_keeps (keeps : Item → Bool) (items : List Item) :
    (∃ item, items.find? accepts = some item ∧ keeps item = false) ∨
      items.find? (fun item => keeps item && accepts item) = items.find? accepts := by
  induction items with
  | nil => exact .inr rfl
  | cons item items ih =>
      rw [List.find?_cons, List.find?_cons]
      cases accepted : accepts item with
      | true =>
          cases kept : keeps item with
          | true => exact .inr rfl
          | false => exact .inl ⟨item, rfl, kept⟩
      | false =>
          rw [Bool.and_false]
          exact ih

/-- Where the accepted items are in front, the first refused one parts the list. -/
theorem while_eq_filter
    (front : items.Pairwise fun first second => accepts second = true → accepts first = true) :
    items.takeWhile accepts = items.filter accepts ∧
      items.dropWhile accepts = items.filter fun item => !accepts item := by
  induction items with
  | nil => exact ⟨rfl, rfl⟩
  | cons item items ih =>
      obtain ⟨later, rest⟩ := List.pairwise_cons.mp front
      obtain ⟨taken, dropped⟩ := ih rest
      cases accepted : accepts item with
      | true => simp [accepted, taken, dropped]
      | false =>
          have none : items.filter accepts = [] := by
            apply List.filter_eq_nil_iff.mpr
            intro other member found
            rw [later other member found] at accepted
            cases accepted
          have all : (items.filter fun item => !accepts item) = items := by
            apply List.filter_eq_self.mpr
            intro other member
            simpa using List.filter_eq_nil_iff.mp none other member
          simp [accepted, none, all]

end Iterator

section Cursor

variable (accepts : Nat → Bool) (size : Nat)

/-- How many accepted numbers a cursor has come past that has gone `steps` steps from
zero, round and round. -/
def passed (steps : Nat) : Nat := Nat.count (fun step => accepts (step % size)) steps

variable {accepts size}

theorem passed_succ (steps : Nat) :
    passed accepts size (steps + 1) =
      passed accepts size steps + if accepts (steps % size) then 1 else 0 :=
  Nat.count_succ _ steps

theorem passed_add_size (steps : Nat) :
    passed accepts size (steps + size) = passed accepts size steps + passed accepts size size := by
  unfold passed
  rw [Nat.count_add', Nat.add_comm]
  simp only [Nat.add_mod_right]
  rw [Nat.add_comm]

/-- The numbers come round again: whole rounds do not matter. -/
theorem passed_mod (steps : Nat) :
    passed accepts size (steps % size) ≡ passed accepts size steps
      [MOD passed accepts size size] := by
  induction steps using Nat.strong_induction_on with
  | _ steps ih =>
      by_cases below : steps < size
      · rw [Nat.mod_eq_of_lt below]
      · by_cases empty : size = 0
        · rw [empty, Nat.mod_zero]
        · have back : steps - size + size = steps := Nat.sub_add_cancel (Nat.not_lt.mp below)
          have earlier := ih (steps - size) (by omega)
          rw [← back, Nat.add_mod_right, passed_add_size]
          exact earlier.trans (Nat.ModEq.add_right_cancel' 0 (by simp [Nat.ModEq]))

/-- Two accepted numbers are the same if and only if a cursor has come past equally many
accepted ones before them, but for whole rounds. -/
theorem passed_modEq_iff {first second : Nat} (filled : 0 < size)
    (firstAccepted : accepts (first % size) = true)
    (secondAccepted : accepts (second % size) = true) :
    passed accepts size first ≡ passed accepts size second [MOD passed accepts size size] ↔
      first % size = second % size := by
  have below : ∀ {steps : Nat}, accepts (steps % size) = true →
      passed accepts size (steps % size) < passed accepts size size := by
    intro steps accepted
    apply Nat.count_strict_mono _ (Nat.mod_lt steps filled)
    rwa [Nat.mod_mod]
  constructor
  · intro congruent
    have reduced := ((passed_mod first).trans congruent).trans (passed_mod second).symm
    have same := Nat.ModEq.eq_of_lt_of_lt reduced (below firstAccepted) (below secondAccepted)
    apply Nat.count_injective _ _ same
    · rwa [Nat.mod_mod]
    · rwa [Nat.mod_mod]
  · intro same
    have equal : passed accepts size (second % size) ≡ passed accepts size second
        [MOD passed accepts size size] := passed_mod second
    rw [← same] at equal
    exact (passed_mod first).symm.trans equal

end Cursor

/-- Of `total` consecutive numbers, as many are congruent to a given one as are to any
other, but for one. -/
theorem even_share {parts : Nat} (filled : 0 < parts) (start sought total : Nat) :
    Nat.count (fun step => start + step ≡ sought [MOD parts]) total = total / parts ∨
      Nat.count (fun step => start + step ≡ sought [MOD parts]) total =
        (total + parts - 1) / parts := by
  have shifted : ∀ step, start + step ≡ sought [MOD parts] ↔
      step ≡ sought + (parts - start % parts) [MOD parts] := by
    intro step
    have small : start % parts < parts := Nat.mod_lt start filled
    have whole : start + (sought + (parts - start % parts)) =
        sought + parts * (start / parts + 1) := by
      have division := Nat.div_add_mod start parts
      rw [Nat.mul_succ]
      omega
    have target : start + (sought + (parts - start % parts)) ≡ sought [MOD parts] := by
      unfold Nat.ModEq
      rw [whole, Nat.add_mul_mod_self_left]
    constructor
    · intro congruent
      exact Nat.ModEq.add_left_cancel' start (congruent.trans target.symm)
    · intro congruent
      exact (Nat.ModEq.add_left start congruent).trans target
  simp only [shifted, Nat.count_modEq_card _ filled]
  split_ifs with more
  · right
    have division := Nat.div_add_mod total parts
    have rest : total + parts - 1 = total % parts - 1 + parts * (total / parts + 1) := by
      rw [Nat.mul_succ]
      omega
    have small : total % parts - 1 < parts := by
      have bound := Nat.mod_lt total filled
      omega
    rw [rest, Nat.add_mul_div_left _ _ filled, Nat.div_eq_of_lt small, Nat.zero_add]
  · exact .inl (Nat.add_zero _)

end Aorta.Library.Circular
