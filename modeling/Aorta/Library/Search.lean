import Mathlib.Data.List.Infix
import Mathlib.Data.List.TakeDrop
import Mathlib.Data.Nat.Find
import Mathlib.Tactic.Common

/-!
# First occurrence of a pattern

`std::string::find` and `std::string::substr` on lists. The search is a plain
left-to-right recursion, so it runs in the kernel; everything else about it is
derived from the two characterisations `first_occurrence_eq_some` and
`first_occurrence_eq_none`.
-/

namespace Aorta.Library.Search

set_option autoImplicit false

variable {Item : Type*} [DecidableEq Item]

/-- Offset of the leftmost occurrence of `pattern`. -/
def firstOccurrence (pattern : List Item) : List Item → Option Nat
  | [] => if pattern = [] then some 0 else none
  | item :: rest =>
      if pattern.isPrefixOf (item :: rest) then some 0
      else (firstOccurrence pattern rest).map (· + 1)

/-- `text.find(pattern, start)`, with `none` for `npos`. -/
def find (text pattern : List Item) (start : Nat) : Option Nat :=
  if start ≤ text.length then
    (firstOccurrence pattern (text.drop start)).map (start + ·)
  else none

omit [DecidableEq Item] in
/-- `text.substr(start, count)`. -/
def substr (text : List Item) (start count : Nat) : List Item :=
  (text.drop start).take count

theorem first_occurrence_eq_some (pattern text : List Item) (offset : Nat) :
    firstOccurrence pattern text = some offset ↔
      offset ≤ text.length ∧ pattern <+: text.drop offset ∧
        ∀ earlier < offset, ¬pattern <+: text.drop earlier := by
  induction text generalizing offset with
  | nil =>
      by_cases blank : pattern = []
      · subst blank
        simp only [firstOccurrence, if_true, Option.some.injEq, List.length_nil]
        constructor
        · rintro rfl
          simp
        · rintro ⟨bound, -, -⟩
          omega
      · simp only [firstOccurrence, if_neg blank]
        constructor
        · intro absurdity
          cases absurdity
        · rintro ⟨-, occurs, -⟩
          simp [blank] at occurs
  | cons item rest ih =>
      by_cases here : pattern <+: item :: rest
      · simp only [firstOccurrence, List.isPrefixOf_iff_prefix, if_pos here,
          Option.some.injEq]
        constructor
        · rintro rfl
          simpa using here
        · rintro ⟨-, -, first⟩
          by_contra different
          exact first 0 (by omega) (by simpa using here)
      · simp only [firstOccurrence, List.isPrefixOf_iff_prefix, if_neg here]
        cases offset with
        | zero => simp [here]
        | succ offset =>
            have tail := ih offset
            simp only [Option.map_eq_some_iff, Nat.add_right_cancel_iff, exists_eq_right,
              List.length_cons, List.drop_succ_cons, Nat.add_le_add_iff_right]
            rw [tail]
            constructor
            · rintro ⟨bound, occurs, first⟩
              refine ⟨bound, occurs, ?_⟩
              intro earlier less
              cases earlier with
              | zero => simpa using here
              | succ earlier => simpa using first earlier (by omega)
            · rintro ⟨bound, occurs, first⟩
              refine ⟨bound, occurs, ?_⟩
              intro earlier less
              simpa using first (earlier + 1) (by omega)

theorem first_occurrence_eq_none (pattern text : List Item) :
    firstOccurrence pattern text = none ↔
      ∀ offset ≤ text.length, ¬pattern <+: text.drop offset := by
  constructor
  · intro missing offset bound occurs
    -- the least occurrence would be the answer of the search
    have someOffset : ∃ n, n ≤ text.length ∧ pattern <+: text.drop n :=
      ⟨offset, bound, occurs⟩
    classical
    have least := Nat.find_spec someOffset
    have found := (first_occurrence_eq_some pattern text (Nat.find someOffset)).mpr
      ⟨least.1, least.2, fun earlier less here =>
        Nat.find_min someOffset less ⟨by omega, here⟩⟩
    rw [missing] at found
    cases found
  · intro nowhere
    cases result : firstOccurrence pattern text with
    | none => rfl
    | some offset =>
        have found := (first_occurrence_eq_some pattern text offset).mp result
        exact absurd found.2.1 (nowhere offset found.1)

/-- A pattern that is not found is nowhere in the text. -/
theorem first_occurrence_none_not_infix {pattern text : List Item}
    (missing : firstOccurrence pattern text = none) : ¬ pattern <:+: text := by
  rintro ⟨before, behind, rfl⟩
  apply (first_occurrence_eq_none _ _).mp missing before.length (by simp)
  rw [List.append_assoc, List.drop_left]
  exact List.prefix_append _ _

/-- An occurrence stays the first one when the text grows at its end. -/
theorem first_occurrence_append {pattern text : List Item} {offset : Nat}
    (more : List Item) (found : firstOccurrence pattern text = some offset) :
    firstOccurrence pattern (text ++ more) = some offset := by
  rw [first_occurrence_eq_some] at found ⊢
  obtain ⟨bound, occurs, first⟩ := found
  have room : offset + pattern.length ≤ text.length := by
    have := occurs.length_le
    simp only [List.length_drop] at this
    omega
  refine ⟨by simp only [List.length_append]; omega, ?_, ?_⟩
  · rw [List.drop_append_of_le_length bound]
    exact occurs.trans (List.prefix_append _ _)
  · intro earlier less here
    apply first earlier less
    rw [List.drop_append_of_le_length (by omega)] at here
    exact List.prefix_of_prefix_length_le here (List.prefix_append _ _)
      (by simp only [List.length_drop]; omega)

theorem first_occurrence_le {pattern text : List Item} {offset : Nat}
    (found : firstOccurrence pattern text = some offset) :
    offset + pattern.length ≤ text.length := by
  obtain ⟨bound, occurs, -⟩ := (first_occurrence_eq_some _ _ _).mp found
  have := occurs.length_le
  simp only [List.length_drop] at this
  omega

/-- The text before the first occurrence, and what follows it. -/
theorem first_occurrence_split {pattern text : List Item} {offset : Nat}
    (nonempty : pattern ≠ []) (found : firstOccurrence pattern text = some offset) :
    ∃ rest, text = text.take offset ++ pattern ++ rest ∧
      firstOccurrence pattern (text.take offset) = none := by
  obtain ⟨bound, ⟨rest, tail⟩, first⟩ := (first_occurrence_eq_some _ _ _).mp found
  refine ⟨rest, ?_, ?_⟩
  · rw [List.append_assoc, tail, List.take_append_drop]
  · rw [first_occurrence_eq_none]
    intro earlier inside here
    have short := here.length_le
    simp only [List.length_take, List.length_drop] at short inside
    have positive : 0 < pattern.length := List.length_pos_iff.mpr nonempty
    apply first earlier (by omega)
    rw [List.drop_take] at here
    exact here.trans (List.take_prefix _ _)

/-- A two-item delimiter with distinct items cannot overlap the line before it. -/
theorem first_occurrence_delimiter {left right : Item} (distinct : left ≠ right)
    {line : List Item} (rest : List Item)
    (free : firstOccurrence [left, right] line = none) :
    firstOccurrence [left, right] (line ++ [left, right] ++ rest) = some line.length := by
  rw [first_occurrence_eq_none] at free
  rw [first_occurrence_eq_some]
  refine ⟨by simp, by simp, ?_⟩
  intro earlier less here
  rw [List.append_assoc, List.drop_append_of_le_length (by omega)] at here
  by_cases inside : earlier + 2 ≤ line.length
  · apply free earlier (by omega)
    exact List.prefix_of_prefix_length_le here (List.prefix_append _ _)
      (by simp only [List.length_drop, List.length_cons, List.length_nil]; omega)
  · -- the straddling position would need `left = right`
    have last : earlier + 1 = line.length := by omega
    have single : (line.drop earlier).length = 1 := by simp only [List.length_drop]; omega
    obtain ⟨item, isItem⟩ := List.length_eq_one_iff.mp single
    rw [isItem] at here
    simp only [List.cons_append, List.nil_append, List.cons_prefix_cons] at here
    exact distinct here.2.1.symm

theorem first_occurrence_item_eq_none (item : Item) (text : List Item) :
    firstOccurrence [item] text = none ↔ item ∉ text := by
  induction text with
  | nil => simp [firstOccurrence]
  | cons head rest ih =>
      by_cases same : item = head
      · simp [firstOccurrence, same]
      · simp [firstOccurrence, same, ih]

theorem first_occurrence_item {item : Item} {before : List Item} (rest : List Item)
    (absent : item ∉ before) :
    firstOccurrence [item] (before ++ item :: rest) = some before.length := by
  induction before with
  | nil => simp [firstOccurrence]
  | cons head before ih =>
      simp only [List.mem_cons, not_or] at absent
      simp [firstOccurrence, absent.1, ih absent.2]

theorem first_occurrence_item_takeWhile (item : Item) (text rest : List Item) :
    firstOccurrence [item] (text ++ item :: rest) =
      some (text.takeWhile (· ≠ item)).length := by
  induction text with
  | nil => simp [firstOccurrence]
  | cons head text ih =>
      by_cases same : head = item
      · subst same
        simp [firstOccurrence]
      · simp [firstOccurrence, same, Ne.symm same, ih]

omit [DecidableEq Item] in
/-- A pattern without the item lies before it. -/
theorem prefix_before_item {pattern before rest : List Item} {item : Item}
    (absent : item ∉ pattern) (occurs : pattern <+: before ++ item :: rest) :
    pattern <+: before := by
  induction before generalizing pattern with
  | nil =>
      cases pattern with
      | nil => exact List.nil_prefix
      | cons head pattern =>
          obtain ⟨same, _⟩ := List.cons_prefix_cons.mp occurs
          exact absurd (same ▸ List.mem_cons_self) absent
  | cons head before ih =>
      cases pattern with
      | nil => exact List.nil_prefix
      | cons first pattern =>
          obtain ⟨same, later⟩ := List.cons_prefix_cons.mp occurs
          have inTail := ih (fun member => absent (List.mem_cons_of_mem first member)) later
          exact List.cons_prefix_cons.mpr ⟨same, inTail⟩

theorem first_occurrence_item_split {item : Item} {text : List Item} {offset : Nat}
    (found : firstOccurrence [item] text = some offset) :
    ∃ before rest, text = before ++ item :: rest ∧ before.length = offset ∧
      item ∉ before := by
  obtain ⟨rest, split, free⟩ := first_occurrence_split (by simp) found
  have bound := first_occurrence_le found
  refine ⟨text.take offset, rest, by simpa using split, ?_, ?_⟩
  · simp only [List.length_cons, List.length_nil] at bound
    simp only [List.length_take]
    omega
  · exact (first_occurrence_item_eq_none _ _).mp free

@[simp] theorem find_zero (text pattern : List Item) :
    find text pattern 0 = firstOccurrence pattern text := by
  simp [find]

/-- Only the text from `start` on is searched. -/
theorem find_drop {text pattern : List Item} {start : Nat} (inside : start ≤ text.length) :
    find text pattern start = (find (text.drop start) pattern 0).map (start + ·) := by
  simp [find, inside]

/-- The search behind an item goes on in what follows it. -/
theorem find_after (before rest pattern : List Item) (item : Item) :
    find (before ++ item :: rest) pattern (before.length + 1) =
      (firstOccurrence pattern rest).map (before.length + 1 + ·) := by
  have behind : (before ++ item :: rest).drop (before.length + 1) = rest := by
    rw [← List.drop_drop, List.drop_left, List.drop_succ_cons, List.drop_zero]
  unfold find
  rw [if_pos (by simp), behind]

omit [DecidableEq Item] in
@[simp] theorem substr_zero (text : List Item) (count : Nat) :
    substr text 0 count = text.take count := by
  simp [substr]

omit [DecidableEq Item] in
theorem substr_drop (text : List Item) (start count : Nat) :
    substr text start count = substr (text.drop start) 0 count := by
  simp [substr]

end Aorta.Library.Search
