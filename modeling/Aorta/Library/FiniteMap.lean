import Mathlib.Data.List.AList
import Mathlib.Logic.Function.Basic

/-!
# Finite maps

A finite map as the function that looks its keys up, and how many of its values meet
a condition; how `insert` and `erase` change both.
-/

namespace Aorta.Library.FiniteMap

set_option autoImplicit false

variable {Key Value : Type*} [DecidableEq Key]

def find (table : AList fun _ : Key => Value) (key : Key) : Option Value := table.lookup key

theorem find_insert (table : AList fun _ : Key => Value) (key : Key) (value : Value) :
    find (table.insert key value) = Function.update (find table) key (some value) := by
  funext other
  unfold find
  by_cases same : other = key
  · subst same
    rw [AList.lookup_insert, Function.update_self]
  · rw [AList.lookup_insert_ne same, Function.update_of_ne same]

theorem find_erase (table : AList fun _ : Key => Value) (key : Key) :
    find (table.erase key) = Function.update (find table) key none := by
  funext other
  unfold find
  by_cases same : other = key
  · subst same
    rw [AList.lookup_erase, Function.update_self]
  · rw [AList.lookup_erase_ne same, Function.update_of_ne same]

def count (condition : Value → Bool) (table : AList fun _ : Key => Value) : Nat :=
  table.entries.countP fun entry => condition entry.2

variable (condition : Value → Bool) {table : AList fun _ : Key => Value} {key : Key}

theorem count_insert (table : AList fun _ : Key => Value) (key : Key) (value : Value) :
    count condition (table.insert key value) =
      count condition (table.erase key) + if condition value then 1 else 0 := by
  unfold count
  have entries : (table.insert key value).entries = ⟨key, value⟩ :: (table.erase key).entries :=
    rfl
  rw [entries, List.countP_cons]

theorem count_erase_missing (missing : table.lookup key = none) :
    count condition (table.erase key) = count condition table := by
  have absent : key ∉ table.keys := AList.lookup_eq_none.mp missing
  unfold count
  have entries : (table.erase key).entries = table.entries := List.kerase_of_notMem_keys absent
  rw [entries]

theorem count_erase_found {value : Value} (found : table.lookup key = some value) :
    count condition table =
      count condition (table.erase key) + if condition value then 1 else 0 := by
  have present : key ∈ table.entries.keys := by
    rw [← List.dlookup_isSome]
    exact Option.isSome_iff_exists.mpr ⟨value, found⟩
  obtain ⟨stored, front, back, absent, whole, erased⟩ := List.exists_of_kerase present
  have same : stored = value := by
    have looked : table.entries.dlookup key = some value := found
    rw [whole, List.dlookup_append, List.dlookup_eq_none.mpr absent, Option.none_or,
      List.dlookup_cons_eq] at looked
    exact Option.some.inj looked
  have entries : (table.erase key).entries = front ++ back := erased
  unfold count
  rw [entries, whole, List.countP_append, List.countP_append, List.countP_cons, same,
    ← Nat.add_assoc]

omit [DecidableEq Key] in
theorem count_eq_zero (none : ∀ entry ∈ table.entries, condition entry.2 = false) :
    count condition table = 0 := by
  unfold count
  rw [List.countP_eq_zero]
  intro entry member
  rw [none entry member]
  exact Bool.false_ne_true

theorem count_replace {old new : Value} (found : table.lookup key = some old)
    (same : condition new = condition old) :
    count condition (table.insert key new) = count condition table := by
  rw [count_insert, count_erase_found condition found, same]

theorem count_add (missing : table.lookup key = none) (value : Value) :
    count condition (table.insert key value) =
      count condition table + if condition value then 1 else 0 := by
  rw [count_insert, count_erase_missing condition missing]

end Aorta.Library.FiniteMap
