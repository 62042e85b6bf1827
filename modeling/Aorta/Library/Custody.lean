import Mathlib.Algebra.Order.Group.Multiset

/-!
# What is held in the places of a list

Every place of a list holds some items. Replacing one place exchanges what it held for
what it holds now, and moves nothing else.
-/

namespace Aorta.Library.Custody

set_option autoImplicit false

variable {Place Item : Type*} (items : Place → List Item)

theorem coe_map_snoc {Record : Type*} (item : Record → Item) (records : List Record)
    (record : Record) :
    (((records ++ [record]).map item : List Item) : Multiset Item) =
      (records.map item : List Item) + ({item record} : Multiset Item) := by
  rw [List.map_append, ← Multiset.coe_add, List.map_singleton, Multiset.coe_singleton]

def held (places : List Place) : Multiset Item := (places.flatMap items : List Item)

theorem held_cons (place : Place) (places : List Place) :
    held items (place :: places) = items place + held items places := by
  rw [held, List.flatMap_cons, ← Multiset.coe_add]
  rfl

theorem held_set {places : List Place} {index : Nat} {old : Place}
    (here : places[index]? = some old) (new : Place) :
    items old + held items (places.set index new) = items new + held items places := by
  induction places generalizing index with
  | nil => cases here
  | cons place places ih =>
      cases index with
      | zero =>
          cases here
          rw [List.set_cons_zero, held_cons, held_cons, add_left_comm]
      | succ index =>
          rw [List.set_cons_succ, held_cons, held_cons, add_left_comm, ih here, add_left_comm]

theorem held_set_same {places : List Place} {index : Nat} {old : Place}
    (here : places[index]? = some old) (new : Place) (same : items new = items old) :
    held items (places.set index new) = held items places := by
  have exchanged := held_set items here new
  rw [same] at exchanged
  exact add_left_cancel exchanged

theorem held_replicate (count : Nat) {place : Place} (empty : items place = []) :
    held items (List.replicate count place) = 0 := by
  induction count with
  | zero => rfl
  | succ count ih => rw [List.replicate_succ, held_cons, ih, empty, add_zero, Multiset.coe_nil]

theorem mem_held {places : List Place} {index : Nat} {place : Place}
    (here : places[index]? = some place) {item : Item} (member : item ∈ items place) :
    item ∈ held items places :=
  List.mem_flatMap.mpr ⟨place, List.mem_of_getElem? here, member⟩

theorem mem_set_of_ne {places : List Place} {index : Nat} {old other : Place}
    (here : places[index]? = some old) (member : other ∈ places) (differs : other ≠ old)
    (new : Place) : other ∈ places.set index new := by
  obtain ⟨position, at_position⟩ := List.mem_iff_getElem?.mp member
  have elsewhere : index ≠ position := by
    intro same
    rw [same, at_position] at here
    cases here
    exact differs rfl
  apply List.mem_iff_getElem?.mpr
  exact ⟨position, by rw [List.getElem?_set_ne elsewhere]; exact at_position⟩

theorem mem_set_self {places : List Place} {index : Nat} {old : Place}
    (here : places[index]? = some old) (new : Place) : new ∈ places.set index new := by
  obtain ⟨inside, -⟩ := List.getElem?_eq_some_iff.mp here
  exact List.mem_iff_getElem?.mpr ⟨index, List.getElem?_set_self inside⟩

end Aorta.Library.Custody
