import Mathlib.Data.List.Infix
import Mathlib.Tactic.Common

/-!
# Lexical normalisation of paths

A path is a list of components between separators. The empty component and the dot
name the directory they are in, and two dots name the one above it. Nothing is
looked up, so symbolic links do not exist here.
-/

namespace Aorta.Library.Path

set_option autoImplicit false

variable {Item : Type*} [DecidableEq Item] (separator dot : Item)

def components (path : List Item) : List (List Item) := path.splitOn separator

/-- The component leads into a directory or to a file of its own name. -/
def isName (component : List Item) : Bool := !component.isEmpty && component != [dot]

/-- The normal form of a path with one component more. -/
def enter (normal : List (List Item)) (component : List Item) : List (List Item) :=
  if !isName dot component then normal
  else if component = [dot, dot] then
    if normal = [] ∨ normal.getLast? = some [dot, dot] then normal ++ [component]
    else normal.dropLast
  else normal ++ [component]

def normalise (path : List Item) : List (List Item) :=
  (components separator path).foldl (enter dot) []

/-- The path leads to something in the directory or deeper. -/
def StrictlyBelow (directory path : List Item) : Prop :=
  ∃ below, below ≠ [] ∧
    normalise separator dot path = normalise separator dot directory ++ below

instance (directory path : List Item) : Decidable (StrictlyBelow separator dot directory path) :=
  decidable_of_iff (normalise separator dot directory <+: normalise separator dot path ∧
      normalise separator dot path ≠ normalise separator dot directory) <| by
    unfold StrictlyBelow
    constructor
    · rintro ⟨⟨below, same⟩, differs⟩
      refine ⟨below, ?_, same.symm⟩
      rintro rfl
      exact differs (by rw [← same, List.append_nil])
    · rintro ⟨below, some, same⟩
      refine ⟨⟨below, same.symm⟩, ?_⟩
      intro equal
      rw [equal, List.self_eq_append_right] at same
      exact some same

variable {separator dot}

theorem enter_names {names : List (List Item)} (noUp : [dot, dot] ∉ names)
    (normal : List (List Item)) :
    names.foldl (enter dot) normal = normal ++ names.filter (isName dot) := by
  induction names generalizing normal with
  | nil => simp
  | cons component rest ih =>
      rw [List.mem_cons, not_or] at noUp
      rw [List.foldl_cons, ih noUp.2]
      unfold enter
      cases named : isName dot component with
      | false => simp [named]
      | true => simp [named, Ne.symm noUp.1]

theorem components_join (directory path : List Item) :
    components separator (directory ++ separator :: path) =
      components separator directory ++ components separator path :=
  List.splitOn_append_cons_self directory path

/-- What is joined to a directory lies below it if it has a name in it. -/
theorem joined_below_iff {directory path : List Item}
    (noUp : [dot, dot] ∉ components separator path) :
    StrictlyBelow separator dot directory (directory ++ separator :: path) ↔
      ∃ component ∈ components separator path, isName dot component = true := by
  have normal : normalise separator dot (directory ++ separator :: path) =
      normalise separator dot directory ++
        (components separator path).filter (isName dot) := by
    unfold normalise
    rw [components_join, List.foldl_append, enter_names noUp]
  unfold StrictlyBelow
  rw [normal]
  constructor
  · rintro ⟨below, some, same⟩
    rw [List.append_cancel_left_eq] at same
    obtain ⟨component, member⟩ := List.exists_mem_of_ne_nil below some
    rw [← same, List.mem_filter] at member
    exact ⟨component, member⟩
  · rintro ⟨component, member, named⟩
    refine ⟨_, ?_, rfl⟩
    exact List.ne_nil_of_mem (List.mem_filter.mpr ⟨member, named⟩)

/-- A name in front of a path becomes part of its first component. -/
theorem components_prepend {name : List Item} (whole : separator ∉ name) (path : List Item) :
    components separator (name ++ path) =
      (components separator path).modifyHead (name ++ ·) := by
  induction name with
  | nil =>
      rw [List.nil_append]
      cases components separator path with
      | nil => rfl
      | cons first rest => rfl
  | cons item name ih =>
      rw [List.mem_cons, not_or] at whole
      have differs : (item == separator) = false := beq_eq_false_iff_ne.mpr (Ne.symm whole.1)
      unfold components at ih ⊢
      rw [List.cons_append, List.splitOn_cons_eq_if_modifyHead, differs, ih whole.2]
      cases path.splitOn separator with
      | nil => rfl
      | cons first rest => rfl

theorem components_infix (separator : Item) (path : List Item) :
    ∃ first rest, components separator path = first :: rest ∧ first <+: path ∧
      ∀ component ∈ rest, component <:+: path := by
  induction path with
  | nil => exact ⟨[], [], rfl, List.prefix_rfl, by simp⟩
  | cons item path ih =>
      obtain ⟨first, rest, split, front, inside⟩ := ih
      have deeper : ∀ component ∈ rest, component <:+: item :: path :=
        fun component member => (inside component member).trans (List.suffix_cons _ _).isInfix
      unfold components at split ⊢
      rw [List.splitOn_cons_eq_if_modifyHead, split]
      split_ifs
      · refine ⟨[], first :: rest, rfl, List.nil_prefix, ?_⟩
        intro component member
        rcases List.mem_cons.mp member with rfl | later
        · exact front.isInfix.trans (List.suffix_cons _ _).isInfix
        · exact deeper component later
      · exact ⟨item :: first, rest, rfl, List.cons_prefix_cons.mpr ⟨rfl, front⟩, deeper⟩

theorem component_contained {path component : List Item}
    (member : component ∈ components separator path) : component <:+: path := by
  obtain ⟨first, rest, split, front, inside⟩ := components_infix separator path
  rw [split, List.mem_cons] at member
  rcases member with rfl | later
  · exact front.isInfix
  · exact inside component later

theorem enter_long {component : List Item} (long : 2 < component.length)
    (normal : List (List Item)) : enter dot normal component = normal ++ [component] := by
  have named : isName dot component = true := by
    unfold isName
    rw [Bool.and_eq_true, bne_iff_ne, Bool.not_eq_true', List.isEmpty_eq_false_iff]
    constructor
    · rintro rfl
      simp at long
    · rintro rfl
      simp at long
  have notUp : component ≠ [dot, dot] := by
    rintro rfl
    simp at long
  simp [enter, named, notUp]

/-- What is appended to the name of a directory without a separator leads past it. -/
theorem appended_not_below {name : List Item} (whole : separator ∉ name)
    (long : 2 < name.length) (parent : List Item) {item : Item} {rest : List Item}
    (noUp : [dot, dot] ∉ components separator (item :: rest)) (differs : item ≠ separator) :
    ¬ StrictlyBelow separator dot (parent ++ separator :: name)
      (parent ++ separator :: (name ++ item :: rest)) := by
  rintro ⟨below, -, same⟩
  obtain ⟨first, others, split, -⟩ := components_infix separator rest
  have head : components separator (item :: rest) = (item :: first) :: others := by
    have unequal : (item == separator) = false := beq_eq_false_iff_ne.mpr differs
    unfold components at split ⊢
    rw [List.splitOn_cons_eq_if_modifyHead, unequal, split]
    rfl
  have noLater : [dot, dot] ∉ others := by
    rw [head, List.mem_cons, not_or] at noUp
    exact noUp.2
  have longer : 2 < (name ++ item :: first).length := by
    rw [List.length_append]
    omega
  unfold normalise at same
  rw [components_join, components_join, List.foldl_append, List.foldl_append,
    components_prepend whole, head, List.modifyHead_cons, List.foldl_cons, enter_long longer,
    enter_names noLater, components, components,
    List.splitOn_eq_singleton whole, List.foldl_cons, List.foldl_nil, enter_long long,
    List.append_assoc, List.append_assoc, List.append_cancel_left_eq] at same
  have equal : name ++ item :: first = name := (List.cons.inj same).1
  simp at equal

end Aorta.Library.Path
