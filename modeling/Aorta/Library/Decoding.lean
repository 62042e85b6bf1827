import Mathlib.Tactic.Common

/-!
# Reading a stream of values

A reader takes one value off the front of a list, or waits for more. What it reads may depend
on a key, which is known before. When every value has a text from which it is read back,
whatever follows, a stream of such texts is read value by value, also as long as only a part
of it has come.
-/

namespace Aorta.Library.Decoding

set_option autoImplicit false

variable {Key Item Value : Type*}

/-- What has been read does not depend on what comes later. -/
def Stable (read : Key → List Item → Option (Value × List Item)) : Prop :=
  ∀ key text value rest, read key text = some (value, rest) →
    ∀ later, read key (text ++ later) = some (value, rest ++ later)

/-- A text of a stream, with what is known before and what is read from it. -/
structure Piece (Key Item Value : Type*) where
  key : Key
  text : List Item
  value : Value

variable (read : Key → List Item → Option (Value × List Item))

/-- The value is read back, whatever follows. -/
def Piece.Undone (piece : Piece Key Item Value) : Prop :=
  ∀ later, read piece.key (piece.text ++ later) = some (piece.value, later)

/-- Read on until a value is not there yet or no more are expected. -/
def readAll : List Key → List Item → List Value
  | [], _ => []
  | key :: keys, text =>
      match read key text with
      | none => []
      | some (value, rest) => value :: readAll keys rest

def texts (pieces : List (Piece Key Item Value)) : List Item := pieces.flatMap Piece.text

variable {read} {pieces : List (Piece Key Item Value)}

theorem texts_cons (piece : Piece Key Item Value) (pieces : List (Piece Key Item Value)) :
    texts (piece :: pieces) = piece.text ++ texts pieces := List.flatMap_cons

/-- What is read from a part of a text is the value of the text, and then all of it is there. -/
theorem Piece.Undone.of_part (stable : Stable read) {piece : Piece Key Item Value}
    (undone : piece.Undone read) {text rest : List Item} {value : Value}
    (inside : text <+: piece.text) (reads : read piece.key text = some (value, rest)) :
    value = piece.value ∧ text = piece.text ∧ rest = [] := by
  obtain ⟨missing, whole⟩ := inside
  have again := stable piece.key text value rest reads missing
  have back := undone []
  rw [List.append_nil] at back
  rw [whole, back] at again
  obtain ⟨same, nothing⟩ := Prod.mk.inj (Option.some.inj again)
  obtain ⟨noRest, noMissing⟩ := List.append_eq_nil_iff.mp nothing.symm
  rw [noMissing, List.append_nil] at whole
  exact ⟨same.symm, whole, noRest⟩

/-- Nothing is read from an empty text, so that every text of a stream has some items. -/
theorem Piece.Undone.some_text (waits : ∀ key, read key [] = none)
    {piece : Piece Key Item Value} (undone : piece.Undone read) : piece.text ≠ [] := by
  intro empty
  have back := undone []
  rw [empty, List.append_nil, waits] at back
  cases back

/-- From a part of a stream come the first of its values, however many are expected. -/
theorem read_all_begins (stable : Stable read) (waits : ∀ key, read key [] = none)
    (undone : ∀ piece ∈ pieces, piece.Undone read) (more : List Key) {text : List Item}
    (part : text <+: texts pieces) :
    readAll read (pieces.map Piece.key ++ more) text <+: pieces.map Piece.value := by
  induction pieces generalizing text with
  | nil =>
      rw [List.prefix_nil.mp part, List.map_nil, List.nil_append]
      cases more with
      | nil => exact List.nil_prefix
      | cons key keys =>
          rw [readAll, waits]
          exact List.nil_prefix
  | cons piece pieces ih =>
      obtain ⟨first, others⟩ := List.forall_mem_cons.mp undone
      rw [List.map_cons, List.map_cons, List.cons_append, readAll]
      cases reads : read piece.key text with
      | none => exact List.nil_prefix
      | some result =>
          obtain ⟨value, rest⟩ := result
          dsimp only
          have back : value = piece.value ∧ rest <+: texts pieces := by
            rw [texts_cons] at part
            rcases List.prefix_or_prefix_of_prefix part (List.prefix_append _ _) with
              inside | ⟨later, same⟩
            · obtain ⟨value, -, rest⟩ := first.of_part stable inside reads
              exact ⟨value, rest ▸ List.nil_prefix⟩
            · rw [← same, first later] at reads
              obtain ⟨value, rest⟩ := Prod.mk.inj (Option.some.inj reads)
              rw [← same, List.prefix_append_right_inj] at part
              exact ⟨value.symm, rest ▸ part⟩
          rw [back.1]
          exact (List.prefix_cons_inj _).mpr (ih others back.2)

/-- What is there as a whole is read. -/
theorem read_all_whole (undone : ∀ piece ∈ pieces, piece.Undone read) (keys : List Key)
    (later : List Item) :
    readAll read (pieces.map Piece.key ++ keys) (texts pieces ++ later) =
      pieces.map Piece.value ++ readAll read keys later := by
  induction pieces with
  | nil => rfl
  | cons piece pieces ih =>
      obtain ⟨first, others⟩ := List.forall_mem_cons.mp undone
      rw [List.map_cons, List.map_cons, List.cons_append, readAll, texts_cons, List.append_assoc,
        first, List.cons_append, ← ih others]

/-- Two streams that are read with the same key: where the first goes on as the second, so do
their values. -/
theorem values_begin (waits : ∀ key, read key [] = none) {key : Key}
    {first second : List (Piece Key Item Value)}
    (undone : ∀ piece ∈ first, piece.key = key ∧ piece.Undone read)
    (others : ∀ piece ∈ second, piece.key = key ∧ piece.Undone read) {rest : List Item}
    (inside : texts first ++ rest <+: texts second) :
    first.map Piece.value <+: second.map Piece.value := by
  induction first generalizing second with
  | nil => exact List.nil_prefix
  | cons piece first ih =>
      obtain ⟨⟨own, back⟩, undone⟩ := List.forall_mem_cons.mp undone
      obtain ⟨missing, same⟩ := inside
      rw [texts_cons] at same
      cases second with
      | nil =>
          simp only [List.append_assoc, texts, List.flatMap_nil] at same
          exact absurd (List.append_eq_nil_iff.mp same).1 (back.some_text waits)
      | cons other second =>
          obtain ⟨⟨otherOwn, otherBack⟩, others⟩ := List.forall_mem_cons.mp others
          rw [texts_cons, List.append_assoc, List.append_assoc] at same
          have reads := back (texts first ++ (rest ++ missing))
          rw [same, own, ← otherOwn, otherBack] at reads
          obtain ⟨value, later⟩ := Prod.mk.inj (Option.some.inj reads)
          rw [List.map_cons, List.map_cons, value]
          refine (List.prefix_cons_inj _).mpr (ih undone others ⟨missing, ?_⟩)
          rw [List.append_assoc, later]

end Aorta.Library.Decoding
