import Aorta.Library.Ascii

/-!
# Form bodies

Percent encoding as a relation, for encoders differ in what they leave as it is, in the
case of their digits and in the space. Forms are pairs of a plain key and an encoded value.
-/

namespace Aorta.Library.FormCoding

open Aorta.Library.Ascii

set_option autoImplicit false

section Codes

/-- The bytes that `encodeURIComponent` leaves as they are: letters, digits and
`-_.~!*'()`. -/
def isUnreserved (byte : Byte) : Bool :=
  isAlnum byte || [45, 95, 46, 126, 33, 42, 39, 40, 41].contains byte

/-- What a byte can be written as. -/
inductive Code : Byte → Bytes → Prop
  | plain {byte : Byte} (unreserved : isUnreserved byte = true) : Code byte [byte]
  | percent {high low : Byte} (highHex : isXDigit high = true) (lowHex : isXDigit low = true) :
      Code (hexValue high * 16 + hexValue low).toUInt8 [37, high, low]
  | plus : Code 32 [43]

inductive Encodes : Bytes → Bytes → Prop
  | nil : Encodes [] []
  | cons {byte : Byte} {code value text : Bytes} (first : Code byte code)
      (rest : Encodes value text) : Encodes (byte :: value) (code ++ text)

def hexDigit (digit : Nat) : Byte :=
  if digit < 10 then (48 + digit).toUInt8 else (55 + digit).toUInt8

def encodeURIComponent (text : Bytes) : Bytes :=
  text.flatMap fun byte =>
    if isUnreserved byte then [byte]
    else [37, hexDigit (byte.toNat / 16), hexDigit (byte.toNat % 16)]

example : encodeURIComponent (ascii "a&b=50%") = ascii "a%26b%3D50%25" := by decide

theorem hex_digit_value :
    ∀ digit, digit < 16 → isXDigit (hexDigit digit) = true ∧ hexValue (hexDigit digit) = digit := by
  decide

theorem percent_code (byte : Byte) :
    Code byte [37, hexDigit (byte.toNat / 16), hexDigit (byte.toNat % 16)] := by
  have bound := byte.toNat_lt
  obtain ⟨highHex, high⟩ := hex_digit_value (byte.toNat / 16) (by omega)
  obtain ⟨lowHex, low⟩ := hex_digit_value (byte.toNat % 16) (by omega)
  have code := Code.percent highHex lowHex
  rw [high, low, Nat.div_add_mod'] at code
  simpa using code

theorem encode_uri_component_encodes (text : Bytes) : Encodes text (encodeURIComponent text) := by
  induction text with
  | nil => exact .nil
  | cons byte text ih =>
      rw [encodeURIComponent, List.flatMap_cons]
      apply Encodes.cons _ ih
      split_ifs with unreserved
      · exact .plain unreserved
      · exact percent_code byte

theorem unreserved_other {byte : Byte} (unreserved : isUnreserved byte = true) :
    byte ≠ 37 ∧ byte ≠ 38 ∧ byte ≠ 43 ∧ byte ≠ 61 := by
  refine ⟨?_, ?_, ?_, ?_⟩
  all_goals
    rintro rfl
    cases unreserved

theorem code_no_ampersand {byte : Byte} {code : Bytes} (writes : Code byte code) : 38 ∉ code := by
  intro member
  cases writes with
  | plain unreserved =>
      have same := List.mem_singleton.mp member
      subst same
      cases unreserved
  | percent highHex lowHex =>
      simp only [List.mem_cons, List.not_mem_nil, or_false] at member
      rcases member with same | same | same
      · cases same
      · subst same
        cases highHex
      · subst same
        cases lowHex
  | plus => cases List.mem_singleton.mp member

theorem encodes_no_ampersand {value text : Bytes} (encodes : Encodes value text) : 38 ∉ text := by
  induction encodes with
  | nil => exact List.not_mem_nil
  | cons first rest ih =>
      intro member
      rcases List.mem_append.mp member with early | late
      · exact code_no_ampersand first early
      · exact ih late

end Codes

section Fields

structure FormField where
  key : Bytes
  value : Bytes
  code : Bytes
  unreserved : ∀ byte ∈ key, isUnreserved byte = true
  encodes : Encodes value code

def FormField.text (field : FormField) : Bytes := field.key ++ 61 :: field.code

/-- The fields with ampersands between them. -/
def formText : List FormField → Bytes
  | [] => []
  | [field] => field.text
  | field :: fields => field.text ++ 38 :: formText fields

theorem field_no_ampersand (field : FormField) : 38 ∉ field.text := by
  simp only [FormField.text, List.mem_append, List.mem_cons, not_or]
  refine ⟨?_, by decide, encodes_no_ampersand field.encodes⟩
  intro member
  exact (unreserved_other (field.unreserved 38 member)).2.1 rfl

theorem form_text_cons (field : FormField) (fields : List FormField) :
    (formText (field :: fields)).takeWhile (· ≠ 38) = field.text ∧
      (formText (field :: fields)).drop (field.text.length + 1) = formText fields := by
  have other : ∀ byte ∈ field.text, decide (byte ≠ 38) = true := by
    intro byte member
    have different : byte ≠ 38 := fun same => field_no_ampersand field (same ▸ member)
    simpa using different
  cases fields with
  | nil => exact ⟨List.takeWhile_eq_self_iff.mpr other, List.drop_eq_nil_of_le (Nat.le_succ _)⟩
  | cons next fields =>
      rw [formText, List.takeWhile_append_of_pos other, ← List.drop_drop, List.drop_left]
      · exact ⟨by simp, rfl⟩
      · exact nofun

end Fields

end Aorta.Library.FormCoding
