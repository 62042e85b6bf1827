import Mathlib.Data.Nat.Digits.Lemmas
import Aorta.Library.Ascii

/-!
# Decimal numerals

`std::to_string` of an unsigned number and `std::stoull`. Reading a written
number gives the number back, so distinct numbers are written differently.
-/

namespace Aorta.Library.Decimal

open Aorta.Library.Ascii

set_option autoImplicit false

def decimal (number : Nat) : Bytes :=
  if number = 0 then [48]
  else (Nat.digits 10 number).reverse.map fun digit => 48 + digit.toUInt8

example : decimal 1024 = ascii "1024" := by decide

/-- `std::isspace`. -/
def isSpace (byte : Byte) : Bool := byte == 32 || (9 ≤ byte && byte ≤ 13)

/-- The digits at the front; none are `std::invalid_argument`, too many are
`std::out_of_range`. -/
def stoullDigits (text : Bytes) : Option Nat :=
  let digits := text.takeWhile isDigit
  if digits.isEmpty then none
  else
    let number := numeral 10 digitValue digits
    if number < 2 ^ 64 then some number else none

/-- `std::stoull`, with `none` for its exceptions. A minus sign negates modulo `2 ^ 64`. -/
def stoull (text : Bytes) : Option Nat :=
  match text.dropWhile isSpace with
  | 43 :: rest => stoullDigits rest
  | 45 :: rest => (stoullDigits rest).map fun number => (2 ^ 64 - number) % 2 ^ 64
  | rest => stoullDigits rest

example : stoull (ascii " 42x") = some 42 := by decide
example : stoull (ascii "-1") = some (2 ^ 64 - 1) := by decide

def stoiDigits (sign : Int) (text : Bytes) : Option Int :=
  let digits := text.takeWhile isDigit
  if digits.isEmpty then none
  else
    let number := sign * numeral 10 digitValue digits
    if -2 ^ 31 ≤ number ∧ number < 2 ^ 31 then some number else none

/-- `std::stoi`, with `none` for its exceptions. -/
def stoi (text : Bytes) : Option Int :=
  match text.dropWhile isSpace with
  | 43 :: rest => stoiDigits 1 rest
  | 45 :: rest => stoiDigits (-1) rest
  | rest => stoiDigits 1 rest

example : stoi (ascii "-7;") = some (-7) := by decide

theorem digit_byte : ∀ digit, digit < 10 →
    digitValue (48 + digit.toUInt8) = digit ∧ isDigit (48 + digit.toUInt8) = true := by
  decide

theorem numeral_reverse (digits : List Nat) (small : ∀ digit ∈ digits, digit < 10) :
    numeral 10 digitValue (digits.reverse.map fun digit => 48 + digit.toUInt8) =
      Nat.ofDigits 10 digits := by
  induction digits with
  | nil => rfl
  | cons digit digits ih =>
      have rest := ih fun other member => small other (List.mem_cons_of_mem _ member)
      have first := (digit_byte digit (small digit (by simp))).1
      unfold numeral numeralFrom at rest ⊢
      rw [List.reverse_cons, List.map_append, List.foldl_append, rest, Nat.ofDigits_cons]
      simp only [List.map_cons, List.map_nil, List.foldl_cons, List.foldl_nil, first]
      omega

theorem numeral_decimal (number : Nat) : numeral 10 digitValue (decimal number) = number := by
  unfold decimal
  split_ifs with zero
  · rw [zero]
    rfl
  · rw [numeral_reverse _ fun digit member => Nat.digits_lt_base (by omega) member,
      Nat.ofDigits_digits]

theorem decimal_injective : Function.Injective decimal := by
  intro first second same
  rw [← numeral_decimal first, same, numeral_decimal]

theorem decimal_digits (number : Nat) : ∀ byte ∈ decimal number, isDigit byte = true := by
  intro byte member
  unfold decimal at member
  split_ifs at member with zero
  · rw [List.mem_singleton] at member
    rw [member]
    rfl
  · obtain ⟨digit, inDigits, rfl⟩ := List.mem_map.mp member
    exact (digit_byte digit (Nat.digits_lt_base (by omega) (List.mem_reverse.mp inDigits))).2

theorem decimal_ne_nil (number : Nat) : decimal number ≠ [] := by
  unfold decimal
  split_ifs with zero
  · simp
  · simpa [Nat.digits_eq_nil_iff_eq_zero] using zero

/-- Only zero is written with a leading zero. -/
theorem decimal_head {number : Nat} (positive : number ≠ 0) : (decimal number).head? ≠ some 48 := by
  have digits : Nat.digits 10 number ≠ [] := Nat.digits_ne_nil_iff_ne_zero.mpr positive
  have leading := Nat.getLast_digit_ne_zero 10 positive
  have small := Nat.digits_lt_base (by omega) (List.getLast_mem digits)
  unfold decimal
  rw [if_neg positive, List.head?_map, List.head?_reverse, List.getLast?_eq_some_getLast digits,
    Option.map_some]
  intro same
  have value := (digit_byte _ small).1
  rw [Option.some.inj same] at value
  exact leading value.symm

/-- A digit is neither a space nor a sign. -/
theorem digit_starts_number {byte : Byte} (digit : isDigit byte = true) :
    isSpace byte = false ∧ byte ≠ 43 ∧ byte ≠ 45 := by
  simp only [isDigit, Bool.and_eq_true, decide_eq_true_eq, UInt8.le_iff_toNat_le] at digit
  simp only [isSpace, Bool.or_eq_false_iff, beq_eq_false_iff_ne, Bool.and_eq_false_iff,
    decide_eq_false_iff_not, UInt8.le_iff_toNat_le, ne_eq, ← UInt8.toNat_inj]
  simp only [UInt8.reduceToNat] at digit ⊢
  omega

/-- Reading a written number. -/
theorem stoull_decimal {number : Nat} (small : number < 2 ^ 64) :
    stoull (decimal number) = some number := by
  have digits := decimal_digits number
  have whole : stoullDigits (decimal number) = some number := by
    unfold stoullDigits
    simp only [List.takeWhile_eq_self_iff.mpr digits, numeral_decimal, if_pos small]
    simp [decimal_ne_nil]
  cases written : decimal number with
  | nil => exact absurd written (decimal_ne_nil number)
  | cons first rest =>
      rw [written] at digits whole
      obtain ⟨noSpace, noPlus, noMinus⟩ := digit_starts_number (digits first (by simp))
      unfold stoull
      rw [List.dropWhile_cons_of_neg (by simp [noSpace])]
      split
      · next same =>
          cases same
          exact absurd rfl noPlus
      · next same =>
          cases same
          exact absurd rfl noMinus
      · exact whole

end Aorta.Library.Decimal
