import Mathlib.Data.List.DropRight
import Mathlib.Tactic.Common

/-!
# Byte strings and the `<cctype>` classes

`std::string` is a list of bytes. The character classes are those of the C
locale, which is the one the program runs in.
-/

namespace Aorta.Library.Ascii

set_option autoImplicit false

abbrev Byte := UInt8
abbrev Bytes := List UInt8

def ascii (text : String) : Bytes := text.toList.map fun character => character.toNat.toUInt8

def isDigit (byte : Byte) : Bool := 48 ≤ byte && byte ≤ 57

def isUpper (byte : Byte) : Bool := 65 ≤ byte && byte ≤ 90

def isLower (byte : Byte) : Bool := 97 ≤ byte && byte ≤ 122

def isAlnum (byte : Byte) : Bool := isDigit byte || isUpper byte || isLower byte

def isXDigit (byte : Byte) : Bool :=
  isDigit byte || (65 ≤ byte && byte ≤ 70) || (97 ≤ byte && byte ≤ 102)

def toLower (byte : Byte) : Byte := if isUpper byte then byte + 32 else byte

def isBlank (byte : Byte) : Bool := byte == 32 || byte == 9

def digitValue (byte : Byte) : Nat := byte.toNat - 48

def hexValue (byte : Byte) : Nat :=
  if isDigit byte then byte.toNat - 48
  else if isLower byte then byte.toNat - 97 + 10
  else byte.toNat - 65 + 10

/-- The number a digit string denotes in the given base, behind the digits that
denote `start`. -/
def numeralFrom (base : Nat) (value : Byte → Nat) (start : Nat) (digits : Bytes) : Nat :=
  digits.foldl (fun number digit => number * base + value digit) start

/-- The number a digit string denotes in the given base. -/
def numeral (base : Nat) (value : Byte → Nat) (digits : Bytes) : Nat :=
  numeralFrom base value 0 digits

theorem numeral_from_cons (base : Nat) (value : Byte → Nat) (start : Nat) (digit : Byte)
    (digits : Bytes) :
    numeralFrom base value start (digit :: digits) =
      numeralFrom base value (start * base + value digit) digits := rfl

theorem numeral_from_ge {base : Nat} (positive : 1 ≤ base) (value : Byte → Nat) (start : Nat)
    (digits : Bytes) : start ≤ numeralFrom base value start digits := by
  induction digits generalizing start with
  | nil => exact Nat.le_refl start
  | cons digit digits ih =>
      rw [numeral_from_cons]
      have grown : start ≤ start * base := Nat.le_mul_of_pos_right start positive
      exact Nat.le_trans (by omega) (ih _)

/-- A loop that checks before each digit that the number stays within the limit
succeeds exactly on the digit strings that denote a number within it. -/
theorem reads_numeral {base limit : Nat} (positive : 0 < base) {digit : Byte → Bool}
    {value : Byte → Nat} (small : ∀ byte, digit byte → value byte ≤ limit)
    (reads : Nat → Bytes → Nat → Prop)
    (stops : ∀ start number, reads start [] number ↔ start = number)
    (goesOn : ∀ start byte rest number, reads start (byte :: rest) number ↔
      digit byte ∧ start ≤ (limit - value byte) / base ∧
        reads (start * base + value byte) rest number)
    {start : Nat} (within : start ≤ limit) (digits : Bytes) (number : Nat) :
    reads start digits number ↔
      digits.all digit ∧ numeralFrom base value start digits = number ∧ number ≤ limit := by
  induction digits generalizing start with
  | nil =>
      rw [stops]
      constructor
      · intro same
        exact ⟨rfl, same, same ▸ within⟩
      · intro parts
        exact parts.2.1
  | cons byte rest ih =>
      simp only [goesOn, List.all_cons, Bool.and_eq_true, numeral_from_cons]
      by_cases isDigit : digit byte
      · have room : start ≤ (limit - value byte) / base ↔ start * base + value byte ≤ limit := by
          rw [Nat.le_div_iff_mul_le positive, Nat.le_sub_iff_add_le (small byte isDigit)]
        rw [room]
        by_cases next : start * base + value byte ≤ limit
        · simp only [isDigit, next, ih next, true_and]
        · have grown := numeral_from_ge positive value (start * base + value byte) rest
          simp only [isDigit, next, false_and, and_false, true_and, false_iff]
          omega
      · simp [isDigit]

end Aorta.Library.Ascii
