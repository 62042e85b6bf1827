import Aorta.Library.Ascii

/-!
# Reading a numeral up to a limit

The loop that reads digits and refuses a number over a limit by the check
`number > (limit - digit) / base`, made before it multiplies. It is written twice:
over the natural numbers, where its answer is described, and over machine words,
where every operation may wrap. The two give the same answer.
-/

namespace Aorta.Library.BoundedNumeral

open Aorta.Library.Ascii

set_option autoImplicit false

inductive Reading (Number : Type*) where
  | value (number : Number)
  | noDigit
  | tooLarge
deriving DecidableEq

def Reading.map {Number Other : Type*} (convert : Number → Other) : Reading Number → Reading Other
  | .value number => .value (convert number)
  | .noDigit => .noDigit
  | .tooLarge => .tooLarge

def Reading.toOption {Number : Type*} : Reading Number → Option Number
  | .value number => some number
  | .noDigit => none
  | .tooLarge => none

def Reading.toExcept {Number Error : Type*} (noDigit tooLarge : Error) :
    Reading Number → Except Error Number
  | .value number => .ok number
  | .noDigit => .error noDigit
  | .tooLarge => .error tooLarge

theorem Reading.to_option_eq_some {Number : Type*} (reading : Reading Number) (number : Number) :
    reading.toOption = some number ↔ reading = .value number := by
  cases reading <;> simp [toOption]

theorem Reading.to_except_eq_error {Number Error : Type*} {noDigit tooLarge : Error}
    (distinct : noDigit ≠ tooLarge) (reading : Reading Number) :
    (reading.toExcept noDigit tooLarge = .error noDigit ↔ reading = .noDigit) ∧
      (reading.toExcept noDigit tooLarge = .error tooLarge ↔ reading = .tooLarge) := by
  cases reading <;> simp [toExcept, distinct, distinct.symm]

def scan (base limit : Nat) (digit : Byte → Bool) (value : Byte → Nat) :
    Nat → Bytes → Reading Nat
  | number, [] => .value number
  | number, byte :: rest =>
      if !digit byte then .noDigit
      else if number > (limit - value byte) / base then .tooLarge
      else scan base limit digit value (number * base + value byte) rest

/-- The same loop over unsigned words, modulo `2 ^ width`. -/
def scanWord {width : Nat} (base limit : BitVec width) (digit : Byte → Bool)
    (value : Byte → Nat) : BitVec width → Bytes → Reading (BitVec width)
  | number, [] => .value number
  | number, byte :: rest =>
      let valueWord := BitVec.ofNat width (value byte)
      if !digit byte then .noDigit
      else if number > (limit - valueWord) / base then .tooLarge
      else scanWord base limit digit value (number * base + valueWord) rest

section Exact

variable {base limit : Nat} {digit : Byte → Bool} {value : Byte → Nat}
  (positive : 0 < base) (small : ∀ byte, digit byte → value byte ≤ limit)

include positive in
/-- The check with the floor division is exact. -/
theorem room_iff {number amount : Nat} (within : amount ≤ limit) :
    number ≤ (limit - amount) / base ↔ number * base + amount ≤ limit := by
  rw [Nat.le_div_iff_mul_le positive, Nat.le_sub_iff_add_le within]

include positive small

theorem scan_eq_value {start : Nat} (within : start ≤ limit) (text : Bytes) (number : Nat) :
    scan base limit digit value start text = .value number ↔
      text.all digit ∧ numeralFrom base value start text = number ∧ number ≤ limit := by
  apply reads_numeral positive small
    (fun start text number => scan base limit digit value start text = .value number) _ _ within
  · intro start number
    simp [scan]
  · intro start byte rest number
    by_cases isDigit : digit byte <;> simp [scan, isDigit, ite_eq_iff]

/-- Some digits at the front already denote a number over the limit. -/
theorem scan_eq_too_large {start : Nat} (within : start ≤ limit) (text : Bytes) :
    scan base limit digit value start text = .tooLarge ↔
      ∃ front, front <+: text ∧ front.all digit ∧
        limit < numeralFrom base value start front := by
  induction text generalizing start with
  | nil =>
      constructor
      · intro large
        cases large
      · intro exceeds
        obtain ⟨front, atFront, -, large⟩ := exceeds
        rw [List.prefix_nil.mp atFront] at large
        exact absurd within (Nat.not_le_of_gt large)
  | cons byte rest ih =>
      unfold scan
      by_cases isDigit : digit byte
      · have room : start ≤ (limit - value byte) / base ↔ start * base + value byte ≤ limit :=
          room_iff positive (small byte isDigit)
        simp only [isDigit, Bool.not_true, Bool.false_eq_true, if_false]
        split_ifs with over'
        · have exceeds : limit < start * base + value byte :=
            Nat.lt_of_not_le fun fits => Nat.not_le_of_gt over' (room.mpr fits)
          simp only [true_iff]
          refine ⟨[byte], ?_, ?_, exceeds⟩
          · exact (List.prefix_cons_inj byte).mpr List.nil_prefix
          · simpa using isDigit
        · have fits : start * base + value byte ≤ limit := room.mp (Nat.le_of_not_gt over')
          rw [ih fits]
          constructor
          · intro exceeds
            obtain ⟨front, atFront, digits, large⟩ := exceeds
            refine ⟨byte :: front, (List.prefix_cons_inj byte).mpr atFront, ?_, large⟩
            rw [List.all_cons, isDigit, Bool.true_and]
            exact digits
          · intro exceeds
            obtain ⟨front, atFront, digits, large⟩ := exceeds
            cases front with
            | nil => exact absurd within (Nat.not_le_of_gt large)
            | cons first front =>
                obtain ⟨rfl, behind⟩ := List.cons_prefix_cons.mp atFront
                rw [List.all_cons, Bool.and_eq_true] at digits
                exact ⟨front, behind, digits.2, large⟩
      · simp only [isDigit, Bool.not_false, if_true]
        constructor
        · intro large
          cases large
        · intro exceeds
          obtain ⟨front, atFront, digits, large⟩ := exceeds
          cases front with
          | nil => exact absurd within (Nat.not_le_of_gt large)
          | cons first front =>
              obtain ⟨rfl, -⟩ := List.cons_prefix_cons.mp atFront
              rw [List.all_cons, Bool.and_eq_true] at digits
              exact absurd digits.1 isDigit

theorem scan_eq_no_digit {start : Nat} (within : start ≤ limit) (text : Bytes) :
    scan base limit digit value start text = .noDigit ↔
      ¬ text.all digit ∧
        ∀ front, front <+: text → front.all digit → numeralFrom base value start front ≤ limit := by
  have numbers := scan_eq_value positive small within text
  have tooLarge := scan_eq_too_large positive small within text
  constructor
  · intro stops
    rw [stops] at numbers tooLarge
    have below : ∀ front, front <+: text → front.all digit →
        numeralFrom base value start front ≤ limit := by
      intro front atFront digits
      by_contra large
      cases tooLarge.mpr ⟨front, atFront, digits, Nat.lt_of_not_le large⟩
    refine ⟨fun digits => ?_, below⟩
    cases (numbers _).mpr ⟨digits, rfl, below text List.prefix_rfl digits⟩
  · intro parts
    obtain ⟨other, below⟩ := parts
    cases answer : scan base limit digit value start text with
    | noDigit => rfl
    | value number => exact absurd ((numbers number).mp answer).1 other
    | tooLarge =>
        obtain ⟨front, atFront, digits, large⟩ := tooLarge.mp answer
        exact absurd (below front atFront digits) (Nat.not_le_of_gt large)

end Exact

theorem scan_zeros {base limit : Nat} {digit : Byte → Bool} {value : Byte → Nat} {zero : Byte}
    (isDigit : digit zero = true) (isZero : value zero = 0) (zeros : Nat) (text : Bytes) :
    scan base limit digit value 0 (List.replicate zeros zero ++ text) =
      scan base limit digit value 0 text := by
  induction zeros with
  | zero => rfl
  | succ zeros ih =>
      rw [List.replicate_succ, List.cons_append, scan, isDigit, isZero, Nat.zero_mul,
        if_neg (by simp), if_neg (by simp)]
      exact ih

/-- No operation of the word loop wraps. -/
theorem scan_word_eq {width : Nat} {base limit : BitVec width} {digit : Byte → Bool}
    {value : Byte → Nat} (positive : 0 < base.toNat)
    (small : ∀ byte, digit byte → value byte ≤ limit.toNat) {start : BitVec width}
    (within : start.toNat ≤ limit.toNat) (text : Bytes) :
    (scanWord base limit digit value start text).map BitVec.toNat =
      scan base.toNat limit.toNat digit value start.toNat text := by
  induction text generalizing start with
  | nil => rfl
  | cons byte rest ih =>
      unfold scanWord scan
      by_cases isDigit : digit byte
      · have fits := small byte isDigit
        have bounded := limit.isLt
        have word : (BitVec.ofNat width (value byte)).toNat = value byte := by
          rw [BitVec.toNat_ofNat, Nat.mod_eq_of_lt (by omega)]
        have quotient : ((limit - BitVec.ofNat width (value byte)) / base).toNat =
            (limit.toNat - value byte) / base.toNat := by
          rw [BitVec.toNat_udiv, BitVec.toNat_sub_of_le, word]
          rw [BitVec.le_def, word]
          exact fits
        simp only [isDigit, Bool.not_true, Bool.false_eq_true, if_false, gt_iff_lt, BitVec.lt_def,
          quotient]
        split_ifs with over'
        · rfl
        · have room : start.toNat * base.toNat + value byte ≤ limit.toNat :=
            (room_iff positive fits).mp (Nat.le_of_not_gt over')
          have next : (start * base + BitVec.ofNat width (value byte)).toNat =
              start.toNat * base.toNat + value byte := by
            rw [BitVec.toNat_add, BitVec.toNat_mul, word,
              Nat.mod_eq_of_lt (a := start.toNat * base.toNat) (by omega),
              Nat.mod_eq_of_lt (by omega)]
          rw [← next]
          apply ih
          rw [next]
          exact room
      · simp only [isDigit, Bool.not_false, if_true]
        rfl

end Aorta.Library.BoundedNumeral
