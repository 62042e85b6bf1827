import Mathlib.Data.FinEnum
import Mathlib.Data.Rat.Defs
import Mathlib.Algebra.Order.Field.Rat
import Aorta.Library.Decimal

/-!
# JSON texts

The grammar of RFC 8259 over bytes, with what its texts denote. A text is UTF-8; a
byte above 127 occurs in strings only and stands for itself. An escape of a lone
surrogate denotes the three bytes that UTF-8 would have for it.
-/

namespace Aorta.Library.Json

open Aorta.Library.Ascii Aorta.Library.Decimal

set_option autoImplicit false

section Blanks

def isInsignificant (byte : Byte) : Bool := byte == 32 || byte == 9 || byte == 10 || byte == 13

abbrev Blank := { blank : Bytes // ∀ byte ∈ blank, isInsignificant byte = true }

def Blank.none : Blank := ⟨[], nofun⟩

end Blanks

section Strings

def isPlain (byte : Byte) : Bool := 32 ≤ byte && byte ≠ 34 && byte ≠ 92

/-- What a letter behind a backslash stands for. -/
def shortValue (letter : Byte) : Option Byte :=
  if letter = 34 ∨ letter = 92 ∨ letter = 47 then some letter
  else if letter = 98 then some 8
  else if letter = 102 then some 12
  else if letter = 110 then some 10
  else if letter = 114 then some 13
  else if letter = 116 then some 9
  else none

/-- One byte of a string, or one escape. -/
inductive Piece where
  | plain (byte : Byte) (isPlain : isPlain byte = true)
  | short (letter value : Byte) (known : shortValue letter = some value)
  | unicode (digits : Bytes) (four : digits.length = 4) (hex : ∀ digit ∈ digits, isXDigit digit)
deriving DecidableEq

def Piece.text : Piece → Bytes
  | .plain byte _ => [byte]
  | .short letter _ _ => [92, letter]
  | .unicode digits _ _ => 92 :: 117 :: digits

def utf8 (code : Nat) : Bytes :=
  if code < 0x80 then [code.toUInt8]
  else if code < 0x800 then [(0xC0 + code / 0x40).toUInt8, (0x80 + code % 0x40).toUInt8]
  else if code < 0x10000 then
    [(0xE0 + code / 0x1000).toUInt8, (0x80 + code / 0x40 % 0x40).toUInt8,
      (0x80 + code % 0x40).toUInt8]
  else
    [(0xF0 + code / 0x40000).toUInt8, (0x80 + code / 0x1000 % 0x40).toUInt8,
      (0x80 + code / 0x40 % 0x40).toUInt8, (0x80 + code % 0x40).toUInt8]

/-- The character of two escapes that are a high and a low surrogate. -/
def surrogatePair (high low : Nat) : Option Nat :=
  if 0xD800 ≤ high ∧ high < 0xDC00 ∧ 0xDC00 ≤ low ∧ low < 0xE000 then
    some (0x10000 + (high - 0xD800) * 0x400 + (low - 0xDC00))
  else none

def codeUnit (digits : Bytes) : Nat := numeral 16 hexValue digits

/-- The bytes a string denotes. -/
def decoded : List Piece → Bytes
  | [] => []
  | .plain byte _ :: pieces => byte :: decoded pieces
  | .short _ value _ :: pieces => value :: decoded pieces
  | .unicode high _ _ :: .unicode low four hex :: pieces =>
      match surrogatePair (codeUnit high) (codeUnit low) with
      | some code => utf8 code ++ decoded pieces
      | none => utf8 (codeUnit high) ++ decoded (.unicode low four hex :: pieces)
  | .unicode digits _ _ :: pieces => utf8 (codeUnit digits) ++ decoded pieces

def raw (pieces : List Piece) : Bytes := pieces.flatMap Piece.text

def quoted (pieces : List Piece) : Bytes := 34 :: raw pieces ++ [34]

def Piece.isPlain : Piece → Bool
  | .plain _ _ => true
  | _ => false

theorem raw_cons (piece : Piece) (pieces : List Piece) :
    raw (piece :: pieces) = piece.text ++ raw pieces := List.flatMap_cons

theorem utf8_length (code : Nat) : 0 < (utf8 code).length ∧ (utf8 code).length ≤ 4 := by
  unfold utf8
  split_ifs
  all_goals simp

def escapes : List Piece → Nat
  | [] => 0
  | .plain _ _ :: pieces => escapes pieces
  | _ :: pieces => escapes pieces + 1

theorem decoded_length (pieces : List Piece) :
    (decoded pieces).length + escapes pieces ≤ (raw pieces).length := by
  induction pieces using decoded.induct with
  | case1 => exact Nat.le_refl 0
  | case2 byte isPlain pieces ih =>
      simp only [decoded, escapes, raw_cons, Piece.text, List.length_append, List.length_cons,
        List.length_nil]
      omega
  | case3 letter value known pieces ih =>
      simp only [decoded, escapes, raw_cons, Piece.text, List.length_append, List.length_cons,
        List.length_nil]
      omega
  | case4 high fourHigh hexHigh low four hex pieces code pair ih =>
      have short := (utf8_length code).2
      simp only [decoded, pair, escapes, raw_cons, Piece.text, List.length_append,
        List.length_cons, fourHigh, four]
      omega
  | case5 high fourHigh hexHigh low four hex pieces pair ih =>
      have short := (utf8_length (codeUnit high)).2
      simp only [decoded, pair, escapes, raw_cons, Piece.text, List.length_append,
        List.length_cons, fourHigh, four] at ih ⊢
      omega
  | case6 digits four hex pieces other ih =>
      have short := (utf8_length (codeUnit digits)).2
      rw [decoded]
      · simp only [escapes, raw_cons, Piece.text, List.length_append, List.length_cons, four]
        omega
      · exact other

theorem no_escapes {pieces : List Piece} (none : escapes pieces = 0) :
    ∀ piece ∈ pieces, piece.isPlain = true := by
  induction pieces with
  | nil => exact nofun
  | cons piece pieces ih =>
      cases piece with
      | plain byte isPlain => exact List.forall_mem_cons.mpr ⟨rfl, ih none⟩
      | short letter value known => cases none
      | unicode digits four hex => cases none

theorem decoded_plain {pieces : List Piece} (plain : ∀ piece ∈ pieces, piece.isPlain = true) :
    decoded pieces = raw pieces ∧ 34 ∉ raw pieces := by
  induction pieces with
  | nil => exact ⟨rfl, List.not_mem_nil⟩
  | cons piece pieces ih =>
      obtain ⟨isPlain, others⟩ := List.forall_mem_cons.mp plain
      obtain ⟨same, absent⟩ := ih others
      cases piece with
      | plain byte byteIsPlain =>
          have other : byte ≠ 34 := by
            rintro rfl
            cases byteIsPlain
          rw [decoded, raw_cons, same]
          refine ⟨rfl, ?_⟩
          simp [Piece.text, other.symm, absent]
      | short letter value known => cases isPlain
      | unicode digits four hex => cases isPlain

theorem piece_quotation {piece : Piece} (member : 34 ∈ piece.text) :
    ∃ known, piece = .short 34 34 known := by
  cases piece with
  | plain byte isPlain =>
      have same := List.mem_singleton.mp member
      subst same
      cases isPlain
  | short letter value known =>
      simp only [Piece.text, List.mem_cons, List.not_mem_nil, or_false] at member
      rcases member with same | same
      · cases same
      · subst same
        cases known
        exact ⟨rfl, rfl⟩
  | unicode digits four hex =>
      simp only [Piece.text, List.mem_cons] at member
      rcases member with same | same | digit
      · cases same
      · cases same
      · cases hex 34 digit

theorem quotation_later {piece : Piece} {pieces : List Piece}
    (member : 34 ∈ raw (piece :: pieces)) (other : ∀ known, piece ≠ .short 34 34 known) :
    34 ∈ raw pieces := by
  rw [raw_cons] at member
  rcases List.mem_append.mp member with here | later
  · obtain ⟨known, same⟩ := piece_quotation here
    exact absurd same (other known)
  · exact later

theorem decoded_quotation {pieces : List Piece} (member : 34 ∈ raw pieces) :
    34 ∈ decoded pieces := by
  induction pieces using decoded.induct with
  | case1 => exact member
  | case2 byte isPlain pieces ih =>
      exact List.mem_cons_of_mem byte (ih (quotation_later member nofun))
  | case3 letter value known pieces ih =>
      by_cases quotation : letter = 34
      · subst quotation
        cases known
        exact List.mem_cons_self
      · apply List.mem_cons_of_mem value
        apply ih
        apply quotation_later member
        intro same
        rintro ⟨⟩
        exact quotation rfl
  | case4 high fourHigh hexHigh low four hex pieces code pair ih =>
      rw [decoded, pair]
      have later := quotation_later (quotation_later member nofun) nofun
      exact List.mem_append_right (utf8 code) (ih later)
  | case5 high fourHigh hexHigh low four hex pieces pair ih =>
      rw [decoded, pair]
      exact List.mem_append_right (utf8 (codeUnit high)) (ih (quotation_later member nofun))
  | case6 digits four hex pieces other ih =>
      rw [decoded]
      · exact List.mem_append_right (utf8 (codeUnit digits)) (ih (quotation_later member nofun))
      · exact other

/-- The bytes up to the first quotation mark are the string only when nothing is escaped. -/
theorem scanned_iff_plain (pieces : List Piece) :
    (raw pieces).takeWhile (· ≠ 34) = decoded pieces ↔
      ∀ piece ∈ pieces, piece.isPlain = true := by
  constructor
  · intro same
    have absent : 34 ∉ raw pieces := by
      intro member
      have inScanned := same ▸ decoded_quotation member
      simpa using List.mem_takeWhile_imp inScanned
    have whole : (raw pieces).takeWhile (· ≠ 34) = raw pieces := by
      apply List.takeWhile_eq_self_iff.mpr
      intro byte member
      have other : byte ≠ 34 := fun isQuotation => absent (isQuotation ▸ member)
      simpa using other
    have lengths := decoded_length pieces
    rw [← same, whole] at lengths
    exact no_escapes (by omega)
  · intro plain
    obtain ⟨same, absent⟩ := decoded_plain plain
    rw [same]
    apply List.takeWhile_eq_self_iff.mpr
    intro byte member
    have other : byte ≠ 34 := fun isQuotation => absent (isQuotation ▸ member)
    simpa using other

theorem decoded_nil {pieces : List Piece} (empty : decoded pieces = []) : pieces = [] := by
  have positive : ∀ code, utf8 code ≠ [] := fun code =>
    List.length_pos_iff.mp (utf8_length code).1
  cases pieces using decoded.induct with
  | case1 => rfl
  | case2 => cases empty
  | case3 => cases empty
  | case4 high fourHigh hexHigh low four hex pieces code pair ih =>
      rw [decoded, pair] at empty
      exact absurd (List.append_eq_nil_iff.mp empty).1 (positive code)
  | case5 high fourHigh hexHigh low four hex pieces pair ih =>
      rw [decoded, pair] at empty
      exact absurd (List.append_eq_nil_iff.mp empty).1 (positive _)
  | case6 digits four hex pieces other ih =>
      rw [decoded] at empty
      · exact absurd (List.append_eq_nil_iff.mp empty).1 (positive _)
      · exact other

end Strings

section Numerals

def isDigits (digits : Bytes) : Bool := !digits.isEmpty && digits.all isDigit

def dropSign : Bytes → Bytes
  | 43 :: rest => rest
  | 45 :: rest => rest
  | rest => rest

def isExponent : Bytes → Bool
  | [] => true
  | mark :: rest => (mark == 101 || mark == 69) && isDigits (dropSign rest)

def isFraction : Bytes → Bool
  | 46 :: rest => isDigits (rest.takeWhile isDigit) && isExponent (rest.dropWhile isDigit)
  | rest => isExponent rest

def dropMinus : Bytes → Bytes
  | 45 :: rest => rest
  | rest => rest

/-- An integer without needless zeros, a fraction and an exponent. -/
def isNumeral (literal : Bytes) : Bool :=
  let whole := (dropMinus literal).takeWhile isDigit
  isDigits whole && (whole = [48] || whole.head? ≠ some 48) &&
    isFraction ((dropMinus literal).dropWhile isDigit)

def exponentOf : Bytes → ℤ
  | 45 :: digits => -numeral 10 digitValue digits
  | 43 :: digits => numeral 10 digitValue digits
  | digits => numeral 10 digitValue digits

/-- The number a numeral denotes. -/
def numberOf (literal : Bytes) : ℚ :=
  let mantissa := (dropMinus literal).takeWhile fun byte => byte ≠ 101 && byte ≠ 69
  let whole := mantissa.takeWhile (· ≠ 46)
  let fraction := mantissa.drop (whole.length + 1)
  let exponent := exponentOf ((dropMinus literal).drop (mantissa.length + 1))
  (if literal.head? = some 45 then -1 else 1) * numeral 10 digitValue (whole ++ fraction) *
    10 ^ (exponent - fraction.length)

example : isNumeral (ascii "-10.50e+2") = true := by decide
example : isNumeral (ascii "010") = false := by decide

end Numerals

inductive Value where
  | null
  | bool (truth : Bool)
  | number (number : ℚ)
  | string (text : Bytes)
  | array (items : List Value)
  | object (members : List (Bytes × Value))

/-- The text of a value in an array, with the white space around it. -/
structure Item where
  before : Blank
  text : Bytes
  value : Value
  behind : Blank

def Item.padded (item : Item) : Bytes := item.before.val ++ item.text ++ item.behind.val

structure Member where
  before : Blank
  name : List Piece
  behindName : Blank
  item : Item

/-- The text of a member up to its colon. -/
def Member.head (member : Member) : Bytes :=
  member.before.val ++ quoted member.name ++ member.behindName.val

def Member.padded (member : Member) : Bytes := member.head ++ 58 :: member.item.padded

def Member.entry (member : Member) : Bytes × Value := (decoded member.name, member.item.value)

/-- The parts with commas between them, or the blank when there are none. -/
def inside (blank : Bytes) : List Bytes → Bytes
  | [] => blank
  | [part] => part
  | part :: parts => part ++ 44 :: inside blank parts

def arrayText (blank : Blank) (items : List Item) : Bytes :=
  91 :: inside blank.val (items.map Item.padded) ++ [93]

def objectText (blank : Blank) (members : List Member) : Bytes :=
  123 :: inside blank.val (members.map Member.padded) ++ [125]

/-- The text is one of a value, with no white space around it. -/
inductive Writes : Bytes → Value → Prop
  | null : Writes (ascii "null") .null
  | bool (truth : Bool) : Writes (if truth then ascii "true" else ascii "false") (.bool truth)
  | number {literal : Bytes} (isNumeral : isNumeral literal = true) :
      Writes literal (.number (numberOf literal))
  | string (pieces : List Piece) : Writes (quoted pieces) (.string (decoded pieces))
  | array (blank : Blank) (items : List Item)
      (each : ∀ item ∈ items, Writes item.text item.value) :
      Writes (arrayText blank items) (.array (items.map Item.value))
  | object (blank : Blank) (members : List Member)
      (each : ∀ member ∈ members, Writes member.item.text member.item.value) :
      Writes (objectText blank members) (.object (members.map Member.entry))

/-- The text of an object. -/
structure ObjectText where
  before : Blank
  blank : Blank
  members : List Member
  each : ∀ member ∈ members, Writes member.item.text member.item.value
  behind : Blank

def ObjectText.text (object : ObjectText) : Bytes :=
  object.before.val ++ objectText object.blank object.members ++ object.behind.val

def ObjectText.entries (object : ObjectText) : List (Bytes × Value) :=
  object.members.map Member.entry

/-- The bytes are UTF-8: they are those of characters, none of them a surrogate. -/
def Utf8 (text : Bytes) : Prop :=
  ∃ codes : List Nat, (∀ code ∈ codes, code < 0xD800 ∨ 0xE000 ≤ code ∧ code < 0x110000) ∧
    text = codes.flatMap utf8

/-- The bytes are a JSON text of the value. -/
def Denotes (text : Bytes) (value : Value) : Prop :=
  Utf8 text ∧ ∃ (item : Item), Writes item.text item.value ∧ item.padded = text ∧
    item.value = value

section Bytes

def isNumberByte (byte : Byte) : Bool :=
  isDigit byte || byte == 43 || byte == 45 || byte == 46 || byte == 101 || byte == 69

def isTextByte (byte : Byte) : Bool := 32 ≤ byte || isInsignificant byte

theorem text_byte_of_large {byte : Byte} (large : 32 ≤ byte) : isTextByte byte = true := by
  simp [isTextByte, large]

theorem insignificant_text_byte {byte : Byte} (blank : isInsignificant byte = true) :
    isTextByte byte = true := by
  simp [isTextByte, blank]

theorem digits_number_bytes {digits : Bytes} (isDigits : isDigits digits = true) :
    ∀ byte ∈ digits, isNumberByte byte = true := by
  intro byte member
  simp only [Json.isDigits, Bool.and_eq_true, List.all_eq_true] at isDigits
  simp [isNumberByte, isDigits.2 byte member]

theorem drop_sign_bytes {text : Bytes} (bytes : ∀ byte ∈ dropSign text, isNumberByte byte = true) :
    ∀ byte ∈ text, isNumberByte byte = true := by
  intro byte member
  unfold dropSign at bytes
  split at bytes
  · rcases List.mem_cons.mp member with rfl | later
    · rfl
    · exact bytes byte later
  · rcases List.mem_cons.mp member with rfl | later
    · rfl
    · exact bytes byte later
  · exact bytes byte member

theorem exponent_bytes {text : Bytes} (isExponent : isExponent text = true) :
    ∀ byte ∈ text, isNumberByte byte = true := by
  cases text with
  | nil => exact nofun
  | cons mark rest =>
      simp only [Json.isExponent, Bool.and_eq_true, Bool.or_eq_true, beq_iff_eq] at isExponent
      obtain ⟨isMark, digits⟩ := isExponent
      intro byte member
      rcases List.mem_cons.mp member with rfl | later
      · rcases isMark with rfl | rfl
        · rfl
        · rfl
      · exact drop_sign_bytes (digits_number_bytes digits) byte later

theorem fraction_bytes {text : Bytes} (isFraction : isFraction text = true) :
    ∀ byte ∈ text, isNumberByte byte = true := by
  unfold Json.isFraction at isFraction
  split at isFraction
  · next rest =>
      obtain ⟨digits, exponent⟩ := Bool.and_eq_true_iff.mp isFraction
      intro byte member
      rcases List.mem_cons.mp member with rfl | later
      · rfl
      · rw [← List.takeWhile_append_dropWhile (p := isDigit) (l := rest)] at later
        rcases List.mem_append.mp later with early | late
        · exact digits_number_bytes digits byte early
        · exact exponent_bytes exponent byte late
  · exact exponent_bytes isFraction

theorem numeral_bytes {literal : Bytes} (isNumeral : isNumeral literal = true) :
    ∀ byte ∈ literal, isNumberByte byte = true := by
  simp only [Json.isNumeral, Bool.and_eq_true] at isNumeral
  obtain ⟨⟨whole, _⟩, fraction⟩ := isNumeral
  have unsigned : ∀ byte ∈ dropMinus literal, isNumberByte byte = true := by
    intro byte member
    rw [← List.takeWhile_append_dropWhile (p := isDigit) (l := dropMinus literal)] at member
    rcases List.mem_append.mp member with early | late
    · exact digits_number_bytes whole byte early
    · exact fraction_bytes fraction byte late
  intro byte member
  unfold dropMinus at unsigned
  split at unsigned
  · rcases List.mem_cons.mp member with rfl | later
    · rfl
    · exact unsigned byte later
  · exact unsigned byte member

theorem number_byte_large {byte : Byte} (isNumber : isNumberByte byte = true) : 32 ≤ byte := by
  simp only [isNumberByte, isDigit, Bool.or_eq_true, Bool.and_eq_true, decide_eq_true_eq,
    beq_iff_eq] at isNumber
  rcases isNumber with ((((⟨low, _⟩ | rfl) | rfl) | rfl) | rfl) | rfl
  · exact UInt8.le_trans (by decide) low
  all_goals decide

theorem short_letter_large {letter value : Byte} (known : shortValue letter = some value) :
    32 ≤ letter := by
  unfold shortValue at known
  split_ifs at known with same
  · rcases same with rfl | rfl | rfl
    all_goals decide
  all_goals
    subst letter
    decide

theorem x_digit_large {digit : Byte} (hex : isXDigit digit = true) : 32 ≤ digit := by
  simp only [isXDigit, isDigit, Bool.or_eq_true, Bool.and_eq_true, decide_eq_true_eq] at hex
  rcases hex with (⟨low, _⟩ | ⟨low, _⟩) | ⟨low, _⟩
  all_goals exact UInt8.le_trans (by decide) low

theorem piece_bytes (piece : Piece) : ∀ byte ∈ piece.text, 32 ≤ byte := by
  intro byte member
  cases piece with
  | plain plainByte isPlain =>
      rw [List.mem_singleton.mp member]
      simp only [Json.isPlain, Bool.and_eq_true, decide_eq_true_eq] at isPlain
      exact isPlain.1.1
  | short letter value known =>
      rcases List.mem_cons.mp member with rfl | last
      · decide
      · rw [List.mem_singleton.mp last]
        exact short_letter_large known
  | unicode digits four hex =>
      rcases List.mem_cons.mp member with rfl | later
      · decide
      · rcases List.mem_cons.mp later with rfl | digit
        · decide
        · exact x_digit_large (hex byte digit)

theorem quoted_bytes (pieces : List Piece) : ∀ byte ∈ quoted pieces, 32 ≤ byte := by
  intro byte member
  simp only [quoted, raw, List.cons_append, List.mem_cons, List.mem_append, List.mem_flatMap,
    List.not_mem_nil, or_false] at member
  rcases member with rfl | ⟨piece, _, inPiece⟩ | rfl
  · decide
  · exact piece_bytes piece byte inPiece
  · decide

theorem part_within (blank : Bytes) {parts : List Bytes} {part : Bytes} (member : part ∈ parts) :
    part <:+: inside blank parts := by
  induction parts with
  | nil => cases member
  | cons first parts ih =>
      cases parts with
      | nil =>
          rw [List.mem_singleton.mp member]
          exact List.infix_refl first
      | cons next parts =>
          rcases List.mem_cons.mp member with rfl | later
          · exact (List.prefix_append _ _).isInfix
          · have within := (ih later).trans (List.suffix_cons 44 _).isInfix
            exact within.trans (List.suffix_append first _).isInfix

theorem inside_bytes {blank : Bytes} {parts : List Bytes}
    (blankBytes : ∀ byte ∈ blank, isTextByte byte = true)
    (each : ∀ part ∈ parts, ∀ byte ∈ part, isTextByte byte = true) :
    ∀ byte ∈ inside blank parts, isTextByte byte = true := by
  induction parts with
  | nil => exact blankBytes
  | cons part parts ih =>
      have first := each part List.mem_cons_self
      cases parts with
      | nil => exact first
      | cons next parts =>
          have rest := ih fun other member => each other (List.mem_cons_of_mem part member)
          intro byte member
          simp only [inside, List.mem_append, List.mem_cons] at member
          rcases member with early | rfl | late
          · exact first byte early
          · rfl
          · exact rest byte late

theorem enclosed_bytes {first last : Byte} (opens : isTextByte first = true)
    (closes : isTextByte last = true) {inner : Bytes}
    (within : ∀ byte ∈ inner, isTextByte byte = true) :
    ∀ byte ∈ first :: inner ++ [last], isTextByte byte = true := by
  intro byte member
  simp only [List.cons_append, List.mem_cons, List.mem_append, List.not_mem_nil,
    or_false] at member
  rcases member with rfl | inInner | rfl
  · exact opens
  · exact within byte inInner
  · exact closes

theorem blank_bytes (blank : Blank) : ∀ byte ∈ blank.val, isTextByte byte = true :=
  fun byte member => insignificant_text_byte (blank.property byte member)

theorem padded_bytes {item : Item} (bytes : ∀ byte ∈ item.text, isTextByte byte = true) :
    ∀ byte ∈ item.padded, isTextByte byte = true := by
  intro byte member
  simp only [Item.padded, List.mem_append] at member
  rcases member with (before | within) | behind
  · exact blank_bytes item.before byte before
  · exact bytes byte within
  · exact blank_bytes item.behind byte behind

theorem member_bytes {member : Member} (bytes : ∀ byte ∈ member.item.text, isTextByte byte = true) :
    ∀ byte ∈ member.padded, isTextByte byte = true := by
  intro byte inMember
  simp only [Member.padded, Member.head, List.mem_append, List.mem_cons] at inMember
  rcases inMember with ((before | name) | behind) | rfl | value
  · exact blank_bytes member.before byte before
  · exact text_byte_of_large (quoted_bytes member.name byte name)
  · exact blank_bytes member.behindName byte behind
  · rfl
  · exact padded_bytes bytes byte value

theorem writes_bytes {text : Bytes} {value : Value} (writes : Writes text value) :
    ∀ byte ∈ text, isTextByte byte = true := by
  induction writes with
  | null => exact List.all_eq_true.mp rfl
  | bool truth =>
      cases truth with
      | true => exact List.all_eq_true.mp rfl
      | false => exact List.all_eq_true.mp rfl
  | number isNumeral =>
      intro byte member
      exact text_byte_of_large (number_byte_large (numeral_bytes isNumeral byte member))
  | string pieces =>
      intro byte member
      exact text_byte_of_large (quoted_bytes pieces byte member)
  | array blank items each ih =>
      apply enclosed_bytes (by decide) (by decide)
      apply inside_bytes (blank_bytes blank)
      intro part member
      obtain ⟨item, inItems, same⟩ := List.mem_map.mp member
      subst same
      exact padded_bytes (ih item inItems)
  | object blank members each ih =>
      apply enclosed_bytes (by decide) (by decide)
      apply inside_bytes (blank_bytes blank)
      intro part member
      obtain ⟨one, inMembers, same⟩ := List.mem_map.mp member
      subst same
      exact member_bytes (ih one inMembers)

theorem denotes_bytes {text : Bytes} {value : Value} (denotes : Denotes text value) :
    ∀ byte ∈ text, isTextByte byte = true := by
  obtain ⟨_, item, writes, same, _⟩ := denotes
  rw [← same]
  exact padded_bytes (writes_bytes writes)

theorem ascii_utf8 {text : Bytes} (small : ∀ byte ∈ text, byte < 128) : Utf8 text := by
  refine ⟨text.map UInt8.toNat, ?_, ?_⟩
  · intro code member
    obtain ⟨byte, _, same⟩ := List.mem_map.mp member
    have bound := byte.toNat_lt
    left
    omega
  · induction text with
    | nil => rfl
    | cons byte text ih =>
        have first : utf8 byte.toNat = [byte] := by
          have bound := UInt8.lt_iff_toNat_lt.mp (small byte List.mem_cons_self)
          rw [utf8, if_pos (by simpa using bound)]
          simp
        rw [List.map_cons, List.flatMap_cons, first,
          ← ih fun other member => small other (List.mem_cons_of_mem byte member)]
        rfl

end Bytes

section Decimals

theorem decimal_unsigned (number : Nat) : dropMinus (decimal number) = decimal number := by
  have digits := decimal_digits number
  cases written : decimal number with
  | nil => rfl
  | cons first rest =>
      rw [written] at digits
      obtain ⟨_, _, noMinus⟩ := digit_starts_number (digits first List.mem_cons_self)
      unfold dropMinus
      split
      · next same =>
          cases same
          exact absurd rfl noMinus
      · rfl

theorem decimal_numeral (number : Nat) : isNumeral (decimal number) = true := by
  have digits := decimal_digits number
  have noFraction : (decimal number).dropWhile isDigit = [] := List.dropWhile_eq_nil_iff.mpr digits
  have written : isDigits (decimal number) = true := by
    simpa [isDigits, decimal_ne_nil] using digits
  unfold isNumeral
  rw [decimal_unsigned, List.takeWhile_eq_self_iff.mpr digits, noFraction]
  simp only [written, Bool.true_and, isFraction, isExponent, Bool.and_true]
  by_cases zero : number = 0
  · subst zero
    rfl
  · simp [decimal_head zero]

theorem number_of_decimal (number : Nat) : numberOf (decimal number) = number := by
  have digits := decimal_digits number
  have other : ∀ byte ∈ decimal number, byte ≠ 45 ∧ byte ≠ 46 ∧ byte ≠ 69 ∧ byte ≠ 101 := by
    intro byte member
    have digit := digits byte member
    refine ⟨?_, ?_, ?_, ?_⟩
    all_goals
      rintro rfl
      cases digit
  have unsigned : (decimal number).head? ≠ some 45 := by
    intro head
    exact (other 45 (List.mem_of_head? head)).1 rfl
  have mantissa : (decimal number).takeWhile (fun byte => byte ≠ 101 && byte ≠ 69) =
      decimal number := by
    apply List.takeWhile_eq_self_iff.mpr
    intro byte member
    obtain ⟨_, _, noUpper, noLower⟩ := other byte member
    simp [noUpper, noLower]
  have whole : (decimal number).takeWhile (· ≠ 46) = decimal number := by
    apply List.takeWhile_eq_self_iff.mpr
    intro byte member
    simpa using (other byte member).2.1
  have behind : (decimal number).drop ((decimal number).length + 1) = [] :=
    List.drop_eq_nil_of_le (Nat.le_succ _)
  unfold numberOf
  simp only [decimal_unsigned, mantissa, whole, behind, if_neg unsigned, List.append_nil,
    numeral_decimal]
  simp [exponentOf, numeral, numeralFrom]

end Decimals

end Aorta.Library.Json
