import Aorta.Http.HttpHandler
import Aorta.Http.HttpMessage
import Aorta.Library.BoundedNumeral

/-!
# The three digit loops

Chunk sizes, `Content-Length` and task ids are read by loops of one shape, each
with its base and its limit: `MAX_BODY_SIZE` for the first two and the largest
`std::size_t` for the third. Each accepts the numerals up to its limit and no
others, and none of them wraps.
-/

namespace Aorta.Http

open Aorta.Library.Ascii Aorta.Library.BoundedNumeral Aorta.Library.Decimal
open HttpParser HttpHandler

set_option autoImplicit false

theorem digit_within_body : ∀ byte, isDigit byte → digitValue byte ≤ maxBodySize :=
  fun _ digit => Nat.le_trans (digit_value_le digit) (by decide)

theorem hex_within_body : ∀ byte, isXDigit byte → hexValue byte ≤ maxBodySize :=
  fun _ digit => Nat.le_trans (hex_value_le digit) (by decide)

theorem digit_within_size : ∀ byte, isDigit byte → digitValue byte ≤ maxSize :=
  fun _ digit => Nat.le_trans (digit_value_le digit) (by decide)

theorem chunk_size_digits_scan (size : Nat) (text : Bytes) :
    chunkSizeDigits size text = (scan 16 maxBodySize isXDigit hexValue size text).toOption := by
  induction text generalizing size with
  | nil => rfl
  | cons character rest ih =>
      unfold chunkSizeDigits scan
      rw [ih]
      split_ifs
      · rfl
      · rfl
      · rfl

theorem content_length_digits_scan (length : Nat) (text : Bytes) :
    contentLengthDigits length text =
      (scan 10 maxBodySize isDigit digitValue length text).toExcept .badRequest .bodyTooLarge := by
  induction text generalizing length with
  | nil => rfl
  | cons character rest ih =>
      unfold contentLengthDigits scan
      rw [ih]
      split_ifs
      · rfl
      · rfl
      · rfl

theorem task_id_digits_scan (id : Nat) (text : Bytes) :
    taskIdDigits id text = (scan 10 maxSize isDigit digitValue id text).toOption := by
  induction text generalizing id with
  | nil => rfl
  | cons character rest ih =>
      unfold taskIdDigits scan
      rw [ih]
      split_ifs
      · rfl
      · rfl
      · rfl

/-! ### The loops over `std::size_t` -/

def chunkSizeWord : Bytes → Reading (BitVec 64) :=
  scanWord 16 (BitVec.ofNat 64 maxBodySize) isXDigit hexValue 0

def contentLengthWord : Bytes → Reading (BitVec 64) :=
  scanWord 10 (BitVec.ofNat 64 maxBodySize) isDigit digitValue 0

def taskIdWord : Bytes → Reading (BitVec 64) :=
  scanWord 10 (BitVec.ofNat 64 maxSize) isDigit digitValue 0

theorem chunk_size_word_eq (text : Bytes) :
    ((chunkSizeWord text).map BitVec.toNat).toOption = chunkSizeDigits 0 text := by
  rw [chunk_size_digits_scan]
  apply congrArg Reading.toOption
  exact scan_word_eq (by decide) hex_within_body (by decide) text

theorem content_length_word_eq (text : Bytes) :
    ((contentLengthWord text).map BitVec.toNat).toExcept .badRequest .bodyTooLarge =
      contentLengthDigits 0 text := by
  rw [content_length_digits_scan]
  apply congrArg (Reading.toExcept ParseResult.badRequest ParseResult.bodyTooLarge)
  exact scan_word_eq (by decide) digit_within_body (by decide) text

theorem task_id_word_eq (text : Bytes) :
    ((taskIdWord text).map BitVec.toNat).toOption = taskIdDigits 0 text := by
  rw [task_id_digits_scan]
  apply congrArg Reading.toOption
  exact scan_word_eq (by decide) digit_within_size (by decide) text

/-! ### Chunk sizes -/

/-- The part of a chunk-size line in front of its extension, without blanks around it. -/
def chunkDigits (line : Bytes) : Bytes := trim (line.takeWhile fun byte => byte != semicolon)

theorem is_valid_chunk_size_digits (line : Bytes) :
    isValidChunkSize line =
      if (chunkDigits line).isEmpty then none else chunkSizeDigits 0 (chunkDigits line) := by
  obtain ⟨value, extension, rfl, plain, extends'⟩ := extension_split line
  have front : (value ++ extension).takeWhile (fun byte => byte != semicolon) = value := by
    rw [List.takeWhile_append_of_pos]
    · cases extension with
      | nil => rw [List.takeWhile_nil, List.append_nil]
      | cons first rest =>
          rw [extends' first rfl, List.takeWhile_cons_of_neg (by simp), List.append_nil]
    · intro byte member
      rw [bne_iff_ne]
      intro same
      rw [same] at member
      exact plain member
  rw [is_valid_chunk_size_extension plain extends', chunkDigits, front]

theorem is_valid_chunk_size_exact (line : Bytes) (size : Nat) :
    isValidChunkSize line = some size ↔
      chunkDigits line ≠ [] ∧ (chunkDigits line).all isXDigit ∧
        numeral 16 hexValue (chunkDigits line) = size ∧ size ≤ 2 ^ 20 := by
  rw [is_valid_chunk_size_digits]
  split_ifs with empty
  · simp only [false_iff, not_and]
    intro some
    exact absurd (List.isEmpty_iff.mp empty) some
  · rw [chunk_size_digits_eq_some (Nat.zero_le _)]
    constructor
    · intro reads
      exact ⟨fun none => empty (List.isEmpty_iff.mpr none), reads⟩
    · intro reads
      exact reads.2

/-! ### Content-Length -/

/-- What the value of a `Content-Length` field is read as. -/
def contentLengthOf (value : Bytes) : Except ParseResult Nat :=
  if value.isEmpty then .error .badRequest else contentLengthDigits 0 value

theorem read_content_length_eq {name : Bytes}
    (field : equalsIgnoreCase name (ascii "Content-Length") = true) (value : Bytes)
    (parser : HttpParser) :
    readContentLength name value parser =
      match contentLengthOf value with
      | .error error => (some error, parser)
      | .ok length =>
          if parser.hasContentLength ∧ parser.contentLength ≠ length then
            (some .badRequest, parser)
          else (none, { parser with contentLength := length, hasContentLength := true }) := by
  unfold readContentLength contentLengthOf
  rw [if_pos field]
  cases value with
  | nil => rfl
  | cons first rest => rfl

theorem read_first_content_length (value : Bytes) {name : Bytes} {parser : HttpParser}
    (field : equalsIgnoreCase name (ascii "Content-Length") = true)
    (first : parser.hasContentLength = false) :
    (∀ length, readContentLength name value parser =
        (none, { parser with contentLength := length, hasContentLength := true }) ↔
      contentLengthOf value = .ok length) ∧
    ∀ error, readContentLength name value parser = (some error, parser) ↔
      contentLengthOf value = .error error := by
  rw [read_content_length_eq field]
  cases contentLengthOf value with
  | error error => simp
  | ok length => simp [first]

theorem content_length_of_ok (value : Bytes) (length : Nat) :
    contentLengthOf value = .ok length ↔
      value ≠ [] ∧ value.all isDigit ∧ numeral 10 digitValue value = length ∧
        length ≤ 2 ^ 20 := by
  unfold contentLengthOf
  split_ifs with empty
  · simp only [false_iff, not_and]
    intro some
    exact absurd (List.isEmpty_iff.mp empty) some
  · rw [content_length_digits_eq_ok (Nat.zero_le _)]
    constructor
    · intro reads
      exact ⟨fun none => empty (List.isEmpty_iff.mpr none), reads⟩
    · intro reads
      exact reads.2

theorem content_length_of_too_large (value : Bytes) :
    contentLengthOf value = .error .bodyTooLarge ↔
      ∃ front, front <+: value ∧ front.all isDigit ∧ 2 ^ 20 < numeral 10 digitValue front := by
  have reads : contentLengthDigits 0 value = .error .bodyTooLarge ↔
      ∃ front, front <+: value ∧ front.all isDigit ∧ 2 ^ 20 < numeral 10 digitValue front := by
    rw [content_length_digits_scan, (Reading.to_except_eq_error (by decide) _).2]
    exact scan_eq_too_large (by decide) digit_within_body (Nat.zero_le _) value
  unfold contentLengthOf
  split_ifs with empty
  · rw [← reads, List.isEmpty_iff.mp empty]
    decide
  · exact reads

/-- Everything else is a bad request: an empty value, or one with a byte that is no digit
behind digits that still denote a number within the limit. -/
theorem content_length_of_bad_request (value : Bytes) :
    contentLengthOf value = .error .badRequest ↔
      value = [] ∨ (¬ value.all isDigit ∧
        ∀ front, front <+: value → front.all isDigit → numeral 10 digitValue front ≤ 2 ^ 20) := by
  unfold contentLengthOf
  split_ifs with empty
  · simp only [List.isEmpty_iff.mp empty, true_or]
  · rw [content_length_digits_scan, (Reading.to_except_eq_error (by decide) _).1,
      scan_eq_no_digit (by decide) digit_within_body (Nat.zero_le _)]
    constructor
    · intro stops
      exact .inr stops
    · intro stops
      rcases stops with none | stops
      · exact absurd (List.isEmpty_iff.mpr none) empty
      · exact stops

/-! ### Task ids -/

theorem parse_task_id_digits (digits : Bytes) :
    parseTaskId (ascii "/tasks/" ++ digits) =
      if digits.isEmpty then none else taskIdDigits 0 digits := by
  have behind : (ascii "/tasks/" ++ digits).drop 7 = digits := List.drop_left' rfl
  unfold parseTaskId
  rw [List.isPrefixOf_iff_prefix.mpr (List.prefix_append _ _), behind]
  rfl

theorem parse_task_id_exact (target : Bytes) (id : Nat) :
    parseTaskId target = some id ↔
      ∃ digits, target = ascii "/tasks/" ++ digits ∧ digits ≠ [] ∧ digits.all isDigit ∧
        numeral 10 digitValue digits = id ∧ id ≤ 2 ^ 64 - 1 := by
  have loop (digits : Bytes) : taskIdDigits 0 digits = some id ↔
      digits.all isDigit ∧ numeral 10 digitValue digits = id ∧ id ≤ 2 ^ 64 - 1 := by
    rw [task_id_digits_scan, Reading.to_option_eq_some]
    exact scan_eq_value (by decide) digit_within_size (Nat.zero_le _) digits id
  constructor
  · intro parses
    have starts : ascii "/tasks/" <+: target := by
      unfold parseTaskId at parses
      split_ifs at parses with other
      rwa [Bool.not_eq_true', Bool.not_eq_false, List.isPrefixOf_iff_prefix] at other
    obtain ⟨digits, rfl⟩ := starts
    rw [parse_task_id_digits] at parses
    split_ifs at parses with empty
    exact ⟨digits, rfl, fun none => empty (List.isEmpty_iff.mpr none), (loop digits).mp parses⟩
  · intro parts
    obtain ⟨digits, rfl, some, reads⟩ := parts
    rw [parse_task_id_digits, if_neg (by simpa using some)]
    exact (loop digits).mpr reads

theorem parse_task_id_decimal (zeros : Nat) (id : BitVec 64) :
    parseTaskId (ascii "/tasks/" ++ (List.replicate zeros 48 ++ decimal id.toNat)) =
      some id.toNat := by
  have small := id.isLt
  apply (parse_task_id_exact _ _).mpr
  have ten : 0 < 10 := by decide
  have reads := scan_eq_value ten digit_within_size (Nat.zero_le _)
    (List.replicate zeros 48 ++ decimal id.toNat) id.toNat
  rw [scan_zeros rfl rfl, scan_eq_value (by decide) digit_within_size (Nat.zero_le _)] at reads
  refine ⟨_, rfl, ?_, reads.mp ⟨?_, numeral_decimal id.toNat, Nat.le_pred_of_lt small⟩⟩
  · simp [decimal_ne_nil]
  · exact List.all_eq_true.mpr (decimal_digits id.toNat)

/-- Each loop accepts the numerals up to its limit and gives their value, for every text;
and over `std::size_t` it computes the same as over the natural numbers. -/
theorem bounded_numbers_are_exact (text : Bytes) :
    (∀ size, isValidChunkSize text = some size ↔
      chunkDigits text ≠ [] ∧ (chunkDigits text).all isXDigit ∧
        numeral 16 hexValue (chunkDigits text) = size ∧ size ≤ 2 ^ 20) ∧
    (∀ length, contentLengthOf text = .ok length ↔
      text ≠ [] ∧ text.all isDigit ∧ numeral 10 digitValue text = length ∧ length ≤ 2 ^ 20) ∧
    (contentLengthOf text = .error .bodyTooLarge ↔
      ∃ front, front <+: text ∧ front.all isDigit ∧ 2 ^ 20 < numeral 10 digitValue front) ∧
    (contentLengthOf text = .error .badRequest ↔
      text = [] ∨ (¬ text.all isDigit ∧
        ∀ front, front <+: text → front.all isDigit → numeral 10 digitValue front ≤ 2 ^ 20)) ∧
    (∀ name parser, equalsIgnoreCase name (ascii "Content-Length") = true →
      parser.hasContentLength = false →
        (∀ length, readContentLength name text parser =
            (none, { parser with contentLength := length, hasContentLength := true }) ↔
          contentLengthOf text = .ok length) ∧
        ∀ error, readContentLength name text parser = (some error, parser) ↔
          contentLengthOf text = .error error) ∧
    (∀ id, parseTaskId text = some id ↔
      ∃ digits, text = ascii "/tasks/" ++ digits ∧ digits ≠ [] ∧ digits.all isDigit ∧
        numeral 10 digitValue digits = id ∧ id ≤ 2 ^ 64 - 1) ∧
    (∀ zeros, ∀ id : BitVec 64,
      parseTaskId (ascii "/tasks/" ++ (List.replicate zeros 48 ++ decimal id.toNat)) =
        some id.toNat) ∧
    (∀ zeros, chunkSizeDigits 0 (List.replicate zeros 48 ++ text) = chunkSizeDigits 0 text ∧
      contentLengthDigits 0 (List.replicate zeros 48 ++ text) = contentLengthDigits 0 text ∧
      taskIdDigits 0 (List.replicate zeros 48 ++ text) = taskIdDigits 0 text) ∧
    ((chunkSizeWord text).map BitVec.toNat).toOption = chunkSizeDigits 0 text ∧
    ((contentLengthWord text).map BitVec.toNat).toExcept .badRequest .bodyTooLarge =
      contentLengthDigits 0 text ∧
    ((taskIdWord text).map BitVec.toNat).toOption = taskIdDigits 0 text := by
  refine ⟨is_valid_chunk_size_exact text, content_length_of_ok text,
    content_length_of_too_large text, content_length_of_bad_request text,
    fun _ _ => read_first_content_length text, parse_task_id_exact text, parse_task_id_decimal, ?_,
    chunk_size_word_eq text, content_length_word_eq text, task_id_word_eq text⟩
  intro zeros
  simp only [chunk_size_digits_scan, content_length_digits_scan, task_id_digits_scan]
  refine ⟨?_, ?_, ?_⟩
  · rw [scan_zeros rfl rfl]
  · rw [scan_zeros rfl rfl]
  · rw [scan_zeros rfl rfl]

end Aorta.Http
