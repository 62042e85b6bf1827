import Mathlib.Data.FinEnum
import Mathlib.Algebra.GroupWithZero.Nat
import Mathlib.Algebra.Order.Group.Nat
import Mathlib.Data.List.Count
import Mathlib.Tactic.MkIffOfInductiveProp
import Aorta.Http.HttpWalk

/-!
# The request grammar

What a request looks like on the wire, independent of how a parser goes about
it: a request line, header fields, and a body framed by nothing, by a length, or
by chunks. `Message.Valid` states the grammar with all its limits, over whole
field lists and chunk lists. The parser accepts exactly the valid messages
(`Aorta.Http.HttpGrammar`).
-/

namespace Aorta.Http

open Aorta.Library.Ascii Aorta.Library.Search HttpParser

set_option autoImplicit false

/-- Only the bytes of the list are looked at, not all bytes there are. -/
instance decidableBytes (bytes : Bytes) (condition : Byte → Prop) [DecidablePred condition] :
    Decidable (∀ byte ∈ bytes, condition byte) :=
  List.decidableBAll condition bytes

instance decidableByte (byte : Option Byte) (condition : Byte → Prop)
    [DecidablePred condition] : Decidable (∀ other ∈ byte, condition other) :=
  Option.decidableForallMem byte

def LineEndFree (line : Bytes) : Prop := firstOccurrence crlf line = none

instance (line : Bytes) : Decidable (LineEndFree line) :=
  inferInstanceAs (Decidable (_ = _))

/-- A field line: a name, a colon, blanks, and a value that starts with none. -/
structure Field where
  name : Bytes
  pad : Bytes
  value : Bytes
deriving DecidableEq, Repr

namespace Field

def line (field : Field) : Bytes := field.name ++ colon :: (field.pad ++ field.value)

def header (field : Field) : Bytes × Bytes := (field.name, field.value)

def isHost (field : Field) : Bool := equalsIgnoreCase field.name (ascii "Host")

def isContentLength (field : Field) : Bool :=
  equalsIgnoreCase field.name (ascii "Content-Length")

def isTransferEncoding (field : Field) : Bool :=
  equalsIgnoreCase field.name (ascii "Transfer-Encoding")

/-- The number a `Content-Length` value denotes. -/
def length (field : Field) : Nat := numeral 10 digitValue field.value

def isChunked (field : Field) : Bool := equalsIgnoreCase (trim field.value) (ascii "chunked")

@[mk_iff] structure WellFormed (field : Field) : Prop where
  name : isValidHeaderName field.name
  pad : ∀ byte ∈ field.pad, isBlank byte
  value : ∀ byte ∈ field.value.head?, !isBlank byte
  free : LineEndFree field.line

instance (field : Field) : Decidable field.WellFormed :=
  decidable_of_iff _ (wellFormed_iff field).symm

end Field

/-- The bytes of a block of field lines, line ends included. -/
def blockSize (fields : List Field) : Nat :=
  (fields.map fun field => field.line.length + 2).sum

/-- A field section the parser can take, up to the checks at its end. -/
@[mk_iff] structure Admissible (fields : List Field) : Prop where
  wellFormed : ∀ field ∈ fields, field.WellFormed
  lineSize : ∀ field ∈ fields, field.line.length ≤ maxHeaderLineSize
  size : blockSize fields ≤ maxHeadersSize
  count : fields.length ≤ maxHeaderCount
  hosts : fields.countP Field.isHost ≤ 1
  host : ∀ field ∈ fields, field.isHost → field.value ≠ []
  digits : ∀ field ∈ fields, field.isContentLength →
    field.value ≠ [] ∧ field.value.all isDigit
  bound : ∀ field ∈ fields, field.isContentLength → field.length ≤ maxBodySize
  agree : ∀ first ∈ fields, ∀ second ∈ fields, first.isContentLength →
    second.isContentLength → first.length = second.length
  encodings : fields.countP Field.isTransferEncoding ≤ 1
  chunked : ∀ field ∈ fields, field.isTransferEncoding → field.isChunked

instance (fields : List Field) : Decidable (Admissible fields) :=
  decidable_of_iff _ (admissible_iff fields).symm

theorem block_size_sublist {fields others : List Field} (fewer : fields.Sublist others) :
    blockSize fields ≤ blockSize others := by
  induction fewer with
  | slnil => exact Nat.le_refl _
  | cons field _ ih =>
      simp only [blockSize, List.map_cons, List.sum_cons] at ih ⊢
      omega
  | cons_cons field _ ih =>
      simp only [blockSize, List.map_cons, List.sum_cons] at ih ⊢
      omega

theorem Admissible.fewer {fields others : List Field} (whole : Admissible others)
    (fewer : fields.Sublist others) : Admissible fields where
  wellFormed := fun field member => whole.wellFormed field (fewer.subset member)
  lineSize := fun field member => whole.lineSize field (fewer.subset member)
  size := (block_size_sublist fewer).trans whole.size
  count := fewer.length_le.trans whole.count
  hosts := fewer.countP_le.trans whole.hosts
  host := fun field member => whole.host field (fewer.subset member)
  digits := fun field member => whole.digits field (fewer.subset member)
  bound := fun field member => whole.bound field (fewer.subset member)
  agree := fun first inFirst second inSecond =>
    whole.agree first (fewer.subset inFirst) second (fewer.subset inSecond)
  encodings := fewer.countP_le.trans whole.encodings
  chunked := fun field member => whole.chunked field (fewer.subset member)

/-- A chunk-size line: hexadecimal digits, blanks around them, an extension. -/
structure SizeLine where
  left : Bytes
  digits : Bytes
  right : Bytes
  extension : Bytes
deriving DecidableEq, Repr

namespace SizeLine

def line (size : SizeLine) : Bytes :=
  size.left ++ size.digits ++ size.right ++ size.extension

def number (size : SizeLine) : Nat := numeral 16 hexValue size.digits

@[mk_iff] structure WellFormed (size : SizeLine) : Prop where
  left : ∀ byte ∈ size.left, isBlank byte
  some : size.digits ≠ []
  digits : size.digits.all isXDigit
  right : ∀ byte ∈ size.right, isBlank byte
  extension : ∀ byte ∈ size.extension.head?, byte = semicolon
  bound : size.number ≤ maxBodySize
  lineSize : size.line.length ≤ maxHeaderLineSize
  free : LineEndFree size.line

instance (size : SizeLine) : Decidable size.WellFormed :=
  decidable_of_iff _ (wellFormed_iff size).symm

end SizeLine

structure Chunk where
  size : SizeLine
  content : Bytes
deriving DecidableEq, Repr

namespace Chunk

@[mk_iff] structure Valid (chunk : Chunk) : Prop where
  size : chunk.size.WellFormed
  number : chunk.size.number = chunk.content.length
  some : chunk.content ≠ []

instance (chunk : Chunk) : Decidable chunk.Valid :=
  decidable_of_iff _ (valid_iff chunk).symm

def pieces (chunk : Chunk) : List Piece :=
  [.line chunk.size.line, .data chunk.content, .data crlf]

end Chunk

/-- The trailers are checked like header fields and then dropped. -/
@[mk_iff] structure ValidTrailers (trailers : List Field) : Prop where
  wellFormed : ∀ field ∈ trailers, field.WellFormed
  count : trailers.length ≤ maxHeaderCount
  size : blockSize trailers + 2 ≤ maxHeadersSize

instance (trailers : List Field) : Decidable (ValidTrailers trailers) :=
  decidable_of_iff _ (validTrailers_iff trailers).symm

inductive Framing where
  | empty
  | length (content : Bytes)
  | chunked (chunks : List Chunk) (last : SizeLine) (trailers : List Field)
deriving DecidableEq, Repr

def fieldPieces (fields : List Field) : List Piece :=
  fields.map fun field => .line field.line

def chunkPieces (chunks : List Chunk) : List Piece := chunks.flatMap Chunk.pieces

def chunkContent (chunks : List Chunk) : Bytes := chunks.flatMap Chunk.content

theorem field_pieces_bytes (fields : List Field) :
    piecesBytes (fieldPieces fields) = fields.flatMap fun field => field.line ++ crlf := by
  induction fields with
  | nil => rfl
  | cons field fields ih =>
      rw [List.flatMap_cons, ← ih]
      rfl

theorem chunk_pieces_bytes (chunks : List Chunk) :
    piecesBytes (chunkPieces chunks) =
      chunks.flatMap fun chunk => chunk.size.line ++ crlf ++ chunk.content ++ crlf := by
  induction chunks with
  | nil => rfl
  | cons chunk chunks ih =>
      have first : chunkPieces (chunk :: chunks) = chunk.pieces ++ chunkPieces chunks := rfl
      rw [List.flatMap_cons, ← ih, first, pieces_bytes_append]
      simp [Chunk.pieces, Piece.bytes]

namespace Framing

def body : Framing → Bytes
  | .empty => []
  | .length content => content
  | .chunked chunks _ _ => chunkContent chunks

def pieces : Framing → List Piece
  | .empty => [.data []]
  | .length content => [.data content]
  | .chunked chunks last trailers =>
      chunkPieces chunks ++ .line last.line :: (fieldPieces trailers ++ [.line []])

/-- The framing is the one the header fields announce. -/
def Valid (fields : List Field) : Framing → Prop
  | .empty =>
      (∀ field ∈ fields, ¬field.isContentLength) ∧
        ∀ field ∈ fields, ¬field.isTransferEncoding
  | .length content =>
      (∃ field ∈ fields, field.isContentLength) ∧
        (∀ field ∈ fields, field.isContentLength → field.length = content.length) ∧
        ∀ field ∈ fields, ¬field.isTransferEncoding
  | .chunked chunks last trailers =>
      (∀ field ∈ fields, ¬field.isContentLength) ∧
        (∃ field ∈ fields, field.isTransferEncoding) ∧
        (∀ chunk ∈ chunks, chunk.Valid) ∧
        (chunkContent chunks).length ≤ maxBodySize ∧
        last.WellFormed ∧ last.number = 0 ∧ ValidTrailers trailers

instance (fields : List Field) (framing : Framing) : Decidable (framing.Valid fields) :=
  match framing with
  | .empty => inferInstanceAs (Decidable (_ ∧ _))
  | .length _ => inferInstanceAs (Decidable (_ ∧ _))
  | .chunked _ _ _ => inferInstanceAs (Decidable (_ ∧ _))

end Framing

structure Message where
  method : Bytes
  target : Bytes
  fields : List Field
  framing : Framing
deriving DecidableEq, Repr

namespace Message

def requestLine (message : Message) : Bytes :=
  message.method ++ space :: (message.target ++ space :: ascii "HTTP/1.1")

def headPieces (message : Message) : List Piece :=
  .line message.requestLine :: (fieldPieces message.fields ++ [.line []])

/-- The request line and the header section, blank line included. -/
def head (message : Message) : Bytes := piecesBytes message.headPieces

def pieces (message : Message) : List Piece := message.headPieces ++ message.framing.pieces

/-- The message on the wire. -/
def encode (message : Message) : Bytes := piecesBytes message.pieces

def request (message : Message) : HttpRequest where
  method := message.method
  target := message.target
  version := ascii "HTTP/1.1"
  headers := message.fields.map Field.header
  body := message.framing.body

@[mk_iff] structure Valid (message : Message) : Prop where
  method : isValidMethod message.method
  target : isValidTarget message.target
  targetSpace : space ∉ message.target
  lineSize : message.requestLine.length ≤ maxRequestLineSize
  fields : Admissible message.fields
  headSize : blockSize message.fields + 2 ≤ maxHeadersSize
  host : message.fields.countP Field.isHost = 1
  framing : message.framing.Valid message.fields

instance (message : Message) : Decidable message.Valid :=
  decidable_of_iff _ (valid_iff message).symm

theorem encode_eq (message : Message) :
    message.encode = message.head ++ piecesBytes message.framing.pieces := by
  simp only [encode, pieces, head, pieces_bytes_append]

theorem encode_positive (message : Message) : 0 < message.encode.length := by
  simp only [encode, pieces, headPieces, List.cons_append, pieces_bytes_cons, Piece.bytes, crlf,
    List.length_append, List.length_cons]
  omega

end Message

section Lexical

/-! ### Lines that hold no line end -/

theorem line_end_free_of_no_cr {line : Bytes} (absent : (13 : Byte) ∉ line) :
    LineEndFree line := by
  unfold LineEndFree
  rw [first_occurrence_eq_none]
  intro offset bound occurs
  apply absent
  have first : (13 : Byte) ∈ line.drop offset := occurs.subset (by decide)
  exact List.mem_of_mem_drop first

theorem token_byte_ne_cr {byte : Byte} (token : isTokenByte byte) : byte ≠ 13 := by
  intro same
  subst same
  revert token
  decide

theorem token_byte_ne_space {byte : Byte} (token : isTokenByte byte) : byte ≠ space := by
  intro same
  subst same
  revert token
  decide

theorem token_byte_ne_colon {byte : Byte} (token : isTokenByte byte) : byte ≠ colon := by
  intro same
  subst same
  revert token
  decide

theorem is_token_iff (value : Bytes) :
    isToken value ↔ value ≠ [] ∧ ∀ byte ∈ value, isTokenByte byte := by
  simp [isToken]

theorem is_valid_target_iff (target : Bytes) :
    isValidTarget target ↔
      target ≠ [] ∧ ∀ byte ∈ target, ¬byte < 0x20 ∧ byte ≠ 0x7F := by
  simp [isValidTarget]

theorem Message.Valid.request_line_free {message : Message} (valid : message.Valid) :
    LineEndFree message.requestLine := by
  apply line_end_free_of_no_cr
  unfold Message.requestLine
  intro member
  simp only [List.mem_append, List.mem_cons] at member
  rcases member with inMethod | atSpace | inTarget | atSpace | inVersion
  · exact token_byte_ne_cr (((is_token_iff _).mp valid.method).2 _ inMethod) rfl
  · revert atSpace
    decide
  · exact (((is_valid_target_iff _).mp valid.target).2 _ inTarget).1 (by decide)
  · revert atSpace
    decide
  · revert inVersion
    decide

/-! ### The request line -/

theorem split_request_line_parts {method target : Bytes} (version : Bytes)
    (noFirst : space ∉ method) (noSecond : space ∉ target) :
    splitRequestLine (method ++ space :: (target ++ space :: version)) =
      if space ∈ version ∨ method = [] ∨ target = [] ∨ version = [] then none
      else some (method, target, version) := by
  have regroup : method ++ space :: (target ++ space :: version) =
      (method ++ space :: target) ++ space :: version := by simp
  have position : method.length + 1 + target.length + 1 =
      (method ++ space :: target).length + 1 := by
    simp only [List.length_append, List.length_cons]
    omega
  have third : (find (method ++ space :: (target ++ space :: version)) [space]
      (method.length + 1 + target.length + 1)).isSome ↔ space ∈ version := by
    rw [position, regroup, find_after, Option.isSome_map, ← not_iff_not,
      Option.not_isSome_iff_eq_none, first_occurrence_item_eq_none]
  have middle : substr (method ++ space :: (target ++ space :: version)) (method.length + 1)
      (method.length + 1 + target.length - method.length - 1) = target := by
    have count : method.length + 1 + target.length - method.length - 1 = target.length := by
      omega
    rw [substr, ← List.drop_drop, List.drop_left, List.drop_succ_cons, List.drop_zero, count,
      List.take_left]
  have last : (method ++ space :: (target ++ space :: version)).drop
      (method.length + 1 + target.length + 1) = version := by
    rw [position, regroup, ← List.drop_drop, List.drop_left, List.drop_succ_cons,
      List.drop_zero]
  have blank : (method.length = 0 ∨ method.length + 1 + target.length = method.length + 1 ∨
      method.length + 1 + target.length + 1 ≥
        (method ++ space :: (target ++ space :: version)).length) ↔
      method = [] ∨ target = [] ∨ version = [] := by
    simp only [← List.length_eq_zero_iff, List.length_append, List.length_cons]
    omega
  simp only [splitRequestLine, find_zero, first_occurrence_item _ noFirst,
    Option.bind_eq_bind, Option.bind_some, find_after, first_occurrence_item _ noSecond,
    Option.map_some]
  simp only [third, blank, middle, last, substr_zero, List.take_left]
  by_cases spaced : space ∈ version
  · simp [spaced]
  · simp [spaced]

theorem split_request_line_eq_some (line method target version : Bytes) :
    splitRequestLine line = some (method, target, version) ↔
      line = method ++ space :: (target ++ space :: version) ∧
        space ∉ method ∧ space ∉ target ∧ space ∉ version ∧
        method ≠ [] ∧ target ≠ [] ∧ version ≠ [] := by
  constructor
  · intro parts
    have found := parts
    simp only [splitRequestLine, Option.bind_eq_bind, Option.bind_eq_some_iff, find_zero]
      at found
    obtain ⟨firstSpace, first, secondSpace, second, -⟩ := found
    obtain ⟨before, rest, rfl, rfl, noFirst⟩ := first_occurrence_item_split first
    rw [find_after, Option.map_eq_some_iff] at second
    obtain ⟨offset, second, -⟩ := second
    obtain ⟨middle, last, rfl, rfl, noSecond⟩ := first_occurrence_item_split second
    rw [split_request_line_parts last noFirst noSecond] at parts
    split_ifs at parts with wrong
    cases parts
    simp only [not_or] at wrong
    exact ⟨rfl, noFirst, noSecond, wrong⟩
  · intro parts
    obtain ⟨rfl, noFirst, noSecond, noThird, someMethod, someTarget, someVersion⟩ := parts
    rw [split_request_line_parts version noFirst noSecond, if_neg (by tauto)]

/-! ### Field lines -/

theorem split_name_eq_some (line name : Bytes) (colonAt : Nat) :
    splitName line = some (name, colonAt) ↔
      isValidHeaderName name ∧ colonAt = name.length ∧
        ∃ rest, line = name ++ colon :: rest := by
  constructor
  · intro split
    simp only [splitName, Option.bind_eq_bind, Option.bind_eq_some_iff, find_zero] at split
    obtain ⟨offset, found, split⟩ := split
    obtain ⟨before, rest, rfl, rfl, -⟩ := first_occurrence_item_split found
    simp only [substr_zero, List.take_left] at split
    split_ifs at split with noName invalid
    cases split
    simp only [Bool.not_eq_true', Bool.not_eq_false] at invalid
    exact ⟨invalid, rfl, rest, rfl⟩
  · intro split
    obtain ⟨valid, rfl, rest, rfl⟩ := split
    obtain ⟨someName, token⟩ := (is_token_iff name).mp valid
    have noColon : colon ∉ name := by
      intro member
      exact token_byte_ne_colon (token _ member) rfl
    have nonzero : name.length ≠ 0 := by simpa using someName
    simp only [splitName, find_zero, first_occurrence_item rest noColon, Option.bind_eq_bind,
      Option.bind_some, substr_zero, List.take_left, if_neg nonzero, valid]
    rfl

theorem drop_blanks {pad value : Bytes} (blanks : ∀ byte ∈ pad, isBlank byte)
    (starts : ∀ byte ∈ value.head?, !isBlank byte) :
    (pad ++ value).dropWhile isBlank = value := by
  rw [List.dropWhile_append_of_pos blanks]
  cases value with
  | nil => rfl
  | cons first rest =>
      have solid : isBlank first = false := by simpa using starts first rfl
      simp [List.dropWhile, solid]

theorem blanks_split (text : Bytes) :
    text = text.takeWhile isBlank ++ text.dropWhile isBlank ∧
      (∀ byte ∈ text.takeWhile isBlank, isBlank byte) ∧
      ∀ byte ∈ (text.dropWhile isBlank).head?, !isBlank byte := by
  refine ⟨(List.takeWhile_append_dropWhile).symm, ?_, ?_⟩
  · intro byte member
    exact List.mem_takeWhile_imp member
  · intro byte starts
    have solid := List.head?_dropWhile_not isBlank text
    rw [Option.mem_def] at starts
    rw [starts] at solid
    simpa using solid

/-! ### Numbers -/

theorem digit_value_le {byte : Byte} (digit : isDigit byte) : digitValue byte ≤ 9 := by
  simp only [isDigit, Bool.and_eq_true, decide_eq_true_eq, UInt8.le_iff_toNat_le] at digit
  have upper : byte.toNat ≤ 57 := digit.2
  unfold digitValue
  omega

theorem hex_value_le {byte : Byte} (digit : isXDigit byte) : hexValue byte ≤ 15 := by
  simp only [isXDigit, isDigit, Bool.or_eq_true, Bool.and_eq_true, decide_eq_true_eq,
    UInt8.le_iff_toNat_le] at digit
  simp only [hexValue, isDigit, isLower, Bool.and_eq_true, decide_eq_true_eq,
    UInt8.le_iff_toNat_le]
  simp only [show (48 : UInt8).toNat = 48 from rfl, show (57 : UInt8).toNat = 57 from rfl,
    show (65 : UInt8).toNat = 65 from rfl, show (70 : UInt8).toNat = 70 from rfl,
    show (97 : UInt8).toNat = 97 from rfl, show (102 : UInt8).toNat = 102 from rfl,
    show (122 : UInt8).toNat = 122 from rfl] at digit ⊢
  split_ifs <;> omega

/-- The digit loops stop at the first number over the limit, so they succeed
exactly on digit strings that denote a number within it. -/
theorem content_length_digits_eq_ok {start : Nat} (within : start ≤ maxBodySize)
    (value : Bytes) (length : Nat) :
    contentLengthDigits start value = .ok length ↔
      value.all isDigit ∧ numeralFrom 10 digitValue start value = length ∧
        length ≤ maxBodySize := by
  have small : ∀ byte, isDigit byte → digitValue byte ≤ maxBodySize := fun byte digit =>
    Nat.le_trans (digit_value_le digit) (by decide)
  apply reads_numeral (by decide) small
    (fun start value length => contentLengthDigits start value = .ok length) _ _ within
  · intro start length
    simp [contentLengthDigits]
  · intro start byte rest length
    by_cases digit : isDigit byte <;> simp [contentLengthDigits, digit, ite_eq_iff]

theorem chunk_size_digits_eq_some {start : Nat} (within : start ≤ maxBodySize)
    (value : Bytes) (size : Nat) :
    chunkSizeDigits start value = some size ↔
      value.all isXDigit ∧ numeralFrom 16 hexValue start value = size ∧
        size ≤ maxBodySize := by
  have small : ∀ byte, isXDigit byte → hexValue byte ≤ maxBodySize := fun byte digit =>
    Nat.le_trans (hex_value_le digit) (by decide)
  apply reads_numeral (by decide) small
    (fun start value size => chunkSizeDigits start value = some size) _ _ within
  · intro start size
    simp [chunkSizeDigits]
  · intro start byte rest size
    by_cases digit : isXDigit byte <;> simp [chunkSizeDigits, digit, ite_eq_iff]

/-! ### Trimming and chunk-size lines -/

theorem trim_split (value : Bytes) :
    ∃ left right, value = left ++ trim value ++ right ∧
      (∀ byte ∈ left, isBlank byte) ∧ ∀ byte ∈ right, isBlank byte := by
  obtain ⟨split, blanks, -⟩ := blanks_split value
  refine ⟨value.takeWhile isBlank, (value.dropWhile isBlank).rtakeWhile isBlank, ?_, blanks, ?_⟩
  · unfold trim
    rw [List.append_assoc, List.rdropWhile_append_rtakeWhile]
    exact split
  · intro byte member
    exact List.mem_rtakeWhile_imp member

theorem trim_pad {left core right : Bytes} (onLeft : ∀ byte ∈ left, isBlank byte)
    (onRight : ∀ byte ∈ right, isBlank byte) (some : core ≠ [])
    (solid : ∀ byte ∈ core, !isBlank byte) : trim (left ++ core ++ right) = core := by
  have front : (left ++ (core ++ right)).dropWhile isBlank = core ++ right := by
    apply drop_blanks onLeft
    intro byte starts
    rw [List.head?_append_of_ne_nil core some] at starts
    exact solid byte (List.mem_of_mem_head? starts)
  have back : (right.reverse ++ core.reverse).dropWhile isBlank = core.reverse := by
    apply drop_blanks
    · intro byte member
      exact onRight byte (List.mem_reverse.mp member)
    · intro byte starts
      exact solid byte (List.mem_reverse.mp (List.mem_of_mem_head? starts))
  unfold trim
  rw [List.append_assoc, front, List.rdropWhile, List.reverse_append, back, List.reverse_reverse]

theorem hex_digit_not_blank {byte : Byte} (digit : isXDigit byte) : !isBlank byte := by
  cases blank : isBlank byte with
  | false => rfl
  | true =>
      simp only [isBlank, Bool.or_eq_true, beq_iff_eq] at blank
      rcases blank with rfl | rfl
      · revert digit
        decide
      · revert digit
        decide

theorem hex_digit_not_semicolon {byte : Byte} (digit : isXDigit byte) : byte ≠ semicolon := by
  intro same
  subst same
  revert digit
  decide

theorem blank_not_semicolon {byte : Byte} (blank : isBlank byte) : byte ≠ semicolon := by
  intro same
  subst same
  revert blank
  decide

theorem is_valid_chunk_size_extension {value extension : Bytes} (plain : semicolon ∉ value)
    (extends' : ∀ byte ∈ extension.head?, byte = semicolon) :
    isValidChunkSize (value ++ extension) =
      if (trim value).isEmpty then none else chunkSizeDigits 0 (trim value) := by
  cases extension with
  | nil =>
      simp only [isValidChunkSize, List.append_nil, find_zero,
        (first_occurrence_item_eq_none _ _).mpr plain]
  | cons first rest =>
      have same : first = semicolon := extends' first rfl
      subst same
      simp only [isValidChunkSize, find_zero, first_occurrence_item rest plain, substr_zero,
        List.take_left]

theorem extension_split (line : Bytes) :
    ∃ value extension, line = value ++ extension ∧ semicolon ∉ value ∧
      ∀ byte ∈ extension.head?, byte = semicolon := by
  cases found : firstOccurrence [semicolon] line with
  | none =>
      exact ⟨line, [], by simp, (first_occurrence_item_eq_none _ _).mp found, by simp⟩
  | some position =>
      obtain ⟨before, rest, rfl, -, plain⟩ := first_occurrence_item_split found
      exact ⟨before, semicolon :: rest, rfl, plain, by simp⟩

theorem is_valid_chunk_size_eq_some (line : Bytes) (number : Nat) :
    isValidChunkSize line = some number ↔
      ∃ size : SizeLine, size.line = line ∧ (∀ byte ∈ size.left, isBlank byte) ∧
        size.digits ≠ [] ∧ size.digits.all isXDigit ∧
        (∀ byte ∈ size.right, isBlank byte) ∧
        (∀ byte ∈ size.extension.head?, byte = semicolon) ∧
        size.number = number ∧ number ≤ maxBodySize := by
  constructor
  · intro valid
    obtain ⟨value, extension, rfl, plain, extends'⟩ := extension_split line
    rw [is_valid_chunk_size_extension plain extends'] at valid
    split_ifs at valid with empty
    rw [chunk_size_digits_eq_some (Nat.zero_le _)] at valid
    obtain ⟨left, right, split, onLeft, onRight⟩ := trim_split value
    refine ⟨⟨left, trim value, right, extension⟩, ?_, onLeft, ?_, valid.1, onRight, extends',
      valid.2⟩
    · unfold SizeLine.line
      rw [← split]
    · simpa using empty
  · intro parts
    obtain ⟨⟨left, digits, right, extension⟩, rfl, onLeft, some, hex, onRight, extends', rfl,
      bound⟩ := parts
    simp only at onLeft some hex onRight extends'
    have hexDigit : ∀ byte ∈ digits, isXDigit byte := by simpa using hex
    have plain : semicolon ∉ left ++ digits ++ right := by
      intro member
      simp only [List.mem_append] at member
      rcases member with (inLeft | inDigits) | inRight
      · exact blank_not_semicolon (onLeft _ inLeft) rfl
      · exact hex_digit_not_semicolon (hexDigit _ inDigits) rfl
      · exact blank_not_semicolon (onRight _ inRight) rfl
    have core : trim (left ++ digits ++ right) = digits :=
      trim_pad onLeft onRight some fun byte member => hex_digit_not_blank (hexDigit byte member)
    rw [SizeLine.line, is_valid_chunk_size_extension plain extends', core,
      if_neg (by simpa using some), chunk_size_digits_eq_some (Nat.zero_le _)]
    exact ⟨hex, rfl, bound⟩

end Lexical

end Aorta.Http
