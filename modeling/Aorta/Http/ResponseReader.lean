import Aorta.Http.HeadAnswers
import Aorta.Library.Decoding

/-!
# Reading responses

What a client makes of the bytes it gets: a status line, header lines up to an empty one, and
then as many bytes as `Content-Length` says, or none in answer to `HEAD`. The reader is no part
of the program. It reads back what `serialize` writes.
-/

namespace Aorta.Http

open Aorta.Library.Ascii Aorta.Library.Decimal Aorta.Library.Decoding Aorta.Library.Search
open Aorta.Http.HttpParser Aorta.Http.HttpResponse

set_option autoImplicit false

/-- A response as a client has it. -/
structure ReceivedResponse where
  version : Bytes
  statusCode : Nat
  reason : Bytes
  headers : List (Bytes × Bytes)
  content : Bytes := []
deriving DecidableEq, Repr

namespace ResponseReader

def readLine (bytes : Bytes) : Option (Bytes × Bytes) :=
  (firstOccurrence crlf bytes).map fun length => (bytes.take length, bytes.drop (length + 2))

/-- Lines up to an empty one. -/
def readLines : Nat → Bytes → Option (List Bytes × Bytes)
  | 0, _ => none
  | fuel + 1, bytes => do
      let (line, rest) ← readLine bytes
      if line = [] then some ([], rest)
      else do
        let (lines, rest) ← readLines fuel rest
        some (line :: lines, rest)

/-- What is before a byte and what is behind it. -/
def cut (byte : Byte) (text : Bytes) : Option (Bytes × Bytes) :=
  (firstOccurrence [byte] text).map fun length => (text.take length, text.drop (length + 1))

def readNumber (text : Bytes) : Option Nat :=
  if text ≠ [] ∧ text.all isDigit then some (numeral 10 digitValue text) else none

def readField (line : Bytes) : Option (Bytes × Bytes) := do
  let (name, value) ← cut 58 line
  some (name, value.dropWhile isBlank)

/-- A status line and header lines. -/
def readHead : List Bytes → Option ReceivedResponse
  | [] => none
  | status :: fields => do
      let (version, rest) ← cut 32 status
      let (code, reason) ← cut 32 rest
      let statusCode ← readNumber code
      let headers ← fields.mapM readField
      some { version, statusCode, reason, headers }

/-- The only `Content-Length`. -/
def readLength (headers : List (Bytes × Bytes)) : Option Nat :=
  match values (ascii "Content-Length") headers with
  | [value] => readNumber value
  | _ => none

/-- The content of a response whose head has been read. -/
def readContent (bare : Bool) (received : ReceivedResponse) (rest : Bytes) :
    Option (ReceivedResponse × Bytes) := do
  let length ← readLength received.headers
  let expected := if bare then 0 else length
  if expected ≤ rest.length then
    some ({ received with content := rest.take expected }, rest.drop expected)
  else none

/-- One response; a bare one is the answer to `HEAD`. -/
def readResponse (bare : Bool) (bytes : Bytes) : Option (ReceivedResponse × Bytes) := do
  let (lines, rest) ← readLines (bytes.length + 1) bytes
  let received ← readHead lines
  readContent bare received rest

section Stable

theorem read_line_later {bytes line rest : Bytes} (reads : readLine bytes = some (line, rest))
    (later : Bytes) : readLine (bytes ++ later) = some (line, rest ++ later) := by
  obtain ⟨length, found, same⟩ := Option.map_eq_some_iff.mp reads
  obtain ⟨isLine, isRest⟩ := Prod.mk.inj same
  have inside : length + 2 ≤ bytes.length := first_occurrence_le found
  unfold readLine
  rw [first_occurrence_append later found, Option.map_some, ← isLine, ← isRest,
    List.take_append_of_le_length (by omega), List.drop_append_of_le_length inside]

theorem read_lines_later {fuel : Nat} {bytes rest : Bytes} {lines : List Bytes}
    (reads : readLines fuel bytes = some (lines, rest)) (later : Bytes) {more : Nat}
    (enough : fuel ≤ more) : readLines more (bytes ++ later) = some (lines, rest ++ later) := by
  induction fuel generalizing bytes lines more with
  | zero => cases reads
  | succ fuel ih =>
      obtain ⟨more, rfl⟩ := Nat.exists_eq_add_of_le' (Nat.lt_of_lt_of_le fuel.succ_pos enough)
      unfold readLines at reads ⊢
      obtain ⟨⟨line, behind⟩, readsLine, others⟩ := Option.bind_eq_some_iff.mp reads
      rw [read_line_later readsLine later]
      dsimp only [Option.bind_eq_bind, Option.bind_some] at others ⊢
      split_ifs at others ⊢ with blank
      · obtain ⟨noLines, isRest⟩ := Prod.mk.inj (Option.some.inj others)
        rw [← noLines, ← isRest]
      · obtain ⟨⟨found, left⟩, readsOthers, same⟩ := Option.bind_eq_some_iff.mp others
        obtain ⟨isLines, isRest⟩ := Prod.mk.inj (Option.some.inj same)
        have readsRest : readLines fuel behind = some (found, rest) := isRest ▸ readsOthers
        rw [ih readsRest (by omega), ← isLines]
        rfl

theorem read_content_later {bare : Bool} {received result : ReceivedResponse}
    {bytes rest : Bytes} (reads : readContent bare received bytes = some (result, rest))
    (later : Bytes) :
    readContent bare received (bytes ++ later) = some (result, rest ++ later) := by
  unfold readContent at reads ⊢
  obtain ⟨length, readsLength, others⟩ := Option.bind_eq_some_iff.mp reads
  rw [readsLength]
  dsimp only [Option.bind_eq_bind, Option.bind_some] at others ⊢
  generalize (if bare then 0 else length) = expected at others ⊢
  split_ifs at others with inside
  obtain ⟨isResult, isRest⟩ := Prod.mk.inj (Option.some.inj others)
  rw [if_pos (by rw [List.length_append]; omega), List.take_append_of_le_length inside,
    List.drop_append_of_le_length inside, isResult, isRest]

/-- What has come of a response later does not change what was read. -/
theorem read_response_stable : Stable readResponse := by
  intro bare bytes result rest reads later
  unfold readResponse at reads ⊢
  obtain ⟨⟨lines, behind⟩, readsLines, others⟩ := Option.bind_eq_some_iff.mp reads
  obtain ⟨received, readsHead, readsContent⟩ := Option.bind_eq_some_iff.mp others
  rw [read_lines_later readsLines later (by rw [List.length_append]; omega)]
  dsimp only [Option.bind_eq_bind, Option.bind_some]
  rw [readsHead]
  exact read_content_later readsContent later

theorem read_response_waits (bare : Bool) : readResponse bare [] = none := rfl

end Stable

section Written

theorem line_unbroken {line : Bytes} (isLine : IsLine line) : firstOccurrence crlf line = none := by
  rw [first_occurrence_eq_none]
  intro offset inside here
  have member : (13 : Byte) ∈ line := List.mem_of_mem_drop (here.subset List.mem_cons_self)
  exact (isLine 13 member).1 rfl

theorem read_line_written {line : Bytes} (isLine : IsLine line) (rest : Bytes) :
    readLine (line ++ crlf ++ rest) = some (line, rest) := by
  have found : firstOccurrence crlf (line ++ crlf ++ rest) = some line.length :=
    first_occurrence_delimiter (by decide) rest (line_unbroken isLine)
  have behind : line.length + 2 = (line ++ crlf).length := by
    rw [List.length_append]
    rfl
  unfold readLine
  rw [found, Option.map_some, behind, List.drop_left, List.append_assoc, List.take_left]

/-- Lines with their ends. -/
def writeLines (lines : List Bytes) : Bytes := lines.flatMap (· ++ crlf)

theorem lines_long (lines : List Bytes) : lines.length ≤ (writeLines lines).length := by
  induction lines with
  | nil => exact Nat.le_refl 0
  | cons line lines ih =>
      have two : crlf.length = 2 := rfl
      simp only [writeLines, List.flatMap_cons, List.length_append, List.length_cons] at ih ⊢
      omega

theorem read_lines_written {lines : List Bytes}
    (written : ∀ line ∈ lines, IsLine line ∧ line ≠ []) (rest : Bytes) {fuel : Nat}
    (enough : lines.length < fuel) :
    readLines fuel (writeLines lines ++ crlf ++ rest) = some (lines, rest) := by
  induction lines generalizing fuel with
  | nil =>
      obtain ⟨fuel, rfl⟩ := Nat.exists_eq_add_of_lt enough
      have blank : readLine ([] ++ crlf ++ rest) = some ([], rest) :=
        read_line_written (by decide) rest
      unfold readLines
      rw [show writeLines [] = [] from rfl, blank]
      rfl
  | cons line lines ih =>
      obtain ⟨⟨isLine, filled⟩, others⟩ := List.forall_mem_cons.mp written
      cases fuel with
      | zero => cases enough
      | succ fuel =>
          have split : writeLines (line :: lines) ++ crlf ++ rest =
              line ++ crlf ++ (writeLines lines ++ crlf ++ rest) := by
            simp only [writeLines, List.flatMap_cons, List.append_assoc]
          unfold readLines
          rw [split, read_line_written isLine]
          dsimp only [Option.bind_eq_bind, Option.bind_some]
          rw [if_neg filled, ih others (Nat.lt_of_succ_lt_succ enough)]
          rfl

theorem cut_written {byte : Byte} {before : Bytes} (absent : byte ∉ before) (rest : Bytes) :
    cut byte (before ++ byte :: rest) = some (before, rest) := by
  unfold cut
  rw [first_occurrence_item rest absent, Option.map_some, List.take_left, List.drop_append]
  simp

theorem read_number_decimal (number : Nat) : readNumber (decimal number) = some number := by
  unfold readNumber
  rw [if_pos ⟨decimal_ne_nil number, List.all_eq_true.mpr (decimal_digits number)⟩,
    numeral_decimal]

end Written

end ResponseReader

namespace HttpResponse

open ResponseReader

/-- No space is in the version, no colon in the name of a header, and no value starts with a
blank. -/
structure Legible (response : HttpResponse) : Prop where
  version : (32 : Byte) ∉ response.version
  names : ∀ header ∈ response.headers,
    (58 : Byte) ∉ header.1 ∧ header.2.dropWhile isBlank = header.2

def statusLine (response : HttpResponse) : Bytes :=
  response.version ++ ascii " " ++ decimal response.statusCode ++ ascii " " ++ response.reason

def fieldLine (header : Bytes × Bytes) : Bytes := header.1 ++ ascii ": " ++ header.2

def headLines (response : HttpResponse) : List Bytes :=
  response.statusLine :: response.headers.map fieldLine

/-- The response as a client has it, with what followed its head. -/
def received (response : HttpResponse) (content : Bytes) : ReceivedResponse where
  version := response.version
  statusCode := response.statusCode
  reason := response.reason
  headers := response.headers
  content := content

theorem head_eq (response : HttpResponse) :
    response.head = writeLines response.headLines ++ crlf := by
  have fields : ∀ headers : List (Bytes × Bytes),
      headers.flatMap (fun header => header.1 ++ ascii ": " ++ header.2 ++ crlf) =
        writeLines (headers.map fieldLine) := by
    intro headers
    unfold writeLines fieldLine
    rw [List.flatMap_map]
  unfold head headLines statusLine
  rw [fields]
  simp only [writeLines, List.flatMap_cons, List.append_assoc]

section Read

variable {response : HttpResponse}

theorem Sound.head_lines (sound : response.Sound) :
    ∀ line ∈ response.headLines, IsLine line ∧ line ≠ [] := by
  have isLine : ∀ {left right : Bytes}, IsLine left → IsLine right → IsLine (left ++ right) := by
    intro left right leftLine rightLine byte member
    rcases List.mem_append.mp member with inLeft | inRight
    · exact leftLine byte inLeft
    · exact rightLine byte inRight
  intro line member
  unfold headLines at member
  rcases List.mem_cons.mp member with status | field
  · rw [status]
    unfold statusLine
    refine ⟨isLine (isLine (isLine (isLine sound.version (by decide)) (decimal_line _))
      (by decide)) sound.reason, ?_⟩
    simp [ascii]
  · obtain ⟨header, known, same⟩ := List.mem_map.mp field
    obtain ⟨name, value⟩ := sound.lines header known
    rw [← same]
    unfold fieldLine
    refine ⟨isLine (isLine name (by decide)) value, ?_⟩
    simp [ascii]

theorem Legible.read_field {header : Bytes × Bytes} (name : (58 : Byte) ∉ header.1)
    (value : header.2.dropWhile isBlank = header.2) :
    readField (fieldLine header) = some header := by
  have split : fieldLine header = header.1 ++ 58 :: (32 :: header.2) := by
    simp [fieldLine, ascii]
  have blank : isBlank 32 = true := by decide
  unfold readField
  rw [split, cut_written name]
  dsimp only [Option.bind_eq_bind, Option.bind_some]
  rw [List.dropWhile_cons_of_pos blank, value]

theorem Legible.read_head (legible : response.Legible) :
    readHead response.headLines = some (response.received []) := by
  have fields : ∀ headers : List (Bytes × Bytes), (∀ header ∈ headers,
      (58 : Byte) ∉ header.1 ∧ header.2.dropWhile isBlank = header.2) →
      (headers.map fieldLine).mapM readField = some headers := by
    intro headers all
    induction headers with
    | nil => rfl
    | cons header headers ih =>
        obtain ⟨⟨name, value⟩, others⟩ := List.forall_mem_cons.mp all
        rw [List.map_cons, List.mapM_cons, Legible.read_field name value, ih others]
        rfl
  have digits : (32 : Byte) ∉ decimal response.statusCode := by
    intro member
    have digit := decimal_digits response.statusCode 32 member
    cases digit
  have split : response.statusLine = response.version ++
      32 :: (decimal response.statusCode ++ 32 :: response.reason) := by
    simp [statusLine, ascii]
  unfold headLines readHead
  dsimp only
  rw [split, cut_written legible.version]
  dsimp only [Option.bind_eq_bind, Option.bind_some]
  rw [cut_written digits]
  dsimp only [Option.bind_some]
  rw [read_number_decimal, fields response.headers legible.names]
  rfl

/-- A response with what follows its head is read back, whatever comes behind it. -/
theorem Framed.undone {connection : Bytes} (framed : response.Framed connection)
    (legible : response.Legible) {bare : Bool} {content : Bytes}
    (long : content.length = if bare then 0 else response.contentLength) :
    Piece.Undone readResponse
      ⟨bare, response.head ++ content, response.received content⟩ := by
  intro later
  have enough : response.headLines.length <
      (writeLines response.headLines ++ crlf ++ (content ++ later)).length + 1 := by
    have long := lines_long response.headLines
    simp only [List.length_append]
    omega
  have lines := read_lines_written framed.sound.head_lines (content ++ later) enough
  have length : readLength response.headers = some response.contentLength := by
    unfold readLength
    rw [framed.length]
    exact read_number_decimal _
  dsimp only
  unfold readResponse
  rw [head_eq, List.append_assoc _ content later, lines]
  dsimp only [Option.bind_eq_bind, Option.bind_some]
  rw [legible.read_head]
  dsimp only [Option.bind_some]
  unfold readContent
  rw [show (response.received []).headers = response.headers from rfl, length]
  dsimp only [Option.bind_eq_bind, Option.bind_some]
  rw [← long, if_pos (by rw [List.length_append]; omega), List.take_left, List.drop_left]
  rfl

end Read

end HttpResponse

end Aorta.Http
