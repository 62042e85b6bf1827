import Aorta.Http.HttpParser

/-!
# The cursor

`parseStep` moves a cursor through a buffer that may also hold bytes already
taken. No check reads the cursor and no search looks behind it, so a step on a
buffer is the same step on its unread part, moved (`parse_step_behind`). This is
why erasing the consumed prefix between two calls is harmless.
-/

namespace Aorta.Http.HttpParser

open Aorta.Library.Ascii Aorta.Library.Search

set_option autoImplicit false

def setCursor (parser : HttpParser) (cursor : Nat) : HttpParser :=
  { parser with cursor := cursor }

@[simp] theorem set_cursor_cursor (parser : HttpParser) (cursor : Nat) :
    (parser.setCursor cursor).cursor = cursor := rfl

@[simp] theorem set_cursor_state (parser : HttpParser) (cursor : Nat) :
    (parser.setCursor cursor).state = parser.state := rfl

@[simp] theorem set_cursor_request (parser : HttpParser) (cursor : Nat) :
    (parser.setCursor cursor).request = parser.request := rfl

@[simp] theorem set_cursor_set_cursor (parser : HttpParser) (first second : Nat) :
    (parser.setCursor first).setCursor second = parser.setCursor second := rfl

theorem set_cursor_self (parser : HttpParser) : parser.setCursor parser.cursor = parser := rfl

/-- A check neither reads nor moves the cursor. -/
def Check.CursorFree (check : Check) : Prop :=
  ∀ parser cursor,
    check (parser.setCursor cursor) = ((check parser).1, (check parser).2.setCursor cursor)

theorem Check.CursorFree.andThen {first second : Check}
    (left : first.CursorFree) (right : second.CursorFree) :
    (first.andThen second).CursorFree := by
  intro parser cursor
  unfold Check.andThen
  rw [left parser cursor]
  cases answered : first parser with
  | mk error next =>
      cases error with
      | none => exact right next cursor
      | some error => rfl

theorem read_request_line_cursor_free (line : Bytes) : (readRequestLine line).CursorFree := by
  intro parser cursor
  unfold readRequestLine setCursor
  cases parts : splitRequestLine line with
  | none => rfl
  | some parts =>
      simp only
      split_ifs <;> rfl

theorem read_host_cursor_free (name value : Bytes) : (readHost name value).CursorFree := by
  intro parser cursor
  unfold readHost setCursor
  simp only
  split_ifs <;> rfl

theorem read_content_length_cursor_free (name value : Bytes) :
    (readContentLength name value).CursorFree := by
  intro parser cursor
  unfold readContentLength setCursor
  cases contentLengthDigits 0 value with
  | error error => simp only; split_ifs <;> rfl
  | ok length => simp only; split_ifs <;> rfl

theorem read_transfer_encoding_cursor_free (name value : Bytes) :
    (readTransferEncoding name value).CursorFree := by
  intro parser cursor
  unfold readTransferEncoding setCursor
  simp only
  split_ifs <;> rfl

theorem push_header_cursor_free (name value : Bytes) : (pushHeader name value).CursorFree := by
  intro parser cursor
  rfl

theorem count_header_cursor_free : countHeader.CursorFree := by
  intro parser cursor
  unfold countHeader setCursor
  simp only
  split_ifs <;> rfl

theorem read_header_cursor_free (line : Bytes) : (readHeader line).CursorFree := by
  unfold readHeader
  cases splitName line with
  | none =>
      intro parser cursor
      rfl
  | some parts =>
      exact (read_host_cursor_free _ _).andThen
        ((read_content_length_cursor_free _ _).andThen
          ((read_transfer_encoding_cursor_free _ _).andThen (push_header_cursor_free _ _)))

theorem read_header_line_cursor_free (line : Bytes) : (readHeaderLine line).CursorFree :=
  count_header_cursor_free.andThen (read_header_cursor_free line)

theorem end_headers_cursor_free : endHeaders.CursorFree := by
  intro parser cursor
  unfold endHeaders setCursor
  simp only
  split_ifs <;> rfl

theorem count_trailer_cursor_free : countTrailer.CursorFree := by
  intro parser cursor
  unfold countTrailer setCursor
  simp only
  split_ifs <;> rfl

theorem read_trailer_cursor_free (line : Bytes) : (readTrailer line).CursorFree := by
  unfold readTrailer
  cases splitName line with
  | none =>
      intro parser cursor
      rfl
  | some parts =>
      intro parser cursor
      rfl

theorem read_trailer_line_cursor_free (line : Bytes) : (readTrailerLine line).CursorFree :=
  count_trailer_cursor_free.andThen (read_trailer_cursor_free line)

theorem limit_request_line_cursor_free (size : Nat) : (limitRequestLine size).CursorFree := by
  intro parser cursor
  unfold limitRequestLine
  split_ifs <;> rfl

theorem limit_header_line_cursor_free (size : Nat) : (limitHeaderLine size).CursorFree := by
  intro parser cursor
  unfold limitHeaderLine setCursor
  simp only
  split_ifs <;> rfl

theorem limit_chunk_size_cursor_free (size : Nat) : (limitChunkSize size).CursorFree := by
  intro parser cursor
  unfold limitChunkSize
  split_ifs <;> rfl

theorem read_chunk_size_cursor_free (line : Bytes) : (readChunkSize line).CursorFree := by
  intro parser cursor
  unfold readChunkSize
  cases isValidChunkSize line with
  | none => rfl
  | some size => rfl

theorem limit_trailer_line_cursor_free (size : Nat) : (limitTrailerLine size).CursorFree := by
  intro parser cursor
  unfold limitTrailerLine setCursor
  simp only
  split_ifs <;> rfl

/-- The outcome of a step for a buffer with `count` more bytes in front. -/
def Progress.advance (count : Nat) : Progress → Progress
  | .answer result parser => .answer result (parser.setCursor (count + parser.cursor))
  | .again parser => .again (parser.setCursor (count + parser.cursor))

theorem Check.CursorFree.orElse {check : Check} (free : check.CursorFree)
    (count start : Nat) (parser : HttpParser) {far near : HttpParser → Progress}
    (next : ∀ after : HttpParser,
      far (after.setCursor (count + start)) = (near (after.setCursor start)).advance count) :
    check.orElse (parser.setCursor (count + start)) far =
      (check.orElse (parser.setCursor start) near).advance count := by
  unfold Check.orElse
  rw [free parser (count + start), free parser start]
  cases answered : check parser with
  | mk error after =>
      cases error with
      | none => exact next after
      | some error => rfl

theorem Check.CursorFree.proceed {check : Check} (free : check.CursorFree)
    (count cursor start : Nat) (parser : HttpParser) :
    check.proceed (count + cursor) (parser.setCursor (count + start)) =
      (check.proceed cursor (parser.setCursor start)).advance count := by
  apply free.orElse count start parser
  intro after
  rfl

section Behind

-- `front` is what the cursor has passed, `unread` what it has not.
variable (front unread : Bytes) (parser : HttpParser)

theorem on_line_behind (pending : Nat → ParseResult) (far near : Bytes → Nat → Progress)
    (finish : ∀ line next, far line (front.length + next) =
      (near line next).advance front.length) :
    onLine (front ++ unread) (parser.setCursor front.length) pending far =
      (onLine unread (parser.setCursor 0) pending near).advance front.length := by
  unfold onLine
  rw [set_cursor_cursor, set_cursor_cursor, find_drop (by simp), List.drop_left, find_zero]
  cases firstOccurrence crlf unread with
  | none =>
      have size : (front ++ unread).length - front.length = unread.length - 0 := by simp
      simp only [Option.map_none]
      rw [size]
      rfl
  | some size =>
      simp only [Option.map_some, Nat.add_sub_cancel_left, Nat.sub_zero]
      rw [substr_drop, List.drop_left, Nat.add_assoc]
      exact finish _ _

theorem finish_header_line_behind (line : Bytes) (next : Nat) :
    finishHeaderLine line (front.length + next) (parser.setCursor front.length) =
      (finishHeaderLine line next (parser.setCursor 0)).advance front.length := by
  apply (limit_header_line_cursor_free line.length).orElse front.length 0 parser
  intro after
  split_ifs
  · exact end_headers_cursor_free.proceed front.length next next after
  · exact (read_header_line_cursor_free line).proceed front.length next 0 after

theorem finish_trailer_line_behind (line : Bytes) (next : Nat) :
    finishTrailerLine line (front.length + next) (parser.setCursor front.length) =
      (finishTrailerLine line next (parser.setCursor 0)).advance front.length := by
  apply (limit_trailer_line_cursor_free line.length).orElse front.length 0 parser
  intro after
  split_ifs
  · rfl
  · exact (read_trailer_line_cursor_free line).proceed front.length next 0 after

theorem take_body_behind :
    takeBody unread (parser.setCursor front.length) =
      (takeBody unread (parser.setCursor 0)).advance front.length := by
  unfold takeBody setCursor
  simp only
  split_ifs <;> simp [Progress.advance, setCursor]

theorem take_chunk_data_behind :
    takeChunkData unread (parser.setCursor front.length) =
      (takeChunkData unread (parser.setCursor 0)).advance front.length := by
  unfold takeChunkData setCursor
  simp only
  split_ifs <;> simp [Progress.advance, setCursor]

theorem take_chunk_data_crlf_behind :
    takeChunkDataCRLF unread (parser.setCursor front.length) =
      (takeChunkDataCRLF unread (parser.setCursor 0)).advance front.length := by
  unfold takeChunkDataCRLF
  split_ifs <;> rfl

/-- A step never looks behind the cursor. -/
theorem parse_step_behind :
    parseStep (front ++ unread) (parser.setCursor front.length) =
      (parseStep unread (parser.setCursor 0)).advance front.length := by
  have enters : enterHeaders.CursorFree := fun _ _ => rfl
  unfold parseStep
  rw [set_cursor_state, set_cursor_state]
  cases parser.state with
  | requestLine =>
      apply on_line_behind
      intro line next
      exact ((limit_request_line_cursor_free _).andThen
        ((read_request_line_cursor_free line).andThen enters)).proceed front.length next 0 parser
  | headers =>
      unfold parseHeaders
      rw [if_neg (by simp), if_neg (by simp)]
      apply on_line_behind
      exact finish_header_line_behind front parser
  | body =>
      unfold parseBody
      have inside : ¬(front ++ unread).length < front.length := by simp
      have start : ¬unread.length < 0 := by simp
      rw [set_cursor_cursor, set_cursor_cursor, List.drop_left, List.drop_zero,
        if_neg inside, if_neg start, take_body_behind front unread parser]
      unfold setCursor
      simp only
      split_ifs <;> rfl
  | chunkSize =>
      apply on_line_behind
      intro line next
      exact ((limit_chunk_size_cursor_free _).andThen
        (read_chunk_size_cursor_free line)).proceed front.length next 0 parser
  | chunkData =>
      unfold parseChunkData
      rw [if_neg (by simp), if_neg (by simp), set_cursor_cursor, set_cursor_cursor,
        List.drop_left, List.drop_zero]
      exact take_chunk_data_behind front unread parser
  | chunkDataCRLF =>
      unfold parseChunkDataCRLF
      rw [set_cursor_cursor, set_cursor_cursor, List.drop_left, List.drop_zero]
      exact take_chunk_data_crlf_behind front unread parser
  | chunkTrailers =>
      apply on_line_behind
      exact finish_trailer_line_behind front parser

end Behind

end Aorta.Http.HttpParser
