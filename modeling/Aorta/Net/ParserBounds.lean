import Aorta.Http.HttpMessage
import Aorta.Net.Fragmentation

/-!
# The bounds the parser keeps

The sizes and cursors of `HttpParser` are unsigned, and each of its differences is taken
in another state than the one that made it safe. What makes them safe is one invariant,
which every check, every step of the loop and every way of feeding the parser keeps.
-/

namespace Aorta.Http.HttpParser

open Aorta.Library.Ascii Aorta.Library.Search

set_option autoImplicit false

/-- What holds of the fields whatever the buffer holds. Before its body begins a request
has none. -/
structure Bounded (parser : HttpParser) : Prop where
  body : parser.request.body.length ≤ maxBodySize
  headers : parser.request.headers.length ≤ maxHeaderCount
  counted : parser.request.headers.length ≤ parser.headerCount
  headersSize : parser.headersSize ≤ maxHeadersSize
  trailerSize : parser.trailerSize ≤ maxHeadersSize
  contentLength : parser.contentLength ≤ maxBodySize
  chunkSize : parser.chunkSize ≤ maxBodySize
  chunkBytesRead : parser.chunkBytesRead ≤ parser.chunkSize
  announced : parser.state = .body → parser.hasContentLength = true →
    parser.request.body.length ≤ parser.contentLength
  bodiless : parser.state = .requestLine ∨ parser.state = .headers → parser.request.body = []

/-- The cursor has not passed the end of the buffer either. -/
def Within (parser : HttpParser) (buffer : Bytes) : Prop :=
  parser.Bounded ∧ parser.cursor ≤ buffer.length

def InHeaders (parser : HttpParser) : Prop := parser.Bounded ∧ parser.state = .headers

/-- A header line has been counted and not stored. -/
def Filling (parser : HttpParser) : Prop :=
  parser.Bounded ∧ parser.state = .headers ∧
    parser.request.headers.length < parser.headerCount ∧ parser.headerCount ≤ maxHeaderCount

section Checks

variable {pre mid post : HttpParser → Prop}

/-- From `pre` a check keeps the bounds, also where it fails, and leads to `post` where it
passes. -/
def Check.Ensures (check : Check) (pre post : HttpParser → Prop) : Prop :=
  ∀ parser, pre parser →
    (check parser).2.Bounded ∧ ((check parser).1 = none → post (check parser).2)

theorem Check.Ensures.andThen {first second : Check} (before : first.Ensures pre mid)
    (behind : second.Ensures mid post) : (first.andThen second).Ensures pre post := by
  intro parser holds
  obtain ⟨bounded, passes⟩ := before parser holds
  unfold Check.andThen
  cases answered : first parser with
  | mk error after =>
      rw [answered] at bounded passes
      cases error with
      | some error => exact ⟨bounded, nofun⟩
      | none => exact behind after (passes rfl)

theorem limit_request_line_ensures (size : Nat) (bounded : ∀ parser, pre parser → Bounded parser) :
    (limitRequestLine size).Ensures pre pre := by
  intro parser holds
  unfold limitRequestLine
  split_ifs
  · exact ⟨bounded parser holds, nofun⟩
  · exact ⟨bounded parser holds, fun _ => holds⟩

theorem limit_chunk_size_ensures (size : Nat) : (limitChunkSize size).Ensures Bounded Bounded := by
  intro parser bounded
  unfold limitChunkSize
  split_ifs
  · exact ⟨bounded, nofun⟩
  · exact ⟨bounded, fun _ => bounded⟩

theorem read_request_line_ensures (line : Bytes) :
    (readRequestLine line).Ensures (fun parser => parser.Bounded ∧ parser.state = .requestLine)
      fun parser => parser.Bounded ∧ parser.state = .requestLine := by
  intro parser holds
  obtain ⟨bounded, state⟩ := holds
  unfold readRequestLine
  cases splitRequestLine line with
  | none => exact ⟨bounded, nofun⟩
  | some parts =>
      simp only
      split_ifs
      · exact ⟨{ bounded with }, nofun⟩
      · exact ⟨{ bounded with }, nofun⟩
      · exact ⟨{ bounded with }, nofun⟩
      · exact ⟨{ bounded with }, fun _ => ⟨{ bounded with }, state⟩⟩

theorem enter_headers_ensures :
    enterHeaders.Ensures (fun parser => parser.Bounded ∧ parser.state = .requestLine)
      Bounded := by
  intro parser holds
  have entered : Bounded { parser with state := .headers } :=
    { holds.1 with announced := nofun, bodiless := fun _ => holds.1.bodiless (.inl holds.2) }
  exact ⟨entered, fun _ => entered⟩

theorem limit_header_line_ensures (size : Nat) :
    (limitHeaderLine size).Ensures InHeaders InHeaders := by
  intro parser holds
  unfold limitHeaderLine
  split_ifs with long large
  · exact ⟨holds.1, nofun⟩
  · exact ⟨holds.1, nofun⟩
  · have within : parser.headersSize + (size + 2) ≤ maxHeadersSize := by omega
    exact ⟨{ holds.1 with headersSize := within },
      fun _ => ⟨{ holds.1 with headersSize := within }, holds.2⟩⟩

theorem count_header_ensures : countHeader.Ensures InHeaders Filling := by
  intro parser holds
  have counted : parser.request.headers.length < parser.headerCount + 1 :=
    Nat.lt_succ_of_le holds.1.counted
  unfold countHeader
  simp only
  split_ifs with many
  · exact ⟨{ holds.1 with counted := counted.le }, nofun⟩
  · exact ⟨{ holds.1 with counted := counted.le },
      fun _ => ⟨{ holds.1 with counted := counted.le }, holds.2, counted,
        Nat.le_of_not_gt many⟩⟩

theorem read_host_ensures (name value : Bytes) : (readHost name value).Ensures Filling Filling := by
  intro parser holds
  have bounded : parser.Bounded := holds.1
  unfold readHost
  simp only
  split_ifs
  · exact ⟨{ bounded with }, nofun⟩
  · exact ⟨{ bounded with }, nofun⟩
  · exact ⟨{ bounded with }, fun _ => ⟨{ bounded with }, holds.2⟩⟩
  · exact ⟨bounded, fun _ => holds⟩

theorem read_content_length_ensures (name value : Bytes) :
    (readContentLength name value).Ensures Filling Filling := by
  intro parser holds
  have bounded : parser.Bounded := holds.1
  have state : parser.state = .headers := holds.2.1
  unfold readContentLength
  split_ifs
  · exact ⟨bounded, nofun⟩
  · cases digits : contentLengthDigits 0 value with
    | error error => exact ⟨bounded, nofun⟩
    | ok length =>
        have small := ((content_length_digits_eq_ok (Nat.zero_le _) value length).mp digits).2.2
        have stored : Bounded { parser with contentLength := length, hasContentLength := true } :=
          { bounded with
            contentLength := small
            announced := by
              intro inBody
              rw [state] at inBody
              cases inBody }
        simp only
        split_ifs
        · exact ⟨bounded, nofun⟩
        · exact ⟨stored, fun _ => ⟨stored, holds.2⟩⟩
  · exact ⟨bounded, fun _ => holds⟩

theorem read_transfer_encoding_ensures (name value : Bytes) :
    (readTransferEncoding name value).Ensures Filling Filling := by
  intro parser holds
  have bounded : parser.Bounded := holds.1
  unfold readTransferEncoding
  split_ifs
  · exact ⟨bounded, nofun⟩
  · exact ⟨bounded, nofun⟩
  · exact ⟨{ bounded with }, fun _ => ⟨{ bounded with }, holds.2⟩⟩
  · exact ⟨bounded, fun _ => holds⟩

theorem push_header_ensures (name value : Bytes) :
    (pushHeader name value).Ensures Filling Bounded := by
  intro parser holds
  obtain ⟨bounded, state, counted, few⟩ := holds
  have longer : (parser.request.headers ++ [(name, value)]).length ≤ parser.headerCount := by
    rw [List.length_append, List.length_singleton]
    omega
  have pushed : Bounded { parser with request := { parser.request with
      headers := parser.request.headers ++ [(name, value)] } } :=
    { bounded with headers := longer.trans few, counted := longer }
  exact ⟨pushed, fun _ => pushed⟩

theorem read_header_ensures (line : Bytes) : (readHeader line).Ensures Filling Bounded := by
  unfold readHeader
  cases splitName line with
  | none => exact fun parser holds => ⟨holds.1, nofun⟩
  | some parts =>
      exact (read_host_ensures _ _).andThen
        ((read_content_length_ensures _ _).andThen
          ((read_transfer_encoding_ensures _ _).andThen (push_header_ensures _ _)))

theorem end_headers_ensures : endHeaders.Ensures InHeaders Bounded := by
  intro parser holds
  obtain ⟨bounded, state⟩ := holds
  have empty : parser.request.body = [] := bounded.bodiless (.inr state)
  unfold endHeaders
  split_ifs
  · exact ⟨bounded, nofun⟩
  · exact ⟨bounded, nofun⟩
  · exact ⟨bounded, nofun⟩
  · have entered : Bounded { parser with state := .chunkSize } :=
      { bounded with announced := nofun, bodiless := nofun }
    exact ⟨entered, fun _ => entered⟩
  · have entered : Bounded { parser with state := .body } :=
      { bounded with
        announced := fun _ _ => by
          rw [empty]
          exact Nat.zero_le _
        bodiless := fun _ => empty }
    exact ⟨entered, fun _ => entered⟩

theorem read_chunk_size_ensures (line : Bytes) :
    (readChunkSize line).Ensures Bounded Bounded := by
  intro parser bounded
  unfold readChunkSize
  cases valid : isValidChunkSize line with
  | none => exact ⟨bounded, nofun⟩
  | some parsedSize =>
      obtain ⟨-, -, -, -, -, -, -, -, small⟩ := (is_valid_chunk_size_eq_some _ _).mp valid
      have stored : Bounded { parser with
          chunkSize := parsedSize
          chunkBytesRead := 0
          state := if parsedSize = 0 then .chunkTrailers else .chunkData } :=
        { bounded with
          chunkSize := small
          chunkBytesRead := Nat.zero_le _
          announced := by
            simp only
            split_ifs <;> nofun
          bodiless := by
            simp only
            split_ifs <;> nofun }
      exact ⟨stored, fun _ => stored⟩

theorem limit_trailer_line_ensures (size : Nat) :
    (limitTrailerLine size).Ensures Bounded Bounded := by
  intro parser bounded
  unfold limitTrailerLine
  split_ifs with large
  · exact ⟨bounded, nofun⟩
  · have within : parser.trailerSize + (size + 2) ≤ maxHeadersSize := by omega
    exact ⟨{ bounded with trailerSize := within }, fun _ => { bounded with trailerSize := within }⟩

theorem read_trailer_line_ensures (line : Bytes) :
    (readTrailerLine line).Ensures Bounded Bounded := by
  have counts : countTrailer.Ensures Bounded Bounded := by
    intro parser bounded
    unfold countTrailer
    simp only
    split_ifs
    · exact ⟨{ bounded with }, nofun⟩
    · exact ⟨{ bounded with }, fun _ => { bounded with }⟩
  apply counts.andThen
  unfold readTrailer
  cases splitName line with
  | none => exact fun parser bounded => ⟨bounded, nofun⟩
  | some parts => exact fun parser bounded => ⟨bounded, fun _ => bounded⟩

end Checks

section Steps

variable {buffer : Bytes} {parser : HttpParser}

/-- A step of the loop leaves the parser within the bounds, whether it returns or not. -/
def Progress.Keeps (buffer : Bytes) : Progress → Prop
  | .answer _ parser => parser.Within buffer
  | .again parser => parser.Within buffer

theorem Check.CursorFree.same_cursor {check : Check} (free : check.CursorFree)
    (parser : HttpParser) : (check parser).2.cursor = parser.cursor := by
  have moved := free parser parser.cursor
  rw [set_cursor_self] at moved
  rw [moved, set_cursor_cursor]

theorem Check.Ensures.orElse {check : Check} {pre post : HttpParser → Prop}
    (ensures : check.Ensures pre post) (free : check.CursorFree) (holds : pre parser)
    (inside : parser.cursor ≤ buffer.length) {continuation : HttpParser → Progress}
    (next : ∀ after, post after → after.cursor ≤ buffer.length →
      (continuation after).Keeps buffer) : (check.orElse parser continuation).Keeps buffer := by
  obtain ⟨bounded, passes⟩ := ensures parser holds
  have cursor := free.same_cursor parser
  rw [← cursor] at inside
  unfold Check.orElse
  cases answered : check parser with
  | mk error after =>
      rw [answered] at bounded passes inside
      cases error with
      | some error => exact ⟨bounded, inside⟩
      | none => exact next after (passes rfl) inside

theorem Check.Ensures.proceed {check : Check} {pre : HttpParser → Prop}
    (ensures : check.Ensures pre Bounded) (free : check.CursorFree) (holds : pre parser)
    (inside : parser.cursor ≤ buffer.length) {next : Nat} (within : next ≤ buffer.length) :
    (check.proceed next parser).Keeps buffer := by
  apply ensures.orElse free holds inside
  intro after bounded _
  exact ⟨{ bounded with }, within⟩

theorem on_line_keeps (within : parser.Within buffer) {pending : Nat → ParseResult}
    {finish : Bytes → Nat → Progress}
    (finishes : ∀ line next, next ≤ buffer.length → (finish line next).Keeps buffer) :
    (onLine buffer parser pending finish).Keeps buffer := by
  unfold onLine
  cases found : find buffer crlf parser.cursor with
  | none => exact within
  | some lineEnd =>
      apply finishes
      rw [find_drop within.2, find_zero, Option.map_eq_some_iff] at found
      obtain ⟨offset, found, rfl⟩ := found
      have fits := first_occurrence_le found
      have inside := within.2
      rw [List.length_drop] at fits
      simp only [crlf, List.length_cons, List.length_nil] at fits
      omega

theorem parse_request_line_keeps (within : parser.Within buffer)
    (state : parser.state = .requestLine) : (parseRequestLine buffer parser).Keeps buffer := by
  apply on_line_keeps within
  intro line next inside
  have checks := (limit_request_line_ensures line.length fun parser holds => holds.1).andThen
    ((read_request_line_ensures line).andThen enter_headers_ensures)
  have enters : enterHeaders.CursorFree := fun _ _ => rfl
  have free := (limit_request_line_cursor_free line.length).andThen
    ((read_request_line_cursor_free line).andThen enters)
  exact checks.proceed free ⟨within.1, state⟩ within.2 inside

theorem parse_headers_keeps (within : parser.Within buffer) (state : parser.state = .headers) :
    (parseHeaders buffer parser).Keeps buffer := by
  unfold parseHeaders
  split_ifs
  · exact within
  · apply on_line_keeps within
    intro line next inside
    apply (limit_header_line_ensures line.length).orElse (limit_header_line_cursor_free _)
      ⟨within.1, state⟩ within.2
    intro after inHeaders afterInside
    split_ifs
    · apply end_headers_ensures.proceed end_headers_cursor_free _ inside inside
      exact ⟨{ inHeaders.1 with }, inHeaders.2⟩
    · exact (count_header_ensures.andThen (read_header_ensures line)).proceed
        (read_header_line_cursor_free line) inHeaders afterInside inside

theorem parse_body_keeps (within : parser.Within buffer) (state : parser.state = .body) :
    (parseBody buffer parser).Keeps buffer := by
  have bounded : parser.Bounded := within.1
  have inside : parser.cursor ≤ buffer.length := within.2
  unfold parseBody
  split_ifs with bodyless large behind
  · exact within
  · exact within
  · exact within
  · have measured : parser.hasContentLength = true := by
      by_contra absent
      exact bodyless (.inl (by simpa using absent))
    have announced := bounded.announced state measured
    have small := bounded.contentLength
    unfold takeBody
    simp only
    split_ifs with none short
    · exact within
    all_goals
      have longer : (parser.request.body ++ (buffer.drop parser.cursor).take
          (min (buffer.drop parser.cursor).length
            (parser.contentLength - parser.request.body.length))).length ≤
          parser.contentLength := by
        rw [List.length_append, List.length_take]
        omega
      have moved : parser.cursor + min (buffer.drop parser.cursor).length
          (parser.contentLength - parser.request.body.length) ≤ buffer.length := by
        rw [List.length_drop]
        omega
      refine ⟨{ bounded with
        body := longer.trans small
        announced := fun _ _ => longer
        bodiless := ?_ }, moved⟩
      rw [state]
      nofun

theorem parse_chunk_size_keeps (within : parser.Within buffer) :
    (parseChunkSize buffer parser).Keeps buffer := by
  apply on_line_keeps within
  intro line next inside
  have checks := (limit_chunk_size_ensures line.length).andThen (read_chunk_size_ensures line)
  have free := (limit_chunk_size_cursor_free line.length).andThen
    (read_chunk_size_cursor_free line)
  exact checks.proceed free within.1 within.2 inside

theorem parse_chunk_data_keeps (within : parser.Within buffer)
    (state : parser.state = .chunkData) : (parseChunkData buffer parser).Keeps buffer := by
  have bounded : parser.Bounded := within.1
  have inside : parser.cursor ≤ buffer.length := within.2
  have read := bounded.chunkBytesRead
  unfold parseChunkData takeChunkData
  simp only
  split_ifs with behind none large short
  · exact within
  · exact within
  · exact within
  all_goals
    have longer : (parser.request.body ++ (buffer.drop parser.cursor).take
        (min (buffer.drop parser.cursor).length
          (parser.chunkSize - parser.chunkBytesRead))).length ≤ maxBodySize := by
      rw [List.length_append, List.length_take]
      omega
    have moved : parser.cursor + min (buffer.drop parser.cursor).length
        (parser.chunkSize - parser.chunkBytesRead) ≤ buffer.length := by
      rw [List.length_drop]
      omega
    have consumed : parser.chunkBytesRead + min (buffer.drop parser.cursor).length
        (parser.chunkSize - parser.chunkBytesRead) ≤ parser.chunkSize := by
      omega
    refine ⟨{ bounded with
      body := longer
      chunkBytesRead := consumed
      announced := ?_
      bodiless := ?_ }, moved⟩
  · rw [state]
    nofun
  · rw [state]
    nofun
  · nofun
  · nofun

theorem parse_chunk_data_crlf_keeps (within : parser.Within buffer) :
    (parseChunkDataCRLF buffer parser).Keeps buffer := by
  unfold parseChunkDataCRLF takeChunkDataCRLF
  split_ifs with few other
  · exact within
  · exact within
  · have inside : parser.cursor + 2 ≤ buffer.length := by
      have before := within.2
      rw [List.length_drop] at few
      omega
    exact ⟨{ within.1 with announced := nofun, bodiless := nofun }, inside⟩

theorem parse_chunk_trailers_keeps (within : parser.Within buffer) :
    (parseChunkTrailers buffer parser).Keeps buffer := by
  apply on_line_keeps within
  intro line next inside
  apply (limit_trailer_line_ensures line.length).orElse (limit_trailer_line_cursor_free _)
    within.1 within.2
  intro after bounded afterInside
  split_ifs
  · exact ⟨{ bounded with }, inside⟩
  · exact (read_trailer_line_ensures line).proceed (read_trailer_line_cursor_free line) bounded
      afterInside inside

theorem parse_step_keeps (within : parser.Within buffer) :
    (parseStep buffer parser).Keeps buffer := by
  unfold parseStep
  cases state : parser.state with
  | requestLine => exact parse_request_line_keeps within state
  | headers => exact parse_headers_keeps within state
  | body => exact parse_body_keeps within state
  | chunkSize => exact parse_chunk_size_keeps within
  | chunkData => exact parse_chunk_data_keeps within state
  | chunkDataCRLF => exact parse_chunk_data_crlf_keeps within
  | chunkTrailers => exact parse_chunk_trailers_keeps within

/-- Also between two rounds, since the loop stops where its fuel ends. -/
theorem parse_loop_within (rounds : Nat) (within : parser.Within buffer) :
    (parseLoop buffer rounds parser).2.Within buffer := by
  induction rounds generalizing parser with
  | zero => exact within
  | succ rounds ih =>
      have kept := parse_step_keeps within
      unfold parseLoop
      cases step : parseStep buffer parser with
      | answer result after =>
          rw [step] at kept
          exact kept
      | again next =>
          rw [step] at kept
          exact ih kept

/-- The `while(true)` of `parse`: it goes on until a step returns. -/
inductive Returns (buffer : Bytes) : HttpParser → ParseResult × HttpParser → Prop
  | answer {parser after : HttpParser} {result : ParseResult}
      (step : parseStep buffer parser = .answer result after) :
      Returns buffer parser (result, after)
  | again {parser next : HttpParser} {outcome : ParseResult × HttpParser}
      (step : parseStep buffer parser = .again next) (rest : Returns buffer next outcome) :
      Returns buffer parser outcome

theorem again_less_work {next : HttpParser} (inside : parser.cursor ≤ buffer.length)
    (again : parseStep buffer parser = .again next) :
    workLeft buffer next < workLeft buffer parser ∧ next.cursor ≤ buffer.length := by
  have front : (buffer.take parser.cursor).length = parser.cursor := by
    rw [List.length_take]
    omega
  have behind := parse_step_behind (buffer.take parser.cursor) (buffer.drop parser.cursor) parser
  rw [List.take_append_drop, front, set_cursor_self, again] at behind
  cases step : parseStep (buffer.drop parser.cursor) (parser.setCursor 0) with
  | answer result near =>
      rw [step] at behind
      cases behind
  | again near =>
      rw [step] at behind
      cases behind
      have looked : readStep parser (buffer.drop parser.cursor) =
          .again (near.setCursor 0) near.cursor := by
        unfold readStep
        rw [step]
        rfl
      have used := reader.again_used looked
      have smaller := reader.again_smaller looked
      rw [List.length_drop] at used
      rw [List.drop_drop] at smaller
      constructor
      · rw [work_left_size, work_left_size, set_cursor_cursor]
        exact smaller
      · rw [set_cursor_cursor]
        omega

theorem parse_loop_returns (fuel : Nat) (inside : parser.cursor ≤ buffer.length)
    (enough : workLeft buffer parser < fuel) :
    Returns buffer parser (parseLoop buffer fuel parser) := by
  induction fuel generalizing parser with
  | zero => omega
  | succ fuel ih =>
      unfold parseLoop
      cases step : parseStep buffer parser with
      | answer result after => exact .answer step
      | again next =>
          obtain ⟨less, still⟩ := again_less_work inside step
          apply Returns.again step
          exact ih still (by omega)

theorem parse_returns (inside : parser.cursor ≤ buffer.length) :
    Returns buffer parser (parser.parse buffer) :=
  parse_loop_returns _ inside (Nat.lt_succ_self _)

end Steps

end Aorta.Http.HttpParser

namespace Aorta.Net.Connection

open Aorta.Library.Ascii Aorta.Http Aorta.Http.HttpParser

set_option autoImplicit false

/-- A connection between two calls of `parseRequest`, none of which has been answered with an
error: fragments are appended, what was parsed is consumed, and the parser is reset behind
a request. -/
inductive Fed : Connection → Prop
  | accepted (fd reactorId : Int) : Fed { fd, reactorId }
  | appended {connection : Connection} (fed : Fed connection) (fragment : Bytes) :
      Fed { connection with receiveBuffer := connection.receiveBuffer ++ fragment }
  | waited {connection : Connection} (fed : Fed connection)
      (hungry : connection.parseRequest.1 = .needMoreData) :
      Fed connection.parseRequest.2.consumeParsedBytes
  | completed {connection : Connection} (fed : Fed connection)
      (complete : connection.parseRequest.1 = .complete) :
      Fed connection.parseRequest.2.consumeParsedBytes.resetParser

theorem fresh_bounded : Bounded {} where
  body := Nat.zero_le _
  headers := Nat.zero_le _
  counted := Nat.zero_le _
  headersSize := Nat.zero_le _
  trailerSize := Nat.zero_le _
  contentLength := Nat.zero_le _
  chunkSize := Nat.zero_le _
  chunkBytesRead := Nat.zero_le _
  announced := nofun
  bodiless := fun _ => rfl

theorem Fed.bounded {connection : Connection} (fed : Fed connection) :
    connection.parser.Bounded ∧ connection.parser.cursor = 0 := by
  induction fed with
  | accepted fd reactorId => exact ⟨fresh_bounded, rfl⟩
  | appended fed fragment ih => exact ih
  | @waited connection fed hungry ih =>
      have parsed := parse_loop_within (workLeft connection.receiveBuffer connection.parser + 1)
        (show connection.parser.Within connection.receiveBuffer from
          ⟨ih.1, ih.2 ▸ Nat.zero_le _⟩)
      rw [consume_parsed_bytes_rewinds]
      exact ⟨{ parsed.1 with }, rfl⟩
  | completed fed complete ih => exact ⟨fresh_bounded, rfl⟩

/-- What can be subtracted from what in the next step of the parser. -/
structure Sound (parser : HttpParser) (buffer : Bytes) : Prop where
  cursor : parser.cursor ≤ buffer.length
  body : parser.request.body.length ≤ 2 ^ 20
  headers : parser.request.headers.length ≤ 100
  headersSize : parser.headersSize ≤ 32768
  trailerSize : parser.trailerSize ≤ 32768
  contentLength : parser.contentLength ≤ 2 ^ 20
  chunkBytesRead : parser.chunkBytesRead ≤ parser.chunkSize
  chunkSize : parser.chunkSize ≤ 2 ^ 20
  announced : parser.state = .body → parser.hasContentLength = true →
    parser.request.body.length ≤ parser.contentLength

theorem within_sound {parser : HttpParser} {buffer : Bytes} (within : parser.Within buffer) :
    Sound parser buffer :=
  have bounded := within.1
  ⟨within.2, bounded.body, bounded.headers, bounded.headersSize, bounded.trailerSize,
    bounded.contentLength, bounded.chunkBytesRead, bounded.chunkSize, bounded.announced⟩

/-- However a connection has been fed up to the first error, the next call of the parser
returns; before each of its rounds and at its return the parser is sound; and if it asks for
more, at most an unfinished line stays in the buffer. -/
theorem parser_stays_sound (connection : Connection) (fed : Fed connection) :
    Returns connection.receiveBuffer connection.parser
        (connection.parseRequest.1, connection.parseRequest.2.parser) ∧
      (∀ rounds, Sound (parseLoop connection.receiveBuffer rounds connection.parser).2
        connection.receiveBuffer) ∧
      Sound connection.parseRequest.2.parser connection.receiveBuffer ∧
      (connection.parseRequest.1 = .needMoreData →
        connection.parseRequest.2.consumeParsedBytes.receiveBuffer.length ≤ 8192) := by
  obtain ⟨bounded, rewound⟩ := fed.bounded
  have inside : connection.parser.cursor ≤ connection.receiveBuffer.length := by
    rw [rewound]
    exact Nat.zero_le _
  have rounds (count : Nat) : Sound
      (parseLoop connection.receiveBuffer count connection.parser).2 connection.receiveBuffer :=
    within_sound (parse_loop_within count ⟨bounded, inside⟩)
  have returned : Sound connection.parseRequest.2.parser connection.receiveBuffer :=
    rounds (workLeft connection.receiveBuffer connection.parser + 1)
  refine ⟨parse_returns inside, rounds, returned, ?_⟩
  intro hungry
  apply hungry_rest rewound
  rw [← hungry]

/-- A request in two pieces, with one byte of its body missing. -/
def putInPieces : Connection where
  fd := 5
  reactorId := 0
  receiveBuffer := ascii "PUT /tasks/1 HTT" ++
    ascii "P/1.1\r\nHost: a\r\nContent-Length: 3\r\n\r\nab"

theorem put_in_pieces_is_sound :
    putInPieces.parseRequest.1 = .needMoreData ∧
      Sound putInPieces.parseRequest.2.parser putInPieces.receiveBuffer :=
  ⟨by decide, (parser_stays_sound putInPieces
    (((Fed.accepted 5 0).appended (ascii "PUT /tasks/1 HTT")).appended
      (ascii "P/1.1\r\nHost: a\r\nContent-Length: 3\r\n\r\nab"))).2.2.1⟩

end Aorta.Net.Connection
