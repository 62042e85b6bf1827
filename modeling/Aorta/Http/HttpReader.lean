import Aorta.Http.HttpCursor
import Aorta.Library.Resume

/-!
# The parser as a resumable reader

Seen from the unread bytes alone, the four line-oriented states depend only on
the first finished line, or on the size of the unfinished one, and the two data
states put everything they see into the body before they ask for more. These
are the laws of a resumable reader; `reader` is that instance and
`parse_eq_run` says that it computes `HttpParser::parse`.
-/

namespace Aorta.Http.HttpParser

open Aorta.Library.Ascii Aorta.Library.Search Aorta.Library.Resume

set_option autoImplicit false

/-- The answers after which the connection is dropped. -/
def Rejection (result : ParseResult) : Prop :=
  result ≠ .needMoreData ∧ result ≠ .complete

instance (result : ParseResult) : Decidable (Rejection result) :=
  inferInstanceAs (Decidable (_ ∧ _))

/-- A check fails only with a rejection. -/
def Check.Rejects (check : Check) : Prop :=
  ∀ parser error next, check parser = (some error, next) → Rejection error

theorem Check.Rejects.andThen {first second : Check}
    (left : first.Rejects) (right : second.Rejects) : (first.andThen second).Rejects := by
  intro parser error next failed
  unfold Check.andThen at failed
  cases answered : first parser with
  | mk firstError after =>
      rw [answered] at failed
      cases firstError with
      | none => exact right after error next failed
      | some firstError =>
          cases failed
          exact left parser _ _ answered

theorem read_request_line_rejects (line : Bytes) : (readRequestLine line).Rejects := by
  intro parser error next failed
  unfold readRequestLine at failed
  cases parts : splitRequestLine line with
  | none =>
      rw [parts] at failed
      cases failed
      decide
  | some parts' =>
      rw [parts] at failed
      simp only at failed
      split_ifs at failed <;> cases failed <;> decide

theorem content_length_digits_rejects (length : Nat) (value : Bytes) (error : ParseResult)
    (failed : contentLengthDigits length value = .error error) : Rejection error := by
  induction value generalizing length with
  | nil => cases failed
  | cons character rest ih =>
      unfold contentLengthDigits at failed
      split_ifs at failed
      · cases failed
        decide
      · cases failed
        decide
      · exact ih _ failed

theorem read_host_rejects (name value : Bytes) : (readHost name value).Rejects := by
  intro parser error next failed
  unfold readHost at failed
  simp only at failed
  split_ifs at failed <;> cases failed <;> decide

theorem read_content_length_rejects (name value : Bytes) :
    (readContentLength name value).Rejects := by
  intro parser error next failed
  unfold readContentLength at failed
  cases digits : contentLengthDigits 0 value with
  | error digitError =>
      rw [digits] at failed
      split_ifs at failed
      · cases failed
        decide
      · cases failed
        exact content_length_digits_rejects 0 _ _ digits
      · cases failed
  | ok number =>
      rw [digits] at failed
      simp only at failed
      split_ifs at failed <;> cases failed <;> decide

theorem read_transfer_encoding_rejects (name value : Bytes) :
    (readTransferEncoding name value).Rejects := by
  intro parser error next failed
  unfold readTransferEncoding at failed
  split_ifs at failed <;> cases failed <;> decide

theorem push_header_rejects (name value : Bytes) : (pushHeader name value).Rejects := by
  intro parser error next failed
  cases failed

theorem count_header_rejects : countHeader.Rejects := by
  intro parser error next failed
  unfold countHeader at failed
  simp only at failed
  split_ifs at failed
  · cases failed
    decide
  · cases failed

theorem read_header_line_rejects (line : Bytes) : (readHeaderLine line).Rejects := by
  apply count_header_rejects.andThen
  unfold readHeader
  cases splitName line with
  | none =>
      intro parser error next failed
      cases failed
      decide
  | some parts =>
      exact (read_host_rejects _ _).andThen ((read_content_length_rejects _ _).andThen
        ((read_transfer_encoding_rejects _ _).andThen (push_header_rejects _ _)))

theorem count_trailer_rejects : countTrailer.Rejects := by
  intro parser error next failed
  unfold countTrailer at failed
  simp only at failed
  split_ifs at failed
  · cases failed
    decide
  · cases failed

theorem read_trailer_line_rejects (line : Bytes) : (readTrailerLine line).Rejects := by
  apply count_trailer_rejects.andThen
  unfold readTrailer
  cases splitName line with
  | none =>
      intro parser error next failed
      cases failed
      decide
  | some parts =>
      intro parser error next failed
      cases failed

theorem limit_request_line_rejects (size : Nat) : (limitRequestLine size).Rejects := by
  intro parser error next failed
  unfold limitRequestLine at failed
  split_ifs at failed
  · cases failed
    decide
  · cases failed

theorem limit_header_line_rejects (size : Nat) : (limitHeaderLine size).Rejects := by
  intro parser error next failed
  unfold limitHeaderLine at failed
  split_ifs at failed <;> cases failed <;> decide

theorem limit_chunk_size_rejects (size : Nat) : (limitChunkSize size).Rejects := by
  intro parser error next failed
  unfold limitChunkSize at failed
  split_ifs at failed
  · cases failed
    decide
  · cases failed

theorem limit_trailer_line_rejects (size : Nat) : (limitTrailerLine size).Rejects := by
  intro parser error next failed
  unfold limitTrailerLine at failed
  split_ifs at failed
  · cases failed
    decide
  · cases failed

theorem end_headers_rejects : endHeaders.Rejects := by
  intro parser error next failed
  unfold endHeaders at failed
  split_ifs at failed <;> cases failed <;> decide

theorem enter_headers_rejects : enterHeaders.Rejects := by
  intro parser error next failed
  cases failed

theorem read_chunk_size_rejects (line : Bytes) : (readChunkSize line).Rejects := by
  intro parser error next failed
  unfold readChunkSize at failed
  cases size : isValidChunkSize line with
  | none =>
      rw [size] at failed
      cases failed
      decide
  | some parsedSize =>
      rw [size] at failed
      cases failed

/-- A finished line is rejected, or taken up to the position behind it. -/
def Progress.TakesLine (next : Nat) : Progress → Prop
  | .answer result parser => Rejection result ∨ (result = .complete ∧ parser.cursor = next)
  | .again parser => parser.cursor = next

theorem Check.Rejects.orElse {check : Check} (rejects : check.Rejects) (parser : HttpParser)
    {next : Nat} {continuation : HttpParser → Progress}
    (takes : ∀ after, (continuation after).TakesLine next) :
    (check.orElse parser continuation).TakesLine next := by
  unfold Check.orElse
  cases answered : check parser with
  | mk error after =>
      cases error with
      | none => exact takes after
      | some error => exact .inl (rejects parser error after answered)

theorem Check.Rejects.proceed {check : Check} (rejects : check.Rejects) (parser : HttpParser)
    (next : Nat) : (check.proceed next parser).TakesLine next :=
  rejects.orElse parser fun _ => rfl

/-- The size of an unfinished line decides between waiting and rejecting. -/
def pendingLine (parser : HttpParser) : Nat → ParseResult :=
  match parser.state with
  | .requestLine => pendingRequestLine
  | .headers => pendingHeaderLine parser.headersSize
  | .chunkSize => pendingChunkSize
  | .chunkTrailers => pendingTrailerLine parser.trailerSize
  | _ => fun _ => .needMoreData

/-- What a finished line leads to. -/
def finishLine (parser : HttpParser) (line : Bytes) (next : Nat) : Progress :=
  match parser.state with
  | .requestLine =>
      ((limitRequestLine line.length).andThen
        ((readRequestLine line).andThen enterHeaders)).proceed next parser
  | .headers => finishHeaderLine line next parser
  | .chunkSize =>
      ((limitChunkSize line.length).andThen (readChunkSize line)).proceed next parser
  | .chunkTrailers => finishTrailerLine line next parser
  | _ => .answer .needMoreData parser

def State.isLine : State → Bool
  | .requestLine | .headers | .chunkSize | .chunkTrailers => true
  | .body | .chunkData | .chunkDataCRLF => false

theorem pending_line_not_complete (parser : HttpParser) (size : Nat) :
    pendingLine parser size ≠ .complete := by
  unfold pendingLine
  cases parser.state <;>
    simp only [pendingRequestLine, pendingHeaderLine, pendingChunkSize, pendingTrailerLine] <;>
    (try split_ifs) <;> decide

theorem pending_line_waits {parser : HttpParser} (isLine : parser.state.isLine) {size : Nat}
    (waits : pendingLine parser size = .needMoreData) : size ≤ maxHeaderLineSize := by
  unfold pendingLine at waits
  cases state : parser.state with
  | requestLine =>
      simp only [state, pendingRequestLine] at waits
      split_ifs at waits with long
      exact Nat.le_of_not_lt long
  | headers =>
      simp only [state, pendingHeaderLine] at waits
      split_ifs at waits with long
      exact Nat.le_of_not_lt long
  | chunkSize =>
      simp only [state, pendingChunkSize] at waits
      split_ifs at waits with long
      exact Nat.le_of_not_lt long
  | chunkTrailers =>
      simp only [state, pendingTrailerLine] at waits
      split_ifs at waits with long
      exact Nat.le_of_not_lt long
  | body => simp [state, State.isLine] at isLine
  | chunkData => simp [state, State.isLine] at isLine
  | chunkDataCRLF => simp [state, State.isLine] at isLine

theorem finish_line_takes (parser : HttpParser) (isLine : parser.state.isLine)
    (line : Bytes) (next : Nat) : (finishLine parser line next).TakesLine next := by
  unfold finishLine
  cases state : parser.state with
  | requestLine =>
      exact ((limit_request_line_rejects _).andThen
        ((read_request_line_rejects line).andThen enter_headers_rejects)).proceed parser next
  | headers =>
      apply (limit_header_line_rejects _).orElse
      intro after
      split_ifs
      · exact end_headers_rejects.proceed _ next
      · exact (read_header_line_rejects line).proceed _ next
  | chunkSize =>
      exact ((limit_chunk_size_rejects _).andThen (read_chunk_size_rejects line)).proceed
        parser next
  | chunkTrailers =>
      apply (limit_trailer_line_rejects _).orElse
      intro after
      split_ifs
      · exact .inr ⟨rfl, rfl⟩
      · exact (read_trailer_line_rejects line).proceed _ next
  | body => simp [state, State.isLine] at isLine
  | chunkData => simp [state, State.isLine] at isLine
  | chunkDataCRLF => simp [state, State.isLine] at isLine

def Progress.outcome : Progress → Outcome HttpParser ParseResult
  | .answer result next => .answer result (next.setCursor 0) next.cursor
  | .again next => .again (next.setCursor 0) next.cursor

/-- One step on the unread bytes alone. -/
def readStep (parser : HttpParser) (unread : Bytes) : Outcome HttpParser ParseResult :=
  (parseStep unread (parser.setCursor 0)).outcome

@[simp] theorem read_step_set_cursor (parser : HttpParser) (cursor : Nat) (unread : Bytes) :
    readStep (parser.setCursor cursor) unread = readStep parser unread := rfl

theorem read_step_line {parser : HttpParser} (isLine : parser.state.isLine) (unread : Bytes) :
    readStep parser unread =
      match firstOccurrence crlf unread with
      | none => .answer (pendingLine parser unread.length) (parser.setCursor 0) 0
      | some size =>
          (finishLine (parser.setCursor 0) (unread.take size) (size + 2)).outcome := by
  have line : parseStep unread (parser.setCursor 0) =
      onLine unread (parser.setCursor 0) (pendingLine parser)
        (finishLine (parser.setCursor 0)) := by
    unfold parseStep pendingLine finishLine
    rw [set_cursor_state]
    cases state : parser.state with
    | requestLine => rfl
    | headers =>
        unfold parseHeaders
        rw [if_neg (by simp)]
        rfl
    | chunkSize => rfl
    | chunkTrailers => rfl
    | body => simp [state, State.isLine] at isLine
    | chunkData => simp [state, State.isLine] at isLine
    | chunkDataCRLF => simp [state, State.isLine] at isLine
  unfold readStep
  rw [line]
  unfold onLine
  rw [set_cursor_cursor, find_zero]
  cases firstOccurrence crlf unread with
  | none => rfl
  | some size => simp only [Nat.sub_zero, substr_zero]

theorem read_step_line_used {parser next : HttpParser} (isLine : parser.state.isLine)
    {unread : Bytes} {used : Nat}
    (goesOn : readStep parser unread = .again next used ∨
      readStep parser unread = .answer .complete next used) :
    ∃ size, firstOccurrence crlf unread = some size ∧ used = size + 2 := by
  rw [read_step_line isLine] at goesOn
  cases found : firstOccurrence crlf unread with
  | none =>
      rw [found] at goesOn
      rcases goesOn with again | complete
      · cases again
      · simp only [Outcome.answer.injEq] at complete
        exact absurd complete.1 (pending_line_not_complete parser _)
  | some size =>
      rw [found] at goesOn
      simp only at goesOn
      have takes := finish_line_takes (parser.setCursor 0) isLine (unread.take size) (size + 2)
      cases finished : finishLine (parser.setCursor 0) (unread.take size) (size + 2) with
      | answer result after =>
          rw [finished] at goesOn takes
          rcases goesOn with again | complete
          · cases again
          · simp only [Progress.outcome, Outcome.answer.injEq] at complete
            rcases takes with rejected | ⟨-, cursor⟩
            · exact absurd complete.1 rejected.2
            · exact ⟨size, rfl, by rw [← complete.2.2, cursor]⟩
      | again after =>
          rw [finished] at goesOn takes
          rcases goesOn with again | complete
          · simp only [Progress.outcome, Outcome.again.injEq] at again
            exact ⟨size, rfl, by rw [← again.2, takes]⟩
          · cases complete

theorem read_step_line_extends {parser : HttpParser} (isLine : parser.state.isLine)
    {unread : Bytes} {size : Nat} (more : Bytes)
    (found : firstOccurrence crlf unread = some size) :
    readStep parser (unread ++ more) = readStep parser unread := by
  have bound := first_occurrence_le found
  rw [read_step_line isLine, read_step_line isLine, found, first_occurrence_append more found]
  simp only
  rw [List.take_append_of_le_length (by omega)]

theorem read_step_line_hungry {parser next : HttpParser} (isLine : parser.state.isLine)
    {unread : Bytes} {used : Nat}
    (hungry : readStep parser unread = .answer .needMoreData next used) :
    next = parser.setCursor 0 ∧ used = 0 ∧ unread.length ≤ maxHeaderLineSize := by
  rw [read_step_line isLine] at hungry
  cases found : firstOccurrence crlf unread with
  | none =>
      rw [found] at hungry
      simp only [Outcome.answer.injEq] at hungry
      exact ⟨hungry.2.1.symm, hungry.2.2.symm, pending_line_waits isLine hungry.1⟩
  | some size =>
      rw [found] at hungry
      simp only at hungry
      have takes := finish_line_takes (parser.setCursor 0) isLine (unread.take size) (size + 2)
      cases finished : finishLine (parser.setCursor 0) (unread.take size) (size + 2) with
      | answer result after =>
          rw [finished] at hungry takes
          simp only [Progress.outcome, Outcome.answer.injEq] at hungry
          rcases takes with rejected | ⟨complete, -⟩
          · exact absurd hungry.1 rejected.1
          · rw [complete] at hungry
            cases hungry.1
      | again after =>
          rw [finished] at hungry
          cases hungry

def appendBody (parser : HttpParser) (bytes : Bytes) : HttpParser :=
  { parser with request := { parser.request with body := parser.request.body ++ bytes } }

/-- Chunk data goes to the body and is counted against the chunk. -/
def appendChunk (parser : HttpParser) (bytes : Bytes) : HttpParser :=
  { parser.appendBody bytes with chunkBytesRead := parser.chunkBytesRead + bytes.length }

theorem append_body_nil (parser : HttpParser) : parser.appendBody [] = parser := by
  simp [appendBody]

theorem append_body_append (parser : HttpParser) (first second : Bytes) :
    (parser.appendBody first).appendBody second = parser.appendBody (first ++ second) := by
  simp [appendBody]

theorem append_chunk_append (parser : HttpParser) (first second : Bytes) :
    (parser.appendChunk first).appendChunk second = parser.appendChunk (first ++ second) := by
  simp [appendChunk, appendBody, Nat.add_assoc]

def bodyMissing (parser : HttpParser) : Nat :=
  parser.contentLength - parser.request.body.length

def chunkMissing (parser : HttpParser) : Nat := parser.chunkSize - parser.chunkBytesRead

theorem take_body_empty (parser : HttpParser) :
    (takeBody [] (parser.setCursor 0)).outcome =
      .answer .needMoreData (parser.setCursor 0) 0 := rfl

theorem take_body_short {parser : HttpParser} {unread : Bytes}
    (short : unread.length < parser.bodyMissing) :
    (takeBody unread (parser.setCursor 0)).outcome =
      .answer .needMoreData ((parser.appendBody unread).setCursor 0) unread.length := by
  by_cases empty : unread = []
  · subst empty
    rw [append_body_nil, take_body_empty]
    rfl
  · have some : unread.length ≠ 0 := by simpa using empty
    have all : min unread.length parser.bodyMissing = unread.length := by omega
    unfold bodyMissing at short all
    simp only [takeBody, setCursor, if_neg some, all, List.take_length, List.length_append]
    rw [if_pos (by omega)]
    simp [Progress.outcome, appendBody, setCursor]

theorem take_body_enough {parser : HttpParser} {unread : Bytes} (some : unread ≠ [])
    (enough : parser.bodyMissing ≤ unread.length) :
    (takeBody unread (parser.setCursor 0)).outcome =
      .answer .complete ((parser.appendBody (unread.take parser.bodyMissing)).setCursor 0)
        parser.bodyMissing := by
  have some : unread.length ≠ 0 := by simpa using some
  have all : min unread.length parser.bodyMissing = parser.bodyMissing := by omega
  unfold bodyMissing at enough all ⊢
  simp only [takeBody, setCursor, if_neg some, all, List.length_append, List.length_take]
  rw [if_neg (by omega)]
  simp [Progress.outcome, appendBody, setCursor]

theorem take_chunk_data_empty (parser : HttpParser) :
    (takeChunkData [] (parser.setCursor 0)).outcome =
      .answer .needMoreData (parser.setCursor 0) 0 := rfl

theorem take_chunk_data_large {parser : HttpParser} {unread : Bytes} (some : unread ≠ [])
    (large : parser.request.body.length + min unread.length parser.chunkMissing >
      maxBodySize) :
    (takeChunkData unread (parser.setCursor 0)).outcome =
      .answer .bodyTooLarge (parser.setCursor 0) 0 := by
  have some : unread.length ≠ 0 := by simpa using some
  unfold chunkMissing at large
  unfold takeChunkData setCursor
  simp only
  rw [if_neg some, if_pos large]
  rfl

theorem take_chunk_data_short {parser : HttpParser} {unread : Bytes} (some : unread ≠ [])
    (fits : ¬parser.request.body.length + min unread.length parser.chunkMissing >
      maxBodySize)
    (short : unread.length < parser.chunkMissing) :
    (takeChunkData unread (parser.setCursor 0)).outcome =
      .answer .needMoreData ((parser.appendChunk unread).setCursor 0) unread.length := by
  have some : unread.length ≠ 0 := by simpa using some
  have all : min unread.length parser.chunkMissing = unread.length := by omega
  rw [all] at fits
  unfold chunkMissing at short all
  simp only [takeChunkData, setCursor, if_neg some, all, if_neg fits, List.take_length]
  rw [if_pos (by omega)]
  simp [Progress.outcome, appendChunk, appendBody, setCursor]

theorem take_chunk_data_enough {parser : HttpParser} {unread : Bytes} (some : unread ≠ [])
    (fits : ¬parser.request.body.length + min unread.length parser.chunkMissing >
      maxBodySize)
    (enough : parser.chunkMissing ≤ unread.length) :
    (takeChunkData unread (parser.setCursor 0)).outcome =
      .again { (parser.appendChunk (unread.take parser.chunkMissing)).setCursor 0 with
        state := .chunkDataCRLF } parser.chunkMissing := by
  have some : unread.length ≠ 0 := by simpa using some
  have all : min unread.length parser.chunkMissing = parser.chunkMissing := by omega
  rw [all] at fits
  unfold chunkMissing at enough all fits ⊢
  simp only [takeChunkData, setCursor, if_neg some, all, if_neg fits]
  rw [if_neg (by omega)]
  simp [Progress.outcome, appendChunk, appendBody, setCursor, enough]

theorem read_step_body {parser : HttpParser} (state : parser.state = .body)
    (unread : Bytes) :
    readStep parser unread =
      if !parser.hasContentLength ∨ parser.contentLength = 0 then
        .answer .complete (parser.setCursor 0) 0
      else if parser.contentLength > maxBodySize then
        .answer .bodyTooLarge (parser.setCursor 0) 0
      else (takeBody unread (parser.setCursor 0)).outcome := by
  unfold readStep parseStep
  rw [set_cursor_state, state]
  simp only [parseBody, set_cursor_cursor, List.drop_zero]
  rw [if_neg (show ¬unread.length < 0 by omega)]
  unfold setCursor
  simp only
  split_ifs <;> rfl

theorem read_step_chunk_data {parser : HttpParser} (state : parser.state = .chunkData)
    (unread : Bytes) :
    readStep parser unread = (takeChunkData unread (parser.setCursor 0)).outcome := by
  unfold readStep parseStep
  rw [set_cursor_state, state]
  simp only [parseChunkData, set_cursor_cursor, List.drop_zero]
  rw [if_neg (show ¬unread.length < 0 by omega)]

theorem read_step_chunk_data_crlf {parser : HttpParser}
    (state : parser.state = .chunkDataCRLF) (unread : Bytes) :
    readStep parser unread = (takeChunkDataCRLF unread (parser.setCursor 0)).outcome := by
  unfold readStep parseStep
  rw [set_cursor_state, state]
  simp only [parseChunkDataCRLF, set_cursor_cursor, List.drop_zero]

section Laws

variable {parser next : HttpParser} {unread : Bytes} {used : Nat}

/-- A body is announced and within the limit, so the unread bytes matter. -/
def ExpectsBody (parser : HttpParser) : Prop :=
  ¬(!parser.hasContentLength ∨ parser.contentLength = 0) ∧
    ¬parser.contentLength > maxBodySize

theorem read_step_expects_body (state : parser.state = .body) (expects : parser.ExpectsBody)
    (unread : Bytes) :
    readStep parser unread = (takeBody unread (parser.setCursor 0)).outcome := by
  rw [read_step_body state, if_neg expects.1, if_neg expects.2]

theorem body_cases (state : parser.state = .body) :
    (∀ unread, readStep parser unread = .answer .complete (parser.setCursor 0) 0) ∨
      (∀ unread, readStep parser unread = .answer .bodyTooLarge (parser.setCursor 0) 0) ∨
      parser.ExpectsBody := by
  by_cases bodyless : !parser.hasContentLength ∨ parser.contentLength = 0
  · left
    intro unread
    rw [read_step_body state, if_pos bodyless]
  · right
    by_cases large : parser.contentLength > maxBodySize
    · left
      intro unread
      rw [read_step_body state, if_neg bodyless, if_pos large]
    · exact .inr ⟨bodyless, large⟩

theorem take_body_cases (parser : HttpParser) (unread : Bytes) :
    unread = [] ∨ unread.length < parser.bodyMissing ∨
      (unread ≠ [] ∧ parser.bodyMissing ≤ unread.length) := by
  by_cases empty : unread = []
  · exact .inl empty
  · by_cases short : unread.length < parser.bodyMissing
    · exact .inr (.inl short)
    · exact .inr (.inr ⟨empty, by omega⟩)

theorem body_not_again (state : parser.state = .body) :
    readStep parser unread ≠ .again next used := by
  intro again
  rcases body_cases state with step | step | expects
  · rw [step] at again
    cases again
  · rw [step] at again
    cases again
  · rw [read_step_expects_body state expects] at again
    rcases take_body_cases parser unread with rfl | short | ⟨some, enough⟩
    · rw [take_body_empty] at again
      cases again
    · rw [take_body_short short] at again
      cases again
    · rw [take_body_enough some enough] at again
      cases again

theorem body_complete (state : parser.state = .body)
    (complete : readStep parser unread = .answer .complete next used) :
    used ≤ unread.length ∧
      ∀ more, readStep parser (unread ++ more) = .answer .complete next used := by
  rcases body_cases state with step | step | expects
  · rw [step] at complete
    cases complete
    exact ⟨Nat.zero_le _, fun more => step _⟩
  · rw [step] at complete
    cases complete
  · rw [read_step_expects_body state expects] at complete
    rcases take_body_cases parser unread with rfl | short | ⟨some, enough⟩
    · rw [take_body_empty] at complete
      cases complete
    · rw [take_body_short short] at complete
      cases complete
    · rw [take_body_enough some enough] at complete
      cases complete
      constructor
      · exact enough
      · intro more
        have someMore : unread ++ more ≠ [] := by simp [some]
        rw [read_step_expects_body state expects, take_body_enough someMore
          (by simp only [List.length_append]; omega), List.take_append_of_le_length enough]

theorem body_hungry (state : parser.state = .body)
    (hungry : readStep parser unread = .answer .needMoreData next used) :
    used = unread.length ∧ ∀ more,
      readStep parser (unread ++ more) =
        (readStep next (unread.drop used ++ more)).delay used := by
  rcases body_cases state with step | step | expects
  · rw [step] at hungry
    cases hungry
  · rw [step] at hungry
    cases hungry
  · rw [read_step_expects_body state expects] at hungry
    rcases take_body_cases parser unread with rfl | short | ⟨some, enough⟩
    · rw [take_body_empty] at hungry
      cases hungry
      constructor
      · rfl
      · intro more
        simp
    · rw [take_body_short short] at hungry
      cases hungry
      constructor
      · rfl
      · intro more
        have fed := read_step_expects_body
          (show (parser.appendBody unread).state = .body from state)
          (show (parser.appendBody unread).ExpectsBody from expects)
        have left : (parser.appendBody unread).bodyMissing =
            parser.bodyMissing - unread.length := by
          simp only [bodyMissing, appendBody, List.length_append]
          omega
        rw [List.drop_length, List.nil_append, read_step_set_cursor,
          read_step_expects_body state expects, fed]
        by_cases still : more.length < parser.bodyMissing - unread.length
        · rw [take_body_short (by simp only [List.length_append]; omega),
            take_body_short (by omega), append_body_append]
          simp [Outcome.delay]
        · have someMore : more ≠ [] := by
            intro empty
            subst empty
            simp only [List.length_nil] at still
            omega
          have someAll : unread ++ more ≠ [] := by simp [someMore]
          rw [take_body_enough someAll (by simp only [List.length_append]; omega),
            take_body_enough someMore (by omega), append_body_append, left,
            List.take_append, List.take_of_length_le (by omega)]
          simp only [Outcome.delay, Outcome.answer.injEq, true_and]
          omega
    · rw [take_body_enough some enough] at hungry
      cases hungry

theorem chunk_data_cases (parser : HttpParser) (unread : Bytes) :
    unread = [] ∨ (unread ≠ [] ∧
      (parser.request.body.length + min unread.length parser.chunkMissing > maxBodySize ∨
        (¬parser.request.body.length + min unread.length parser.chunkMissing > maxBodySize ∧
          (unread.length < parser.chunkMissing ∨ parser.chunkMissing ≤ unread.length)))) := by
  by_cases empty : unread = []
  · exact .inl empty
  · right
    refine ⟨empty, ?_⟩
    by_cases large :
        parser.request.body.length + min unread.length parser.chunkMissing > maxBodySize
    · exact .inl large
    · exact .inr ⟨large, Nat.lt_or_ge _ _⟩

theorem chunk_data_not_complete (state : parser.state = .chunkData) :
    readStep parser unread ≠ .answer .complete next used := by
  intro complete
  rw [read_step_chunk_data state] at complete
  rcases chunk_data_cases parser unread with rfl | ⟨some, large | ⟨fits, short | enough⟩⟩
  · rw [take_chunk_data_empty] at complete
    cases complete
  · rw [take_chunk_data_large some large] at complete
    cases complete
  · rw [take_chunk_data_short some fits short] at complete
    cases complete
  · rw [take_chunk_data_enough some fits enough] at complete
    cases complete

theorem chunk_data_again (state : parser.state = .chunkData)
    (again : readStep parser unread = .again next used) :
    used ≤ unread.length ∧ next.state = .chunkDataCRLF ∧
      ∀ more, readStep parser (unread ++ more) = .again next used := by
  rw [read_step_chunk_data state] at again
  rcases chunk_data_cases parser unread with rfl | ⟨some, large | ⟨fits, short | enough⟩⟩
  · rw [take_chunk_data_empty] at again
    cases again
  · rw [take_chunk_data_large some large] at again
    cases again
  · rw [take_chunk_data_short some fits short] at again
    cases again
  · rw [take_chunk_data_enough some fits enough] at again
    cases again
    refine ⟨enough, rfl, ?_⟩
    intro more
    have someMore : unread ++ more ≠ [] := by simp [some]
    rw [Nat.min_eq_right enough] at fits
    rw [read_step_chunk_data state, take_chunk_data_enough someMore
      (by rw [Nat.min_eq_right (by simp only [List.length_append]; omega)]; exact fits)
      (by simp only [List.length_append]; omega), List.take_append_of_le_length enough]

/-- Partly read chunk data is counted, so the rest is read as if all had come
at once; a body that grows too large is refused either way. -/
theorem chunk_data_hungry (state : parser.state = .chunkData)
    (hungry : readStep parser unread = .answer .needMoreData next used) :
    used = unread.length ∧ ∀ more,
      readStep parser (unread ++ more) =
          (readStep next (unread.drop used ++ more)).delay used ∨
        ∃ left right leftUsed rightUsed,
          readStep parser (unread ++ more) = .answer .bodyTooLarge left leftUsed ∧
          readStep next (unread.drop used ++ more) =
            .answer .bodyTooLarge right rightUsed := by
  rw [read_step_chunk_data state] at hungry
  rcases chunk_data_cases parser unread with rfl | ⟨some, large | ⟨fits, short | enough⟩⟩
  · rw [take_chunk_data_empty] at hungry
    cases hungry
    constructor
    · rfl
    · intro more
      left
      simp
  · rw [take_chunk_data_large some large] at hungry
    cases hungry
  · rw [take_chunk_data_short some fits short] at hungry
    cases hungry
    constructor
    · rfl
    · intro more
      have inData : (parser.appendChunk unread).state = .chunkData := state
      have left : (parser.appendChunk unread).chunkMissing =
          parser.chunkMissing - unread.length := by
        simp only [chunkMissing, appendChunk, appendBody]
        omega
      have body : (parser.appendChunk unread).request.body.length =
          parser.request.body.length + unread.length := by
        simp [appendChunk, appendBody]
      have someAll : unread ++ more ≠ [] := by simp [some]
      have total : min (unread ++ more).length parser.chunkMissing =
          unread.length + min more.length (parser.chunkMissing - unread.length) := by
        simp only [List.length_append]
        omega
      rw [List.drop_length, List.nil_append, read_step_set_cursor]
      by_cases noMore : more = []
      · subst noMore
        left
        rw [List.append_nil, read_step_chunk_data state, read_step_chunk_data inData,
          take_chunk_data_short some fits short, take_chunk_data_empty]
        simp [Outcome.delay]
      · rw [read_step_chunk_data state, read_step_chunk_data inData]
        by_cases large : parser.request.body.length +
            min (unread ++ more).length parser.chunkMissing > maxBodySize
        · right
          have largeRest : (parser.appendChunk unread).request.body.length +
              min more.length (parser.appendChunk unread).chunkMissing > maxBodySize := by
            rw [left, body]
            omega
          exact ⟨_, _, _, _, take_chunk_data_large someAll large,
            take_chunk_data_large noMore largeRest⟩
        · left
          have fitsRest : ¬(parser.appendChunk unread).request.body.length +
              min more.length (parser.appendChunk unread).chunkMissing > maxBodySize := by
            rw [left, body]
            omega
          by_cases still : more.length < parser.chunkMissing - unread.length
          · rw [take_chunk_data_short someAll large
                (by simp only [List.length_append]; omega),
              take_chunk_data_short noMore fitsRest (by omega), append_chunk_append]
            simp [Outcome.delay]
          · rw [take_chunk_data_enough someAll large
                (by simp only [List.length_append]; omega),
              take_chunk_data_enough noMore fitsRest (by omega), append_chunk_append, left,
              List.take_append, List.take_of_length_le (by omega)]
            simp only [Outcome.delay, Outcome.again.injEq, true_and]
            omega
  · rw [take_chunk_data_enough some fits enough] at hungry
    cases hungry

/-- Two bytes decide the end of a chunk; fewer change nothing. -/
theorem chunk_data_crlf_cases (state : parser.state = .chunkDataCRLF) (unread : Bytes) :
    (unread.length < 2 ∧
        readStep parser unread = .answer .needMoreData (parser.setCursor 0) 0) ∨
      (2 ≤ unread.length ∧ unread.take 2 ≠ crlf ∧
        readStep parser unread = .answer .badRequest (parser.setCursor 0) 0) ∨
      (2 ≤ unread.length ∧ unread.take 2 = crlf ∧
        readStep parser unread = .again { parser.setCursor 0 with state := .chunkSize } 2) := by
  rw [read_step_chunk_data_crlf state]
  unfold takeChunkDataCRLF
  by_cases few : unread.length < 2
  · left
    rw [if_pos few]
    exact ⟨few, rfl⟩
  · right
    rw [if_neg few]
    by_cases lineEnd : unread.take 2 = crlf
    · right
      rw [if_neg (by simpa using lineEnd)]
      exact ⟨by omega, lineEnd, rfl⟩
    · left
      rw [if_pos lineEnd]
      exact ⟨by omega, lineEnd, rfl⟩

theorem state_cases (parser : HttpParser) :
    parser.state.isLine ∨ parser.state = .body ∨ parser.state = .chunkData ∨
      parser.state = .chunkDataCRLF := by
  cases parser.state <;> simp [State.isLine]

theorem step_again (again : readStep parser unread = .again next used) :
    used ≤ unread.length ∧ (1 ≤ used ∨ (parser.state = .chunkData ∧ next.state ≠ .chunkData)) ∧
      ∀ more, readStep parser (unread ++ more) = .again next used := by
  rcases state_cases parser with isLine | body | chunkData | chunkDataCRLF
  · obtain ⟨size, found, rfl⟩ := read_step_line_used isLine (.inl again)
    have bound := first_occurrence_le found
    simp only [crlf, List.length_cons, List.length_nil] at bound
    refine ⟨bound, .inl (by omega), ?_⟩
    intro more
    rw [read_step_line_extends isLine more found, again]
  · exact absurd again (body_not_again body)
  · obtain ⟨bound, state, extends'⟩ := chunk_data_again chunkData again
    exact ⟨bound, .inr ⟨chunkData, by rw [state]; decide⟩, extends'⟩
  · rcases chunk_data_crlf_cases chunkDataCRLF unread with
      ⟨-, step⟩ | ⟨-, -, step⟩ | ⟨enough, lineEnd, step⟩
    · rw [step] at again
      cases again
    · rw [step] at again
      cases again
    · rw [step] at again
      cases again
      refine ⟨enough, .inl (by omega), ?_⟩
      intro more
      have same : (unread ++ more).take 2 = crlf := by
        rw [List.take_append_of_le_length enough, lineEnd]
      rcases chunk_data_crlf_cases chunkDataCRLF (unread ++ more) with
        ⟨few, -⟩ | ⟨-, wrong, -⟩ | ⟨-, -, step⟩
      · simp only [List.length_append] at few
        omega
      · exact absurd same wrong
      · exact step

theorem step_complete (complete : readStep parser unread = .answer .complete next used) :
    used ≤ unread.length ∧
      ∀ more, readStep parser (unread ++ more) = .answer .complete next used := by
  rcases state_cases parser with isLine | body | chunkData | chunkDataCRLF
  · obtain ⟨size, found, rfl⟩ := read_step_line_used isLine (.inr complete)
    have bound := first_occurrence_le found
    simp only [crlf, List.length_cons, List.length_nil] at bound
    refine ⟨bound, ?_⟩
    intro more
    rw [read_step_line_extends isLine more found, complete]
  · exact body_complete body complete
  · exact absurd complete (chunk_data_not_complete chunkData)
  · rcases chunk_data_crlf_cases chunkDataCRLF unread with
      ⟨-, step⟩ | ⟨-, -, step⟩ | ⟨-, -, step⟩
    all_goals
      rw [step] at complete
      cases complete

theorem step_hungry (hungry : readStep parser unread = .answer .needMoreData next used) :
    used ≤ unread.length ∧ unread.length ≤ used + maxHeaderLineSize ∧ ∀ more,
      readStep parser (unread ++ more) =
          (readStep next (unread.drop used ++ more)).delay used ∨
        ∃ left right leftUsed rightUsed,
          readStep parser (unread ++ more) = .answer .bodyTooLarge left leftUsed ∧
          readStep next (unread.drop used ++ more) =
            .answer .bodyTooLarge right rightUsed := by
  rcases state_cases parser with isLine | body | chunkData | chunkDataCRLF
  · obtain ⟨rfl, rfl, short⟩ := read_step_line_hungry isLine hungry
    exact ⟨Nat.zero_le _, by omega, fun more => .inl (by simp)⟩
  · obtain ⟨rfl, resumes⟩ := body_hungry body hungry
    exact ⟨Nat.le_refl _, Nat.le_add_right _ _, fun more => .inl (resumes more)⟩
  · obtain ⟨rfl, resumes⟩ := chunk_data_hungry chunkData hungry
    exact ⟨Nat.le_refl _, Nat.le_add_right _ _, resumes⟩
  · rcases chunk_data_crlf_cases chunkDataCRLF unread with
      ⟨few, step⟩ | ⟨-, -, step⟩ | ⟨-, -, step⟩
    · rw [step] at hungry
      cases hungry
      have short : unread.length ≤ 0 + maxHeaderLineSize := by
        unfold maxHeaderLineSize
        omega
      exact ⟨Nat.zero_le _, short, fun more => .inl (by simp)⟩
    · rw [step] at hungry
      cases hungry
    · rw [step] at hungry
      cases hungry

end Laws

/-- The request parser as a resumable reader. -/
def reader : Reader Byte HttpParser ParseResult where
  step := readStep
  size := fun parser unread =>
    2 * unread.length + if parser.state = .chunkData then 1 else 0
  hungry := .needMoreData
  accepted := .complete
  hungry_ne_accepted := by decide
  again_used := fun again => (step_again again).1
  again_smaller := by
    intro parser unread next used again
    obtain ⟨bound, progress, -⟩ := step_again again
    rw [List.length_drop]
    rcases progress with taken | ⟨before, after⟩
    · split_ifs <;> omega
    · rw [if_pos before, if_neg after]
      omega
  again_extends := fun more again => (step_again again).2.2 more
  hungry_used := fun hungry => (step_hungry hungry).1
  accepted_used := fun complete => (step_complete complete).1
  accepted_extends := fun more complete => (step_complete complete).2 more
  resumes := by
    intro parser unread next used more hungry
    rcases (step_hungry hungry).2.2 more with same | ⟨left, right, leftUsed, rightUsed, large⟩
    · exact .inl same
    · exact .inr ⟨.bodyTooLarge, left, right, leftUsed, rightUsed, by decide, by decide, large⟩

@[simp] theorem run_set_cursor (parser : HttpParser) (cursor : Nat) (unread : Bytes) :
    reader.run (parser.setCursor cursor) unread = reader.run parser unread := by
  have same : reader.step (parser.setCursor cursor) unread = reader.step parser unread := rfl
  rw [reader.run_unfold, same, ← reader.run_unfold]

theorem parse_loop_eq_run (fuel : Nat) (front unread : Bytes) (parser : HttpParser) :
    parseLoop (front ++ unread) fuel (parser.setCursor front.length) =
      ((reader.runFuel fuel parser unread).answer,
        (reader.runFuel fuel parser unread).state.setCursor
          (front.length + (reader.runFuel fuel parser unread).used)) := by
  induction fuel generalizing front unread parser with
  | zero => rfl
  | succ fuel ih =>
      unfold parseLoop Reader.runFuel
      rw [parse_step_behind]
      have looked : reader.step parser unread =
          (parseStep unread (parser.setCursor 0)).outcome := rfl
      rw [looked]
      cases step : parseStep unread (parser.setCursor 0) with
      | answer result next => rfl
      | again next =>
          rw [step] at looked
          have bound : next.cursor ≤ unread.length := reader.again_used looked
          -- what the step used joins the part behind the cursor
          have split : front ++ unread =
              (front ++ unread.take next.cursor) ++ unread.drop next.cursor := by
            rw [List.append_assoc, List.take_append_drop]
          have behind : front.length + next.cursor =
              (front ++ unread.take next.cursor).length := by
            simp only [List.length_append, List.length_take]
            omega
          simp only [Progress.advance, Progress.outcome]
          rw [split, behind, ← set_cursor_set_cursor next 0, ih]
          simp only [Reading.delay_answer, Reading.delay_state, Reading.delay_used,
            ← behind, Nat.add_assoc]

theorem work_left_size (buffer : Bytes) (parser : HttpParser) :
    workLeft buffer parser = reader.size parser (buffer.drop parser.cursor) := by
  unfold workLeft
  rw [← List.length_drop]
  rfl

/-- `HttpParser::parse` is the reader's run, with the cursor moved by what it used. -/
theorem parse_eq_run {parser : HttpParser} {buffer : Bytes}
    (inside : parser.cursor ≤ buffer.length) :
    parser.parse buffer =
      ((reader.run parser (buffer.drop parser.cursor)).answer,
        (reader.run parser (buffer.drop parser.cursor)).state.setCursor
          (parser.cursor + (reader.run parser (buffer.drop parser.cursor)).used)) := by
  have front : (buffer.take parser.cursor).length = parser.cursor := by
    rw [List.length_take]
    omega
  have loop := parse_loop_eq_run (workLeft buffer parser + 1) (buffer.take parser.cursor)
    (buffer.drop parser.cursor) parser
  rw [List.take_append_drop, front, set_cursor_self] at loop
  unfold parse
  rw [loop, work_left_size]
  rfl

end Aorta.Http.HttpParser
