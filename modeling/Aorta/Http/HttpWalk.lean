import Aorta.Http.HttpReader

/-!
# Requests as pieces

An accepted request is a sequence of pieces: lines, each closed by a line end,
and runs of data. A `Walk` follows the parser from piece to piece. It tells both
what the parser answers on the whole and what it answers when the input stops
somewhere inside: a run of data always waits for the rest, a line waits unless
the part of it that has arrived, its CR included, is already over the limit.
-/

namespace Aorta.Http.HttpParser

open Aorta.Library.Ascii Aorta.Library.Search Aorta.Library.Resume

set_option autoImplicit false

inductive Piece where
  | line (content : Bytes)
  | data (content : Bytes)
deriving DecidableEq

def Piece.bytes : Piece → Bytes
  | .line content => content ++ crlf
  | .data content => content

def piecesBytes (pieces : List Piece) : Bytes := pieces.flatMap Piece.bytes

@[simp] theorem pieces_bytes_nil : piecesBytes [] = [] := rfl

@[simp] theorem pieces_bytes_cons (piece : Piece) (pieces : List Piece) :
    piecesBytes (piece :: pieces) = piece.bytes ++ piecesBytes pieces := rfl

@[simp] theorem pieces_bytes_append (first second : List Piece) :
    piecesBytes (first ++ second) = piecesBytes first ++ piecesBytes second :=
  List.flatMap_append

/-- How much of a line has arrived, without the whole of its line end, when the
input stops after `count` bytes; zero inside a run of data. -/
def unfinishedLine : List Piece → Nat → Nat
  | [], _ => 0
  | .line content :: rest, count =>
      if count < content.length + 2 then count
      else unfinishedLine rest (count - (content.length + 2))
  | .data content :: rest, count =>
      if count < content.length then 0 else unfinishedLine rest (count - content.length)

theorem unfinished_line_inside (content : Bytes) (rest : List Piece) {count : Nat}
    (inside : count < (Piece.line content).bytes.length) :
    unfinishedLine (.line content :: rest) count = count := by
  unfold unfinishedLine
  rw [if_pos (by simpa [Piece.bytes, crlf] using inside)]

theorem unfinished_data_inside (content : Bytes) (rest : List Piece) {count : Nat}
    (inside : count < (Piece.data content).bytes.length) :
    unfinishedLine (.data content :: rest) count = 0 := by
  unfold unfinishedLine
  rw [if_pos (by simpa [Piece.bytes] using inside)]

theorem unfinished_line_behind (piece : Piece) (rest : List Piece) {count : Nat}
    (behind : piece.bytes.length ≤ count) :
    unfinishedLine (piece :: rest) count =
      unfinishedLine rest (count - piece.bytes.length) := by
  cases piece with
  | line content =>
      have size : (Piece.line content).bytes.length = content.length + 2 := by
        simp [Piece.bytes, crlf]
      rw [size] at behind ⊢
      conv_lhs => unfold unfinishedLine
      rw [if_neg (by omega)]
  | data content =>
      simp only [Piece.bytes] at behind ⊢
      conv_lhs => unfold unfinishedLine
      rw [if_neg (by omega)]

/-- Lines are for the line-oriented states and hold no line end of their own. -/
def Piece.Fits (parser : HttpParser) : Piece → Prop
  | .line content => parser.state.isLine ∧ firstOccurrence crlf content = none
  | .data _ => ¬parser.state.isLine

/-- The parser takes the pieces one by one and completes behind the last; where
no body follows the headers, the last piece is an empty run of data. -/
inductive Walk : HttpParser → List Piece → HttpParser → Prop
  | finish {parser final : HttpParser} {piece : Piece} (fits : piece.Fits parser)
      (complete : readStep parser piece.bytes =
        .answer .complete final piece.bytes.length) : Walk parser [piece] final
  | next {parser after final : HttpParser} {piece : Piece} {rest : List Piece}
      (fits : piece.Fits parser)
      (again : readStep parser piece.bytes = .again after piece.bytes.length)
      (walk : Walk after rest final) : Walk parser (piece :: rest) final

theorem Walk.run {parser final : HttpParser} {pieces : List Piece}
    (walk : Walk parser pieces final) (tail : Bytes) :
    reader.run parser (piecesBytes pieces ++ tail) =
      ⟨.complete, final, (piecesBytes pieces).length⟩ := by
  induction walk with
  | finish fits complete =>
      rw [pieces_bytes_cons, pieces_bytes_nil, List.append_nil]
      exact reader.run_answer (reader.accepted_extends tail complete)
  | next fits again walk ih =>
      rw [pieces_bytes_cons, List.append_assoc,
        reader.run_again (reader.again_extends _ again), List.drop_left, ih]
      simp [Reading.delay]

section Limits

variable {parser : HttpParser} {content : Bytes}

theorem finish_line_within {next : Nat} {progress : Progress}
    (finished : finishLine parser content next = progress)
    (taken : ∀ result after, progress = .answer result after → ¬Rejection result) :
    (parser.state = .headers →
        parser.headersSize + content.length + 2 ≤ maxHeadersSize) ∧
      (parser.state = .chunkTrailers →
        parser.trailerSize + content.length + 2 ≤ maxHeadersSize) := by
  constructor
  · intro state
    by_contra exceeds
    have failed : (limitHeaderLine content.length) parser = (some .headersTooLarge, parser) := by
      unfold limitHeaderLine
      split_ifs
      · rfl
      · rfl
      · omega
    simp only [finishLine, state, finishHeaderLine, Check.orElse, failed] at finished
    exact taken _ _ finished.symm (by decide)
  · intro state
    by_contra exceeds
    have failed : (limitTrailerLine content.length) parser = (some .headersTooLarge, parser) := by
      unfold limitTrailerLine
      rw [if_pos (by omega)]
    simp only [finishLine, state, finishTrailerLine, Check.orElse, failed] at finished
    exact taken _ _ finished.symm (by decide)

theorem read_step_finished_line (isLine : parser.state.isLine)
    (free : firstOccurrence crlf content = none) (rest : Bytes) :
    readStep parser (content ++ crlf ++ rest) =
      (finishLine (parser.setCursor 0) content (content.length + 2)).outcome := by
  have found : firstOccurrence crlf (content ++ crlf ++ rest) = some content.length :=
    first_occurrence_delimiter (by decide) rest free
  rw [read_step_line isLine, found]
  simp

theorem read_step_unfinished_line (isLine : parser.state.isLine)
    (free : firstOccurrence crlf content = none) {count : Nat}
    (inside : count < (content ++ crlf).length) :
    readStep parser ((content ++ crlf).take count) =
      .answer (pendingLine parser count) (parser.setCursor 0) 0 := by
  have missing : firstOccurrence crlf ((content ++ crlf).take count) = none := by
    cases found : firstOccurrence crlf ((content ++ crlf).take count) with
    | none => rfl
    | some offset =>
        have early := first_occurrence_le found
        have whole := first_occurrence_append ((content ++ crlf).drop count) found
        have atEnd : firstOccurrence crlf (content ++ crlf ++ []) = some content.length :=
          first_occurrence_delimiter (by decide) [] free
        rw [List.take_append_drop] at whole
        rw [List.append_nil, whole] at atEnd
        simp only [List.length_take, crlf, List.length_append, List.length_cons,
          List.length_nil] at early inside
        cases atEnd
        omega
  rw [read_step_line isLine, missing]
  simp only [List.length_take]
  rw [Nat.min_eq_left (by omega)]

theorem pending_line_waits_iff {size : Nat}
    (headers : parser.state = .headers → parser.headersSize + size ≤ maxHeadersSize)
    (trailers : parser.state = .chunkTrailers → parser.trailerSize + size ≤ maxHeadersSize)
    (isLine : parser.state.isLine) :
    pendingLine parser size = .needMoreData ↔ size ≤ maxHeaderLineSize := by
  unfold pendingLine
  cases state : parser.state with
  | requestLine =>
      simp only [pendingRequestLine, maxRequestLineSize, maxHeaderLineSize]
      split_ifs <;> simp_all
  | headers =>
      have room := headers state
      simp only [pendingHeaderLine]
      split_ifs <;> simp only [false_iff, true_iff] <;> omega
  | chunkSize =>
      simp only [pendingChunkSize]
      split_ifs <;> simp only [false_iff, true_iff] <;> omega
  | chunkTrailers =>
      have room := trailers state
      simp only [pendingTrailerLine]
      split_ifs <;> simp only [false_iff, true_iff] <;> omega
  | body => simp [state, State.isLine] at isLine
  | chunkData => simp [state, State.isLine] at isLine
  | chunkDataCRLF => simp [state, State.isLine] at isLine

end Limits

/-- The piece is taken whole: by a step that goes on or by one that completes. -/
def Takes (parser : HttpParser) (bytes : Bytes) : Prop :=
  (∃ next, readStep parser bytes = .again next bytes.length) ∨
    ∃ next, readStep parser bytes = .answer .complete next bytes.length

theorem line_cut {parser : HttpParser} {content : Bytes} (isLine : parser.state.isLine)
    (free : firstOccurrence crlf content = none) (takes : Takes parser (content ++ crlf))
    {count : Nat} (inside : count < (content ++ crlf).length) :
    ∃ result after used,
      readStep parser ((content ++ crlf).take count) = .answer result after used ∧
        result ≠ .complete ∧
        (result = .needMoreData ↔ count ≤ maxHeaderLineSize) := by
  have whole := read_step_finished_line isLine free []
  rw [List.append_nil] at whole
  have within := finish_line_within
    (show finishLine (parser.setCursor 0) content (content.length + 2) = _ from rfl) (by
      intro result after finished rejected
      rw [finished] at whole
      rcases takes with ⟨next, step⟩ | ⟨next, step⟩
      · rw [step] at whole
        cases whole
      · rw [step] at whole
        simp only [Progress.outcome, Outcome.answer.injEq] at whole
        exact rejected.2 whole.1.symm)
  have size : (content ++ crlf).length = content.length + 2 := by simp [crlf]
  refine ⟨_, _, _, read_step_unfinished_line isLine free inside,
    pending_line_not_complete parser count, ?_⟩
  apply pending_line_waits_iff
  · intro state
    have room : parser.headersSize + content.length + 2 ≤ maxHeadersSize := within.1 state
    omega
  · intro state
    have room : parser.trailerSize + content.length + 2 ≤ maxHeadersSize := within.2 state
    omega
  · exact isLine

theorem body_cut {parser : HttpParser} {content : Bytes} (state : parser.state = .body)
    (takes : Takes parser content) {count : Nat} (inside : count < content.length) :
    ∃ after used,
      readStep parser (content.take count) = .answer .needMoreData after used := by
  have cutSize : (content.take count).length = count := by
    rw [List.length_take]
    omega
  obtain ⟨next, complete⟩ : ∃ next, readStep parser content =
      .answer .complete next content.length :=
    takes.resolve_left fun ⟨next, again⟩ => body_not_again state again
  rcases body_cases state with step | step | expects
  · rw [step] at complete
    simp only [Outcome.answer.injEq, true_and] at complete
    omega
  · rw [step] at complete
    cases complete
  · rw [read_step_expects_body state expects] at complete ⊢
    have short : count < parser.bodyMissing := by
      rcases take_body_cases parser content with rfl | short | ⟨some, enough⟩
      · simp at inside
      · omega
      · rw [take_body_enough some enough] at complete
        simp only [Outcome.answer.injEq, true_and] at complete
        omega
    exact ⟨_, _, take_body_short (by omega)⟩

theorem chunk_data_cut {parser : HttpParser} {content : Bytes} (state : parser.state = .chunkData)
    (takes : Takes parser content) {count : Nat} (inside : count < content.length) :
    ∃ after used,
      readStep parser (content.take count) = .answer .needMoreData after used := by
  have cutSize : (content.take count).length = count := by
    rw [List.length_take]
    omega
  obtain ⟨next, again⟩ : ∃ next, readStep parser content = .again next content.length :=
    takes.resolve_right fun ⟨next, complete⟩ => chunk_data_not_complete state complete
  rw [read_step_chunk_data state] at again ⊢
  rcases chunk_data_cases parser content with rfl | ⟨some, large | ⟨fits, short | enough⟩⟩
  · simp at inside
  · rw [take_chunk_data_large some large] at again
    cases again
  · rw [take_chunk_data_short some fits short] at again
    cases again
  · rw [take_chunk_data_enough some fits enough] at again
    simp only [Outcome.again.injEq] at again
    by_cases empty : content.take count = []
    · rw [empty]
      exact ⟨_, _, take_chunk_data_empty parser⟩
    · exact ⟨_, _, take_chunk_data_short empty (by omega) (by omega)⟩

theorem Takes.not_answered {parser after : HttpParser} {content : Bytes} {result : ParseResult}
    {used : Nat} (takes : Takes parser content) (other : result ≠ .complete) :
    readStep parser content ≠ .answer result after used := by
  intro step
  rcases takes with ⟨next, again⟩ | ⟨next, complete⟩
  · rw [step] at again
    cases again
  · rw [step] at complete
    cases complete
    exact other rfl

theorem chunk_data_crlf_cut {parser : HttpParser} {content : Bytes}
    (state : parser.state = .chunkDataCRLF) (takes : Takes parser content) {count : Nat}
    (inside : count < content.length) :
    ∃ after used,
      readStep parser (content.take count) = .answer .needMoreData after used := by
  have cutSize : (content.take count).length = count := by
    rw [List.length_take]
    omega
  rcases chunk_data_crlf_cases state content with ⟨-, step⟩ | ⟨-, -, step⟩ | ⟨-, -, step⟩
  · exact absurd step (takes.not_answered nofun)
  · exact absurd step (takes.not_answered nofun)
  · have size : content.length = 2 := by
      rcases takes with ⟨next, again⟩ | ⟨next, complete⟩
      · rw [step] at again
        simp only [Outcome.again.injEq] at again
        omega
      · rw [step] at complete
        cases complete
    rcases chunk_data_crlf_cases state (content.take count) with
      ⟨-, waits⟩ | ⟨enough, -⟩ | ⟨enough, -⟩
    · exact ⟨_, _, waits⟩
    · omega
    · omega

theorem data_cut {parser : HttpParser} {content : Bytes} (notLine : ¬parser.state.isLine)
    (takes : Takes parser content) {count : Nat} (inside : count < content.length) :
    ∃ after used,
      readStep parser (content.take count) = .answer .needMoreData after used := by
  rcases state_cases parser with isLine | body | chunkData | chunkDataCRLF
  · exact absurd isLine notLine
  · exact body_cut body takes inside
  · exact chunk_data_cut chunkData takes inside
  · exact chunk_data_crlf_cut chunkDataCRLF takes inside

theorem piece_cut {parser : HttpParser} {piece : Piece} (fits : piece.Fits parser)
    (takes : Takes parser piece.bytes) (rest : List Piece) {count : Nat}
    (inside : count < piece.bytes.length) :
    let answer := (reader.run parser (piece.bytes.take count)).answer
    answer ≠ .complete ∧
      (answer = .needMoreData ↔
        unfinishedLine (piece :: rest) count ≤ maxHeaderLineSize) := by
  cases piece with
  | line content =>
      obtain ⟨result, after, used, step, notComplete, waits⟩ :=
        line_cut fits.1 fits.2 takes inside
      have reading := reader.run_answer (show reader.step _ _ = _ from step)
      rw [unfinished_line_inside content rest inside]
      simp only [Piece.bytes, reading]
      exact ⟨notComplete, waits⟩
  | data content =>
      rw [unfinished_data_inside content rest inside]
      change Takes parser content at takes
      obtain ⟨after, used, step⟩ := data_cut fits takes inside
      have reading := reader.run_answer (show reader.step _ _ = _ from step)
      simp only [Piece.bytes, reading]
      exact ⟨by decide, fun _ => Nat.zero_le _, fun _ => trivial⟩

/-- What the parser answers when the input stops before the last piece is whole. -/
theorem Walk.cut {parser final : HttpParser} {pieces : List Piece}
    (walk : Walk parser pieces final) {count : Nat}
    (inside : count < (piecesBytes pieces).length) :
    let answer := (reader.run parser ((piecesBytes pieces).take count)).answer
    answer ≠ .complete ∧
      (answer = .needMoreData ↔ unfinishedLine pieces count ≤ maxHeaderLineSize) := by
  induction walk generalizing count with
  | finish fits complete =>
      rw [pieces_bytes_cons, pieces_bytes_nil, List.append_nil] at inside ⊢
      exact piece_cut fits (.inr ⟨_, complete⟩) [] inside
  | @next parser after final piece rest fits again walk ih =>
      rw [pieces_bytes_cons] at inside ⊢
      by_cases here : count < piece.bytes.length
      · rw [List.take_append_of_le_length (by omega)]
        exact piece_cut fits (.inl ⟨_, again⟩) rest here
      · have behind : piece.bytes.length ≤ count := by omega
        have left : count - piece.bytes.length < (piecesBytes rest).length := by
          rw [List.length_append] at inside
          omega
        rw [List.take_append, List.take_of_length_le behind,
          reader.run_again (reader.again_extends _ again), List.drop_left,
          unfinished_line_behind piece rest behind]
        exact ih left

end Aorta.Http.HttpParser
