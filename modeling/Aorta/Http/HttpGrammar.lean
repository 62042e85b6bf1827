import Aorta.Http.HttpChecks

/-!
# The parser accepts the grammar

Following a valid message piece by piece gives a `Walk`; taking an accepted input
apart gives a valid message. Together: the parser accepts exactly the inputs that
start with a valid message, takes that message, and means its request.
-/

namespace Aorta.Http.HttpParser

open Aorta.Library.Ascii Aorta.Library.Search Aorta.Library.Resume

set_option autoImplicit false

section Forward

variable {parser final : HttpParser}

theorem walk_line {next : HttpParser} {line : Bytes} {rest : List Piece}
    (isLine : parser.state.isLine) (free : LineEndFree line) (follows : Follows parser line next)
    (walk : Walk next rest final) : Walk parser (.line line :: rest) final := by
  have fits : (Piece.line line).Fits parser := ⟨isLine, free⟩
  apply Walk.next fits _ walk
  unfold Follows at follows
  simpa [Piece.bytes, crlf] using follows

theorem walk_data {next : HttpParser} {content : Bytes} {rest : List Piece}
    (notLine : ¬parser.state.isLine)
    (again : readStep parser content = .again next content.length)
    (walk : Walk next rest final) : Walk parser (.data content :: rest) final := by
  have fits : (Piece.data content).Fits parser := notLine
  exact Walk.next fits again walk

theorem chunk_data_follows {content : Bytes} (state : parser.state = .chunkData)
    (some : content ≠ []) (missing : parser.chunkMissing = content.length)
    (room : parser.request.body.length + content.length ≤ maxBodySize) :
    readStep parser content =
      .again { (parser.appendChunk content).setCursor 0 with state := .chunkDataCRLF }
        content.length := by
  have fits : ¬parser.request.body.length + min content.length parser.chunkMissing >
      maxBodySize := by
    rw [missing, Nat.min_self]
    omega
  rw [read_step_chunk_data state, take_chunk_data_enough some fits (Nat.le_of_eq missing),
    missing, List.take_length]

theorem chunk_end_follows (state : parser.state = .chunkDataCRLF) :
    readStep parser crlf = .again { parser.setCursor 0 with state := .chunkSize } 2 := by
  rcases chunk_data_crlf_cases state crlf with ⟨few, -⟩ | ⟨-, wrong, -⟩ | ⟨-, -, step⟩
  · exact absurd few (by decide)
  · exact absurd rfl wrong
  · exact step

theorem walk_fields {method target : Bytes} {pieces : List Piece} (before after : List Field)
    (admissible : Admissible (before ++ after))
    (walk : Walk (headerState method target (before ++ after)) pieces final) :
    Walk (headerState method target before) (fieldPieces after ++ pieces) final := by
  induction after generalizing before with
  | nil => simpa [fieldPieces] using walk
  | cons field after ih =>
      have regroup : before ++ field :: after = (before ++ [field]) ++ after := by simp
      rw [regroup] at admissible walk
      obtain ⟨-, wellFormed, admits⟩ :=
        (admissible_append before field).mp (admissible.fewer (List.sublist_append_left _ _))
      have some : field.line ≠ [] := by simp [Field.line]
      exact walk_line rfl wellFormed.free
        ((header_line_follows method target before some wellFormed.free).mpr
          ⟨field, wellFormed, rfl, admits, rfl⟩)
        (ih (before ++ [field]) admissible walk)

theorem walk_trailers (trailers : List Field) (state : parser.state = .chunkTrailers)
    (wellFormed : ∀ field ∈ trailers, field.WellFormed)
    (count : parser.trailerCount + trailers.length ≤ maxHeaderCount)
    (size : parser.trailerSize + blockSize trailers + 2 ≤ maxHeadersSize) :
    ∃ final, Walk parser (fieldPieces trailers ++ [.line []]) final ∧
      final.request = parser.request := by
  induction trailers generalizing parser with
  | nil =>
      refine ⟨_, Walk.finish ⟨by rw [state]; rfl, by decide⟩
        (trailers_complete state (by simpa [blockSize] using size)), rfl⟩
  | cons field trailers ih =>
      have shaped := wellFormed field (by simp)
      have some : field.line ≠ [] := by simp [Field.line]
      have split : blockSize (field :: trailers) = field.line.length + 2 + blockSize trailers := by
        simp [blockSize]
      rw [List.length_cons] at count
      rw [split] at size
      obtain ⟨final, walk, request⟩ := ih (show (parser.trailerNext field.line.length).state =
          .chunkTrailers from state)
        (fun other member => wellFormed other (by simp [member]))
        (by simp only [trailerNext]; omega) (by simp only [trailerNext]; omega)
      refine ⟨final, walk_line (by rw [state]; rfl) shaped.free
        ((trailer_line_follows state some shaped.free).mpr
          ⟨field, shaped, rfl, by omega, by omega, rfl⟩) walk, request⟩

/-- The parser behind a chunk and the line end that follows it. -/
def chunkEnd (parser : HttpParser) (chunk : Chunk) : HttpParser :=
  { ((parser.chunkStart chunk.size.number).appendChunk chunk.content).setCursor 0 with
    state := .chunkSize }

theorem walk_chunk {chunk : Chunk} {pieces : List Piece} (state : parser.state = .chunkSize)
    (valid : chunk.Valid)
    (room : parser.request.body.length + chunk.content.length ≤ maxBodySize)
    (walk : Walk (parser.chunkEnd chunk) pieces final) :
    Walk parser (chunk.pieces ++ pieces) final := by
  have nonzero : chunk.size.number ≠ 0 := by
    rw [valid.number]
    simpa using valid.some
  have inData : (parser.chunkStart chunk.size.number).state = .chunkData := by
    simp [chunkStart, nonzero]
  have missing : (parser.chunkStart chunk.size.number).chunkMissing = chunk.content.length := by
    simp [chunkMissing, chunkStart, valid.number]
  have data := chunk_data_follows inData valid.some missing room
  have notLine : ¬(parser.chunkStart chunk.size.number).state.isLine := by
    rw [inData]
    decide
  exact walk_line (by rw [state]; rfl) valid.size.free
    ((size_line_follows state valid.size.free).mpr ⟨chunk.size, valid.size, rfl, rfl⟩)
    (walk_data notLine data (walk_data (by simp [State.isLine]) (chunk_end_follows rfl) walk))

theorem walk_chunks (chunks : List Chunk) (last : SizeLine) (trailers : List Field)
    (state : parser.state = .chunkSize) (valid : ∀ chunk ∈ chunks, chunk.Valid)
    (room : parser.request.body.length + (chunkContent chunks).length ≤ maxBodySize)
    (lastValid : last.WellFormed) (zero : last.number = 0)
    (noTrailers : parser.trailerSize = 0) (noCount : parser.trailerCount = 0)
    (validTrailers : ValidTrailers trailers) :
    ∃ final,
      Walk parser (chunkPieces chunks ++ .line last.line :: (fieldPieces trailers ++ [.line []]))
        final ∧
      final.request = (parser.appendBody (chunkContent chunks)).request := by
  induction chunks generalizing parser with
  | nil =>
      have inTrailers : (parser.chunkStart last.number).state = .chunkTrailers := by
        simp [chunkStart, zero]
      obtain ⟨final, walk, request⟩ := walk_trailers trailers inTrailers
        validTrailers.wellFormed
        (by simp only [chunkStart, setCursor, noCount, Nat.zero_add]; exact validTrailers.count)
        (by simp only [chunkStart, setCursor, noTrailers, Nat.zero_add]; exact validTrailers.size)
      refine ⟨final, walk_line (by rw [state]; rfl) lastValid.free
        ((size_line_follows state lastValid.free).mpr ⟨last, lastValid, rfl, rfl⟩) walk, ?_⟩
      simp only [chunkContent, List.flatMap_nil, append_body_nil]
      exact request
  | cons chunk chunks ih =>
      have content : chunkContent (chunk :: chunks) =
          chunk.content ++ chunkContent chunks := rfl
      have pieces : chunkPieces (chunk :: chunks) = chunk.pieces ++ chunkPieces chunks := rfl
      have body : (parser.chunkEnd chunk).request.body =
          parser.request.body ++ chunk.content := rfl
      rw [content, List.length_append] at room
      obtain ⟨final, walk, request⟩ := ih (show (parser.chunkEnd chunk).state = _ from rfl)
        (fun other member => valid other (by simp [member]))
        (by rw [body, List.length_append]; omega) noTrailers noCount
      refine ⟨final, ?_, ?_⟩
      · rw [pieces, List.append_assoc]
        exact walk_chunk state (valid chunk (by simp)) (by omega) walk
      · rw [request, content, ← append_body_append]
        rfl

theorem walk_last_data {content : Bytes} (notLine : ¬parser.state.isLine)
    (complete : readStep parser content = .answer .complete final content.length) :
    Walk parser [.data content] final := by
  have fits : (Piece.data content).Fits parser := notLine
  exact Walk.finish fits complete

theorem walk_body (content : Bytes) (state : parser.state = .body)
    (untouched : parser.request.body = [])
    (announces : if parser.hasContentLength then parser.contentLength = content.length
      else content = [])
    (room : content.length ≤ maxBodySize) :
    ∃ final, Walk parser [.data content] final ∧
      final.request = (parser.appendBody content).request := by
  have notLine : ¬parser.state.isLine := by
    rw [state]
    decide
  by_cases bodyless : !parser.hasContentLength ∨ parser.contentLength = 0
  · have empty : content = [] := by
      split_ifs at announces with sized
      · rcases bodyless with unsized | zero
        · simp [sized] at unsized
        · rw [← List.length_eq_zero_iff, ← announces, zero]
      · exact announces
    subst empty
    refine ⟨parser.setCursor 0, walk_last_data notLine ?_, ?_⟩
    · rw [read_step_body state, if_pos bodyless]
      rfl
    · rw [append_body_nil]
      rfl
  · have sized : parser.hasContentLength := by
      by_contra unsized
      exact bodyless (.inl (by simpa using unsized))
    rw [if_pos sized] at announces
    have some : content ≠ [] := by
      intro empty
      exact bodyless (.inr (by rw [announces, empty]; rfl))
    have missing : parser.bodyMissing = content.length := by
      simp [bodyMissing, announces, untouched]
    refine ⟨(parser.appendBody content).setCursor 0, walk_last_data notLine ?_, rfl⟩
    · rw [read_step_expects_body state ⟨bodyless, by omega⟩,
        take_body_enough some (Nat.le_of_eq missing), missing, List.take_length]

theorem walk_framing (method target : Bytes) {fields : List Field} {framing : Framing}
    (admissible : Admissible fields) (valid : framing.Valid fields) :
    ∃ final,
      Walk (headersEnd method target fields
        (if fields.any Field.isTransferEncoding then .chunkSize else .body))
        framing.pieces final ∧
      final.request = { (headerState method target fields).request with
        body := framing.body } := by
  cases framing with
  | empty =>
      obtain ⟨unsized, plain⟩ := valid
      have noEncoding : fields.any Field.isTransferEncoding = false := by simpa using plain
      have noLength : fields.any Field.isContentLength = false := by simpa using unsized
      rw [noEncoding]
      exact walk_body [] rfl rfl
        (by rw [headersEnd, headerState]; simp [noLength]) (by decide)
  | length content =>
      obtain ⟨sized, lengths, plain⟩ := valid
      obtain ⟨field, member, named⟩ := sized
      have noEncoding : fields.any Field.isTransferEncoding = false := by simpa using plain
      have someLength : fields.any Field.isContentLength = true :=
        List.any_eq_true.mpr ⟨field, member, named⟩
      have announces : announced fields = content.length := by
        rw [announced_of_mem admissible.agree member named, lengths field member named]
      rw [noEncoding]
      exact walk_body content rfl rfl
        (by rw [headersEnd, headerState]; simp [someLength, announces])
        (by rw [← lengths field member named]; exact admissible.bound field member named)
  | chunked chunks last trailers =>
      obtain ⟨-, encoded, validChunks, room, lastValid, zero, validTrailers⟩ := valid
      have someEncoding : fields.any Field.isTransferEncoding = true := List.any_eq_true.mpr encoded
      rw [someEncoding]
      exact walk_chunks chunks last trailers rfl validChunks
        (by simpa [headersEnd, headerState] using room) lastValid zero rfl rfl validTrailers

theorem one_framing {fields : List Field} {framing : Framing}
    (valid : framing.Valid fields) :
    ¬(fields.any Field.isTransferEncoding ∧ fields.any Field.isContentLength) := by
  intro both
  obtain ⟨encoding, inEncoding, isEncoding⟩ := List.any_eq_true.mp both.1
  obtain ⟨length, inLength, isLength⟩ := List.any_eq_true.mp both.2
  cases framing with
  | empty => exact valid.1 length inLength isLength
  | length content => exact valid.2.2 encoding inEncoding isEncoding
  | chunked chunks last trailers => exact valid.1 length inLength isLength

/-- A valid message is followed to its end, and means its request. -/
theorem walk_message {message : Message} (valid : message.Valid) :
    ∃ final, Walk {} message.pieces final ∧ final.request = message.request := by
  obtain ⟨final, walk, request⟩ :=
    walk_framing message.method message.target valid.fields valid.framing
  refine ⟨final, ?_, request⟩
  have requestLine := (request_line_follows valid.request_line_free).mpr
    ⟨message.method, message.target, rfl, valid.method, valid.target, valid.targetSpace,
      valid.lineSize, rfl⟩
  have blank := (blank_line_follows message.method message.target message.fields).mpr
    ⟨valid.headSize, valid.host, one_framing valid.framing, rfl⟩
  have fields := walk_fields [] message.fields valid.fields
    (walk_line rfl (show LineEndFree [] by decide) blank walk)
  have whole := walk_line rfl valid.request_line_free requestLine fields
  simpa [Message.pieces, Message.headPieces] using whole

end Forward

section Converse

variable {parser : HttpParser} {unread : Bytes}

theorem accepted_line (isLine : parser.state.isLine)
    (accepts : (reader.run parser unread).answer = .complete) :
    ∃ line rest, unread = line ++ crlf ++ rest ∧ LineEndFree line ∧
      ((∃ next, Follows parser line next ∧ (reader.run next rest).answer = .complete) ∨
        (parser.state = .chunkTrailers ∧ line = [] ∧
          parser.trailerSize + 2 ≤ maxHeadersSize)) := by
  cases found : firstOccurrence crlf unread with
  | none =>
      have step := read_step_line isLine unread
      rw [found] at step
      rw [reader.run_answer (show reader.step parser unread = _ from step)] at accepts
      exact absurd accepts (pending_line_not_complete parser _)
  | some size =>
      obtain ⟨rest, split, free⟩ := first_occurrence_split (by decide) found
      have step := read_step_finished_line isLine free rest
      rw [split] at accepts
      refine ⟨unread.take size, rest, split, free, ?_⟩
      have behind : (unread.take size ++ crlf ++ rest).drop ((unread.take size).length + 2) =
          rest := by
        have length : (unread.take size).length + 2 = (unread.take size ++ crlf).length := by
          simp [crlf]
        rw [length, List.drop_left]
      cases finished : finishLine (parser.setCursor 0) (unread.take size)
          ((unread.take size).length + 2) with
      | answer result after =>
          rw [finished] at step
          rw [reader.run_answer (show reader.step parser _ = _ from step)] at accepts
          right
          change result = .complete at accepts
          subst accepts
          have isLineStill : (parser.setCursor 0).state.isLine := isLine
          have completes := finish_line_complete isLineStill finished
          exact completes
      | again after =>
          left
          have takes := finish_line_takes (parser.setCursor 0) isLine (unread.take size)
            ((unread.take size).length + 2)
          rw [finished] at takes step
          change after.cursor = _ at takes
          rw [reader.run_again (show reader.step parser _ = _ from step)] at accepts
          rw [takes, behind] at accepts
          exact ⟨after.setCursor 0, (follows_iff isLine free).mpr ⟨after, finished, rfl⟩, accepts⟩

theorem block_size_cons (field : Field) (fields : List Field) :
    blockSize (field :: fields) = field.line.length + 2 + blockSize fields := by
  simp [blockSize]

theorem line_shorter (line rest : Bytes) : rest.length < (line ++ crlf ++ rest).length := by
  simp only [List.length_append, crlf, List.length_cons, List.length_nil]
  omega

theorem accepted_trailers (state : parser.state = .chunkTrailers)
    (few : parser.trailerCount ≤ maxHeaderCount)
    (accepts : (reader.run parser unread).answer = .complete) :
    ∃ trailers tail, unread = piecesBytes (fieldPieces trailers ++ [.line []]) ++ tail ∧
      (∀ field ∈ trailers, field.WellFormed) ∧
      parser.trailerCount + trailers.length ≤ maxHeaderCount ∧
      parser.trailerSize + blockSize trailers + 2 ≤ maxHeadersSize := by
  induction size : unread.length using Nat.strongRecOn generalizing parser unread with
  | _ bound ih =>
      obtain ⟨line, rest, rfl, free, ⟨next, follows, accepts⟩ | ⟨-, rfl, within⟩⟩ :=
        accepted_line (by rw [state]; rfl) accepts
      · have some : line ≠ [] := by
          intro blank
          rw [blank] at follows
          exact blank_trailer_ends state follows
        obtain ⟨field, wellFormed, rfl, fits, count, rfl⟩ :=
          (trailer_line_follows state some free).mp follows
        have inTrailers : (parser.trailerNext field.line.length).state = .chunkTrailers := state
        obtain ⟨trailers, tail, rfl, shaped, counts, sizes⟩ :=
          ih rest.length (size ▸ line_shorter field.line rest) inTrailers count accepts rfl
        simp only [trailerNext] at counts sizes
        refine ⟨field :: trailers, tail, ?_, ?_, ?_, ?_⟩
        · simp [fieldPieces, Piece.bytes]
        · intro other member
          simp only [List.mem_cons] at member
          rcases member with rfl | later
          · exact wellFormed
          · exact shaped other later
        · rw [List.length_cons]
          omega
        · rw [block_size_cons]
          omega
      · exact ⟨[], rest, by simp [fieldPieces, Piece.bytes], by simp, by simpa using few,
          by simpa [blockSize] using within⟩

theorem accepted_chunk (state : parser.state = .chunkData)
    (accepts : (reader.run parser unread).answer = .complete) :
    ∃ content rest, unread = content ++ crlf ++ rest ∧
      content.length = parser.chunkMissing ∧
      parser.request.body.length + content.length ≤ maxBodySize ∧
      (reader.run { (parser.appendChunk content).setCursor 0 with state := .chunkSize }
        rest).answer = .complete := by
  have step := read_step_chunk_data state unread
  rcases chunk_data_cases parser unread with
    rfl | ⟨some, large | ⟨fits, short | enough⟩⟩
  · rw [take_chunk_data_empty] at step
    rw [reader.run_answer (show reader.step parser [] = _ from step)] at accepts
    cases accepts
  · rw [take_chunk_data_large some large] at step
    rw [reader.run_answer (show reader.step parser unread = _ from step)] at accepts
    cases accepts
  · rw [take_chunk_data_short some fits short] at step
    rw [reader.run_answer (show reader.step parser unread = _ from step)] at accepts
    cases accepts
  · rw [take_chunk_data_enough some fits enough] at step
    rw [reader.run_again (show reader.step parser unread = _ from step)] at accepts
    have length : (unread.take parser.chunkMissing).length = parser.chunkMissing := by
      rw [List.length_take]
      omega
    have inEnd : ({ (parser.appendChunk (unread.take parser.chunkMissing)).setCursor 0 with
        state := .chunkDataCRLF } : HttpParser).state = .chunkDataCRLF := rfl
    rcases chunk_data_crlf_cases inEnd (unread.drop parser.chunkMissing) with
      ⟨-, wait⟩ | ⟨-, -, wrong⟩ | ⟨-, lineEnd, goes⟩
    · rw [reader.run_answer (show reader.step _ _ = _ from wait)] at accepts
      cases accepts
    · rw [reader.run_answer (show reader.step _ _ = _ from wrong)] at accepts
      cases accepts
    · rw [reader.run_again (show reader.step _ _ = _ from goes)] at accepts
      refine ⟨unread.take parser.chunkMissing,
        (unread.drop parser.chunkMissing).drop 2, ?_, length, ?_, accepts⟩
      · rw [← lineEnd, List.append_assoc, List.take_append_drop, List.take_append_drop]
      · rw [length]
        omega

theorem accepted_chunks (state : parser.state = .chunkSize)
    (room : parser.request.body.length ≤ maxBodySize)
    (noTrailers : parser.trailerSize = 0) (noCount : parser.trailerCount = 0)
    (accepts : (reader.run parser unread).answer = .complete) :
    ∃ (chunks : List Chunk) (last : SizeLine) (trailers : List Field) (tail : Bytes),
      unread = piecesBytes (chunkPieces chunks ++
        .line last.line :: (fieldPieces trailers ++ [.line []])) ++ tail ∧
      (∀ chunk ∈ chunks, chunk.Valid) ∧
      parser.request.body.length + (chunkContent chunks).length ≤ maxBodySize ∧
      last.WellFormed ∧ last.number = 0 ∧ ValidTrailers trailers := by
  induction size : unread.length using Nat.strongRecOn generalizing parser unread with
  | _ bound ih =>
      obtain ⟨line, rest, rfl, free, ⟨next, follows, accepts⟩ | ⟨wrong, -⟩⟩ :=
        accepted_line (by rw [state]; rfl) accepts
      · obtain ⟨sizeLine, wellFormed, rfl, rfl⟩ := (size_line_follows state free).mp follows
        have shorter := line_shorter sizeLine.line rest
        by_cases zero : sizeLine.number = 0
        · have inTrailers : (parser.chunkStart sizeLine.number).state = .chunkTrailers := by
            simp [chunkStart, zero]
          have none : (parser.chunkStart sizeLine.number).trailerCount = 0 := noCount
          have empty : (parser.chunkStart sizeLine.number).trailerSize = 0 := noTrailers
          obtain ⟨trailers, tail, rfl, shaped, counts, sizes⟩ :=
            accepted_trailers inTrailers (by rw [none]; decide) accepts
          rw [none, Nat.zero_add] at counts
          rw [empty, Nat.zero_add] at sizes
          refine ⟨[], sizeLine, trailers, tail, ?_, by simp, by simpa [chunkContent] using room,
            wellFormed, zero, ⟨shaped, counts, sizes⟩⟩
          simp [chunkPieces, Piece.bytes]
        · have inData : (parser.chunkStart sizeLine.number).state = .chunkData := by
            simp [chunkStart, zero]
          have missing : (parser.chunkStart sizeLine.number).chunkMissing = sizeLine.number := by
            simp [chunkMissing, chunkStart]
          obtain ⟨content, behind, rfl, length, fits, accepts⟩ := accepted_chunk inData accepts
          rw [missing] at length
          change parser.request.body.length + content.length ≤ maxBodySize at fits
          have body : (parser.chunkEnd ⟨sizeLine, content⟩).request.body =
              parser.request.body ++ content := rfl
          have inSize : (parser.chunkEnd ⟨sizeLine, content⟩).state = .chunkSize := rfl
          obtain ⟨chunks, last, trailers, tail, rfl, valid, total, lastValid, lastZero,
            validTrailers⟩ := ih behind.length
              (by rw [← size]; exact Nat.lt_trans (line_shorter content behind) shorter)
              inSize (by rw [body, List.length_append]; exact fits) noTrailers noCount accepts rfl
          rw [body, List.length_append] at total
          refine ⟨⟨sizeLine, content⟩ :: chunks, last, trailers, tail, ?_, ?_, ?_, lastValid,
            lastZero, validTrailers⟩
          · simp [chunkPieces, Chunk.pieces, Piece.bytes]
          · intro chunk member
            simp only [List.mem_cons] at member
            rcases member with rfl | later
            · refine ⟨wellFormed, length.symm, ?_⟩
              intro empty
              simp only at empty
              rw [empty] at length
              exact zero length.symm
            · exact valid chunk later
          · have whole : chunkContent (⟨sizeLine, content⟩ :: chunks) =
                content ++ chunkContent chunks := rfl
            rw [whole, List.length_append]
            omega
      · rw [state] at wrong
        cases wrong

theorem accepted_fields {method target : Bytes} {before : List Field}
    (admissible : Admissible before)
    (accepts : (reader.run (headerState method target before) unread).answer = .complete) :
    ∃ after rest, unread = piecesBytes (fieldPieces after ++ [.line []]) ++ rest ∧
      Admissible (before ++ after) ∧ blockSize (before ++ after) + 2 ≤ maxHeadersSize ∧
      (before ++ after).countP Field.isHost = 1 ∧
      ¬((before ++ after).any Field.isTransferEncoding ∧
        (before ++ after).any Field.isContentLength) ∧
      (reader.run (headersEnd method target (before ++ after)
        (if (before ++ after).any Field.isTransferEncoding then .chunkSize else .body))
        rest).answer = .complete := by
  induction size : unread.length using Nat.strongRecOn generalizing before unread with
  | _ bound ih =>
      obtain ⟨line, rest, rfl, free, ⟨next, follows, accepts⟩ | ⟨wrong, -⟩⟩ :=
        accepted_line rfl accepts
      · by_cases blank : line = []
        · subst blank
          obtain ⟨full, host, single, rfl⟩ := (blank_line_follows method target before).mp follows
          refine ⟨[], rest, by simp [fieldPieces, Piece.bytes], ?_⟩
          simp only [List.append_nil]
          exact ⟨admissible, full, host, single, accepts⟩
        · obtain ⟨field, wellFormed, rfl, admits, rfl⟩ :=
            (header_line_follows method target before blank free).mp follows
          have longer := (admissible_append before field).mpr ⟨admissible, wellFormed, admits⟩
          obtain ⟨after, tail, rfl, parts⟩ :=
            ih rest.length (size ▸ line_shorter field.line rest) longer accepts rfl
          refine ⟨field :: after, tail, by simp [fieldPieces, Piece.bytes], ?_⟩
          simpa using parts
      · cases wrong

theorem accepted_body (state : parser.state = .body) (untouched : parser.request.body = [])
    (sized : parser.hasContentLength)
    (accepts : (reader.run parser unread).answer = .complete) :
    ∃ content tail, unread = content ++ tail ∧ content.length = parser.contentLength := by
  by_cases zero : parser.contentLength = 0
  · exact ⟨[], unread, rfl, zero.symm⟩
  · have step := read_step_body state unread
    rw [if_neg (by simp [sized, zero])] at step
    split_ifs at step with large
    · rw [reader.run_answer (show reader.step parser unread = _ from step)] at accepts
      cases accepts
    · have missing : parser.bodyMissing = parser.contentLength := by
        simp [bodyMissing, untouched]
      rcases take_body_cases parser unread with rfl | short | ⟨some, enough⟩
      · rw [take_body_empty] at step
        rw [reader.run_answer (show reader.step parser [] = _ from step)] at accepts
        cases accepts
      · rw [take_body_short short] at step
        rw [reader.run_answer (show reader.step parser unread = _ from step)] at accepts
        cases accepts
      · refine ⟨unread.take parser.contentLength, unread.drop parser.contentLength,
          (List.take_append_drop _ _).symm, ?_⟩
        rw [List.length_take]
        omega

theorem accepted_framing {method target : Bytes} {fields : List Field}
    (admissible : Admissible fields)
    (single : ¬(fields.any Field.isTransferEncoding ∧ fields.any Field.isContentLength))
    (accepts : (reader.run (headersEnd method target fields
      (if fields.any Field.isTransferEncoding then .chunkSize else .body)) unread).answer =
        .complete) :
    ∃ (framing : Framing) (tail : Bytes),
      unread = piecesBytes framing.pieces ++ tail ∧ framing.Valid fields := by
  cases encoded : fields.any Field.isTransferEncoding with
  | true =>
      rw [encoded] at accepts
      have unsized : fields.any Field.isContentLength = false := by
        cases sized : fields.any Field.isContentLength with
        | false => rfl
        | true => exact absurd ⟨encoded, sized⟩ single
      obtain ⟨chunks, last, trailers, tail, rfl, valid, total, lastValid, zero, validTrailers⟩ :=
        accepted_chunks rfl (by simp [headersEnd, headerState]) rfl rfl accepts
      refine ⟨.chunked chunks last trailers, tail, rfl, by simpa using unsized,
        List.any_eq_true.mp encoded, valid, ?_, lastValid, zero, validTrailers⟩
      simpa [headersEnd, headerState] using total
  | false =>
      rw [encoded] at accepts
      cases sized : fields.any Field.isContentLength with
      | false =>
          exact ⟨.empty, unread, by simp [Framing.pieces, Piece.bytes], by simpa using sized,
            by simpa using encoded⟩
      | true =>
          obtain ⟨content, tail, rfl, length⟩ :=
            accepted_body rfl (by simp [headersEnd, headerState])
              (by rw [headersEnd, headerState]; exact sized) accepts
          refine ⟨.length content, tail, by simp [Framing.pieces, Piece.bytes],
            List.any_eq_true.mp sized, ?_, by simpa using encoded⟩
          intro field member named
          rw [length, ← announced_of_mem admissible.agree member named]
          rfl

theorem accepted_message (accepts : (reader.run {} unread).answer = .complete) :
    ∃ (message : Message) (tail : Bytes), message.Valid ∧ unread = message.encode ++ tail := by
  obtain ⟨line, rest, rfl, free, ⟨next, follows, accepts⟩ | ⟨wrong, -⟩⟩ :=
    accepted_line rfl accepts
  · obtain ⟨method, target, rfl, validMethod, validTarget, noSpace, lineSize, rfl⟩ :=
      (request_line_follows free).mp follows
    obtain ⟨fields, rest, rfl, admissible, full, host, single, accepts⟩ :=
      accepted_fields admissible_nil accepts
    rw [List.nil_append] at admissible full host single accepts
    obtain ⟨framing, tail, rfl, valid⟩ := accepted_framing admissible single accepts
    refine ⟨⟨method, target, fields, framing⟩, tail,
      ⟨validMethod, validTarget, noSpace, lineSize, admissible, full, host, valid⟩, ?_⟩
    simp [Message.encode, Message.pieces, Message.headPieces, Message.requestLine, Piece.bytes]
  · cases wrong

end Converse

section Acceptance

/-- A fresh parser on a valid message with anything behind it. -/
theorem parse_message {message : Message} (valid : message.Valid) (tail : Bytes) :
    ∃ final, ({} : HttpParser).parse (message.encode ++ tail) = (.complete, final) ∧
      final.getRequest = message.request ∧ final.getConsumedBytes = message.encode.length := by
  obtain ⟨final, walk, request⟩ := walk_message valid
  have reading := walk.run tail
  rw [parse_eq_run (Nat.zero_le _)]
  change reader.run {} (message.encode ++ tail) = _ at reading
  rw [List.drop_zero, reading]
  exact ⟨_, rfl, request, Nat.zero_add _⟩

/-- Only a valid message is accepted; it is taken whole and means its request. -/
theorem message_of_complete {buffer : Bytes} {final : HttpParser}
    (complete : ({} : HttpParser).parse buffer = (.complete, final)) :
    ∃ (message : Message) (tail : Bytes), message.Valid ∧ buffer = message.encode ++ tail ∧
      final.getRequest = message.request ∧
      final.getConsumedBytes = message.encode.length := by
  have accepts : (reader.run {} buffer).answer = .complete := by
    rw [parse_eq_run (Nat.zero_le _)] at complete
    exact congrArg Prod.fst complete
  obtain ⟨message, tail, valid, rfl⟩ := accepted_message accepts
  obtain ⟨same, parsed, request, consumed⟩ := parse_message valid tail
  rw [complete] at parsed
  cases parsed
  exact ⟨message, tail, valid, rfl, request, consumed⟩

end Acceptance

end Aorta.Http.HttpParser
