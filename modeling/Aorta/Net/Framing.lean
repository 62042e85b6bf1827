import Aorta.Net.Pipelining

/-!
# Framing of accepted requests

What an accepted request says about its own extent: its headers name one framing,
and the bytes taken from the stream are its header section followed by exactly
what that framing describes. The statement is about the stored request and the
bytes fed, whatever the fragments were.
-/

namespace Aorta.Net.Connection

open Aorta.Library.Ascii Aorta.Http Aorta.Http.HttpParser

set_option autoImplicit false

def named (name : String) (header : Bytes × Bytes) : Bool :=
  equalsIgnoreCase header.1 (ascii name)

/-- A request line and a header section with its blank line, as they stand in the
stream; between a colon and a value there may be blanks. -/
def IsHead (request : HttpRequest) (head : Bytes) : Prop :=
  ∃ fields : List Field, fields.map Field.header = request.headers ∧
    (∀ field ∈ fields, field.WellFormed) ∧
    head = request.method ++ [space] ++ request.target ++ [space] ++ request.version ++ crlf ++
      fields.flatMap (fun field => field.name ++ [colon] ++ field.pad ++ field.value ++ crlf) ++
      crlf

/-- A chunked encoding: size lines, data and line ends, a line of size zero,
trailers and a blank line. -/
def IsChunkedEncoding (content body : Bytes) : Prop :=
  ∃ (chunks : List Chunk) (last : SizeLine) (trailers : List Field),
    (∀ chunk ∈ chunks, chunk.size.WellFormed ∧
      chunk.size.number = chunk.content.length ∧ chunk.content ≠ []) ∧
    last.WellFormed ∧ last.number = 0 ∧
    (∀ field ∈ trailers, field.WellFormed) ∧
    content = chunks.flatMap (fun chunk =>
        chunk.size.line ++ crlf ++ chunk.content ++ crlf) ++
      (last.line ++ crlf ++ trailers.flatMap (fun field => field.line ++ crlf) ++ crlf) ∧
    body = chunks.flatMap Chunk.content

/-- The framing a request announces is the framing of the bytes behind its head. -/
structure Framed (request : HttpRequest) (content : Bytes) : Prop where
  oneHost : request.headers.countP (named "Host") = 1
  someHost : ∀ header ∈ request.headers, named "Host" header → header.2 ≠ []
  oneFraming : ¬((∃ header ∈ request.headers, named "Content-Length" header) ∧
    ∃ header ∈ request.headers, named "Transfer-Encoding" header)
  sized : (∃ header ∈ request.headers, named "Content-Length" header) →
    ∃ length ≤ maxBodySize,
      (∀ header ∈ request.headers, named "Content-Length" header →
        header.2 ≠ [] ∧ header.2.all isDigit ∧ numeral 10 digitValue header.2 = length) ∧
      request.body.length = length ∧ content = request.body
  encoded : (∃ header ∈ request.headers, named "Transfer-Encoding" header) →
    request.headers.countP (named "Transfer-Encoding") = 1 ∧
      (∀ header ∈ request.headers, named "Transfer-Encoding" header →
        equalsIgnoreCase (trim header.2) (ascii "chunked")) ∧
      IsChunkedEncoding content request.body ∧ request.body.length ≤ maxBodySize
  unframed : (∀ header ∈ request.headers, ¬named "Content-Length" header) →
    (∀ header ∈ request.headers, ¬named "Transfer-Encoding" header) →
    request.body = [] ∧ content = []

section Message

variable {message : Message}

theorem message_head (message : Message) (fields : ∀ field ∈ message.fields, field.WellFormed) :
    IsHead message.request message.head := by
  refine ⟨message.fields, rfl, fields, ?_⟩
  simp only [Message.head, Message.headPieces, pieces_bytes_cons, pieces_bytes_append,
    pieces_bytes_nil, field_pieces_bytes, Piece.bytes, Message.requestLine, Message.request,
    Field.line]
  simp

theorem chunked_encoding {fields : List Field} {chunks : List Chunk} {last : SizeLine}
    {trailers : List Field} (valid : (Framing.chunked chunks last trailers).Valid fields) :
    IsChunkedEncoding (piecesBytes (Framing.chunked chunks last trailers).pieces)
      (Framing.chunked chunks last trailers).body := by
  obtain ⟨-, -, validChunks, -, lastValid, zero, validTrailers⟩ := valid
  refine ⟨chunks, last, trailers, ?_, lastValid, zero, validTrailers.wellFormed, ?_, rfl⟩
  · intro chunk member
    have chunkValid := validChunks chunk member
    exact ⟨chunkValid.size, chunkValid.number, chunkValid.some⟩
  · simp only [Framing.pieces, pieces_bytes_append, pieces_bytes_cons, pieces_bytes_nil,
      field_pieces_bytes, chunk_pieces_bytes, Piece.bytes]
    simp

theorem any_header (name : String) (message : Message) :
    (∃ header ∈ message.request.headers, named name header) ↔
      ∃ field ∈ message.fields, equalsIgnoreCase field.name (ascii name) := by
  simp [Message.request, Field.header, named]

theorem all_headers (name : String) (message : Message) (holds : Bytes → Prop) :
    (∀ header ∈ message.request.headers, named name header → holds header.2) ↔
      ∀ field ∈ message.fields, equalsIgnoreCase field.name (ascii name) → holds field.value := by
  simp [Message.request, Field.header, named]

theorem count_headers (name : String) (message : Message) :
    message.request.headers.countP (named name) =
      message.fields.countP fun field => equalsIgnoreCase field.name (ascii name) := by
  simp only [Message.request, List.countP_map]
  rfl

theorem message_framed {message : Message} (valid : message.Valid) :
    Framed message.request (piecesBytes message.framing.pieces) := by
  have framing := valid.framing
  constructor
  · rw [count_headers]
    exact valid.host
  · rw [all_headers "Host" message fun value => value ≠ []]
    exact valid.fields.host
  · rw [any_header, any_header]
    intro both
    exact one_framing framing ⟨List.any_eq_true.mpr both.2, List.any_eq_true.mpr both.1⟩
  · rw [any_header]
    intro sized
    obtain ⟨field, member, isLength⟩ := sized
    cases form : message.framing with
    | empty =>
        rw [form] at framing
        exact absurd isLength (framing.1 field member)
    | chunked chunks last trailers =>
        rw [form] at framing
        exact absurd isLength (framing.1 field member)
    | length content =>
        rw [form] at framing
        have length := framing.2.1 field member isLength
        refine ⟨content.length, ?_, ?_, ?_, ?_⟩
        · rw [← length]
          exact valid.fields.bound field member isLength
        · rw [all_headers "Content-Length" message fun value =>
            value ≠ [] ∧ value.all isDigit ∧ numeral 10 digitValue value = content.length]
          intro other inFields otherLength
          have digits := valid.fields.digits other inFields otherLength
          exact ⟨digits.1, digits.2, framing.2.1 other inFields otherLength⟩
        · simp [Message.request, form, Framing.body]
        · simp [Message.request, form, Framing.body, Framing.pieces, Piece.bytes]
  · rw [any_header, count_headers, all_headers "Transfer-Encoding" message fun value =>
      equalsIgnoreCase (trim value) (ascii "chunked")]
    intro encoded
    obtain ⟨field, member, isEncoding⟩ := encoded
    cases form : message.framing with
    | empty =>
        rw [form] at framing
        exact absurd isEncoding (framing.2 field member)
    | length content =>
        rw [form] at framing
        exact absurd isEncoding (framing.2.2 field member)
    | chunked chunks last trailers =>
        rw [form] at framing
        have atMost := valid.fields.encodings
        have atLeast : 0 < message.fields.countP Field.isTransferEncoding :=
          List.countP_pos_iff.mpr ⟨field, member, isEncoding⟩
        have body : message.request.body = (Framing.chunked chunks last trailers).body := by
          simp [Message.request, form]
        refine ⟨Nat.le_antisymm atMost atLeast, valid.fields.chunked, ?_, ?_⟩
        · rw [body]
          exact chunked_encoding framing
        · rw [body]
          exact framing.2.2.2.1
  · intro unsized plain
    cases form : message.framing with
    | empty => simp [Message.request, form, Framing.body, Framing.pieces, Piece.bytes]
    | length content =>
        rw [form] at framing
        obtain ⟨header, member, isLength⟩ := (any_header "Content-Length" message).mpr framing.1
        exact absurd isLength (unsized header member)
    | chunked chunks last trailers =>
        rw [form] at framing
        obtain ⟨header, member, isEncoding⟩ :=
          (any_header "Transfer-Encoding" message).mpr framing.2.1
        exact absurd isEncoding (plain header member)

end Message

/-- However a stream is fragmented, an accepted request is framed by its own
headers: the bytes taken are its head followed by exactly what they announce. -/
theorem accepted_request_is_framed (fd reactorId : Int) (fragments : List Bytes)
    (completes : .complete ∈ ((accepted fd reactorId).feedAll fragments).answers) :
    let feeding := (accepted fd reactorId).feedAll fragments
    let request := feeding.connection.getRequest
    let left := feeding.connection.receiveBuffer.drop feeding.connection.getConsumedBytes
    ∃ head content, feeding.fed = head ++ content ++ left ∧
      IsHead request head ∧ Framed request content := by
  obtain ⟨whole, parsed, request, left⟩ :=
    feed_all_complete fragments [] _ (accepted_in_step fd reactorId) completes
  rw [List.nil_append] at parsed left
  obtain ⟨message, tail, valid, fed, means, consumed⟩ := message_of_complete parsed
  have rest : ((accepted fd reactorId).feedAll fragments).fed.drop whole.getConsumedBytes =
      tail := by
    rw [fed, consumed, List.drop_left]
  refine ⟨message.head, piecesBytes message.framing.pieces, ?_, ?_, ?_⟩
  · rw [← left, rest, fed, Message.encode_eq]
  · rw [← request, means]
    exact message_head message valid.fields.wellFormed
  · rw [← request, means]
    exact message_framed valid

/-- Two fragments of a chunked request with the start of another behind it. -/
theorem fragmented_post_is_framed :
    let fragments := [chunkedPost.encode.take 90, chunkedPost.encode.drop 90 ++ ascii "GET"]
    let feeding := (accepted 7 0).feedAll fragments
    let request := feeding.connection.getRequest
    let left := feeding.connection.receiveBuffer.drop feeding.connection.getConsumedBytes
    feeding.answers = [.needMoreData, .complete] ∧
      ∃ head content, feeding.fed = head ++ content ++ left ∧
        IsHead request head ∧ Framed request content :=
  ⟨by decide, accepted_request_is_framed 7 0
    [chunkedPost.encode.take 90, chunkedPost.encode.drop 90 ++ ascii "GET"] (by decide)⟩

end Aorta.Net.Connection
