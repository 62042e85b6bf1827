import Aorta.Net.Fragmentation
import Aorta.Http.HttpGrammar

/-!
# Pipelined requests

The loop a connection runs over its receive buffer: parse, take the request,
drop the consumed bytes, reset the parser. On a buffer that holds the encodings
of valid messages it yields their requests one by one. Since `reset` assigns
every field of the parser, nothing of one request reaches the next.
-/

namespace Aorta.Net.Connection

open Aorta.Library.Ascii Aorta.Http Aorta.Http.HttpParser

set_option autoImplicit false

/-- One round: `parseRequest`, `getRequest`, `consumeParsedBytes`, `resetParser`. -/
def takeRequest (connection : Connection) : Option (HttpRequest × Connection) :=
  let (result, connection) := connection.parseRequest
  if result = .complete then
    some (connection.getRequest, connection.consumeParsedBytes.resetParser)
  else none

/-- At most the given number of rounds, up to the first answer other than `Complete`. -/
def takeRequests : Nat → Connection → List HttpRequest × Connection
  | 0, connection => ([], connection)
  | rounds + 1, connection =>
      match connection.takeRequest with
      | none => ([], connection)
      | some (request, connection) =>
          let (requests, connection) := takeRequests rounds connection
          (request :: requests, connection)

theorem take_request_message {connection : Connection} (fresh : connection.parser = {})
    {message : Message} (valid : message.Valid) {tail : Bytes}
    (buffer : connection.receiveBuffer = message.encode ++ tail) :
    connection.takeRequest =
      some (message.request, { connection with receiveBuffer := tail }) := by
  obtain ⟨final, parsed, request, consumed⟩ := parse_message valid tail
  have parses : connection.parseRequest = (.complete, { connection with parser := final }) := by
    unfold parseRequest
    rw [fresh, buffer, parsed]
  have left : connection.receiveBuffer.drop final.cursor = tail := by
    change final.cursor = message.encode.length at consumed
    rw [buffer, consumed, List.drop_left]
  unfold takeRequest
  rw [parses]
  simp only [if_true, consume_parsed_bytes_eq, left, resetParser, HttpParser.reset]
  rw [← request, fresh]
  rfl

/-- Decoding undoes encoding: from the encodings of valid messages, followed by
any bytes, the loop takes exactly the requests the messages mean, in order, and
then stands on the bytes behind them as if it had just begun. -/
theorem take_requests_decodes (messages : List Message)
    (valid : ∀ message ∈ messages, message.Valid) (connection : Connection)
    (fresh : connection.parser = {}) (tail : Bytes)
    (buffer : connection.receiveBuffer = messages.flatMap Message.encode ++ tail)
    (rounds : Nat) :
    let rest := takeRequests rounds { connection with receiveBuffer := tail }
    takeRequests (messages.length + rounds) connection =
      (messages.map Message.request ++ rest.1, rest.2) := by
  induction messages generalizing connection with
  | nil =>
      simp only [List.flatMap_nil, List.nil_append] at buffer
      rw [← buffer]
      simp
  | cons message messages ih =>
      have first := valid message (by simp)
      rw [List.flatMap_cons, List.append_assoc] at buffer
      have round := take_request_message fresh first buffer
      have rest := ih (fun other member => valid other (by simp [member]))
        { connection with receiveBuffer := messages.flatMap Message.encode ++ tail } fresh rfl
      have count : (message :: messages).length + rounds = messages.length + rounds + 1 := by
        rw [List.length_cons]
        omega
      simp only at rest ⊢
      rw [count, takeRequests, round]
      simp only [rest, List.map_cons, List.cons_append]

/-- A header field as it is mostly written, with one blank behind the colon. -/
def plainField (name value : String) : Field := ⟨ascii name, [space], ascii value⟩

/-- Two chunks, the first with an extension and a leading zero, and a trailer. -/
def chunkedPost : Message where
  method := ascii "POST"
  target := ascii "/tasks"
  fields := [plainField "Host" "a", plainField "Transfer-Encoding" "chunked"]
  framing := .chunked
    [⟨⟨[], ascii "02", [], ascii ";q=1"⟩, ascii "ab"⟩,
      ⟨⟨[], ascii "a", [], []⟩, ascii "0123456789"⟩]
    ⟨[], ascii "000", [], []⟩ [plainField "Digest" "none"]

def sizedPut : Message where
  method := ascii "PUT"
  target := ascii "/tasks/7"
  fields := [plainField "Content-Length" "3", plainField "host" "b"]
  framing := .length (ascii "xyz")

/-- Two pipelined requests and the beginning of a third. -/
theorem take_requests_decodes_two :
    let messages := [chunkedPost, sizedPut]
    let connection := { accepted 7 0 with
      receiveBuffer := messages.flatMap Message.encode ++ ascii "GET" }
    takeRequests (2 + 1) connection =
      ([chunkedPost.request, sizedPut.request],
        { connection with receiveBuffer := ascii "GET" }) := by
  have valid : ∀ message ∈ [chunkedPost, sizedPut], message.Valid := by decide
  have decodes := take_requests_decodes [chunkedPost, sizedPut] valid
    { accepted 7 0 with
      receiveBuffer := [chunkedPost, sizedPut].flatMap Message.encode ++ ascii "GET" }
    rfl (ascii "GET") rfl 1
  have rest : takeRequests 1 { accepted 7 0 with receiveBuffer := ascii "GET" } =
      ([], { accepted 7 0 with receiveBuffer := ascii "GET" }) := by decide
  simp only [rest] at decodes
  exact decodes

end Aorta.Net.Connection
