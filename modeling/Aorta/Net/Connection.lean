import Aorta.Http.HttpParser

/-!
# `Connection`

One client connection of the server: the receive buffer with its parser, and
the queue of outgoing buffers. What the kernel answers to `recv`, `send`,
`sendfile` and `open` is an argument, one entry for each call in the order of
the calls; when no entry is left the socket would block. Closing the descriptors of
finished files is not modelled.
-/

namespace Aorta.Net

open Aorta.Library.Ascii Aorta.Http Aorta.Http.HttpParser

set_option autoImplicit false

/-- The answers of `recv`; the empty byte string is the end of the stream. -/
inductive RecvResult where
  | received (bytes : Bytes)
  | interrupted
  | wouldBlock
  | failed
deriving DecidableEq, Repr

/-- The answers of `send` and `sendfile`. -/
inductive SendResult where
  | sent (count : Nat)
  | interrupted
  | wouldBlock
  | failed
deriving DecidableEq, Repr

inductive OutputBuffer where
  | memory (data : Bytes) (offset : Nat)
  | file (fileFd : Int) (fileSize offset : Nat)
deriving DecidableEq, Repr

/-- What `output_queue_size` counts for a buffer. -/
def OutputBuffer.size : OutputBuffer → Nat
  | .memory data _ => data.length
  | .file _ fileSize _ => fileSize

/-- What one successful `send` or `sendfile` puts on the socket. -/
inductive Sent where
  | bytes (bytes : Bytes)
  | file (fileFd : Int) (offset count : Nat)
deriving DecidableEq, Repr

structure Connection where
  fd : Int
  reactorId : Int
  receiveBuffer : Bytes := []
  outputQueue : List OutputBuffer := []
  outputQueueSize : Nat := 0
  parser : HttpParser := {}
  closeAfterWrite : Bool := false
deriving DecidableEq, Repr

namespace Connection

inductive ReadResult where
  | dataReceived
  | disconnected
  | error
  | bufferFull
  | wouldBlock
deriving DecidableEq, Repr

inductive WriteResult where
  | complete
  | wouldBlock
  | error
deriving DecidableEq, Repr

def maxReceiveBuffer : Nat := 64 * 1024
def maxOutputQueueSize : Nat := 8 * 1024 * 1024

/-- `recv` of at most `bytesToRead` bytes, repeated while it is interrupted. The
answers that were not used are returned. -/
def receive (connection : Connection) (bytesToRead : Nat) :
    List RecvResult → ReadResult × Connection × List RecvResult
  | [] => (.wouldBlock, connection, [])
  | .received bytes :: rest =>
      let bytes := bytes.take bytesToRead
      if bytes.length > 0 then
        (.dataReceived,
          { connection with receiveBuffer := connection.receiveBuffer ++ bytes }, rest)
      else (.disconnected, connection, rest)
  -- the retry meets the same buffer, so the full-buffer check answers as before
  | .interrupted :: rest => receive connection bytesToRead rest
  | .wouldBlock :: rest => (.wouldBlock, connection, rest)
  | .failed :: rest => (.error, connection, rest)

def read (connection : Connection) (results : List RecvResult) :
    ReadResult × Connection × List RecvResult :=
  if connection.receiveBuffer.length ≥ maxReceiveBuffer then
    (.bufferFull, connection, results)
  else
    let remaining := maxReceiveBuffer - connection.receiveBuffer.length
    receive connection (min remaining 4096) results

/-- `output_queue_size -= size; output_queue.pop_front()`. -/
def popFront (connection : Connection) (size : Nat) : Connection :=
  { connection with
    outputQueueSize := connection.outputQueueSize - size
    outputQueue := connection.outputQueue.tail }

/-- `output.offset = offset` for the front buffer. -/
def setFront (connection : Connection) (output : OutputBuffer) : Connection :=
  { connection with outputQueue := output :: connection.outputQueue.tail }

/-- The loop of `Connection::write`. Every round takes an answer of the kernel
or drops a buffer that is already finished. -/
def writeLoop : Nat → List SendResult → Connection → WriteResult × Connection × List Sent
  | 0, _, connection => (.wouldBlock, connection, [])
  | fuel + 1, results, connection =>
      match connection.outputQueue with
      | [] => (.complete, connection, [])
      | .memory data offset :: _ =>
          if offset ≥ data.length then
            writeLoop fuel results (connection.popFront data.length)
          else
            match results with
            | [] => (.wouldBlock, connection, [])
            | .sent count :: rest =>
                let bytesSent := min count (data.length - offset)
                if bytesSent > 0 then
                  let connection := connection.setFront (.memory data (offset + bytesSent))
                  let connection :=
                    if offset + bytesSent = data.length then connection.popFront data.length
                    else connection
                  let (result, connection, wire) := writeLoop fuel rest connection
                  (result, connection, .bytes ((data.drop offset).take bytesSent) :: wire)
                else (.error, connection, [])
            | .wouldBlock :: _ => (.wouldBlock, connection, [])
            | .interrupted :: rest => writeLoop fuel rest connection
            | .failed :: _ => (.error, connection, [])
      | .file fileFd fileSize offset :: _ =>
          if offset ≥ fileSize then
            writeLoop fuel results (connection.popFront fileSize)
          else
            match results with
            | [] => (.wouldBlock, connection, [])
            | .sent count :: rest =>
                let bytesSent := min count (fileSize - offset)
                if bytesSent > 0 then
                  let connection :=
                    connection.setFront (.file fileFd fileSize (offset + bytesSent))
                  let connection :=
                    if offset + bytesSent = fileSize then connection.popFront fileSize
                    else connection
                  let (result, connection, wire) := writeLoop fuel rest connection
                  (result, connection, .file fileFd offset bytesSent :: wire)
                else writeLoop fuel rest (connection.popFront fileSize)
            | .wouldBlock :: _ => (.wouldBlock, connection, [])
            | .interrupted :: rest => writeLoop fuel rest connection
            | .failed :: _ => (.error, connection, [])

def write (connection : Connection) (results : List SendResult) :
    WriteResult × Connection × List Sent :=
  writeLoop (results.length + connection.outputQueue.length + 1) results connection

def consumeParsedBytes (connection : Connection) : Connection :=
  let (consumed, parser) := connection.parser.consumeParsedBytes
  let connection := { connection with parser := parser }
  if consumed = 0 then connection
  else if consumed ≥ connection.receiveBuffer.length then
    { connection with receiveBuffer := [] }
  else { connection with receiveBuffer := connection.receiveBuffer.drop consumed }

def parseRequest (connection : Connection) : ParseResult × Connection :=
  let (result, parser) := connection.parser.parse connection.receiveBuffer
  (result, { connection with parser := parser })

def getRequest (connection : Connection) : HttpRequest := connection.parser.getRequest

def getConsumedBytes (connection : Connection) : Nat := connection.parser.getConsumedBytes

def resetParser (connection : Connection) : Connection :=
  { connection with parser := connection.parser.reset }

def queueResponse (connection : Connection) (response : Bytes) : Bool × Connection :=
  if response.length > maxOutputQueueSize then (false, connection)
  else if connection.outputQueueSize + response.length > maxOutputQueueSize then
    (false, connection)
  else
    (true, { connection with
      outputQueue := connection.outputQueue ++ [.memory response 0]
      outputQueueSize := connection.outputQueueSize + response.length })

/-- `openFile` is what `open` answers for a path. -/
def queueFile (connection : Connection) (openFile : Bytes → Option Int) (path : Bytes)
    (fileSize : Nat) : Bool × Connection :=
  if fileSize > maxOutputQueueSize then (false, connection)
  else if connection.outputQueueSize + fileSize > maxOutputQueueSize then (false, connection)
  else
    match openFile path with
    | none => (false, connection)
    | some fileFd =>
        (true, { connection with
          outputQueue := connection.outputQueue ++ [.file fileFd fileSize 0]
          outputQueueSize := connection.outputQueueSize + fileSize })

def hasPendingOutput (connection : Connection) : Bool := !connection.outputQueue.isEmpty

def setCloseAfterWrite (connection : Connection) (value : Bool) : Connection :=
  { connection with closeAfterWrite := value }

def shouldCloseAfterWrite (connection : Connection) : Bool := connection.closeAfterWrite

theorem consume_parsed_bytes_eq (connection : Connection) :
    connection.consumeParsedBytes =
      { connection with
        receiveBuffer := connection.receiveBuffer.drop connection.parser.cursor
        parser := { connection.parser with cursor := 0 } } := by
  unfold consumeParsedBytes HttpParser.consumeParsedBytes
  simp only
  split_ifs with none all
  · rw [none, List.drop_zero]
  · rw [List.drop_eq_nil_of_le all]
  · rfl

@[simp] theorem consume_parsed_bytes_buffer (connection : Connection) :
    connection.consumeParsedBytes.receiveBuffer =
      connection.receiveBuffer.drop connection.parser.cursor := by
  rw [consume_parsed_bytes_eq]

@[simp] theorem consume_parsed_bytes_rewinds (connection : Connection) :
    connection.consumeParsedBytes.parser = { connection.parser with cursor := 0 } := by
  rw [consume_parsed_bytes_eq]

/-- The input side of a connection, which queueing and writing leave alone. -/
def SameInput (left right : Connection) : Prop :=
  left.parser = right.parser ∧ left.receiveBuffer = right.receiveBuffer ∧
    left.closeAfterWrite = right.closeAfterWrite

theorem SameInput.rfl {connection : Connection} : connection.SameInput connection :=
  ⟨Eq.refl _, Eq.refl _, Eq.refl _⟩

theorem SameInput.trans {first second third : Connection} (left : first.SameInput second)
    (right : second.SameInput third) : first.SameInput third :=
  ⟨left.1.trans right.1, left.2.1.trans right.2.1, left.2.2.trans right.2.2⟩

/-- The output side of a connection, which reading and parsing leave alone. -/
def SameOutput (left right : Connection) : Prop :=
  left.outputQueue = right.outputQueue ∧ left.outputQueueSize = right.outputQueueSize ∧
    left.closeAfterWrite = right.closeAfterWrite

theorem SameOutput.rfl {connection : Connection} : connection.SameOutput connection :=
  ⟨Eq.refl _, Eq.refl _, Eq.refl _⟩

theorem SameOutput.trans {first second third : Connection} (left : first.SameOutput second)
    (right : second.SameOutput third) : first.SameOutput third :=
  ⟨left.1.trans right.1, left.2.1.trans right.2.1, left.2.2.trans right.2.2⟩

theorem parse_request_output (connection : Connection) :
    connection.parseRequest.2.SameOutput connection :=
  ⟨Eq.refl _, Eq.refl _, Eq.refl _⟩

theorem consume_parsed_bytes_output (connection : Connection) :
    connection.consumeParsedBytes.SameOutput connection := by
  rw [consume_parsed_bytes_eq]
  exact ⟨Eq.refl _, Eq.refl _, Eq.refl _⟩

theorem read_output (connection : Connection) (results : List RecvResult) :
    (connection.read results).2.1.SameOutput connection := by
  unfold read
  split_ifs
  · exact .rfl
  · simp only
    induction results with
    | nil => exact .rfl
    | cons result results ih =>
        cases result with
        | interrupted => exact ih
        | wouldBlock => exact .rfl
        | failed => exact .rfl
        | received bytes =>
            unfold receive
            simp only
            split_ifs <;> exact .rfl

theorem queue_response_input (connection : Connection) (response : Bytes) :
    (connection.queueResponse response).2.SameInput connection := by
  unfold queueResponse
  split_ifs <;> exact .rfl

theorem queue_file_input (connection : Connection) (openFile : Bytes → Option Int)
    (path : Bytes) (fileSize : Nat) :
    (connection.queueFile openFile path fileSize).2.SameInput connection := by
  unfold queueFile
  split_ifs
  · exact .rfl
  · exact .rfl
  · cases openFile path with
    | none => exact .rfl
    | some fileFd => exact .rfl

theorem pop_front_input (connection : Connection) (size : Nat) :
    (connection.popFront size).SameInput connection :=
  ⟨Eq.refl _, Eq.refl _, Eq.refl _⟩

theorem set_front_input (connection : Connection) (output : OutputBuffer) :
    (connection.setFront output).SameInput connection :=
  ⟨Eq.refl _, Eq.refl _, Eq.refl _⟩

end Connection

end Aorta.Net
