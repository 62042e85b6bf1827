import Aorta.Library.Ascii
import Aorta.Net.Connection
import Aorta.Net.Epoll

/-!
# The two directions of a connection pair

A direction is a string with an offset: what was read and how much of it has been
sent. `forwardData` and `flushData` work on one direction. The `trace` of a pair is
no part of the program; it records what went over the pair's sockets, in order.
-/

namespace Aorta.Lb

open Aorta.Library.Ascii Aorta.Net

set_option autoImplicit false

/-- One of the strings of a pair with its offset. -/
structure RelayBuffer where
  bytes : Bytes := []
  offset : Nat := 0
deriving DecidableEq, Repr

namespace RelayBuffer

def maxBufferSize : Nat := 8 * 1024 * 1024

def unsent (buffer : RelayBuffer) : Bytes := buffer.bytes.drop buffer.offset

def hasUnsent (buffer : RelayBuffer) : Bool := buffer.offset < buffer.bytes.length

def clearSent (buffer : RelayBuffer) : RelayBuffer :=
  if buffer.offset = buffer.bytes.length then {} else buffer

def append (buffer : RelayBuffer) (bytes : Bytes) : RelayBuffer :=
  { buffer.clearSent with bytes := buffer.clearSent.bytes ++ bytes }

def advance (buffer : RelayBuffer) (count : Nat) : RelayBuffer :=
  { buffer with offset := buffer.offset + count }

end RelayBuffer

/-- How the loop of `forwardData` is left. -/
inductive Forwarded where
  | forwarded
  | ended
  | overflowed
  | failed
deriving DecidableEq, Repr

/-- The loop of `forwardData`: the buffer afterwards and the pieces it took. Without
`drain` one answer of `recv` is enough. A piece that does not fit is lost with the
pair. -/
def forwardLoop (drain : Bool) : List RecvResult → RelayBuffer →
    Forwarded × RelayBuffer × List Bytes
  | [], buffer => (.forwarded, buffer, [])
  | .received bytes :: rest, buffer =>
      let bytes := bytes.take (64 * 1024)
      if bytes.isEmpty then (.ended, buffer, [])
      else if buffer.bytes.length - buffer.offset + bytes.length > RelayBuffer.maxBufferSize then
        (.overflowed, buffer, [])
      else if drain then
        let (result, buffer, pieces) := forwardLoop drain rest (buffer.append bytes)
        (result, buffer, bytes :: pieces)
      else (.forwarded, buffer.append bytes, [bytes])
  | .interrupted :: rest, buffer =>
      if drain then forwardLoop drain rest buffer else (.forwarded, buffer, [])
  | .wouldBlock :: _, buffer => (.forwarded, buffer, [])
  | .failed :: _, buffer => (.failed, buffer, [])

/-- The loop of `flushData`: whether the socket is still good, the buffer afterwards
and the pieces sent. -/
def flushLoop : List SendResult → RelayBuffer → Bool × RelayBuffer × List Bytes
  | [], buffer => (true, buffer, [])
  | result :: rest, buffer =>
      if buffer.hasUnsent then
        match result with
        | .sent count =>
            let count := min count (buffer.bytes.length - buffer.offset)
            if count > 0 then
              let (good, after, pieces) := flushLoop rest (buffer.advance count)
              (good, after, buffer.unsent.take count :: pieces)
            else (false, buffer, [])
        | .wouldBlock => (true, buffer, [])
        | .interrupted => flushLoop rest buffer
        | .failed => (false, buffer, [])
      else (true, buffer, [])

/-- The two sockets of a pair. -/
inductive Side where
  | client
  | backend
deriving DecidableEq, Repr

def Side.other : Side → Side
  | .client => .backend
  | .backend => .client

/-- What goes over the sockets of a pair: bytes read from one of them, the end of its
stream, bytes sent to it, its half-close, and the opening of a backend socket. -/
inductive Wire where
  | read (side : Side) (bytes : Bytes)
  | ended (side : Side)
  | sent (side : Side) (bytes : Bytes)
  | shutdown (side : Side)
  | opened (fd : Int) (index : Nat)
deriving DecidableEq, Repr

def Wire.readBytes (side : Side) : Wire → Bytes
  | .read source bytes => if source = side then bytes else []
  | _ => []

def readFrom (side : Side) (trace : List Wire) : Bytes := trace.flatMap (Wire.readBytes side)

theorem read_from_snoc (side : Side) (trace : List Wire) (wire : Wire) :
    readFrom side (trace ++ [wire]) = readFrom side trace ++ wire.readBytes side := by
  simp [readFrom]

def Wire.opens : Wire → Bool
  | .opened _ _ => true
  | _ => false

structure ConnectionPair where
  clientFd : Int
  backendFd : Int := -1
  currentClientEvents : EventMask := {}
  currentBackendEvents : EventMask := {}
  backendConnecting : Bool := false
  clientReadClosed : Bool := false
  backendReadClosed : Bool := false
  clientWriteClosed : Bool := false
  backendWriteClosed : Bool := false
  closing : Bool := false
  metricsConnection : Bool := false
  backendIndex : Nat := 0
  clientIp : Bytes := []
  clientToBackend : RelayBuffer := {}
  backendToClient : RelayBuffer := {}
  trace : List Wire := []
deriving DecidableEq, Repr

namespace ConnectionPair

def record (pair : ConnectionPair) (wires : List Wire) : ConnectionPair :=
  { pair with trace := pair.trace ++ wires }

def socket (pair : ConnectionPair) : Side → Int
  | .client => pair.clientFd
  | .backend => pair.backendFd

def incoming (pair : ConnectionPair) : Side → RelayBuffer
  | .client => pair.clientToBackend
  | .backend => pair.backendToClient

def setIncoming (pair : ConnectionPair) (side : Side) (buffer : RelayBuffer) : ConnectionPair :=
  match side with
  | .client => { pair with clientToBackend := buffer }
  | .backend => { pair with backendToClient := buffer }

/-- The pair never had a backend socket. -/
def Unopened (pair : ConnectionPair) : Prop := ∀ wire ∈ pair.trace, wire.opens = false

/-- The end of the stream of a socket. -/
def endRead (pair : ConnectionPair) (side : Side) : ConnectionPair :=
  match side with
  | .client => { pair with clientReadClosed := true }.record [.ended .client]
  | .backend => { pair with backendReadClosed := true }.record [.ended .backend]

/-- The loop of `forwardData` on what one of the sockets sends. -/
def forward (pair : ConnectionPair) (drain : Bool) (recvs : List RecvResult) (side : Side) :
    Forwarded × ConnectionPair :=
  let (result, buffer, pieces) := forwardLoop drain recvs (pair.incoming side)
  (result, (pair.setIncoming side buffer).record (pieces.map (.read side)))

def flush (pair : ConnectionPair) (sends : List SendResult) (side : Side) :
    Bool × ConnectionPair :=
  let (good, buffer, pieces) := flushLoop sends (pair.incoming side.other)
  (good, (pair.setIncoming side.other buffer).record (pieces.map (.sent side)))

end ConnectionPair

end Aorta.Lb
