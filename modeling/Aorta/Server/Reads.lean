import Aorta.Server.Reactor

/-!
# What the loops come by

`handleClient` reads until `recv` would block and serves what it reads. The reads of the
outer loop and the requests of the inner one are listed here once; what comes in on a
connection, what is answered and what is left to the workers is read off these lists.
-/

namespace Aorta.Server.Session

open Aorta.Http Aorta.Library.Ascii Aorta.Net

set_option autoImplicit false

/-- A read of the outer loop. -/
structure Read where
  before : Session
  result : Connection.ReadResult
  after : Session

variable (handle : Nat → HttpRequest → HandleResult) (openFile : Bytes → Option Int)

/-- The sessions whose requests the inner loop dispatches. -/
def dispatches : Nat → Session → List Session
  | 0, _ => []
  | fuel + 1, session =>
      let (result, connection) := session.connection.parseRequest
      let session := { session with connection := connection }
      match result with
      | .complete =>
          match session.dispatch handle openFile with
          | (.waiting, after) => session :: dispatches fuel after
          | _ => [session]
      | _ => []

def reads : Nat → List RecvResult → Session → List Read
  | 0, _, _ => []
  | fuel + 1, recvs, session =>
      let (result, connection, recvs) := session.connection.read recvs
      let next := { session with connection := connection }
      ⟨session, result, next⟩ ::
        match result with
        | .dataReceived =>
            match (received next).serveAll handle openFile with
            | (.waiting, after) =>
                if after.connection.shouldCloseAfterWrite then []
                else reads fuel recvs after
            | _ => []
        | _ => []

/-- The sessions whose requests are dispatched after a read. -/
def Read.dispatches (read : Read) : List Session :=
  if read.result = .dataReceived then
    Session.dispatches handle openFile (read.after.connection.receiveBuffer.length + 2)
      read.after.received
  else []

/-- The bytes that a read has received. -/
def Read.bytes (read : Read) : Bytes :=
  if read.result = .dataReceived then
    read.after.connection.receiveBuffer.drop read.before.connection.receiveBuffer.length
  else []

theorem Read.dispatches_nothing (before after : Session) {result : Connection.ReadResult}
    (other : result ≠ .dataReceived) :
    Read.dispatches handle openFile ⟨before, result, after⟩ = [] :=
  if_neg other

section Rules

/-! What a round keeps of a list and an outcome, the loop keeps. -/

variable {handle} {openFile}

/-- The rule of the inner loop: no request was complete, or one was dispatched and the loop
was left or went on. -/
theorem serve_rounds {rel : Session → List Session → Served × Session → Prop}
    (starved : ∀ session, rel session [] (.waiting, session))
    (hungry : ∀ session connection,
      session.connection.parseRequest = (.needMoreData, connection) →
      rel session [] (.waiting, { session with connection := connection.consumeParsedBytes }))
    (refused : ∀ session result connection,
      session.connection.parseRequest = (result, connection) → result ≠ .complete →
      result ≠ .needMoreData → rel session [] (fail { session with connection := connection }))
    (last : ∀ session connection served after,
      session.connection.parseRequest = (.complete, connection) →
      dispatch handle openFile { session with connection := connection } = (served, after) →
      served ≠ .waiting →
      rel session [{ session with connection := connection }] (served, after))
    (next : ∀ session connection after others outcome,
      session.connection.parseRequest = (.complete, connection) →
      dispatch handle openFile { session with connection := connection } = (.waiting, after) →
      rel after others outcome →
      rel session ({ session with connection := connection } :: others) outcome)
    (fuel : Nat) (session : Session) :
    rel session (session.dispatches handle openFile fuel)
      (session.serve handle openFile fuel) := by
  induction fuel generalizing session with
  | zero => exact starved session
  | succ fuel ih =>
      unfold dispatches serve
      cases parsed : session.connection.parseRequest with
      | mk result connection =>
          cases result with
          | needMoreData => exact hungry session connection parsed
          | complete =>
              simp only
              cases dispatched : dispatch handle openFile
                  { session with connection := connection } with
              | mk served after =>
                  cases served with
                  | waiting => exact next session connection after _ _ parsed dispatched (ih after)
                  | closing => exact last session connection _ after parsed dispatched nofun
                  | pending => exact last session connection _ after parsed dispatched nofun
                  | failed => exact last session connection _ after parsed dispatched nofun
          | badRequest => exact refused session _ connection parsed nofun nofun
          | requestLineTooLarge => exact refused session _ connection parsed nofun nofun
          | headersTooLarge => exact refused session _ connection parsed nofun nofun
          | tooManyHeaders => exact refused session _ connection parsed nofun nofun
          | bodyTooLarge => exact refused session _ connection parsed nofun nofun
          | unsupportedTransferEncoding => exact refused session _ connection parsed nofun nofun
          | unsupportedVersion => exact refused session _ connection parsed nofun nofun

/-- The rule of the outer loop: nothing was received, or what was received is served and the
loop was left or went on. -/
theorem read_loop_rounds {rel : Session → List Read → Served × Session → Prop}
    (starved : ∀ session, rel session [] (.waiting, session))
    (disconnected : ∀ session recvs connection rest,
      session.connection.read recvs = (.disconnected, connection, rest) →
      rel session [⟨session, .disconnected, { session with connection := connection }⟩]
        (disconnect { session with connection := connection }))
    (refused : ∀ session recvs result connection rest,
      session.connection.read recvs = (result, connection, rest) →
      result = .error ∨ result = .bufferFull →
      rel session [⟨session, result, { session with connection := connection }⟩]
        (fail { session with connection := connection }))
    (blocked : ∀ session recvs connection rest,
      session.connection.read recvs = (.wouldBlock, connection, rest) →
      rel session [⟨session, .wouldBlock, { session with connection := connection }⟩]
        (.waiting, { session with connection := connection }))
    (last : ∀ session recvs connection rest served after,
      session.connection.read recvs = (.dataReceived, connection, rest) →
      serveAll handle openFile (received { session with connection := connection }) =
        (served, after) →
      (served = .waiting → after.connection.shouldCloseAfterWrite = true) →
      rel session [⟨session, .dataReceived, { session with connection := connection }⟩]
        (served, after))
    (next : ∀ session recvs connection rest after others outcome,
      session.connection.read recvs = (.dataReceived, connection, rest) →
      serveAll handle openFile (received { session with connection := connection }) =
        (.waiting, after) →
      after.connection.shouldCloseAfterWrite = false → rel after others outcome →
      rel session
        (⟨session, .dataReceived, { session with connection := connection }⟩ :: others) outcome)
    (fuel : Nat) (recvs : List RecvResult) (session : Session) :
    rel session (session.reads handle openFile fuel recvs)
      (session.readLoop handle openFile fuel recvs) := by
  induction fuel generalizing session recvs with
  | zero => exact starved session
  | succ fuel ih =>
      unfold reads readLoop
      cases answered : session.connection.read recvs with
      | mk result others =>
          obtain ⟨connection, rest⟩ := others
          cases result with
          | disconnected => exact disconnected session recvs connection rest answered
          | error => exact refused session recvs _ connection rest answered (.inl rfl)
          | bufferFull => exact refused session recvs _ connection rest answered (.inr rfl)
          | wouldBlock => exact blocked session recvs connection rest answered
          | dataReceived =>
              simp only
              cases serves : serveAll handle openFile
                  (received { session with connection := connection }) with
              | mk served after =>
                  cases served with
                  | waiting =>
                      simp only
                      split_ifs with closes
                      · exact last session recvs connection rest _ after answered serves
                          fun _ => closes
                      · exact next session recvs connection rest after _ _ answered serves
                          (Bool.eq_false_iff.mpr closes) (ih rest after)
                  | closing => exact last session recvs connection rest _ after answered serves nofun
                  | pending => exact last session recvs connection rest _ after answered serves nofun
                  | failed => exact last session recvs connection rest _ after answered serves nofun

end Rules

end Aorta.Server.Session
