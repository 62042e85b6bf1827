import Aorta.Http.ResponseFraming
import Aorta.Server.HeadResponses

/-!
# Files against the room in the output queue

The static files are answered up to `MAX_FILE_SIZE`, 16 MiB, and the reactor's own
literal for `queueFile` is the same. The output queue of a connection takes half of
that, and the head of the answer counts too.
-/

namespace Aorta.Http

open Aorta.Library.Ascii Aorta.Library.Decimal StaticFileHandler

set_option autoImplicit false

theorem decimal_length_le_iff {number count : Nat} (positive : 0 < count) :
    (decimal number).length ≤ count ↔ number < 10 ^ count := by
  unfold decimal
  split_ifs with zero
  · rw [zero, List.length_singleton]
    exact ⟨fun _ => Nat.pow_pos (by decide), fun _ => positive⟩
  · rw [List.length_map, List.length_reverse]
    exact Nat.digits_length_le_iff (by decide) number

namespace StaticFileHandler

/-- The size of the head in front of a file whose size has seven digits. -/
def fileHeadSize (closes : Bool) (path : Bytes) : Nat :=
  (if closes then 79 else 84) + (getContentType path).length

theorem content_type_short (path : Bytes) : (getContentType path).length ≤ 24 := by
  unfold getContentType
  split_ifs <;> decide

/-- An answer with a file as the reactor queues it. -/
def queuedFile (request : HttpRequest) (closes : Bool) (path : Bytes) (size : Nat) :
    HttpResponse :=
  if closes then (sendFile request {} path size).setConnection (ascii "close")
  else sendFile request {} path size

variable (request : HttpRequest) (closes : Bool) (path : Bytes) (size : Nat)

theorem queued_file_parts :
    (queuedFile request closes path size).version = ascii "HTTP/1.1" ∧
      (queuedFile request closes path size).statusCode = 200 ∧
      (queuedFile request closes path size).reason = ascii "OK" ∧
      (queuedFile request closes path size).headers =
        [(ascii "Content-Type", getContentType path),
          (ascii "Connection", if closes then ascii "close" else ascii "keep-alive"),
          (ascii "Content-Length", decimal size)] := by
  unfold queuedFile sendFile
  cases closes with
  | false => split_ifs <;> exact ⟨rfl, rfl, rfl, rfl⟩
  | true => split_ifs <;> exact ⟨rfl, rfl, rfl, rfl⟩

theorem queued_file_sends :
    (queuedFile request closes path size).sendFile = true ∧
      (queuedFile request closes path size).filePath = path ∧
      (queuedFile request closes path size).fileSize = size ∧
      (queuedFile request closes path size).body = [] := by
  unfold queuedFile sendFile
  cases closes with
  | false => split_ifs <;> exact ⟨rfl, rfl, rfl, rfl⟩
  | true => split_ifs <;> exact ⟨rfl, rfl, rfl, rfl⟩

theorem queued_file_head_length :
    (queuedFile request closes path size).head.length + 7 =
      fileHeadSize closes path + (decimal size).length := by
  obtain ⟨version, status, reason, headers⟩ := queued_file_parts request closes path size
  unfold HttpResponse.head
  rw [version, status, reason, headers]
  have connection : (if closes then ascii "close" else ascii "keep-alive").length + 79 =
      (if closes then 79 else 84) + 5 := by
    cases closes <;> rfl
  have code : (decimal 200).length = 3 := by decide
  simp only [List.flatMap_cons, List.flatMap_nil, List.length_append, List.length_nil, code,
    fileHeadSize]
  simp only [show (ascii "HTTP/1.1").length = 8 from rfl, show (ascii " ").length = 1 from rfl,
    show (ascii "OK").length = 2 from rfl, show HttpParser.crlf.length = 2 from rfl,
    show (ascii "Content-Type").length = 12 from rfl, show (ascii ": ").length = 2 from rfl,
    show (ascii "Connection").length = 10 from rfl,
    show (ascii "Content-Length").length = 14 from rfl]
  omega

theorem answered_file {handler : StaticFileHandler} {request : HttpRequest}
    {response : HttpResponse} {fileInfo : FileInfo}
    (answered : handler.handle request {} = some response) (ok : response.statusCode = 200)
    (found : handler.stat (handler.getFilePath request.target) = some fileInfo) :
    response = sendFile request {} (handler.getFilePath request.target) fileInfo.size ∧
      fileInfo.size ≤ 16 * 1024 * 1024 ∧ handler.getFilePath request.target ≠ [] := by
  cases handle_handles answered with
  | refused status reason message text missing =>
      have other : status = 200 := ok
      subst other
      simp at text
  | found other served =>
      have same : other = fileInfo := by
        have kept := served
        unfold servedFile at kept
        split_ifs at kept
        rw [found] at kept
        exact (Option.some.inj (Option.filter_eq_some_iff.mp kept).1).symm
      subst same
      exact ⟨rfl, served_small served, file_path_some handler (safe_path (served_safe served)).1⟩

theorem queued_file_head_fits {size : Nat} (small : size ≤ 16 * 1024 * 1024) :
    (queuedFile request closes path size).head.length ≤ Net.Connection.maxOutputQueueSize := by
  have head := queued_file_head_length request closes path size
  have type := content_type_short path
  have eight : (decimal size).length ≤ 8 := by
    apply (decimal_length_le_iff (by decide)).mpr
    omega
  unfold fileHeadSize at head
  unfold Net.Connection.maxOutputQueueSize
  split_ifs at head <;> omega

theorem queued_file_fits_iff :
    (size = 0 ∨ (queuedFile request closes path size).head.length + size ≤
        Net.Connection.maxOutputQueueSize) ↔
      size + fileHeadSize closes path ≤ Net.Connection.maxOutputQueueSize := by
  have head := queued_file_head_length request closes path size
  have seven : (decimal size).length ≤ 7 ↔ size < 10 ^ 7 := decimal_length_le_iff (by decide)
  have six : (decimal size).length ≤ 6 ↔ size < 10 ^ 6 := decimal_length_le_iff (by decide)
  have short : fileHeadSize closes path ≤ 108 := by
    have type := content_type_short path
    unfold fileHeadSize
    split_ifs <;> omega
  unfold Net.Connection.maxOutputQueueSize
  omega

end StaticFileHandler

end Aorta.Http

namespace Aorta.Net.Connection

open Aorta.Library.Ascii

variable {connection : Connection} {response path : Bytes} {openFile : Bytes → Option Int}
  {fileFd : Int} {fileSize : Nat}

theorem queue_response_room
    (room : connection.outputQueueSize + response.length ≤ maxOutputQueueSize) :
    connection.queueResponse response =
      (true, { connection with
        outputQueue := connection.outputQueue ++ [.memory response 0]
        outputQueueSize := connection.outputQueueSize + response.length }) := by
  unfold queueResponse
  rw [if_neg (by omega), if_neg (by omega)]

theorem queue_file_room (opens : openFile path = some fileFd)
    (room : connection.outputQueueSize + fileSize ≤ maxOutputQueueSize) :
    connection.queueFile openFile path fileSize =
      (true, { connection with
        outputQueue := connection.outputQueue ++ [.file fileFd fileSize 0]
        outputQueueSize := connection.outputQueueSize + fileSize }) := by
  unfold queueFile
  rw [if_neg (by omega), if_neg (by omega), opens]

theorem queue_file_full (full : maxOutputQueueSize < connection.outputQueueSize + fileSize) :
    connection.queueFile openFile path fileSize = (false, connection) := by
  unfold queueFile
  split_ifs
  · rfl
  · rfl

end Aorta.Net.Connection

namespace Aorta.Server.Session

open Aorta.Library.Ascii Aorta.Http Aorta.Net

variable {openFile : Bytes → Option Int} {session : Session} {response : HttpResponse}

/-- The connection goes on with the head and the whole file in its queue, and nothing else. -/
def FileQueued (fileFd : Int) (head : Bytes) (fileSize : Nat) (outcome : Served × Session) :
    Prop :=
  outcome.1 ≠ .failed ∧
    outcome.2.connection.outputQueue =
      .memory head 0 :: (if fileSize = 0 then [] else [.file fileFd fileSize 0]) ∧
    outcome.2.connection.outputQueueSize = head.length + fileSize

theorem finish_goes_on (session : Session) :
    session.finish.1 ≠ .failed ∧
      session.finish.2.connection.outputQueue = session.connection.outputQueue ∧
      session.finish.2.connection.outputQueueSize = session.connection.outputQueueSize := by
  have same := finish_output session
  refine ⟨?_, same.1, same.2.1⟩
  rcases finish_served session with waits | closes
  · rw [waits]
    exact Served.noConfusion
  · rw [closes]
    exact Served.noConfusion

theorem answer_file_iff (session : Session) (serial : Nat) {connection : Connection}
    {fileFd : Int} (empty : connection.outputQueue = []) (unused : connection.outputQueueSize = 0)
    (file : response.hasFile = true) (bodyless : response.body = [])
    (small : response.fileSize ≤ 16 * 1024 * 1024)
    (opens : openFile response.filePath = some fileFd)
    (headFits : response.head.length ≤ Connection.maxOutputQueueSize) :
    FileQueued fileFd response.head response.fileSize
        (answer openFile session serial connection response) ↔
      (response.fileSize = 0 ∨
        response.head.length + response.fileSize ≤ Connection.maxOutputQueueSize) := by
  have sends : sendsFile response = decide (response.fileSize > 0) := by
    simp [sendsFile, file, small]
  unfold answer
  rw [HttpResponse.serialize_empty bodyless, Connection.queue_response_room (by omega), sends,
    empty, unused, List.nil_append, Nat.zero_add]
  simp only [Bool.not_true, Bool.false_eq_true, if_false, decide_eq_true_eq]
  by_cases zero : response.fileSize = 0
  · rw [if_neg (by omega)]
    have output := finish_goes_on { session with
      connection := { connection with
        outputQueue := [.memory response.head 0], outputQueueSize := response.head.length }
      shared := session.shared.respond serial session.fd session.state.generation }
    simp only [FileQueued, zero, true_or, if_true, iff_true]
    exact output
  · rw [if_pos (by omega)]
    simp only [zero, false_or]
    by_cases room : response.head.length + response.fileSize ≤ Connection.maxOutputQueueSize
    · rw [Connection.queue_file_room opens room]
      have output := finish_goes_on { session with
        connection := { connection with
          outputQueue := [.memory response.head 0, .file fileFd response.fileSize 0]
          outputQueueSize := response.head.length + response.fileSize }
        shared := session.shared.respond serial session.fd session.state.generation }
      simp only [FileQueued, room, iff_true, zero, if_false]
      exact output
    · rw [Connection.queue_file_full (Nat.lt_of_not_le room)]
      simp only [room, iff_false]
      intro queued
      exact queued.1 rfl

/-- A request that the static files answer with a file, on a connection with an empty output
queue, gets its head and its file if and only if both together fit into the queue. That it
is a `GET` is not needed. -/
theorem accepted_file_is_queued_iff (handlers : Nat → HttpHandler)
    (openFile : Bytes → Option Int) (session : Session) (response : HttpResponse)
    (fileInfo : FileInfo) (fileFd : Int)
    (wants : HttpHandler.wantsFile session.connection.getRequest.target = true)
    (answered : (handlers session.shared.serial).staticFileHandler.handle
      session.connection.getRequest {} = some response)
    (found : response.statusCode = 200 ∧ (handlers session.shared.serial).staticFileHandler.stat
      ((handlers session.shared.serial).staticFileHandler.getFilePath
        session.connection.getRequest.target) = some fileInfo)
    (empty : session.connection.outputQueue = [] ∧ session.connection.outputQueueSize = 0)
    (opens : openFile ((handlers session.shared.serial).staticFileHandler.getFilePath
      session.connection.getRequest.target) = some fileFd) :
    FileQueued fileFd (session.reply response).head fileInfo.size
        (session.dispatch (answering handlers) openFile) ↔
      fileInfo.size + StaticFileHandler.fileHeadSize session.closes
        ((handlers session.shared.serial).staticFileHandler.getFilePath
          session.connection.getRequest.target) ≤ Connection.maxOutputQueueSize := by
  have completed : answering handlers session.shared.serial session.connection.getRequest =
      .completed response := by
    unfold answering HttpHandler.handle
    rw [if_pos wants, answered]
  obtain ⟨sent, small, named⟩ := StaticFileHandler.answered_file answered found.1 found.2
  subst sent
  rw [dispatch_completed completed, ← StaticFileHandler.queued_file_fits_iff
    session.connection.getRequest]
  generalize (handlers session.shared.serial).staticFileHandler.getFilePath
    session.connection.getRequest.target = path at opens named
  have replies : session.reply (StaticFileHandler.sendFile session.connection.getRequest {}
      path fileInfo.size) = StaticFileHandler.queuedFile session.connection.getRequest
      session.closes path fileInfo.size := rfl
  obtain ⟨sends, filePath, fileSize, bodyless⟩ := StaticFileHandler.queued_file_sends
    session.connection.getRequest session.closes path fileInfo.size
  have headFits := StaticFileHandler.queued_file_head_fits session.connection.getRequest
    session.closes path small
  rw [replies]
  generalize StaticFileHandler.queuedFile session.connection.getRequest session.closes path
    fileInfo.size = response at sends filePath fileSize bodyless headFits
  rw [← fileSize] at small ⊢
  rw [← filePath] at opens
  have file : response.hasFile = true := by
    simpa [HttpResponse.hasFile, sends, filePath] using named
  apply answer_file_iff _ _ _ _ file bodyless small opens headFits
  · split_ifs
    · exact empty.1
    · exact empty.1
  · split_ifs
    · exact empty.2
    · exact empty.2

/-- A file of five bytes is queued behind its head. -/
theorem index_is_queued :
    FileQueued 7 ((asking (ascii "GET / HTTP/1.1\r\nHost: a\r\n\r\n")).reply
        (StaticFileHandler.sendFile { method := ascii "GET" } {} (ascii "./public/index.html")
          5)).head 5
        ((asking (ascii "GET / HTTP/1.1\r\nHost: a\r\n\r\n")).dispatch
          (answering fun _ =>
            HttpHandler.create (HttpHandler.oneFile (ascii "./public/index.html")) none [])
          fun _ => some 7) :=
  (accepted_file_is_queued_iff
    (fun _ => HttpHandler.create (HttpHandler.oneFile (ascii "./public/index.html")) none [])
    (fun _ => some 7) (asking (ascii "GET / HTTP/1.1\r\nHost: a\r\n\r\n"))
    (StaticFileHandler.sendFile { method := ascii "GET" } {} (ascii "./public/index.html") 5)
    ⟨true, 5⟩ 7 (by decide) (by decide) (by decide) (by decide) rfl).mpr (by decide)

def nineMebibytes : HttpHandler := HttpHandler.create (fun _ => some ⟨true, 9 * 2 ^ 20⟩) none []

/-- Nine mebibytes are less than the static files allow and more than the queue takes: the
head is queued and the connection is given up. -/
theorem large_file_is_given_up :
    ∃ response,
      (readIn (ascii "GET /a.bin HTTP/1.1\r\nHost: a\r\n\r\n")).parseRequest.1 = .complete ∧
      nineMebibytes.staticFileHandler.handle
          (asking (ascii "GET /a.bin HTTP/1.1\r\nHost: a\r\n\r\n")).connection.getRequest {} =
        some response ∧
      response.statusCode = 200 ∧ response.fileSize = 9 * 2 ^ 20 ∧
      response.fileSize ≤ StaticFileHandler.maxFileSize ∧
      ((asking (ascii "GET /a.bin HTTP/1.1\r\nHost: a\r\n\r\n")).dispatch
        (answering fun _ => nineMebibytes) fun _ => some 7).1 = .failed ∧
      ¬ FileQueued 7 ((asking (ascii "GET /a.bin HTTP/1.1\r\nHost: a\r\n\r\n")).reply
          response).head response.fileSize
        ((asking (ascii "GET /a.bin HTTP/1.1\r\nHost: a\r\n\r\n")).dispatch
          (answering fun _ => nineMebibytes) fun _ => some 7) := by
  have fails : ((asking (ascii "GET /a.bin HTTP/1.1\r\nHost: a\r\n\r\n")).dispatch
      (answering fun _ => nineMebibytes) fun _ => some 7).1 = .failed := by
    decide
  exact ⟨_, by decide, rfl, rfl, rfl, by decide, fails, fun queued => queued.1 fails⟩

end Aorta.Server.Session
