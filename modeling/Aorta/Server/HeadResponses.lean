import Aorta.Http.HeadAnswers
import Aorta.Server.Transitions

/-!
# What is queued for `HEAD`

The reactor queues the serialized answer and then, as a step of its own, the file.
That step looks at the name and the size of the file and not at `send_body`.
-/

namespace Aorta.Http.HttpHandler

open Aorta.Library.Ascii Aorta.Server

set_option autoImplicit false

variable {handler : HttpHandler} {request : HttpRequest} {response : HttpResponse}

theorem AnswersHead.file_head (answers : handler.AnswersHead request response)
    (sends : response.sendFile = true) : IsHead response.serialize := by
  cases answers with
  | fallback noFile clean bodyless plain => exact clean.serialize_head (by rw [bodyless]; rfl)
  | refused last file missing sendsBody =>
      rw [sends, Bool.not_true, Bool.and_false] at sendsBody
      cases sendsBody
  | found fileInfo file served clean sends =>
      exact clean.serialize_head (by rw [sends, Bool.not_true, Bool.and_false])

theorem AnswersHead.bare_iff (answers : handler.AnswersHead request response) :
    (IsHead response.serialize ∧ Session.sendsFile response = false) ↔
      (wantsFile request.target = false ∨
        ∃ fileInfo, handler.staticFileHandler.servedFile request.target = some fileInfo ∧
          fileInfo.size = 0) := by
  cases answers with
  | fallback noFile clean bodyless plain =>
      have noBody : IsHead response.serialize := clean.serialize_head (by rw [bodyless]; rfl)
      have noneSent : Session.sendsFile response = false := by
        simp [Session.sendsFile, HttpResponse.hasFile, plain]
      exact ⟨fun _ => .inl noFile, fun _ => ⟨noBody, noneSent⟩⟩
  | refused last file missing sends body differs =>
      have hasBody := HttpResponse.serialize_not_head sends body differs
      simp [hasBody, file, missing]
  | found fileInfo file served clean sends path size =>
      have noBody := clean.serialize_head (by rw [sends, Bool.not_true, Bool.and_false])
      have small : fileInfo.size ≤ 16 * 1024 * 1024 := StaticFileHandler.served_small served
      have sent : Session.sendsFile response = decide (fileInfo.size > 0) := by
        simp [Session.sendsFile, HttpResponse.hasFile, sends, path, size, small]
      rw [sent, file, served]
      simp [noBody]

end Aorta.Http.HttpHandler

namespace Aorta.Server.Session

open Aorta.Library.Ascii Aorta.Http Aorta.Net

set_option autoImplicit false

/-- What `handle` of the reactor's handler answers; it may find other files and other
counters with every request. -/
def answering (handlers : Nat → HttpHandler) (serial : Nat) (request : HttpRequest) :
    HandleResult :=
  match (handlers serial).handle request {} with
  | .completed response => .completed response
  | .pending _ => .pending

variable (openFile : Bytes → Option Int)

/-- The output queue takes the response and its file. -/
def Takes (connection : Connection) (response : HttpResponse) : Prop :=
  connection.outputQueueSize + response.serialize.length +
      (if sendsFile response then response.fileSize else 0) ≤ Connection.maxOutputQueueSize ∧
    (sendsFile response = true → (openFile response.filePath).isSome = true)

/-- What queueing a response can do to the output queue. -/
inductive Queues (connection : Connection) (response : HttpResponse) : Served × Session → Prop
  | refused (outcome : Served × Session) (full : ¬ Takes openFile connection response)
      (failed : outcome.1 = .failed)
      (queue : outcome.2.connection.outputQueue = connection.outputQueue) :
      Queues connection response outcome
  | fileRefused (outcome : Served × Session) (full : ¬ Takes openFile connection response)
      (sends : sendsFile response = true)
      (queue : outcome.2.connection.outputQueue =
        connection.outputQueue ++ [.memory response.serialize 0]) :
      Queues connection response outcome
  | queued (outcome : Served × Session) (takes : Takes openFile connection response)
      (plain : sendsFile response = false)
      (queue : outcome.2.connection.outputQueue =
        connection.outputQueue ++ [.memory response.serialize 0]) :
      Queues connection response outcome
  | fileQueued (outcome : Served × Session) (takes : Takes openFile connection response)
      (sends : sendsFile response = true) (fileFd : Int)
      (queue : outcome.2.connection.outputQueue = connection.outputQueue ++
        [.memory response.serialize 0, .file fileFd response.fileSize 0]) :
      Queues connection response outcome

theorem answer_queues (session : Session) (serial : Nat) (connection : Connection)
    (response : HttpResponse) :
    Queues openFile connection response (session.answer openFile serial connection response) := by
  have queue := connection.queue_response_queue response.serialize
  have fits := connection.queue_response_accepts response.serialize
  have size := @Connection.queue_response_size connection response.serialize
  unfold answer
  cases queued : connection.queueResponse response.serialize with
  | mk accepted after =>
      rw [queued] at queue fits size
      cases accepted with
      | false =>
          apply Queues.refused
          · rintro ⟨room, -⟩
            have := fits.mpr (by omega)
            cases this
          · rfl
          · exact queue
      | true =>
          have room := fits.mp rfl
          cases sends : sendsFile response with
          | false =>
              simp only [Bool.not_true, Bool.false_eq_true, if_false]
              apply Queues.queued
              · simpa [Takes, sends] using room
              · exact sends
              · exact (finish_output _).1.trans queue
          | true =>
              have fileQueue := after.queue_file_queue openFile response.filePath
                response.fileSize
              have fileFits := after.queue_file_accepts openFile response.filePath
                response.fileSize
              have takes : Takes openFile connection response ↔
                  (after.queueFile openFile response.filePath response.fileSize).1 = true := by
                rw [fileFits, show after.outputQueueSize = _ from size rfl]
                simp [Takes, sends]
              simp only [Bool.not_true, Bool.false_eq_true, if_false, if_true]
              cases queuedFile : after.queueFile openFile response.filePath
                  response.fileSize with
              | mk accepted afterFile =>
                  rw [queuedFile] at fileQueue fileFits takes
                  cases accepted with
                  | false =>
                      apply Queues.fileRefused
                      · rw [takes]
                        exact Bool.false_ne_true
                      · exact sends
                      · exact fileQueue.trans queue
                  | true =>
                      obtain ⟨fileFd, opened⟩ := Option.isSome_iff_exists.mp (fileFits.mp rfl).2
                      apply Queues.fileQueued _ (takes.mpr rfl) sends fileFd
                      rw [opened] at fileQueue
                      refine (finish_output _).1.trans (fileQueue.trans ?_)
                      rw [queue]
                      simp

/-- The response to the request of a session, as it is queued. -/
def reply (session : Session) (response : HttpResponse) : HttpResponse :=
  if session.connection.getRequest.hasHeaderToken (ascii "Connection") (ascii "close") then
    response.setConnection (ascii "close")
  else response

variable {openFile}

section Dispatch

variable {handle : Nat → HttpRequest → HandleResult} {session : Session}
  {response : HttpResponse}

theorem dispatch_completed
    (completed : handle session.shared.serial session.connection.getRequest =
      .completed response) :
    session.dispatch handle openFile =
      answer openFile session.dispatched session.shared.serial
        (if session.closes then session.connection.setCloseAfterWrite true
          else session.connection) (session.reply response) := by
  unfold dispatch
  simp only [completed]
  rfl

theorem dispatch_queues
    (completed : handle session.shared.serial session.connection.getRequest =
      .completed response) :
    Queues openFile session.connection (session.reply response)
      (session.dispatch handle openFile) := by
  have queues := answer_queues openFile session.dispatched session.shared.serial
    (if session.closes then session.connection.setCloseAfterWrite true
      else session.connection) (session.reply response)
  rw [dispatch_completed completed]
  generalize answer openFile _ _ _ _ = outcome at queues ⊢
  split_ifs at queues
  · cases queues with
    | refused full failed queue => exact .refused _ full failed queue
    | fileRefused full sends queue => exact .fileRefused _ full sends queue
    | queued takes plain queue => exact .queued _ takes plain queue
    | fileQueued takes sends fileFd queue => exact .fileQueued _ takes sends fileFd queue
  · exact queues

end Dispatch

/-- One head has been queued and nothing else, or nothing at all by a reactor that gives
the connection up. -/
def AnswersBare (before : List OutputBuffer) (outcome : Served × Session) : Prop :=
  (outcome.1 = .failed ∧ outcome.2.connection.outputQueue = before) ∨
    ∃ bytes, IsHead bytes ∧
      outcome.2.connection.outputQueue = before ++ [.memory bytes 0]

theorem Queues.bare_iff {connection : Connection} {response : HttpResponse}
    {outcome : Served × Session} (queues : Queues openFile connection response outcome)
    (fileHead : sendsFile response = true → IsHead response.serialize) :
    AnswersBare connection.outputQueue outcome ↔
      (IsHead response.serialize ∧ sendsFile response = false) ∨
        ¬ Takes openFile connection response := by
  cases queues with
  | refused full failed queue => exact ⟨fun _ => .inr full, fun _ => .inl ⟨failed, queue⟩⟩
  | fileRefused full sends queue =>
      exact ⟨fun _ => .inr full, fun _ => .inr ⟨_, fileHead sends, queue⟩⟩
  | queued takes plain queue =>
      constructor
      · rintro (⟨-, unchanged⟩ | ⟨bytes, isHead, same⟩)
        · rw [queue] at unchanged
          simp at unchanged
        · rw [queue, List.append_cancel_left_eq] at same
          cases same
          exact .inl ⟨isHead, plain⟩
      · rintro (⟨isHead, -⟩ | full)
        · exact .inr ⟨_, isHead, queue⟩
        · exact absurd takes full
  | fileQueued takes sends fileFd queue =>
      constructor
      · rintro (⟨-, unchanged⟩ | ⟨bytes, -, same⟩)
        · rw [queue] at unchanged
          simp at unchanged
        · rw [queue, List.append_cancel_left_eq] at same
          cases same
      · rintro (⟨-, plain⟩ | full)
        · rw [plain] at sends
          cases sends
        · exact absurd takes full

/-- The answer to `HEAD` is one head if and only if no file is asked for, or the file
found is empty, or the output queue does not take the answer. -/
theorem head_is_answered_bare_iff (handlers : Nat → HttpHandler)
    (openFile : Bytes → Option Int) (session : Session)
    (head : session.connection.getRequest.method = ascii "HEAD") :
    AnswersBare session.connection.outputQueue
        (session.dispatch (answering handlers) openFile) ↔
      (HttpHandler.wantsFile session.connection.getRequest.target = false ∨
        ∃ fileInfo, (handlers session.shared.serial).staticFileHandler.servedFile
          session.connection.getRequest.target = some fileInfo ∧ fileInfo.size = 0) ∨
      ∀ response, (handlers session.shared.serial).handle session.connection.getRequest {} =
        .completed response → ¬ Takes openFile session.connection (session.reply response) := by
  obtain ⟨response, handled, answers⟩ :=
    @HttpHandler.handle_answers_head (handlers session.shared.serial) _ head
  have completed : answering handlers session.shared.serial session.connection.getRequest =
      .completed response := by
    unfold answering
    rw [handled]
  have replies : (handlers session.shared.serial).AnswersHead session.connection.getRequest
      (session.reply response) := by
    unfold reply
    split_ifs
    · exact answers.setConnection (by decide)
    · exact answers
  have fileHead : sendsFile (session.reply response) = true →
      IsHead (session.reply response).serialize := by
    intro sends
    apply replies.file_head
    simp only [sendsFile, HttpResponse.hasFile, Bool.and_eq_true] at sends
    exact sends.1.1.1
  rw [(dispatch_queues completed).bare_iff fileHead, replies.bare_iff]
  apply or_congr Iff.rfl
  constructor
  · intro full other same
    rw [handled] at same
    cases same
    exact full
  · intro full
    exact full response handled

def readIn (bytes : Bytes) : Connection where
  fd := 5
  reactorId := 0
  receiveBuffer := bytes

def asking (bytes : Bytes) : Session where
  fd := 5
  connection := (readIn bytes).parseRequest.2
  state := .accepted 0 0
  shared := {}

theorem head_of_greeting_is_bare :
    AnswersBare [] ((asking (ascii "HEAD /hello HTTP/1.1\r\nHost: a\r\n\r\n")).dispatch
      (answering fun _ => HttpHandler.create (fun _ => none) none []) fun _ => none) :=
  (head_is_answered_bare_iff (fun _ => HttpHandler.create (fun _ => none) none [])
    (fun _ => none) (asking (ascii "HEAD /hello HTTP/1.1\r\nHost: a\r\n\r\n"))
    (by decide)).mpr (.inl (.inl (by decide)))

/-- The whole file follows the head of its answer to `HEAD`. -/
theorem head_of_index_sends_the_file :
    (readIn (ascii "HEAD / HTTP/1.1\r\nHost: a\r\n\r\n")).parseRequest.1 = .complete ∧
      ¬ AnswersBare [] ((asking (ascii "HEAD / HTTP/1.1\r\nHost: a\r\n\r\n")).dispatch
        (answering fun _ =>
          HttpHandler.create (HttpHandler.oneFile (ascii "./public/index.html")) none [])
        fun _ => some 7) := by
  refine ⟨by decide, ?_⟩
  have queue : ∃ bytes, ((asking (ascii "HEAD / HTTP/1.1\r\nHost: a\r\n\r\n")).dispatch
      (answering fun _ =>
        HttpHandler.create (HttpHandler.oneFile (ascii "./public/index.html")) none [])
      fun _ => some 7).2.connection.outputQueue = [.memory bytes 0, .file 7 5 0] := ⟨_, rfl⟩
  obtain ⟨bytes, queue⟩ := queue
  rintro (⟨-, unchanged⟩ | ⟨bytes, -, same⟩)
  · rw [queue] at unchanged
    cases unchanged
  · rw [queue] at same
    cases same

end Aorta.Server.Session
