import Aorta.Http.ReadAnswers
import Aorta.Server.Conversations
import Aorta.Server.HeadResponses

/-!
# What clients read

A client reads the responses off the bytes that were sent on its connection. The first it
reads is what the handler answers to its first request, and so on.
-/

namespace Aorta.Server

open Aorta.Library.Ascii Aorta.Library.Decoding Aorta.Library.Run Aorta.Http Aorta.Net
open Aorta.Http.HttpHandler (AnsweredBy HeadsNoFile finished)
open Aorta.Http.ResponseReader (readResponse)
open Aorta.Tasks (Outcome)

set_option autoImplicit false

/-- One byte of a stream; `files` tells what comes out of a file at a position of the
stream. -/
def readWire (files : Nat → Byte) (position : Nat) : WireByte → Byte
  | .memory byte => byte
  | .file _ _ => files position

def spelled (files : Nat → Byte) (wire : List WireByte) : Bytes := wire.mapIdx (readWire files)

def shift (files : Nat → Byte) (offset : Nat) : Nat → Byte := fun position =>
  files (position + offset)

theorem spelled_append (files : Nat → Byte) (first second : List WireByte) :
    spelled files (first ++ second) =
      spelled files first ++ spelled (shift files first.length) second := by
  rw [spelled, List.mapIdx_append]
  rfl

theorem spelled_begins (files : Nat → Byte) {first whole : List WireByte}
    (begins : first <+: whole) : spelled files first <+: spelled files whole := by
  obtain ⟨rest, same⟩ := begins
  rw [← same, spelled_append]
  exact List.prefix_append _ _

theorem spelled_memory (files : Nat → Byte) (bytes : Bytes) :
    spelled files (bytes.map .memory) = bytes := by
  apply List.ext_getElem
  · simp [spelled]
  · intro index _ _
    simp [spelled, readWire]

/-- What a file of some size holds. -/
def fileBytes (files : Nat → Byte) (size : Nat) : Bytes := (List.range size).map files

theorem spelled_file (files : Nat → Byte) (fileFd : Int) (size : Nat) :
    spelled files ((List.range' 0 size).map (.file fileFd)) = fileBytes files size := by
  apply List.ext_getElem
  · simp [spelled, fileBytes]
  · intro index _ _
    simp [spelled, readWire, fileBytes]

namespace Reply

def due (reply : Reply) : List WireByte :=
  reply.response.serialize.map .memory ++
    if Session.sendsFile reply.response then
      (List.range' 0 reply.response.fileSize).map (.file (reply.file.getD 0))
    else []

theorem Whole.announced_due {reply : Reply} (whole : reply.Whole) :
    reply.announced = reply.due := by
  unfold Whole at whole
  unfold announced entries due
  rw [← whole, List.flatMap_cons]
  cases reply.file with
  | none => rfl
  | some fileFd => simp [OutputBuffer.announced]

theorem announced_begins {reply : Reply} (unopened : reply.file = none) :
    reply.announced <+: reply.due := by
  unfold announced entries due
  rw [unopened, List.flatMap_cons]
  simp [OutputBuffer.announced]

end Reply

/-- The responses to requests for a client that has sent them. -/
def bareness (requests : List HttpRequest) : List Bool :=
  requests.map fun request => decide (request.method = ascii "HEAD")

/-- What a client reads for a request: one of its answers, with its body or with what its file
held. -/
def Got (answers : Nat → HttpRequest → HttpResponse → Prop) (request : Nat × HttpRequest)
    (received : ReceivedResponse) : Prop :=
  ∃ response file, answers request.1 request.2 response ∧
    file.length = (finished request.2 response).fileSize ∧
    received = (finished request.2 response).received
      ((finished request.2 response).contentWith file)

theorem Got.imp {answers others : Nat → HttpRequest → HttpResponse → Prop}
    {request : Nat × HttpRequest} {received : ReceivedResponse}
    (got : Got answers request received)
    (also : ∀ response, answers request.1 request.2 response →
      others request.1 request.2 response) : Got others request received := by
  obtain ⟨response, file, answer, whole, same⟩ := got
  exact ⟨response, file, also response answer, whole, same⟩

/-- A request is answered by the handler at once, or by what is published for its job. -/
def Settles (handlers : Nat → HttpHandler) (published : Nat → HttpResponse → Prop)
    (serial : Nat) (request : HttpRequest) (response : HttpResponse) : Prop :=
  (handlers serial).handle request {} = .completed response ∨
    (∃ operation, (handlers serial).handle request {} = .pending operation) ∧
      published serial response

namespace Reply

def piece (files : Nat → Byte) (request : Nat × HttpRequest) (reply : Reply) :
    Piece Bool Byte ReceivedResponse where
  key := decide (request.2.method = ascii "HEAD")
  text := spelled files reply.due
  value := reply.response.received (reply.response.contentWith
    (fileBytes (shift files reply.response.serialize.length) reply.response.fileSize))

theorem due_spelled (files : Nat → Byte) (reply : Reply) {bare : Bool}
    (fits : reply.response.Fits bare) :
    spelled files reply.due = reply.response.head ++ reply.response.contentWith
      (fileBytes (shift files reply.response.serialize.length) reply.response.fileSize) := by
  unfold due
  rw [spelled_append, spelled_memory, List.length_map]
  cases fits with
  | body plain full =>
      have noFile : Session.sendsFile reply.response = false := by
        unfold Session.sendsFile HttpResponse.hasFile
        rw [plain]
        rfl
      rw [noFile, HttpResponse.serialize_head_body]
      unfold HttpResponse.contentWith
      rw [plain]
      simp [spelled]
  | file asked attached named small =>
      have text : reply.response.serialize = reply.response.head := by
        rw [HttpResponse.serialize_head_body, attached]
        simp
      rw [text]
      unfold HttpResponse.contentWith
      rw [attached, if_pos rfl]
      congr 1
      cases sends : Session.sendsFile reply.response with
      | true => exact spelled_file _ _ _
      | false =>
          have empty : reply.response.fileSize = 0 := by
            have isNamed : reply.response.filePath.isEmpty = false :=
              List.isEmpty_eq_false_iff.mpr named
            have within : reply.response.fileSize ≤ 16 * 1024 * 1024 := small
            simp only [Session.sendsFile, HttpResponse.hasFile, attached, isNamed, Bool.not_false,
              Bool.and_true, Bool.true_and, Bool.and_eq_false_iff, decide_eq_false_iff_not] at sends
            omega
          rw [empty]
          rfl

end Reply

def replyPieces : (Nat → Byte) → List (Nat × HttpRequest) → List Reply →
    List (Piece Bool Byte ReceivedResponse)
  | files, request :: requests, reply :: replies =>
      reply.piece files request ::
        replyPieces (shift files reply.due.length) requests replies
  | _, _, _ => []

theorem no_reply_pieces (files : Nat → Byte) (requests : List (Nat × HttpRequest)) :
    replyPieces files requests [] = [] := by
  cases requests with
  | nil => rfl
  | cons request requests => rfl

section Pieces

variable {handlers : Nat → HttpHandler} {published : Nat → HttpResponse → Prop}
  {requests : List (Nat × HttpRequest)} {replies : List Reply}

theorem reply_pieces_texts (files : Nat → Byte) (order : replies.length ≤ requests.length) :
    texts (replyPieces files requests replies) = spelled files (replies.flatMap Reply.due) := by
  induction replies generalizing files requests with
  | nil =>
      rw [no_reply_pieces]
      rfl
  | cons reply replies ih =>
      cases requests with
      | nil => cases order
      | cons request requests =>
          rw [replyPieces, texts_cons, ih _ (Nat.le_of_succ_le_succ order), List.flatMap_cons,
            spelled_append]
          rfl

theorem reply_pieces_keys (files : Nat → Byte) (order : replies.length ≤ requests.length) :
    (replyPieces files requests replies).map Piece.key =
      bareness ((requests.take replies.length).map Prod.snd) := by
  induction replies generalizing files requests with
  | nil =>
      rw [no_reply_pieces]
      rfl
  | cons reply replies ih =>
      cases requests with
      | nil => cases order
      | cons request requests =>
          rw [replyPieces, List.map_cons, ih _ (Nat.le_of_succ_le_succ order)]
          rfl

theorem AllReplied.announced_due {handle : Nat → HttpRequest → HandleResult}
    (all : AllReplied handle published requests replies) :
    replies.flatMap Reply.announced = replies.flatMap Reply.due := by
  induction all with
  | nil => rfl
  | cons first rest ih =>
      rw [List.flatMap_cons, List.flatMap_cons, first.2.announced_due, ih]

theorem Replied.announced_begins {handle : Nat → HttpRequest → HandleResult}
    (replied : Replied handle published requests replies) :
    replies.flatMap Reply.announced <+: replies.flatMap Reply.due := by
  induction replied with
  | nothing requests => exact List.nil_prefix
  | broken answered unopened requests =>
      rw [List.flatMap_cons, List.flatMap_cons, List.flatMap_nil, List.append_nil,
        List.flatMap_nil, List.append_nil]
      exact Reply.announced_begins unopened
  | next answered whole rest ih =>
      rw [List.flatMap_cons, List.flatMap_cons, whole.announced_due]
      exact (List.prefix_append_right_inj _).mpr ih

theorem Replied.fewer {handle : Nat → HttpRequest → HandleResult}
    (replied : Replied handle published requests replies) : replies.length ≤ requests.length := by
  have shorter := replied.serials.length_le
  rwa [List.length_map, List.length_map] at shorter

/-- A worker publishes for the job of a request what the callback makes of an outcome that
this job may have. -/
def Responds (outcomes : Nat → Outcome → Prop) (serial : Nat) (response : HttpResponse) : Prop :=
  ∃ outcome, outcomes serial outcome ∧ HttpHandler.respond outcome = some response

theorem Answered.settles {request : Nat × HttpRequest} {reply : Reply}
    (answered : Answered (Session.answering handlers) published request reply) :
    ∃ response, Settles handlers published request.1 request.2 response ∧
      reply.response = finished request.2 response := by
  cases answered with
  | @atOnce serial request response completed file =>
      refine ⟨response, .inl ?_, rfl⟩
      unfold Session.answering at completed
      cases handled : (handlers serial).handle request {} with
      | completed other =>
          rw [handled] at completed
          cases completed
          rfl
      | pending operation =>
          rw [handled] at completed
          cases completed
  | @later serial request response pending byWorker =>
      unfold Session.answering at pending
      cases handled : (handlers serial).handle request {} with
      | completed other =>
          rw [handled] at pending
          cases pending
      | pending operation =>
          exact ⟨response, .inr ⟨⟨operation, handled⟩, byWorker⟩, rfl⟩

variable {outcomes : Nat → Outcome → Prop}

theorem Settles.answered {serial : Nat} {request : HttpRequest} {response : HttpResponse}
    (settles : Settles handlers (Responds outcomes) serial request response) :
    AnsweredBy (handlers serial) request response := by
  rcases settles with completed | ⟨⟨operation, pending⟩, outcome, -, same⟩
  · exact .inl completed
  · exact .inr ⟨operation, outcome, pending, same⟩

/-- A reply is read back, and is what the client is to get. -/
theorem Answered.read {request : Nat × HttpRequest} {reply : Reply}
    (answered : Answered (Session.answering handlers) (Responds outcomes) request reply)
    (noFile : HeadsNoFile request.2) (files : Nat → Byte) :
    (reply.piece files request).Undone readResponse ∧
      Got (Settles handlers (Responds outcomes)) request (reply.piece files request).value := by
  obtain ⟨response, settles, same⟩ := answered.settles
  obtain ⟨⟨connection, framed⟩, legible, fits⟩ :=
    HttpHandler.answered_by_fits noFile settles.answered
  rw [← same] at framed legible fits
  have whole : (fileBytes (shift files reply.response.serialize.length)
      reply.response.fileSize).length = reply.response.fileSize := by
    unfold fileBytes
    rw [List.length_map, List.length_range]
  constructor
  · unfold Reply.piece
    rw [reply.due_spelled files fits]
    exact framed.undone legible (fits.content_long whole)
  · refine ⟨response, fileBytes (shift files reply.response.serialize.length)
      reply.response.fileSize, settles, ?_, ?_⟩
    · rw [← same]
      exact whole
    · rw [← same]
      rfl

theorem reply_pieces_read
    (replied : Replied (Session.answering handlers) (Responds outcomes) requests replies)
    (noFiles : ∀ request ∈ requests, HeadsNoFile request.2) (files : Nat → Byte) :
    (∀ piece ∈ replyPieces files requests replies, piece.Undone readResponse) ∧
      List.Forall₂ (Got (Settles handlers (Responds outcomes))) (requests.take replies.length)
        ((replyPieces files requests replies).map Piece.value) := by
  have silent : ∀ (files : Nat → Byte) (requests : List (Nat × HttpRequest)),
      (∀ piece ∈ replyPieces files requests [], piece.Undone readResponse) ∧
        List.Forall₂ (Got (Settles handlers (Responds outcomes))) (requests.take 0)
          ((replyPieces files requests []).map Piece.value) := by
    intro files requests
    rw [no_reply_pieces]
    refine ⟨?_, .nil⟩
    intro piece member
    cases member
  induction replied generalizing files with
  | nothing requests => exact silent files requests
  | @broken request reply answered unopened requests =>
      obtain ⟨noFile, -⟩ := List.forall_mem_cons.mp noFiles
      obtain ⟨undone, got⟩ := answered.read noFile files
      obtain ⟨later, gotLater⟩ := silent (shift files reply.due.length) requests
      exact ⟨List.forall_mem_cons.mpr ⟨undone, later⟩, .cons got gotLater⟩
  | @next request reply requests replies answered whole rest ih =>
      obtain ⟨noFile, others⟩ := List.forall_mem_cons.mp noFiles
      obtain ⟨undone, got⟩ := answered.read noFile files
      obtain ⟨later, gotLater⟩ := ih others (shift files reply.due.length)
      exact ⟨List.forall_mem_cons.mpr ⟨undone, later⟩, .cons got gotLater⟩

/-- From the first bytes of the responses a client reads the first answers, however many
requests it has sent. -/
theorem Replied.read (replied : Replied (Session.answering handlers) (Responds outcomes) requests replies)
    (noFiles : ∀ request ∈ requests, HeadsNoFile request.2) (files : Nat → Byte)
    (more : List HttpRequest) {text : Bytes}
    (part : text <+: spelled files (replies.flatMap Reply.announced)) :
    let read := readAll readResponse (bareness (requests.map Prod.snd ++ more)) text
    List.Forall₂ (Got (Settles handlers (Responds outcomes))) (requests.take read.length) read := by
  intro read
  obtain ⟨undone, got⟩ := reply_pieces_read replied noFiles files
  have whole := reply_pieces_texts files replied.fewer
  have keys := reply_pieces_keys files replied.fewer
  have split : bareness (requests.map Prod.snd ++ more) =
      (replyPieces files requests replies).map Piece.key ++
        bareness ((requests.drop replies.length).map Prod.snd ++ more) := by
    rw [keys]
    unfold bareness
    rw [← List.map_append, ← List.append_assoc, ← List.map_append, List.take_append_drop]
  have inside : text <+: texts (replyPieces files requests replies) := by
    rw [whole]
    exact part.trans (spelled_begins files replied.announced_begins)
  have begins := read_all_begins ResponseReader.read_response_stable
    ResponseReader.read_response_waits undone
    (bareness ((requests.drop replies.length).map Prod.snd ++ more)) inside
  rw [← split] at begins
  have short : read.length ≤ replies.length := by
    have shorter : read.length ≤ _ := begins.length_le
    rw [← got.length_eq, List.length_take] at shorter
    exact shorter.trans (Nat.min_le_left _ _)
  have taken := List.forall₂_take read.length got
  rw [List.take_take, Nat.min_eq_left short, ← List.prefix_iff_eq_take.mp begins] at taken
  exact taken

theorem AllReplied.read_all
    (all : AllReplied (Session.answering handlers) (Responds outcomes) requests replies)
    (noFiles : ∀ request ∈ requests, HeadsNoFile request.2) (files : Nat → Byte) :
    (readAll readResponse (bareness (requests.map Prod.snd))
      (spelled files (replies.flatMap Reply.announced))).length = requests.length := by
  have replied := all.replied
  have equal : requests.take replies.length = requests := by
    rw [← List.Forall₂.length_eq all, List.take_length]
  obtain ⟨undone, got⟩ := reply_pieces_read replied noFiles files
  have whole := reply_pieces_texts files replied.fewer
  have keys := reply_pieces_keys files replied.fewer
  have reads := read_all_whole undone [] []
  rw [equal] at got keys
  rw [List.append_nil, List.append_nil, keys, whole, ← all.announced_due] at reads
  rw [reads, List.length_append, ← got.length_eq]
  rfl

end Pieces

namespace TalkingReactor

section Run

variable {handlers : Nat → HttpHandler} {outcomes : Nat → Outcome → Prop} {id : Int}
  {inputs : List Reactor.Input}
  (may : MayPublish (Session.answering handlers) (Responds outcomes) id inputs)
  (never : ∀ input ∈ inputs, .sent 0 ∉ input.sends)

include may never

/-- What was sent reads as answers to the first requests. -/
theorem sent_is_read (fd : Int) (files : Nat → Byte) :
    let talking := run (step (Session.answering handlers)) (start id) inputs
    let requests := (talking.heard fd).requests
    let read := readAll readResponse (bareness (requests.map Prod.snd))
      (spelled files (talking.said fd).sentBytes)
    (∀ request ∈ requests, HeadsNoFile request.2) →
      List.Forall₂ (Got (Settles handlers (Responds outcomes))) (requests.take read.length) read := by
  intro talking requests read noFiles
  have sent := (run_owes (Session.answering handlers) id inputs never fd).1
  have replied := (run_follows (Session.answering handlers) id inputs may fd).1
  have reads := replied.read noFiles files [] (spelled_begins files sent)
  rwa [List.append_nil] at reads

/-- When everything is sent and nothing outstanding, these are answers to all requests. -/
theorem all_is_read (fd : Int) (files : Nat → Byte) {connection : Connection}
    {state : ConnectionState} :
    let talking := run (step (Session.answering handlers)) (start id) inputs
    let requests := (talking.heard fd).requests
    (∀ request ∈ requests, HeadsNoFile request.2) →
      talking.reactor.connections.lookup fd = some connection →
      talking.reactor.connectionStates.lookup fd = some state →
      connection.outputQueue = [] → state.redisPending = false →
      (readAll readResponse (bareness (requests.map Prod.snd))
        (spelled files (talking.said fd).sentBytes)).length = requests.length := by
  intro talking requests noFiles found foundState empty idle
  obtain ⟨announced, answered⟩ :=
    run_settled (Session.answering handlers) id inputs may never found foundState
  have unsent : connection.unsent = [] := by
    unfold Connection.unsent
    rw [empty]
    rfl
  rw [unsent, List.append_nil] at announced
  rw [announced]
  exact (answered idle).read_all noFiles files

end Run

/-- A client reads, as its first response, what the handler answers to the first request that
was dispatched on its connection: at once, or what the callback makes of an outcome of this
request's own job, whatever outcomes each job may have; and so on. When everything is sent and
no job is outstanding, it has read an answer to every request. Nothing is said of a client that
asks for a static file with `HEAD`. -/
theorem clients_read_the_answers (handlers : Nat → HttpHandler)
    (outcomes : Nat → Outcome → Prop) (id : Int) (inputs : List Reactor.Input)
    (may : MayPublish (Session.answering handlers) (Responds outcomes) id inputs)
    (never : ∀ input ∈ inputs, .sent 0 ∉ input.sends) (fd : Int) (files : Nat → Byte) :
    let talking := run (step (Session.answering handlers)) (start id) inputs
    let requests := (talking.heard fd).requests
    let read := readAll readResponse (bareness (requests.map Prod.snd))
      (spelled files (talking.said fd).sentBytes)
    (∀ request ∈ requests, HeadsNoFile request.2) →
      List.Forall₂ (Got (Settles handlers (Responds outcomes))) (requests.take read.length) read ∧
      ∀ connection state, talking.reactor.connections.lookup fd = some connection →
        talking.reactor.connectionStates.lookup fd = some state →
        connection.outputQueue = [] → state.redisPending = false →
        read.length = requests.length := by
  intro talking requests read noFiles
  refine ⟨sent_is_read may never fd files noFiles, ?_⟩
  intro connection state found foundState empty idle
  exact all_is_read may never fd files noFiles found foundState empty idle

/-- A handler with no files and a task manager that takes every operation. -/
def taskHandler (_ : Nat) : HttpHandler :=
  HttpHandler.create (fun _ => none) (some fun _ => true) []

def emptyListing : HttpResponse :=
  HttpHandler.setContent {} 200 (ascii "OK") (ascii "[]") (ascii "application/json")

/-- The job of the second request lists no tasks; there is no other job. -/
def nothingListed (serial : Nat) (outcome : Outcome) : Prop :=
  serial = 1 ∧ outcome = .listed true []

/-- Two requests in one segment, the second of which waits for a worker. Only a part of the
responses is sent. -/
def greetingThenListing : List Reactor.Input :=
  [.accept [.client 7 true true true],
    .client 7 { input := true }
      { recvs := [.received (ascii ("GET /hello HTTP/1.1\r\nHost: a\r\n\r\n" ++
        "GET /tasks HTTP/1.1\r\nHost: a\r\n\r\n"))] },
    .worker 0 (some emptyListing),
    .completions [{ sends := [.sent 150] }]]

theorem listing_is_published :
    MayPublish (Session.answering taskHandler) (Responds nothingListed) 0
      greetingThenListing := by
  refine ⟨trivial, trivial, ?_, trivial, trivial⟩
  intro callback found
  cases found
  exact ⟨.listed true [], ⟨rfl, rfl⟩, rfl⟩

set_option maxRecDepth 20000 in
theorem greeting_is_read :
    let talking := run (step (Session.answering taskHandler)) (start 0) greetingThenListing
    let requests := (talking.heard 7).requests
    let read := readAll readResponse (bareness (requests.map Prod.snd))
      (spelled (fun _ => 0) (talking.said 7).sentBytes)
    requests.length = 2 ∧ read.map ReceivedResponse.content = [ascii "Hello from AORTA"] ∧
      List.Forall₂ (Got (Settles taskHandler (Responds nothingListed)))
        (requests.take read.length) read := by
  have reads := clients_read_the_answers taskHandler nothingListed 0 greetingThenListing
    listing_is_published (by decide) 7 (fun _ => 0) (by decide)
  exact ⟨by decide, by decide, reads.1⟩

end TalkingReactor

end Aorta.Server
