import Aorta.Http.ResponseReader

/-!
# The answers are read back

Whatever the handler answers, at once or through a worker, is legible, and what follows its
head is as long as the head says: all of the body or the file, and nothing in answer to
`HEAD`. The one exception is `HEAD` for a static file.
-/

namespace Aorta.Http

open Aorta.Library.Ascii Aorta.Library.Decimal Aorta.Tasks Aorta.Http.HttpParser
open Aorta.Http.HttpResponse

set_option autoImplicit false

namespace HttpResponse

variable {response : HttpResponse}

theorem legible_start : Legible {} := by
  refine ⟨by decide, ?_⟩
  intro header member
  cases member

theorem Legible.same {other : HttpResponse} (legible : response.Legible)
    (version : other.version = response.version) (headers : other.headers = response.headers) :
    other.Legible := by
  constructor
  · rw [version]
    exact legible.version
  · rw [headers]
    exact legible.names

theorem Legible.setHeader (legible : response.Legible) {name value : Bytes}
    (noColon : (58 : Byte) ∉ name) (noBlank : value.dropWhile isBlank = value) :
    (response.setHeader name value).Legible where
  version := legible.version
  names := set_header_forall (fun name => (58 : Byte) ∉ name)
    (fun value => value.dropWhile isBlank = value) noColon noBlank legible.names

theorem decimal_unblank (number : Nat) :
    (decimal number).dropWhile isBlank = decimal number := by
  cases spelled : decimal number with
  | nil => rfl
  | cons digit digits =>
      have isDigit : isDigit digit = true := by
        apply decimal_digits number digit
        rw [spelled]
        exact List.mem_cons_self
      have unblank : isBlank digit = false := by
        rw [isBlank, Bool.or_eq_false_iff, beq_eq_false_iff_ne, beq_eq_false_iff_ne]
        constructor
        · rintro rfl
          cases isDigit
        · rintro rfl
          cases isDigit
      exact List.dropWhile_cons_of_neg (by rw [unblank]; exact Bool.false_ne_true)

theorem Legible.setContentLength (legible : response.Legible) :
    response.setContentLength.Legible := legible.setHeader (by decide) (decimal_unblank _)

theorem Legible.setConnection (legible : response.Legible) {connection : Bytes}
    (noBlank : connection.dropWhile isBlank = connection) :
    (response.setConnection connection).Legible := legible.setHeader (by decide) noBlank

theorem Legible.setContentType (legible : response.Legible) {contentType : Bytes}
    (noBlank : contentType.dropWhile isBlank = contentType) :
    (response.setContentType contentType).Legible := legible.setHeader (by decide) noBlank

theorem Legible.setAllow (legible : response.Legible) :
    (response.setHeader (ascii "Allow")
      (ascii "GET, HEAD, POST, PUT, DELETE, OPTIONS")).Legible :=
  legible.setHeader (by decide) (by decide)

theorem keep_alive_unblank : (ascii "keep-alive").dropWhile isBlank = ascii "keep-alive" := by
  decide

theorem text_plain_unblank : (ascii "text/plain").dropWhile isBlank = ascii "text/plain" := by
  decide

theorem Legible.setErrorResponse (legible : response.Legible) (status : Nat)
    (reason message : Bytes) : (response.setErrorResponse status reason message).Legible := by
  have described : ((response.setStatus status reason).setBody message).Legible :=
    legible.same rfl rfl
  exact ((described.setContentType text_plain_unblank).setConnection
    keep_alive_unblank).setContentLength

end HttpResponse

namespace HttpHandler

variable {handler : HttpHandler} {request : HttpRequest} {response : HttpResponse}

theorem Answers.legible (answers : Answers response) : response.Legible := by
  induction answers with
  | error known message => exact legible_start.setErrorResponse _ _ message
  | @content status reason contentType known typed body =>
      have unblank : ∀ contentType ∈ contentTypes,
          contentType.dropWhile isBlank = contentType := by decide
      have described : ((({} : HttpResponse).setStatus status reason).setBody body).Legible :=
        legible_start.same rfl rfl
      exact ((described.setContentType (unblank _ typed)).setConnection
        keep_alive_unblank).setContentLength
  | notAllowed =>
      have described : ((({} : HttpResponse).setStatus 405 (ascii "Method Not Allowed")).setBody
          (ascii "Method Not Allowed")).Legible := legible_start.same rfl rfl
      exact ((described.setContentType text_plain_unblank).setAllow.setConnection
        keep_alive_unblank).setContentLength
  | notAllowedHead => exact (legible_start.setErrorResponse _ _ _).setAllow
  | options =>
      have described : ((({} : HttpResponse).setStatus 204 (ascii "No Content")).setBody
          []).Legible := legible_start.same rfl rfl
      exact ((described.setContentType text_plain_unblank).setConnection
        keep_alive_unblank).setAllow.setContentLength
  | removed =>
      have described : ((({} : HttpResponse).setStatus 204 (ascii "No Content")).setBody
          []).Legible := legible_start.same rfl rfl
      exact (described.setConnection keep_alive_unblank).setContentLength
  | headOnly answers ih => exact ih.same rfl rfl

theorem content_type_unblank (path : Bytes) :
    (StaticFileHandler.getContentType path).dropWhile isBlank =
      StaticFileHandler.getContentType path := by
  unfold StaticFileHandler.getContentType
  split_ifs
  all_goals decide

theorem handles_legible {files : StaticFileHandler} (handles : files.Handles request {} response) :
    response.Legible := by
  cases handles with
  | refused status reason message text missing => exact legible_start.setErrorResponse _ _ message
  | found fileInfo served =>
      have described : (((({} : HttpResponse).setStatus 200 (ascii "OK")).setFile
          (files.getFilePath request.target) fileInfo.size)).Legible := legible_start.same rfl rfl
      have whole := ((described.setContentType (content_type_unblank
        (files.getFilePath request.target))).setConnection keep_alive_unblank).setContentLength
      unfold StaticFileHandler.sendFile
      dsimp only
      split_ifs
      · exact whole.same rfl rfl
      · exact whole

theorem handle_legible (completed : handler.handle request {} = .completed response) :
    response.Legible := by
  rcases handle_answers completed with answers | handles
  · exact answers.legible
  · exact handles_legible handles

def HandleResult.Full (result : HandleResult) : Prop :=
  ∀ response, result = .completed response → response.sendBody = true

theorem completed_full (full : response.sendBody = true) :
    (HandleResult.completed response).Full := by
  intro other same
  cases same
  exact full

theorem submit_full (accepts : Operation → Bool) (operation : Operation) :
    (submit accepts operation {}).Full := by
  unfold submit
  split_ifs
  · exact completed_full rfl
  · intro response same
    cases same

theorem with_task_manager_full {handle : (Operation → Bool) → HandleResult}
    (full : ∀ accepts, (handle accepts).Full) : (handler.withTaskManager {} handle).Full := by
  unfold withTaskManager
  cases handler.taskManager with
  | none => exact completed_full rfl
  | some accepts => exact full accepts

theorem route_loop_full {routes : List HttpRouter.Route}
    (full : ∀ route ∈ routes, (route.handler request {}).sendBody = true) (pathFound : Bool) :
    (HttpRouter.routeLoop request {} pathFound routes).2.sendBody = true := by
  induction routes generalizing pathFound with
  | nil =>
      unfold HttpRouter.routeLoop
      split_ifs
      · rfl
      · rfl
  | cons route routes ih =>
      obtain ⟨first, others⟩ := List.forall_mem_cons.mp full
      unfold HttpRouter.routeLoop
      split_ifs
      · exact ih others pathFound
      · exact ih others true
      · exact first

theorem handle_other_full (notHead : request.method ≠ ascii "HEAD") :
    (handler.handleOther request {}).Full := by
  have routes : ∀ route ∈ handler.registerRoutes, (route.handler request {}).sendBody = true := by
    intro route member
    simp only [registerRoutes, List.mem_cons, List.not_mem_nil, or_false] at member
    rcases member with rfl | rfl | rfl | rfl
    · rfl
    · rfl
    · rfl
    · rfl
  unfold handleOther
  split_ifs
  · exact with_task_manager_full fun accepts => submit_full accepts _
  · apply with_task_manager_full
    intro accepts
    dsimp only
    generalize (if isJson request then jsonTitle request.body
      else getFormValue request.body (ascii "title")) = title
    split_ifs
    · exact completed_full rfl
    · exact submit_full accepts _
  · apply with_task_manager_full
    intro accepts
    cases parseTaskId request.target with
    | none => exact completed_full rfl
    | some id =>
        dsimp only
        generalize (if isJson request then jsonTitle request.body
          else getFormValue request.body (ascii "title")) = title
        generalize (if isJson request then jsonCompleted request.body
          else getFormValue request.body (ascii "completed")) = completedValue
        split_ifs
        · exact completed_full rfl
        · exact submit_full accepts _
  · apply with_task_manager_full
    intro accepts
    cases parseTaskId request.target with
    | none => exact completed_full rfl
    | some id => exact submit_full accepts _
  · exact completed_full rfl
  · exact completed_full (route_loop_full routes false)

theorem respond_full {outcome : Outcome} (responds : respond outcome = some response) :
    response.sendBody = true := by
  cases outcome with
  | rejected => cases responds
  | listed success tasks =>
      have same := Option.some.inj responds
      subst same
      split_ifs <;> rfl
  | created success task =>
      have same := Option.some.inj responds
      subst same
      split_ifs <;> rfl
  | updated success task =>
      have same := Option.some.inj responds
      subst same
      split_ifs <;> rfl
  | removed success removed =>
      have same := Option.some.inj responds
      subst same
      split_ifs <;> rfl

end HttpHandler

namespace HttpResponse

/-- How an answer fits the request: a bare one has no body, any other has its body or a file
that can be sent. -/
inductive Fits (bare : Bool) (response : HttpResponse) : Prop
  | body (plain : response.sendFile = false) (full : response.sendBody = !bare)
  | file (asked : bare = false) (attached : response.sendFile = true)
      (named : response.filePath ≠ []) (small : response.fileSize ≤ StaticFileHandler.maxFileSize)

/-- What follows the head of a response, where the file holds some bytes. -/
def contentWith (file : Bytes) (response : HttpResponse) : Bytes :=
  if response.sendFile then file else if response.sendBody then response.body else []

variable {response : HttpResponse} {bare : Bool}

theorem Fits.setConnection (fits : response.Fits bare) (connection : Bytes) :
    (response.setConnection connection).Fits bare := by
  cases fits with
  | body plain full => exact .body plain full
  | file asked attached named small => exact .file asked attached named small

theorem Fits.content_long (fits : response.Fits bare) {file : Bytes}
    (whole : file.length = response.fileSize) :
    (response.contentWith file).length = if bare then 0 else response.contentLength := by
  unfold contentWith contentLength
  cases fits with
  | body plain full =>
      rw [plain, full]
      cases bare with
      | false => rfl
      | true => rfl
  | file asked attached named small =>
      rw [asked, attached, if_pos rfl, whole]
      rfl

end HttpResponse

namespace HttpHandler

variable {handler : HttpHandler} {request : HttpRequest} {response : HttpResponse}

/-- What is answered, at once or through a worker. -/
def AnsweredBy (handler : HttpHandler) (request : HttpRequest) (response : HttpResponse) : Prop :=
  handler.handle request {} = .completed response ∨
    ∃ operation outcome, handler.handle request {} = .pending operation ∧
      respond outcome = some response

/-- `HEAD` for something else than a static file. -/
def HeadsNoFile (request : HttpRequest) : Prop :=
  request.method = ascii "HEAD" → wantsFile request.target = false

instance (request : HttpRequest) : Decidable (HeadsNoFile request) :=
  inferInstanceAs (Decidable (_ → _))

theorem handle_fits (noFile : HeadsNoFile request)
    (completed : handler.handle request {} = .completed response) :
    response.Fits (decide (request.method = ascii "HEAD")) := by
  by_cases head : request.method = ascii "HEAD"
  · rw [decide_eq_true head]
    obtain ⟨other, otherCompleted, answers⟩ := @handle_answers_head handler _ head
    rw [completed] at otherCompleted
    cases otherCompleted
    cases answers with
    | fallback unwanted clean bodyless plain => exact .body plain bodyless
    | refused last wanted missing sends body differs =>
        rw [noFile head] at wanted
        cases wanted
    | found fileInfo wanted served clean sends path size =>
        rw [noFile head] at wanted
        cases wanted
  · rw [decide_eq_false head]
    have others : ∀ other, handler.handleOther request {} = .completed other →
        other.Fits false := by
      intro other otherCompleted
      exact .body (handle_other_answered handler request other otherCompleted).plain
        (handle_other_full head other otherCompleted)
    unfold handle at completed
    split_ifs at completed
    · cases handled : handler.staticFileHandler.handle request {} with
      | none =>
          rw [handled] at completed
          exact others response completed
      | some answer =>
          rw [handled] at completed
          cases completed
          cases StaticFileHandler.handle_handles handled with
          | refused status reason message text missing => exact .body rfl rfl
          | found fileInfo served =>
              refine .file rfl (StaticFileHandler.send_file_sends request {} _ _) ?_ ?_
              · rw [StaticFileHandler.send_file_path]
                exact StaticFileHandler.file_path_some _
                  (StaticFileHandler.safe_path (StaticFileHandler.served_safe served)).1
              · rw [StaticFileHandler.send_file_size]
                exact StaticFileHandler.served_small served
    · exact others response completed

theorem answered_by_fits (noFile : HeadsNoFile request)
    (answered : AnsweredBy handler request response) :
    (∃ connection, (finished request response).Framed connection) ∧
      (finished request response).Legible ∧
      (finished request response).Fits (decide (request.method = ascii "HEAD")) := by
  have both : response.Framed (ascii "keep-alive") ∧ response.Legible ∧
      response.Fits (decide (request.method = ascii "HEAD")) := by
    rcases answered with completed | ⟨operation, outcome, pending, responds⟩
    · exact ⟨handle_framed completed, handle_legible completed, handle_fits noFile completed⟩
    · have notHead : request.method ≠ ascii "HEAD" := by
        intro head
        obtain ⟨other, completed, -⟩ := @handle_answers_head handler _ head
        rw [pending] at completed
        cases completed
      have answers := respond_answers responds
      rw [decide_eq_false notHead]
      exact ⟨answers.framed, answers.legible, .body answers.plain (respond_full responds)⟩
  obtain ⟨framed, legible, fits⟩ := both
  refine ⟨⟨_, finished_framed request framed⟩, ?_, ?_⟩
  · unfold finished
    split_ifs
    · exact legible.setConnection (by decide)
    · exact legible
  · unfold finished
    split_ifs
    · exact fits.setConnection _
    · exact fits

end HttpHandler

end Aorta.Http
