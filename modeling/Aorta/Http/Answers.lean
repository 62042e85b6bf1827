import Aorta.Http.HttpHandler

/-!
# What is answered

Every response to a request is one of these, but for the files and errors of
`StaticFileHandler`. The handler that is registered for `GET /tasks` describes nothing
and is never reached.
-/

namespace Aorta.Http

open Aorta.Library.Ascii Aorta.Tasks

set_option autoImplicit false

namespace HttpHandler

def errors : List (Nat × Bytes) :=
  [(400, ascii "Bad Request"), (404, ascii "Not Found"), (405, ascii "Method Not Allowed"),
    (503, ascii "Service Unavailable")]

def contents : List (Nat × Bytes) := [(200, ascii "OK"), (201, ascii "Created")]

def contentTypes : List Bytes :=
  [ascii "text/plain", ascii "text/plain; version=0.0.4", ascii "application/json"]

/-- The responses to which no file is attached. -/
inductive Answers : HttpResponse → Prop
  | error {status : Nat} {reason : Bytes} (known : (status, reason) ∈ errors) (message : Bytes) :
      Answers (({} : HttpResponse).setErrorResponse status reason message)
  | content {status : Nat} {reason contentType : Bytes} (known : (status, reason) ∈ contents)
      (typed : contentType ∈ contentTypes) (body : Bytes) :
      Answers (setContent {} status reason body contentType)
  | notAllowed :
      Answers (((((({} : HttpResponse).setStatus 405 (ascii "Method Not Allowed")).setBody
        (ascii "Method Not Allowed")).setContentType (ascii "text/plain")).setHeader
        (ascii "Allow") (ascii "GET, HEAD, POST, PUT, DELETE, OPTIONS")).setConnection
        (ascii "keep-alive")).setContentLength
  | notAllowedHead :
      Answers ((({} : HttpResponse).setErrorResponse 405 (ascii "Method Not Allowed")
        (ascii "Method Not Allowed")).setHeader (ascii "Allow")
        (ascii "GET, HEAD, POST, PUT, DELETE, OPTIONS"))
  | options : Answers (handleOptions {})
  | removed :
      Answers (((({} : HttpResponse).setStatus 204 (ascii "No Content")).setBody []).setConnection
        (ascii "keep-alive")).setContentLength
  | headOnly {response : HttpResponse} (answers : Answers response) :
      Answers (response.setSendBody false)

/-- If there is a response, it is one of these. -/
def HandleResult.Answered (result : HandleResult) : Prop :=
  ∀ response, result = .completed response → Answers response

theorem completed_answered {response : HttpResponse} (answers : Answers response) :
    (HandleResult.completed response).Answered := by
  intro other same
  cases same
  exact answers

theorem unavailable_answered (message : Bytes) : (unavailable {} message).Answered :=
  completed_answered (.error (by simp [errors]) message)

theorem bad_request_answered (message : Bytes) : (badRequest {} message).Answered :=
  completed_answered (.error (by simp [errors]) message)

theorem submit_answered (accepts : Operation → Bool) (operation : Operation) :
    (submit accepts operation {}).Answered := by
  unfold submit
  split_ifs
  · exact unavailable_answered _
  · exact nofun

variable (handler : HttpHandler) (request : HttpRequest)

theorem with_task_manager_answered {handle : (Operation → Bool) → HandleResult}
    (answered : ∀ accepts, (handle accepts).Answered) :
    (handler.withTaskManager {} handle).Answered := by
  unfold withTaskManager
  cases handler.taskManager with
  | none => exact unavailable_answered _
  | some accepts => exact answered accepts

theorem handle_post_task_answered : (handler.handlePostTask request {}).Answered := by
  apply with_task_manager_answered
  intro accepts
  simp only
  generalize (if isJson request then jsonTitle request.body
    else getFormValue request.body (ascii "title")) = title
  split_ifs
  · exact bad_request_answered _
  · exact submit_answered accepts _

theorem handle_put_task_answered : (handler.handlePutTask request {}).Answered := by
  apply with_task_manager_answered
  intro accepts
  cases parseTaskId request.target with
  | none => exact bad_request_answered _
  | some id =>
      simp only
      generalize (if isJson request then jsonTitle request.body
        else getFormValue request.body (ascii "title")) = title
      generalize (if isJson request then jsonCompleted request.body
        else getFormValue request.body (ascii "completed")) = completedValue
      split_ifs
      · exact bad_request_answered _
      · exact submit_answered accepts _

theorem handle_delete_task_answered : (handler.handleDeleteTask request {}).Answered := by
  apply with_task_manager_answered
  intro accepts
  cases parseTaskId request.target with
  | none => exact bad_request_answered _
  | some id => exact submit_answered accepts _

theorem route_loop_answers {request : HttpRequest} {routes : List HttpRouter.Route}
    (answers : ∀ route ∈ routes, route.path = request.target → route.method = request.method →
      Answers (route.handler request {})) (pathFound : Bool) :
    Answers (HttpRouter.routeLoop request {} pathFound routes).2 := by
  induction routes generalizing pathFound with
  | nil =>
      unfold HttpRouter.routeLoop
      split_ifs
      · exact .notAllowed
      · exact .error (by simp [errors]) _
  | cons route routes ih =>
      have later := ih fun other member => answers other (List.mem_cons_of_mem route member)
      unfold HttpRouter.routeLoop
      split_ifs with path method
      · exact later pathFound
      · exact later true
      · simp only [Bool.not_eq_true', Bool.not_eq_false, HttpRouter.pathMatches,
          HttpRouter.methodMatches, beq_iff_eq] at path method
        exact answers route List.mem_cons_self path method

theorem route_answers
    (notTasks : ¬ (request.method = ascii "GET" ∧ request.target = ascii "/tasks")) :
    Answers (HttpRouter.route handler.registerRoutes request {}).2 := by
  apply route_loop_answers
  intro route member path method
  simp only [registerRoutes, List.mem_cons, List.not_mem_nil, or_false] at member
  rcases member with rfl | rfl | rfl | rfl
  · exact .content (by simp [contents]) (by simp [contentTypes]) _
  · exact .content (by simp [contents]) (by simp [contentTypes]) _
  · exact .content (by simp [contents]) (by simp [contentTypes]) _
  · exact absurd ⟨method.symm, path.symm⟩ notTasks

theorem handle_head_answers : Answers (handler.handleHead request {}) := by
  unfold handleHead
  simp only
  split_ifs with tasks
  · exact .headOnly .notAllowedHead
  · exact .headOnly (route_answers handler _ fun both => tasks (.inl both.2))

theorem handle_other_answered : (handler.handleOther request {}).Answered := by
  unfold handleOther
  split_ifs with getTasks
  · exact with_task_manager_answered handler fun accepts => submit_answered accepts _
  · exact handle_post_task_answered handler request
  · exact handle_put_task_answered handler request
  · exact handle_delete_task_answered handler request
  · exact completed_answered .options
  · exact completed_answered (handle_head_answers handler request)
  · exact completed_answered (route_answers handler request getTasks)

theorem handle_answers {handler : HttpHandler} {request : HttpRequest} {response : HttpResponse}
    (completed : handler.handle request {} = .completed response) :
    Answers response ∨ handler.staticFileHandler.Handles request {} response := by
  unfold handle at completed
  split_ifs at completed
  · cases handled : handler.staticFileHandler.handle request {} with
    | none =>
        rw [handled] at completed
        exact .inl (handle_other_answered handler request response completed)
    | some answer =>
        rw [handled] at completed
        cases completed
        exact .inr (StaticFileHandler.handle_handles handled)
  · exact .inl (handle_other_answered handler request response completed)

theorem respond_answers {outcome : Outcome} {response : HttpResponse}
    (responds : respond outcome = some response) : Answers response := by
  cases outcome with
  | rejected => cases responds
  | listed success tasks =>
      have same := Option.some.inj responds
      subst same
      split_ifs
      · exact .error (by simp [errors]) _
      · exact .content (by simp [contents]) (by simp [contentTypes]) _
  | created success task =>
      have same := Option.some.inj responds
      subst same
      split_ifs
      · exact .error (by simp [errors]) _
      · exact .content (by simp [contents]) (by simp [contentTypes]) _
  | updated success task =>
      have same := Option.some.inj responds
      subst same
      split_ifs
      · exact .error (by simp [errors]) _
      · exact .content (by simp [contents]) (by simp [contentTypes]) _
  | removed success removed =>
      have same := Option.some.inj responds
      subst same
      split_ifs
      · exact .error (by simp [errors]) _
      · exact .removed

end HttpHandler

end Aorta.Http
