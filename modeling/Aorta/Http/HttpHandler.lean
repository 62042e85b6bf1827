import Aorta.Http.StaticFileHandler
import Aorta.Tasks.TaskManager

/-!
# `HttpRouter` and `HttpHandler`

What the server answers to a request. A request about tasks is not answered here
but submitted to the task manager; `respond` is what the callback of such a request
makes of the outcome. What `Metrics::serialize` prints and whether the task manager
takes an operation are fields of the handler.
-/

namespace Aorta.Http

open Aorta.Library.Ascii Aorta.Library.Decimal Aorta.Library.Search Aorta.Tasks

set_option autoImplicit false

namespace HttpRouter

structure Route where
  method : Bytes
  path : Bytes
  handler : HttpRequest → HttpResponse → HttpResponse

def methodMatches (routeMethod requestMethod : Bytes) : Bool := routeMethod == requestMethod

def pathMatches (routePath requestPath : Bytes) : Bool := routePath == requestPath

def get (path : Bytes) (handler : HttpRequest → HttpResponse → HttpResponse) : Route :=
  ⟨ascii "GET", path, handler⟩

/-- The loop over the routes; `pathFound` says whether one had the path. -/
def routeLoop (request : HttpRequest) (response : HttpResponse) :
    Bool → List Route → Bool × HttpResponse
  | pathFound, [] =>
      if pathFound then
        (false, ((((((response.setStatus 405 (ascii "Method Not Allowed")).setBody
          (ascii "Method Not Allowed")).setContentType (ascii "text/plain")).setHeader
          (ascii "Allow") (ascii "GET, HEAD, POST, PUT, DELETE, OPTIONS")).setConnection
          (ascii "keep-alive")).setContentLength))
      else (false, response.setErrorResponse 404 (ascii "Not Found") (ascii "Not Found"))
  | pathFound, route :: routes =>
      if !pathMatches route.path request.target then routeLoop request response pathFound routes
      else if !methodMatches route.method request.method then
        routeLoop request response true routes
      else (true, route.handler request response)

def route (routes : List Route) (request : HttpRequest) (response : HttpResponse) :
    Bool × HttpResponse :=
  routeLoop request response false routes

end HttpRouter

/-- `taskManager` is `none` for the null pointer, and else says which operations it
accepts. -/
structure HttpHandler where
  staticFileHandler : StaticFileHandler
  taskManager : Option (Operation → Bool)
  metrics : Bytes

namespace HttpHandler

/-- A response, or an operation whose callback will bring one. -/
inductive HandleResult where
  | completed (response : HttpResponse)
  | pending (operation : Operation)
deriving DecidableEq, Repr

def maxSize : Nat := 2 ^ 64 - 1

/-- The digit loop of `parseTaskId`. -/
def taskIdDigits : Nat → Bytes → Option Nat
  | id, [] => some id
  | id, character :: rest =>
      if !isDigit character then none
      else if id > (maxSize - digitValue character) / 10 then none
      else taskIdDigits (id * 10 + digitValue character) rest

def parseTaskId (target : Bytes) : Option Nat :=
  if !(ascii "/tasks/").isPrefixOf target then none
  else
    let idString := target.drop 7
    if idString.isEmpty then none else taskIdDigits 0 idString

def escapeJson (value : Bytes) : Bytes :=
  value.flatMap fun character =>
    if character = 92 then ascii "\\\\"
    else if character = 34 then ascii "\\\""
    else if character = 10 then ascii "\\n"
    else if character = 13 then ascii "\\r"
    else if character = 9 then ascii "\\t"
    else [character]

def urlDecode : Bytes → Bytes
  | [] => []
  | character :: first :: second :: rest =>
      if character = 43 then 32 :: urlDecode (first :: second :: rest)
      else if character = 37 && isXDigit first && isXDigit second then
        (hexValue first * 16 + hexValue second).toUInt8 :: urlDecode rest
      else character :: urlDecode (first :: second :: rest)
  -- fewer than two characters behind a percent sign are no code
  | character :: rest => (if character = 43 then 32 else character) :: urlDecode rest

def formValue (key : Bytes) : Nat → Bytes → Bytes
  | 0, _ => []
  | fuel + 1, body =>
      if body.isEmpty then []
      else
        let pair := body.takeWhile (· ≠ 38)
        let rest := body.drop (pair.length + 1)
        match find pair [61] 0 with
        | some separator =>
            if substr pair 0 separator = key then urlDecode (pair.drop (separator + 1))
            else formValue key fuel rest
        | none => formValue key fuel rest

def getFormValue (body key : Bytes) : Bytes := formValue key body.length body

def isJson (request : HttpRequest) : Bool :=
  (find (request.getHeader (ascii "Content-Type")) (ascii "application/json") 0).isSome

/-- The string behind the first `"title"`, the first colon and two quotation marks. -/
def jsonTitle (body : Bytes) : Bytes :=
  (do
    let keyPosition ← find body (ascii "\"title\"") 0
    let colonPosition ← find body [58] keyPosition
    let quoteStart ← find body [34] (colonPosition + 1)
    let quoteEnd ← find body [34] (quoteStart + 1)
    some (substr body (quoteStart + 1) (quoteEnd - quoteStart - 1))).getD []

/-- The word behind the first `"completed"`, the first colon and white space. -/
def jsonCompleted (body : Bytes) : Bytes :=
  (do
    let keyPosition ← find body (ascii "\"completed\"") 0
    let colonPosition ← find body [58] keyPosition
    let value := (body.drop (colonPosition + 1)).dropWhile isSpace
    if value.take 4 = ascii "true" then some (ascii "true")
    else if value.take 5 = ascii "false" then some (ascii "false")
    else none).getD []

variable (handler : HttpHandler)

def unavailable (response : HttpResponse) (message : Bytes) : HandleResult :=
  .completed (response.setErrorResponse 503 (ascii "Service Unavailable") message)

def badRequest (response : HttpResponse) (message : Bytes) : HandleResult :=
  .completed (response.setErrorResponse 400 (ascii "Bad Request") message)

/-- The operation is submitted, unless its job is not accepted. -/
def submit (accepts : Operation → Bool) (operation : Operation) (response : HttpResponse) :
    HandleResult :=
  if !accepts operation then unavailable response (ascii "Task queue unavailable")
  else .pending operation

/-- All task requests need a task manager. -/
def withTaskManager (response : HttpResponse)
    (handle : (Operation → Bool) → HandleResult) : HandleResult :=
  match handler.taskManager with
  | none => unavailable response (ascii "Task storage unavailable")
  | some accepts => handle accepts

def handleGetTasks (response : HttpResponse) : HandleResult :=
  handler.withTaskManager response fun accepts => submit accepts .getAll response

def handlePostTask (request : HttpRequest) (response : HttpResponse) : HandleResult :=
  handler.withTaskManager response fun accepts =>
    let title :=
      if isJson request then jsonTitle request.body
      else getFormValue request.body (ascii "title")
    if title.isEmpty then badRequest response (ascii "Task title is required")
    else submit accepts (.create title) response

def handlePutTask (request : HttpRequest) (response : HttpResponse) : HandleResult :=
  handler.withTaskManager response fun accepts =>
    match parseTaskId request.target with
    | none => badRequest response (ascii "Invalid task ID")
    | some id =>
        let title :=
          if isJson request then jsonTitle request.body
          else getFormValue request.body (ascii "title")
        let completedValue :=
          if isJson request then jsonCompleted request.body
          else getFormValue request.body (ascii "completed")
        if completedValue ≠ ascii "true" ∧ completedValue ≠ ascii "false" then
          badRequest response (ascii "completed must be true or false")
        else submit accepts (.update id title (completedValue = ascii "true")) response

def handleDeleteTask (request : HttpRequest) (response : HttpResponse) : HandleResult :=
  handler.withTaskManager response fun accepts =>
    match parseTaskId request.target with
    | none => badRequest response (ascii "Invalid task ID")
    | some id => submit accepts (.remove id) response

/-- A response with a body of a given type. -/
def setContent (response : HttpResponse) (status : Nat) (reason body contentType : Bytes) :
    HttpResponse :=
  ((((response.setStatus status reason).setBody body).setContentType contentType).setConnection
    (ascii "keep-alive")).setContentLength

def handleGetHello (response : HttpResponse) : HttpResponse :=
  setContent response 200 (ascii "OK") (ascii "Hello from AORTA") (ascii "text/plain")

def handleGetHealth (response : HttpResponse) : HttpResponse :=
  setContent response 200 (ascii "OK") (ascii "OK") (ascii "text/plain")

def handleGetMetrics (response : HttpResponse) : HttpResponse :=
  setContent response 200 (ascii "OK") handler.metrics (ascii "text/plain; version=0.0.4")

def handleOptions (response : HttpResponse) : HttpResponse :=
  (((((response.setStatus 204 (ascii "No Content")).setBody []).setContentType
    (ascii "text/plain")).setConnection (ascii "keep-alive")).setHeader (ascii "Allow")
    (ascii "GET, HEAD, POST, PUT, DELETE, OPTIONS")).setContentLength

def registerRoutes : List HttpRouter.Route :=
  [HttpRouter.get (ascii "/hello") fun _ response => handleGetHello response,
    HttpRouter.get (ascii "/health") fun _ response => handleGetHealth response,
    HttpRouter.get (ascii "/metrics") fun _ response => handler.handleGetMetrics response,
    HttpRouter.get (ascii "/tasks") fun _ response => response]

/-- The answer to `HEAD` is that to `GET` without its body. -/
def handleHead (request : HttpRequest) (response : HttpResponse) : HttpResponse :=
  let getRequest := { request with method := ascii "GET" }
  if getRequest.target = ascii "/tasks" ∨ (ascii "/tasks/").isPrefixOf getRequest.target then
    ((response.setErrorResponse 405 (ascii "Method Not Allowed")
      (ascii "Method Not Allowed")).setHeader (ascii "Allow")
      (ascii "GET, HEAD, POST, PUT, DELETE, OPTIONS")).setSendBody false
  else (HttpRouter.route handler.registerRoutes getRequest response).2.setSendBody false

/-- A file is asked for. -/
def wantsFile (target : Bytes) : Bool :=
  target = ascii "/" || (find target [StaticFileHandler.dot] 0).isSome

/-- Everything the static files have not answered. -/
def handleOther (request : HttpRequest) (response : HttpResponse) : HandleResult :=
  if request.method = ascii "GET" ∧ request.target = ascii "/tasks" then
    handler.handleGetTasks response
  else if request.method = ascii "POST" ∧ request.target = ascii "/tasks" then
    handler.handlePostTask request response
  else if request.method = ascii "PUT" ∧ (ascii "/tasks/").isPrefixOf request.target then
    handler.handlePutTask request response
  else if request.method = ascii "DELETE" ∧ (ascii "/tasks/").isPrefixOf request.target then
    handler.handleDeleteTask request response
  else if request.method = ascii "OPTIONS" then .completed (handleOptions response)
  else if request.method = ascii "HEAD" then .completed (handler.handleHead request response)
  else .completed (HttpRouter.route handler.registerRoutes request response).2

def handle (request : HttpRequest) (response : HttpResponse) : HandleResult :=
  if wantsFile request.target then
    match handler.staticFileHandler.handle request response with
    | some response => .completed response
    | none => handler.handleOther request response
  else handler.handleOther request response

/-- The object of one task. -/
def taskJson (id : Nat) (title : Bytes) (completed : Bool) : Bytes :=
  ascii "\x7b\"id\":" ++ decimal id ++ ascii ",\"title\":\"" ++ escapeJson title ++
    ascii "\",\"completed\":" ++ (if completed then ascii "true" else ascii "false") ++
    ascii "\x7d"

/-- The objects of all tasks, separated by commas. -/
def tasksJson : List Task → Bytes
  | [] => []
  | [task] => taskJson task.id task.title task.completed
  | task :: tasks =>
      taskJson task.id task.title task.completed ++ ascii "," ++ tasksJson tasks

/-- What the callback answers to the outcome of its operation. No callback is given a
rejection, which is answered at once. -/
def respond : Outcome → Option HttpResponse
  | .rejected => none
  | .listed success tasks => some <|
      if !success then
        ({} : HttpResponse).setErrorResponse 503 (ascii "Service Unavailable")
          (ascii "Task storage unavailable")
      else
        setContent {} 200 (ascii "OK") (ascii "[" ++ tasksJson tasks ++ ascii "]")
          (ascii "application/json")
  | .created success task => some <|
      if !success then
        ({} : HttpResponse).setErrorResponse 503 (ascii "Service Unavailable")
          (ascii "Task storage unavailable")
      else
        setContent {} 201 (ascii "Created") (taskJson task.id task.title false)
          (ascii "application/json")
  | .updated success task => some <|
      if !success then
        ({} : HttpResponse).setErrorResponse 404 (ascii "Not Found") (ascii "Task Not Found")
      else
        setContent {} 200 (ascii "OK") (taskJson task.id task.title task.completed)
          (ascii "application/json")
  | .removed success removed => some <|
      if !success || !removed then
        ({} : HttpResponse).setErrorResponse 404 (ascii "Not Found") (ascii "Task Not Found")
      else
        (((({} : HttpResponse).setStatus 204 (ascii "No Content")).setBody []).setConnection
          (ascii "keep-alive")).setContentLength

end HttpHandler

end Aorta.Http
