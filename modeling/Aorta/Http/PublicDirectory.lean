import Aorta.Http.Answers

/-!
# The public directory

Only the static files are ever sent as files, and their path is the public
directory with the target appended. The check for two dots keeps a target from
leading up, but the target itself need not start with a slash: what is appended
then becomes part of the directory's name.
-/

namespace Aorta.Http

open Aorta.Library.Ascii Aorta.Library.Path Aorta.Tasks

set_option autoImplicit false

namespace HttpHandler

def create (stat : Bytes → Option FileInfo) (taskManager : Option (Operation → Bool))
    (metrics : Bytes) : HttpHandler where
  staticFileHandler := ⟨ascii "./public", stat⟩
  taskManager := taskManager
  metrics := metrics

def HandleResult.Plain (result : HandleResult) : Prop :=
  ∀ response, result = .completed response → response.sendFile = false

theorem Answers.plain {response : HttpResponse} (answers : Answers response) :
    response.sendFile = false := by
  induction answers with
  | headOnly _ ih => exact ih
  | error | content | notAllowed | notAllowedHead | options | removed => rfl

theorem handle_other_plain (handler : HttpHandler) (request : HttpRequest) :
    (handler.handleOther request {}).Plain := by
  intro response completed
  exact (handle_other_answered handler request response completed).plain

theorem handle_file {handler : HttpHandler} {request : HttpRequest} {response : HttpResponse}
    (completed : handler.handle request {} = .completed response)
    (file : response.hasFile = true) :
    ∃ fileInfo, handler.staticFileHandler.servedFile request.target = some fileInfo ∧
      response.filePath = handler.staticFileHandler.getFilePath request.target := by
  have sends : response.sendFile = true := (Bool.and_eq_true_iff.mp file).1
  have notPlain : ¬ (handler.handleOther request {} = .completed response) := by
    intro other
    rw [handle_other_plain handler request response other] at sends
    cases sends
  unfold handle at completed
  split_ifs at completed
  · cases handled : handler.staticFileHandler.handle request {} with
    | none =>
        rw [handled] at completed
        exact absurd completed notPlain
    | some answer =>
        rw [handled] at completed
        cases completed
        have handles := StaticFileHandler.handle_handles handled
        cases handles with
        | refused status reason message => cases sends
        | found fileInfo served =>
            exact ⟨fileInfo, served, StaticFileHandler.send_file_path _ _ _ _⟩
  · exact absurd completed notPlain

/-- A file that is answered lies below the public directory if and only if the target
starts with a slash and names something. -/
theorem sent_file_is_public_iff (stat : Bytes → Option FileInfo)
    (taskManager : Option (Operation → Bool)) (metrics : Bytes) (request : HttpRequest)
    (response : HttpResponse)
    (completed : (create stat taskManager metrics).handle request {} = .completed response)
    (file : response.statusCode = 200 ∧ response.hasFile = true) :
    StrictlyBelow StaticFileHandler.slash StaticFileHandler.dot (ascii "./public")
        response.filePath ↔
      StaticFileHandler.Rooted request.target := by
  obtain ⟨fileInfo, served, path⟩ := handle_file completed file.2
  rw [path]
  exact StaticFileHandler.file_path_below_iff (ascii ".") (ascii "public") (by decide) (by decide)
    stat (StaticFileHandler.served_safe served)

/-- A file system with one regular file of five bytes. -/
def oneFile (path : Bytes) (other : Bytes) : Option FileInfo :=
  if other = path then some ⟨true, 5⟩ else none

theorem script_is_public :
    StrictlyBelow StaticFileHandler.slash StaticFileHandler.dot (ascii "./public")
        (ascii "./public/js/app.js") ↔
      StaticFileHandler.Rooted (ascii "/js/app.js") :=
  sent_file_is_public_iff (oneFile (ascii "./public/js/app.js")) none []
    { method := ascii "GET", target := ascii "/js/app.js" }
    (StaticFileHandler.sendFile { method := ascii "GET" } {} (ascii "./public/js/app.js") 5)
    (by decide) (by decide)

/-- A request whose target does not start with a slash gets a file of a directory whose
name only starts with that of the public one. -/
theorem unrooted_target_leaves_public_directory :
    ∃ parser response,
      ({} : HttpParser).parse (ascii "GET -old/notes.txt HTTP/1.1\r\nHost: a\r\n\r\n") =
        (.complete, parser) ∧
      (create (oneFile (ascii "./public-old/notes.txt")) none []).handle parser.getRequest {} =
        .completed response ∧
      response.statusCode = 200 ∧ response.hasFile = true ∧
      ¬ StrictlyBelow StaticFileHandler.slash StaticFileHandler.dot (ascii "./public")
        response.filePath :=
  ⟨_, StaticFileHandler.sendFile { method := ascii "GET" } {}
    (ascii "./public-old/notes.txt") 5, rfl, by decide, by decide, by decide, by decide⟩

end HttpHandler

end Aorta.Http
