import Aorta.Http.PublicDirectory
import Aorta.Http.ResponseFraming

/-!
# Answers to `HEAD`

The fallback of the handler clears `send_body` of every answer. The static files
clear it for a file only and leave it set for their errors, and `serialize` skips
the body of a file whatever `send_body` says.
-/

namespace Aorta.Http

open Aorta.Library.Ascii Aorta.Library.Decimal Aorta.Tasks Aorta.Http.HttpParser

set_option autoImplicit false

/-- One status line, header lines and the blank line. -/
def IsHead (bytes : Bytes) : Prop :=
  ∃ (version reason : Bytes) (statusCode : Nat) (headers : List (Bytes × Bytes)),
    ((13 : Byte) ∉ version ∧ (13 : Byte) ∉ reason ∧
      ∀ header ∈ headers, (13 : Byte) ∉ header.1 ∧ (13 : Byte) ∉ header.2) ∧
    bytes =
      version ++ ascii " " ++ decimal statusCode ++ ascii " " ++ reason ++ crlf ++
        headers.flatMap (fun header => header.1 ++ ascii ": " ++ header.2 ++ crlf) ++ crlf

theorem IsHead.ends_with_line_feed {bytes : Bytes} (head : IsHead bytes) :
    bytes.getLast? = some 10 := by
  obtain ⟨version, reason, statusCode, headers, -, rfl⟩ := head
  rw [List.getLast?_append]
  rfl

namespace HttpResponse

/-- No line of the head is broken in two. -/
structure Clean (response : HttpResponse) : Prop where
  version : (13 : Byte) ∉ response.version
  reason : (13 : Byte) ∉ response.reason
  headers : ∀ header ∈ response.headers, (13 : Byte) ∉ header.1 ∧ (13 : Byte) ∉ header.2

theorem Sound.clean {response : HttpResponse} (sound : response.Sound) : response.Clean where
  version := fun member => (sound.version 13 member).1 rfl
  reason := fun member => (sound.reason 13 member).1 rfl
  headers := fun header member =>
    ⟨fun inName => ((sound.lines header member).1 13 inName).1 rfl,
      fun inValue => ((sound.lines header member).2 13 inValue).1 rfl⟩

theorem Clean.setConnection {response : HttpResponse} (clean : response.Clean) {value : Bytes}
    (cleanValue : (13 : Byte) ∉ value) : (response.setConnection value).Clean where
  version := clean.version
  reason := clean.reason
  headers := set_header_forall (13 ∉ ·) (13 ∉ ·) (by decide) cleanValue clean.headers

/-- Without a body a response is its head. -/
theorem Clean.serialize_head {response : HttpResponse} (clean : response.Clean)
    (bodyless : (response.sendBody && !response.sendFile) = false) :
    IsHead response.serialize := by
  refine ⟨response.version, response.reason, response.statusCode, response.headers,
    ⟨clean.version, clean.reason, clean.headers⟩, ?_⟩
  unfold serialize
  rw [bodyless, if_neg Bool.false_ne_true, List.append_nil]

/-- A body that does not end with a line feed is no part of a head. -/
theorem serialize_not_head {response : HttpResponse} {last : Byte}
    (sends : (response.sendBody && !response.sendFile) = true)
    (body : response.body.getLast? = some last) (differs : last ≠ 10) :
    ¬ IsHead response.serialize := by
  intro head
  have ends := head.ends_with_line_feed
  unfold serialize at ends
  rw [sends, if_pos rfl, List.getLast?_append, body] at ends
  exact differs (Option.some.inj ends)

end HttpResponse

theorem StaticFileHandler.file_path_some (handler : StaticFileHandler) {target : Bytes}
    (some : target ≠ []) : handler.getFilePath target ≠ [] := by
  unfold StaticFileHandler.getFilePath
  split_ifs
  · exact List.append_ne_nil_of_right_ne_nil _ (by decide)
  · exact List.append_ne_nil_of_right_ne_nil _ some

namespace HttpHandler

variable (handler : HttpHandler) (request : HttpRequest)

theorem handle_head_bodyless : (handler.handleHead request {}).sendBody = false := by
  unfold handleHead
  simp only
  split_ifs <;> rfl

/-- What the handler can answer to `HEAD`. -/
inductive AnswersHead : HttpResponse → Prop
  | fallback (response : HttpResponse) (noFile : wantsFile request.target = false)
      (clean : response.Clean) (bodyless : response.sendBody = false)
      (plain : response.sendFile = false) : AnswersHead response
  | refused (response : HttpResponse) (last : Byte) (file : wantsFile request.target = true)
      (missing : handler.staticFileHandler.servedFile request.target = none)
      (sends : (response.sendBody && !response.sendFile) = true)
      (body : response.body.getLast? = some last) (differs : last ≠ 10) : AnswersHead response
  | found (response : HttpResponse) (fileInfo : FileInfo)
      (file : wantsFile request.target = true)
      (served : handler.staticFileHandler.servedFile request.target = some fileInfo)
      (clean : response.Clean) (sends : response.sendFile = true)
      (path : response.filePath ≠ []) (size : response.fileSize = fileInfo.size) :
      AnswersHead response

variable {handler request}

theorem refused_text {status : Nat} {reason message : Bytes}
    (text : (status, reason, message) ∈
      [(403, ascii "Forbidden", ascii "Forbidden"), (404, ascii "Not Found", ascii "Not Found"),
        (413, ascii "Content Too Large", ascii "Content Too Large")]) :
    ∃ last, message.getLast? = some last ∧ last ≠ 10 := by
  simp only [List.mem_cons, List.not_mem_nil, or_false, Prod.mk.injEq] at text
  rcases text with ⟨-, -, rfl⟩ | ⟨-, -, rfl⟩ | ⟨-, -, rfl⟩
  · exact ⟨110, by decide, by decide⟩
  · exact ⟨100, by decide, by decide⟩
  · exact ⟨101, by decide, by decide⟩

theorem handle_answers_head (head : request.method = ascii "HEAD") :
    ∃ response, handler.handle request {} = .completed response ∧
      handler.AnswersHead request response := by
  have other : handler.handleOther request {} = .completed (handler.handleHead request {}) := by
    unfold handleOther
    rw [head]
    rfl
  unfold handle
  cases file : wantsFile request.target with
  | false =>
      rw [if_neg Bool.false_ne_true, other]
      exact ⟨_, rfl, .fallback _ file (handle_head_answers handler request).framed.sound.clean
        (handle_head_bodyless handler request) (handle_head_answers handler request).plain⟩
  | true =>
      rw [if_pos rfl]
      cases handled : handler.staticFileHandler.handle request {} with
      | none => exact absurd handled (StaticFileHandler.handle_head_some head {})
      | some answer =>
          refine ⟨answer, rfl, ?_⟩
          cases StaticFileHandler.handle_handles handled with
          | refused status reason message text missing =>
              obtain ⟨last, isLast, differs⟩ := refused_text text
              exact .refused _ last file missing rfl isLast differs
          | found fileInfo served =>
              apply AnswersHead.found _ fileInfo file served
              · exact (StaticFileHandler.send_file_framed request _ _).sound.clean
              · exact StaticFileHandler.send_file_sends request {} _ _
              · rw [StaticFileHandler.send_file_path]
                exact StaticFileHandler.file_path_some _
                  (StaticFileHandler.safe_path (StaticFileHandler.served_safe served)).1
              · exact StaticFileHandler.send_file_size request {} _ _

theorem AnswersHead.setConnection {response : HttpResponse}
    (answers : handler.AnswersHead request response) {value : Bytes}
    (cleanValue : (13 : Byte) ∉ value) :
    handler.AnswersHead request (response.setConnection value) := by
  cases answers with
  | fallback noFile clean bodyless plain =>
      exact .fallback _ noFile (clean.setConnection cleanValue) bodyless plain
  | refused last file missing sends body differs =>
      exact .refused _ last file missing sends body differs
  | found fileInfo file served clean sends path size =>
      exact .found _ fileInfo file served (clean.setConnection cleanValue) sends path size

end HttpHandler

end Aorta.Http
