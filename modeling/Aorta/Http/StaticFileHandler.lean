import Aorta.Library.Path
import Aorta.Http.HttpRequest
import Aorta.Http.HttpResponse

/-!
# `StaticFileHandler`

The path of a file is the name of the public directory with the target appended.
What `stat` answers for a path is a field of the handler.
-/

namespace Aorta.Http

open Aorta.Library.Ascii Aorta.Library.Search Aorta.Library.Path

set_option autoImplicit false

/-- What the handler looks at in a `struct stat`. -/
structure FileInfo where
  regular : Bool
  size : Nat
deriving DecidableEq, Repr

structure StaticFileHandler where
  publicDirectory : Bytes
  stat : Bytes → Option FileInfo

namespace StaticFileHandler

def maxFileSize : Nat := 16 * 1024 * 1024

def slash : Byte := 47
def dot : Byte := 46
def backslash : Byte := 92

def isSafePath (target : Bytes) : Bool :=
  if target.isEmpty then false
  else if (find target (ascii "..") 0).isSome then false
  else if (find target [backslash] 0).isSome then false
  else true

def getContentType (path : Bytes) : Bytes :=
  if (ascii ".html").isSuffixOf path then ascii "text/html"
  else if (ascii ".css").isSuffixOf path then ascii "text/css"
  else if (ascii ".js").isSuffixOf path then ascii "application/javascript"
  else if (ascii ".json").isSuffixOf path then ascii "application/json"
  else if (ascii ".png").isSuffixOf path then ascii "image/png"
  else if (ascii ".jpg").isSuffixOf path || (ascii ".jpeg").isSuffixOf path then
    ascii "image/jpeg"
  else if (ascii ".svg").isSuffixOf path then ascii "image/svg+xml"
  else if (ascii ".txt").isSuffixOf path then ascii "text/plain"
  else ascii "application/octet-stream"

variable (handler : StaticFileHandler)

def getFilePath (target : Bytes) : Bytes :=
  if target = ascii "/" then handler.publicDirectory ++ ascii "/index.html"
  else handler.publicDirectory ++ target

def sendFile (request : HttpRequest) (response : HttpResponse) (filePath : Bytes)
    (fileSize : Nat) : HttpResponse :=
  let response :=
    (((((response.setStatus 200 (ascii "OK")).setFile filePath fileSize).setContentType
      (getContentType filePath)).setConnection (ascii "keep-alive")).setContentLength)
  if request.method = ascii "HEAD" then response.setSendBody false else response

/-- `none` when the request is left to others. -/
def handle (request : HttpRequest) (response : HttpResponse) : Option HttpResponse :=
  if request.method ≠ ascii "GET" ∧ request.method ≠ ascii "HEAD" then none
  else if !isSafePath request.target then
    some (response.setErrorResponse 403 (ascii "Forbidden") (ascii "Forbidden"))
  else
    let filePath := handler.getFilePath request.target
    match handler.stat filePath with
    | none => some (response.setErrorResponse 404 (ascii "Not Found") (ascii "Not Found"))
    | some fileInfo =>
        if !fileInfo.regular then
          some (response.setErrorResponse 404 (ascii "Not Found") (ascii "Not Found"))
        else if fileInfo.size > maxFileSize then
          some (response.setErrorResponse 413 (ascii "Content Too Large")
            (ascii "Content Too Large"))
        else some (sendFile request response filePath fileInfo.size)

/-- The file that is served for a target, if there is one. -/
def servedFile (target : Bytes) : Option FileInfo :=
  if isSafePath target then
    (handler.stat (handler.getFilePath target)).filter fun fileInfo =>
      fileInfo.regular && fileInfo.size ≤ maxFileSize
  else none

/-- What the handler can answer: an error, or the file that is served. -/
inductive Handles (request : HttpRequest) (response : HttpResponse) : HttpResponse → Prop
  | refused (status : Nat) (reason message : Bytes)
      (text : (status, reason, message) ∈
        [(403, ascii "Forbidden", ascii "Forbidden"), (404, ascii "Not Found", ascii "Not Found"),
          (413, ascii "Content Too Large", ascii "Content Too Large")])
      (missing : handler.servedFile request.target = none) :
      Handles request response (response.setErrorResponse status reason message)
  | found (fileInfo : FileInfo) (served : handler.servedFile request.target = some fileInfo) :
      Handles request response
        (sendFile request response (handler.getFilePath request.target) fileInfo.size)

variable {handler}

theorem handle_handles {request : HttpRequest} {response answer : HttpResponse}
    (handled : handler.handle request response = some answer) :
    handler.Handles request response answer := by
  unfold handle at handled
  by_cases other : request.method ≠ ascii "GET" ∧ request.method ≠ ascii "HEAD"
  · rw [if_pos other] at handled
    cases handled
  · rw [if_neg other] at handled
    cases safe : isSafePath request.target with
    | false =>
        simp only [safe, Bool.not_false, if_true] at handled
        cases handled
        apply Handles.refused _ _ _ (by simp)
        simp [servedFile, safe]
    | true =>
        simp only [safe, Bool.not_true, Bool.false_eq_true, if_false] at handled
        cases isFound : handler.stat (handler.getFilePath request.target) with
        | none =>
            rw [isFound] at handled
            cases handled
            apply Handles.refused _ _ _ (by simp)
            simp [servedFile, safe, isFound]
        | some fileInfo =>
            simp only [isFound] at handled
            split_ifs at handled with irregular large
            · cases handled
              apply Handles.refused _ _ _ (by simp)
              rw [Bool.not_eq_true'] at irregular
              simp [servedFile, safe, isFound, Option.filter, irregular]
            · cases handled
              apply Handles.refused _ _ _ (by simp)
              simp [servedFile, safe, isFound, Option.filter, large]
            · cases handled
              apply Handles.found
              simp only [Bool.not_eq_true', Bool.not_eq_false] at irregular
              simp [servedFile, safe, isFound, Option.filter, irregular, Nat.not_lt.mp large]

theorem handle_head_some {request : HttpRequest} (head : request.method = ascii "HEAD")
    (response : HttpResponse) : handler.handle request response ≠ none := by
  unfold handle
  rw [if_neg fun other => other.2 head]
  cases isSafePath request.target with
  | false => exact Option.some_ne_none _
  | true =>
      simp only [Bool.not_true, Bool.false_eq_true, if_false]
      cases handler.stat (handler.getFilePath request.target) with
      | none => exact Option.some_ne_none _
      | some fileInfo =>
          simp only
          split_ifs <;> exact Option.some_ne_none _

theorem served_safe {target : Bytes} {fileInfo : FileInfo}
    (served : handler.servedFile target = some fileInfo) : isSafePath target = true := by
  unfold servedFile at served
  split_ifs at served with safe
  exact safe

theorem served_small {target : Bytes} {fileInfo : FileInfo}
    (served : handler.servedFile target = some fileInfo) : fileInfo.size ≤ maxFileSize := by
  unfold servedFile at served
  split_ifs at served
  have kept := (Option.filter_eq_some_iff.mp served).2
  exact of_decide_eq_true (Bool.and_eq_true_iff.mp kept).2

@[simp] theorem send_file_path (request : HttpRequest) (response : HttpResponse)
    (filePath : Bytes) (fileSize : Nat) :
    (sendFile request response filePath fileSize).filePath = filePath := by
  unfold sendFile
  simp only
  split_ifs <;> rfl

@[simp] theorem send_file_size (request : HttpRequest) (response : HttpResponse)
    (filePath : Bytes) (fileSize : Nat) :
    (sendFile request response filePath fileSize).fileSize = fileSize := by
  unfold sendFile
  simp only
  split_ifs <;> rfl

@[simp] theorem send_file_sends (request : HttpRequest) (response : HttpResponse)
    (filePath : Bytes) (fileSize : Nat) :
    (sendFile request response filePath fileSize).sendFile = true := by
  unfold sendFile
  simp only
  split_ifs <;> rfl

/-- A safe target has a first byte and no component that leads up. -/
theorem safe_path {target : Bytes} (safe : isSafePath target = true) :
    target ≠ [] ∧ [dot, dot] ∉ components slash target := by
  unfold isSafePath at safe
  split_ifs at safe with empty up
  constructor
  · rintro rfl
    exact empty rfl
  · intro member
    rw [find_zero, Option.not_isSome_iff_eq_none] at up
    exact first_occurrence_none_not_infix up (component_contained member)

/-- The target starts at the public directory and names something in it. -/
def Rooted (target : Bytes) : Prop :=
  target = ascii "/" ∨
    target.head? = some slash ∧ ∃ component ∈ components slash target, isName dot component = true

/-- The path of a safe target lies below the public directory if and only if the
target starts with a slash and names something. -/
theorem file_path_below_iff (parent name : Bytes) (whole : slash ∉ name) (long : 2 < name.length)
    (stat : Bytes → Option FileInfo) {target : Bytes} (safe : isSafePath target = true) :
    StrictlyBelow slash dot (parent ++ slash :: name)
      (getFilePath ⟨parent ++ slash :: name, stat⟩ target) ↔ Rooted target := by
  obtain ⟨some, noUp⟩ := safe_path safe
  unfold getFilePath Rooted
  by_cases root : target = ascii "/"
  · simp only [root, if_true, true_or, iff_true]
    change StrictlyBelow slash dot _ (_ ++ slash :: ascii "index.html")
    rw [joined_below_iff (by decide)]
    exact ⟨ascii "index.html", by decide, by decide⟩
  · simp only [root, if_false, false_or]
    cases target with
    | nil => exact absurd rfl some
    | cons item rest =>
        by_cases rooted : item = slash
        · subst rooted
          have split : components slash (slash :: rest) = [] :: components slash rest :=
            components_join [] rest
          rw [split, List.mem_cons, not_or] at noUp
          rw [joined_below_iff noUp.2, split]
          simp [isName]
        · constructor
          · intro below
            rw [List.append_assoc, List.cons_append] at below
            exact absurd below (appended_not_below whole long parent noUp rooted)
          · rintro ⟨starts, -⟩
            exact absurd (Option.some.inj starts) rooted

end StaticFileHandler

end Aorta.Http
