import Aorta.Http.Answers

/-!
# Where a response ends

Every answer says once how long it is and once whether the connection stays open, and no
line of its head is broken: whatever it is, it is described by the same calls, the length
last.
-/

namespace Aorta.Http

open Aorta.Library.Ascii Aorta.Library.Decimal Aorta.Http.HttpParser Aorta.Tasks

set_option autoImplicit false

namespace HttpResponse

section Headers

/-- Text without a line break. -/
def IsLine (text : Bytes) : Prop := ∀ byte ∈ text, byte ≠ 13 ∧ byte ≠ 10

instance (text : Bytes) : Decidable (IsLine text) :=
  inferInstanceAs (Decidable (∀ byte ∈ text, byte ≠ 13 ∧ byte ≠ 10))

def names (headers : List (Bytes × Bytes)) : List Bytes :=
  headers.map fun header => header.1.map toLower

/-- The values of all headers of a name. -/
def values (name : Bytes) (headers : List (Bytes × Bytes)) : List Bytes :=
  (headers.filter fun header => equalsIgnoreCase header.1 name).map Prod.snd

theorem equals_ignore_case_iff {left right : Bytes} :
    equalsIgnoreCase left right = true ↔ left.map toLower = right.map toLower := beq_iff_eq

theorem values_absent {name : Bytes} {headers : List (Bytes × Bytes)}
    (absent : name.map toLower ∉ names headers) : values name headers = [] := by
  rw [values, List.map_eq_nil_iff, List.filter_eq_nil_iff]
  intro header member same
  apply absent
  rw [← equals_ignore_case_iff.mp same]
  exact List.mem_map_of_mem member

theorem names_cons (header : Bytes × Bytes) (headers : List (Bytes × Bytes)) :
    names (header :: headers) = header.1.map toLower :: names headers := rfl

theorem set_header_names (name value : Bytes) (headers : List (Bytes × Bytes)) :
    names (setHeaderIn name value headers) =
      if name.map toLower ∈ names headers then names headers
      else names headers ++ [name.map toLower] := by
  induction headers with
  | nil => rfl
  | cons header headers ih =>
      unfold setHeaderIn
      by_cases same : equalsIgnoreCase header.1 name = true
      · have present : name.map toLower ∈ names (header :: headers) := by
          rw [names_cons, ← equals_ignore_case_iff.mp same]
          exact List.mem_cons_self
        rw [if_pos same, if_pos present]
        rfl
      · have different : name.map toLower ≠ header.1.map toLower := fun equal =>
          same (equals_ignore_case_iff.mpr equal.symm)
        rw [if_neg same, names_cons, names_cons, ih]
        by_cases present : name.map toLower ∈ names headers
        · rw [if_pos present, if_pos (List.mem_cons_of_mem _ present)]
        · rw [if_neg present, if_neg (List.not_mem_cons_of_ne_of_not_mem different present)]
          rfl

theorem set_header_distinct {name value : Bytes} {headers : List (Bytes × Bytes)}
    (distinct : (names headers).Nodup) : (names (setHeaderIn name value headers)).Nodup := by
  rw [set_header_names]
  split_ifs with present
  · exact distinct
  · exact distinct.append (List.nodup_singleton _) (by simpa using present)

theorem set_header_values {name value : Bytes} {headers : List (Bytes × Bytes)}
    (distinct : (names headers).Nodup) :
    values name (setHeaderIn name value headers) = [value] := by
  induction headers with
  | nil => simp [setHeaderIn, values, equals_ignore_case_iff]
  | cons header headers ih =>
      obtain ⟨alone, others⟩ := List.nodup_cons.mp distinct
      unfold setHeaderIn
      by_cases same : equalsIgnoreCase header.1 name = true
      · have absent : name.map toLower ∉ names headers := by
          rw [← equals_ignore_case_iff.mp same]
          exact alone
        have alsoSame : equalsIgnoreCase (header.1, value).1 name = true := same
        rw [if_pos same, values, List.filter_cons, if_pos alsoSame, List.map_cons]
        exact congrArg (value :: ·) (values_absent absent)
      · rw [if_neg same, values, List.filter_cons, if_neg same]
        exact ih others

theorem set_header_other {name other : Bytes} (different : name.map toLower ≠ other.map toLower)
    (value : Bytes) (headers : List (Bytes × Bytes)) :
    values other (setHeaderIn name value headers) = values other headers := by
  have notOther : ∀ header : Bytes × Bytes, equalsIgnoreCase header.1 name = true →
      ¬ equalsIgnoreCase header.1 other = true := by
    intro header same isOther
    apply different
    rw [← equals_ignore_case_iff.mp same, equals_ignore_case_iff.mp isOther]
  induction headers with
  | nil =>
      have unequal : ¬ equalsIgnoreCase name other = true := notOther (name, value)
        (equals_ignore_case_iff.mpr rfl)
      rw [setHeaderIn, values, List.filter_cons, if_neg unequal]
      rfl
  | cons header headers ih =>
      unfold setHeaderIn
      unfold values at ih ⊢
      by_cases same : equalsIgnoreCase header.1 name = true
      · have unequal : ¬ equalsIgnoreCase (header.1, value).1 other = true := notOther header same
        rw [if_pos same, List.filter_cons, if_neg unequal, List.filter_cons, if_neg unequal]
      · rw [if_neg same, List.filter_cons, List.filter_cons]
        split_ifs
        · rw [List.map_cons, List.map_cons, ih]
        · exact ih

theorem set_header_forall (IsName IsValue : Bytes → Prop) {name value : Bytes}
    {headers : List (Bytes × Bytes)} (isName : IsName name) (isValue : IsValue value)
    (all : ∀ header ∈ headers, IsName header.1 ∧ IsValue header.2) :
    ∀ header ∈ setHeaderIn name value headers, IsName header.1 ∧ IsValue header.2 := by
  induction headers with
  | nil => simpa [setHeaderIn] using ⟨isName, isValue⟩
  | cons header headers ih =>
      obtain ⟨first, others⟩ := List.forall_mem_cons.mp all
      unfold setHeaderIn
      split_ifs
      · exact List.forall_mem_cons.mpr ⟨⟨first.1, isValue⟩, others⟩
      · exact List.forall_mem_cons.mpr ⟨first, ih others⟩

theorem decimal_line (number : Nat) : IsLine (decimal number) := by
  intro byte member
  have digit := decimal_digits number byte member
  constructor
  all_goals
    rintro rfl
    cases digit

end Headers

section Framing

variable {response : HttpResponse}

/-- No line of the head is broken in two, and no header is there twice. -/
structure Sound (response : HttpResponse) : Prop where
  version : IsLine response.version
  reason : IsLine response.reason
  lines : ∀ header ∈ response.headers, IsLine header.1 ∧ IsLine header.2
  distinct : (names response.headers).Nodup

/-- The length of the file or of the body. -/
def contentLength (response : HttpResponse) : Nat :=
  if response.sendFile then response.fileSize else response.body.length

/-- The head says once how long the content is, and once what becomes of the connection. -/
structure Framed (connection : Bytes) (response : HttpResponse) : Prop where
  sound : response.Sound
  length : values (ascii "Content-Length") response.headers = [decimal response.contentLength]
  connection : values (ascii "Connection") response.headers = [connection]

theorem sound_start : Sound {} := ⟨by decide, by decide, nofun, List.nodup_nil⟩

theorem Sound.setStatus (sound : response.Sound) (status : Nat) {reason : Bytes}
    (isReason : IsLine reason) : (response.setStatus status reason).Sound :=
  ⟨sound.version, isReason, sound.lines, sound.distinct⟩

theorem Sound.setBody (sound : response.Sound) (body : Bytes) : (response.setBody body).Sound :=
  ⟨sound.version, sound.reason, sound.lines, sound.distinct⟩

theorem Sound.setFile (sound : response.Sound) (path : Bytes) (size : Nat) :
    (response.setFile path size).Sound :=
  ⟨sound.version, sound.reason, sound.lines, sound.distinct⟩

theorem Sound.setHeader (sound : response.Sound) {name value : Bytes} (isName : IsLine name)
    (isValue : IsLine value) : (response.setHeader name value).Sound :=
  ⟨sound.version, sound.reason, set_header_forall IsLine IsLine isName isValue sound.lines,
    set_header_distinct sound.distinct⟩

theorem Sound.setContentType (sound : response.Sound) {contentType : Bytes}
    (isType : IsLine contentType) : (response.setContentType contentType).Sound :=
  sound.setHeader (by decide) isType

theorem Sound.setAllow (sound : response.Sound) :
    (response.setHeader (ascii "Allow")
      (ascii "GET, HEAD, POST, PUT, DELETE, OPTIONS")).Sound :=
  sound.setHeader (by decide) (by decide)

theorem keep_alive_line : IsLine (ascii "keep-alive") := by decide

theorem text_plain_line : IsLine (ascii "text/plain") := by decide

theorem set_connection_values (sound : response.Sound) (connection : Bytes) :
    values (ascii "Connection") (response.setConnection connection).headers = [connection] :=
  set_header_values sound.distinct

theorem Sound.measured (sound : response.Sound) {connection : Bytes}
    (connected : values (ascii "Connection") response.headers = [connection]) :
    response.setContentLength.Framed connection where
  sound := sound.setHeader (by decide) (decimal_line _)
  length := set_header_values sound.distinct
  connection := (set_header_other (by decide) _ response.headers).trans connected

theorem Sound.framed (sound : response.Sound) {connection : Bytes} (isLine : IsLine connection) :
    (response.setConnection connection).setContentLength.Framed connection := by
  apply Sound.measured
  · exact sound.setHeader (by decide) isLine
  · exact set_connection_values sound connection

theorem Framed.setHeader {connection : Bytes} (framed : response.Framed connection)
    {name value : Bytes} (isName : IsLine name) (isValue : IsLine value)
    (notLength : name.map toLower ≠ (ascii "Content-Length").map toLower)
    (notConnection : name.map toLower ≠ (ascii "Connection").map toLower) :
    (response.setHeader name value).Framed connection where
  sound := framed.sound.setHeader isName isValue
  length := (set_header_other notLength value response.headers).trans framed.length
  connection := (set_header_other notConnection value response.headers).trans framed.connection

theorem Framed.setConnection {old connection : Bytes} (framed : response.Framed old)
    (isLine : IsLine connection) : (response.setConnection connection).Framed connection where
  sound := framed.sound.setHeader (by decide) isLine
  length := (set_header_other (by decide) connection response.headers).trans framed.length
  connection := set_connection_values framed.sound connection

theorem Framed.setSendBody {connection : Bytes} (framed : response.Framed connection)
    (value : Bool) : (response.setSendBody value).Framed connection :=
  ⟨⟨framed.sound.version, framed.sound.reason, framed.sound.lines, framed.sound.distinct⟩,
    framed.length, framed.connection⟩

theorem Sound.setErrorResponse (sound : response.Sound) (status : Nat) {reason : Bytes}
    (isReason : IsLine reason) (message : Bytes) :
    (response.setErrorResponse status reason message).Framed (ascii "keep-alive") :=
  (((sound.setStatus status isReason).setBody message).setContentType text_plain_line).framed
    keep_alive_line

theorem Sound.setContent (sound : response.Sound) (status : Nat) {reason contentType : Bytes}
    (isReason : IsLine reason) (isType : IsLine contentType) (body : Bytes) :
    (HttpHandler.setContent response status reason body contentType).Framed
      (ascii "keep-alive") :=
  (((sound.setStatus status isReason).setBody body).setContentType isType).framed keep_alive_line

end Framing

end HttpResponse

section Answers

open HttpResponse

theorem StaticFileHandler.content_type_line (path : Bytes) :
    IsLine (StaticFileHandler.getContentType path) := by
  unfold StaticFileHandler.getContentType
  split_ifs
  all_goals decide

theorem StaticFileHandler.send_file_framed (request : HttpRequest) (filePath : Bytes)
    (fileSize : Nat) :
    (StaticFileHandler.sendFile request {} filePath fileSize).Framed (ascii "keep-alive") := by
  have start := (sound_start.setStatus 200 (show IsLine (ascii "OK") by decide)).setFile filePath
    fileSize
  have described := (start.setContentType (content_type_line filePath)).framed keep_alive_line
  unfold StaticFileHandler.sendFile
  simp only
  split_ifs
  · exact described.setSendBody false
  · exact described

theorem StaticFileHandler.handles_framed {handler : StaticFileHandler} {request : HttpRequest}
    {answer : HttpResponse} (handles : handler.Handles request {} answer) :
    answer.Framed (ascii "keep-alive") := by
  cases handles with
  | refused status reason message text missing =>
      simp only [List.mem_cons, List.not_mem_nil, or_false, Prod.mk.injEq] at text
      rcases text with ⟨rfl, rfl, rfl⟩ | ⟨rfl, rfl, rfl⟩ | ⟨rfl, rfl, rfl⟩
      all_goals exact sound_start.setErrorResponse _ (by decide) _
  | found fileInfo served => exact send_file_framed request _ _

namespace HttpHandler

theorem handle_options_framed : (handleOptions {}).Framed (ascii "keep-alive") := by
  have status := (sound_start.setStatus 204 (show IsLine (ascii "No Content") by decide)).setBody []
  have typed := status.setContentType text_plain_line
  have connected := set_connection_values typed (ascii "keep-alive")
  apply Sound.measured
  · exact (typed.setHeader (by decide) keep_alive_line).setAllow
  · exact (set_header_other (by decide) _ _).trans connected

theorem Answers.framed {response : HttpResponse} (answers : Answers response) :
    response.Framed (ascii "keep-alive") := by
  induction answers with
  | @error status reason known message =>
      have isReason : ∀ error ∈ errors, IsLine error.2 := by decide
      exact sound_start.setErrorResponse status (isReason _ known) message
  | @content status reason contentType known typed body =>
      have isReason : ∀ content ∈ contents, IsLine content.2 := by decide
      have isType : ∀ contentType ∈ contentTypes, IsLine contentType := by decide
      exact sound_start.setContent status (isReason _ known) (isType _ typed) body
  | notAllowed =>
      have status := (sound_start.setStatus 405
        (show IsLine (ascii "Method Not Allowed") by decide)).setBody (ascii "Method Not Allowed")
      exact ((status.setContentType text_plain_line).setAllow).framed keep_alive_line
  | notAllowedHead =>
      exact (sound_start.setErrorResponse 405 (by decide) _).setHeader (by decide) (by decide)
        (by decide) (by decide)
  | options => exact handle_options_framed
  | removed =>
      exact ((sound_start.setStatus 204 (by decide)).setBody []).framed keep_alive_line
  | headOnly _ ih => exact ih.setSendBody false

theorem handle_framed {handler : HttpHandler} {request : HttpRequest} {response : HttpResponse}
    (completed : handler.handle request {} = .completed response) :
    response.Framed (ascii "keep-alive") := by
  rcases handle_answers completed with answers | handles
  · exact answers.framed
  · exact StaticFileHandler.handles_framed handles

/-- What the reactor serialises: it tells the client when it is going to close. -/
def finished (request : HttpRequest) (response : HttpResponse) : HttpResponse :=
  if request.hasHeaderToken (ascii "Connection") (ascii "close") then
    response.setConnection (ascii "close")
  else response

theorem finished_framed (request : HttpRequest) {response : HttpResponse}
    (framed : response.Framed (ascii "keep-alive")) :
    (finished request response).Framed
      (if request.hasHeaderToken (ascii "Connection") (ascii "close") then ascii "close"
      else ascii "keep-alive") := by
  unfold finished
  split_ifs
  · exact framed.setConnection (by decide)
  · exact framed

end HttpHandler

namespace HttpResponse

/-- The status line, the headers and the blank line. -/
def head (response : HttpResponse) : Bytes :=
  response.version ++ ascii " " ++ decimal response.statusCode ++ ascii " " ++
    response.reason ++ crlf ++
    response.headers.flatMap (fun header => header.1 ++ ascii ": " ++ header.2 ++ crlf) ++ crlf

theorem serialize_head_body (response : HttpResponse) :
    response.serialize =
      response.head ++ if response.sendBody && !response.sendFile then response.body else [] := rfl

theorem serialize_empty {response : HttpResponse} (empty : response.body = []) :
    response.serialize = response.head := by
  rw [serialize_head_body, empty]
  split_ifs
  · exact List.append_nil _
  · exact List.append_nil _

theorem serialize_length_iff {response : HttpResponse} (filled : response.body ≠ []) :
    response.serialize.length = response.head.length + response.body.length ↔
      response.sendBody = true ∧ response.sendFile = false := by
  have positive := List.length_pos_iff.mpr filled
  have sent : (response.sendBody && !response.sendFile) = true ↔
      response.sendBody = true ∧ response.sendFile = false := by simp
  rw [serialize_head_body, List.length_append, ← sent]
  by_cases sends : (response.sendBody && !response.sendFile) = true
  · simp [sends]
  · rw [if_neg sends, List.length_nil]
    constructor
    · intro same
      omega
    · intro other
      exact absurd other sends

end HttpResponse

namespace HttpHandler

/-- Whatever is asked and however the file system and the task manager answer, the
response that is serialised has each header once, says how long it is and whether the
connection is closed, and breaks no line. Its text is the head with the body behind it,
or the head alone. -/
theorem responses_delimit_themselves (handler : HttpHandler) (request : HttpRequest)
    (response : HttpResponse)
    (answered : handler.handle request {} = .completed response ∨
      ∃ operation outcome, handler.handle request {} = .pending operation ∧
        respond outcome = some response) :
    let final := finished request response
    (names final.headers).Nodup ∧
      values (ascii "Content-Length") final.headers =
        [decimal (if final.sendFile then final.fileSize else final.body.length)] ∧
      values (ascii "Connection") final.headers =
        [if request.hasHeaderToken (ascii "Connection") (ascii "close") then ascii "close"
          else ascii "keep-alive"] ∧
      IsLine final.reason ∧ (∀ header ∈ final.headers, IsLine header.1 ∧ IsLine header.2) ∧
      (final.body ≠ [] →
        (final.serialize.length = final.head.length + final.body.length ↔
          final.sendBody = true ∧ final.sendFile = false)) ∧
      (final.body = [] → final.serialize = final.head) := by
  have framed : response.Framed (ascii "keep-alive") := by
    rcases answered with completed | ⟨operation, outcome, pending, responds⟩
    · exact handle_framed completed
    · exact (respond_answers responds).framed
  obtain ⟨sound, length, connection⟩ := finished_framed request framed
  exact ⟨sound.distinct, length, connection, sound.reason, sound.lines, serialize_length_iff,
    serialize_empty⟩

def threeBytes : HttpHandler := ⟨⟨ascii "./public", fun _ => some ⟨true, 3⟩⟩, none, []⟩

def fileRequest : HttpRequest where
  method := ascii "GET"
  target := ascii "/a.txt"
  headers := [(ascii "connection", ascii "Close")]

theorem file_delimits_itself :
    ∃ response, threeBytes.handle fileRequest {} = .completed response ∧
      values (ascii "Content-Length") (finished fileRequest response).headers = [ascii "3"] ∧
      values (ascii "Connection") (finished fileRequest response).headers = [ascii "close"] := by
  obtain ⟨_, length, connection, _⟩ :=
    responses_delimit_themselves threeBytes fileRequest _ (.inl rfl)
  exact ⟨_, rfl, length, connection⟩

/-- A file takes the place of the body, and an empty body adds nothing to the head. -/
theorem file_text_is_head :
    ∃ response, threeBytes.handle fileRequest {} = .completed response ∧
      ¬ ((finished fileRequest response).serialize.length =
          (finished fileRequest response).head.length +
            (finished fileRequest response).body.length ↔
        (finished fileRequest response).sendBody = true ∧
          (finished fileRequest response).sendFile = false) :=
  ⟨_, rfl, by decide⟩

end HttpHandler

end Answers

end Aorta.Http
