import Aorta.Http.HttpHandler
import Aorta.Http.HttpMessage
import Aorta.Library.JsonReader

/-!
# The listing of the tasks

`escapeJson` escapes the two bytes that JSON strings cannot hold as they are, and three
control bytes. The others it copies, so a title with one of them spoils the listing.
-/

namespace Aorta.Http.HttpHandler

open Aorta.Library.Ascii Aorta.Library.Decimal Aorta.Library.Json Aorta.Tasks

set_option autoImplicit false

/-- What the object of a task denotes. -/
def taskValue (task : Task) : Value :=
  .object [(ascii "id", .number task.id), (ascii "title", .string task.title),
    (ascii "completed", .bool task.completed)]

section Escapes

theorem escape_json_cons (byte : Byte) (title : Bytes) :
    escapeJson (byte :: title) = escapeJson [byte] ++ escapeJson title := by
  simp [escapeJson]

theorem escape_json_piece {byte : Byte} (isText : isTextByte byte = true) :
    ∃ piece : Piece, piece.text = escapeJson [byte] ∧
      ∀ pieces, decoded (piece :: pieces) = byte :: decoded pieces := by
  by_cases backslash : byte = 92
  · subst backslash
    exact ⟨.short 92 92 rfl, rfl, fun _ => rfl⟩
  by_cases quotation : byte = 34
  · subst quotation
    exact ⟨.short 34 34 rfl, rfl, fun _ => rfl⟩
  by_cases newline : byte = 10
  · subst newline
    exact ⟨.short 110 10 rfl, rfl, fun _ => rfl⟩
  by_cases carriage : byte = 13
  · subst carriage
    exact ⟨.short 114 13 rfl, rfl, fun _ => rfl⟩
  by_cases tab : byte = 9
  · subst tab
    exact ⟨.short 116 9 rfl, rfl, fun _ => rfl⟩
  have large : 32 ≤ byte := by
    simp only [isTextByte, isInsignificant, Bool.or_eq_true, decide_eq_true_eq,
      beq_iff_eq] at isText
    rcases isText with large | ((rfl | same) | same) | same
    · exact large
    · exact UInt8.le_refl 32
    · exact absurd same tab
    · exact absurd same newline
    · exact absurd same carriage
  have plain : isPlain byte = true := by simp [isPlain, large, quotation, backslash]
  refine ⟨.plain byte plain, ?_, fun _ => rfl⟩
  simp [escapeJson, Piece.text, backslash, quotation, newline, carriage, tab]

theorem escape_json_pieces {title : Bytes} (isText : ∀ byte ∈ title, isTextByte byte = true) :
    ∃ pieces, raw pieces = escapeJson title ∧ decoded pieces = title := by
  induction title with
  | nil => exact ⟨[], rfl, rfl⟩
  | cons byte title ih =>
      obtain ⟨piece, first, adds⟩ := escape_json_piece (isText byte List.mem_cons_self)
      obtain ⟨pieces, rest, same⟩ := ih fun other member =>
        isText other (List.mem_cons_of_mem byte member)
      refine ⟨piece :: pieces, ?_, ?_⟩
      · rw [escape_json_cons, ← first, ← rest]
        rfl
      · rw [adds, same]

theorem escape_json_keeps {title : Bytes} {byte : Byte} (member : byte ∈ title)
    (control : isTextByte byte = false) : byte ∈ escapeJson title := by
  apply List.mem_flatMap.mpr
  refine ⟨byte, member, ?_⟩
  split_ifs with backslash quotation newline carriage tab
  · subst backslash
    cases control
  · subst quotation
    cases control
  · subst newline
    cases control
  · subst carriage
    cases control
  · subst tab
    cases control
  · exact List.mem_singleton_self byte

theorem escape_json_ascii {title : Bytes} (small : ∀ byte ∈ title, byte < 128) :
    ∀ byte ∈ escapeJson title, byte < 128 := by
  intro byte member
  obtain ⟨source, inTitle, inEscape⟩ := List.mem_flatMap.mp member
  clear member
  split_ifs at inEscape
  case neg =>
    rw [List.mem_singleton.mp inEscape]
    exact small source inTitle
  all_goals
    revert byte
    decide

end Escapes

section Listing

def bare (name : List Piece) (text : Bytes) (value : Value) : Member :=
  ⟨.none, name, .none, ⟨.none, text, value, .none⟩⟩

theorem bare_padded (name : List Piece) (text : Bytes) (value : Value) :
    (bare name text value).padded = quoted name ++ 58 :: text := by
  simp [bare, Member.padded, Member.head, Item.padded, Blank.none]

theorem task_json_writes {task : Task} (isText : ∀ byte ∈ task.title, isTextByte byte = true) :
    Writes (taskJson task.id task.title task.completed) (taskValue task) := by
  obtain ⟨pieces, rawTitle, title⟩ := escape_json_pieces isText
  obtain ⟨idName, rawId, idText⟩ := escape_json_pieces (show ∀ byte ∈ ascii "id", _ by decide)
  obtain ⟨titleName, rawName, nameText⟩ :=
    escape_json_pieces (show ∀ byte ∈ ascii "title", _ by decide)
  obtain ⟨flagName, rawFlag, flagText⟩ :=
    escape_json_pieces (show ∀ byte ∈ ascii "completed", _ by decide)
  have number := Writes.number (decimal_numeral task.id)
  have string := Writes.string pieces
  rw [number_of_decimal] at number
  rw [title] at string
  let members := [bare idName (decimal task.id) (.number task.id),
    bare titleName (quoted pieces) (.string task.title),
    bare flagName (if task.completed then ascii "true" else ascii "false") (.bool task.completed)]
  have object := Writes.object .none members
    (List.forall_mem_cons.mpr ⟨number, List.forall_mem_cons.mpr ⟨string,
      List.forall_mem_singleton.mpr (.bool task.completed)⟩⟩)
  have entries : taskValue task = .object (members.map Member.entry) := by
    simp [members, taskValue, bare, Member.entry, idText, nameText, flagText]
  have text : taskJson task.id task.title task.completed = objectText .none members := by
    simp only [members, objectText, List.map_cons, List.map_nil, inside, bare_padded, quoted,
      rawId, rawName, rawFlag, rawTitle]
    simp [taskJson, escapeJson, ascii]
  rw [entries, text]
  exact object

theorem task_json_ascii {task : Task} (small : ∀ byte ∈ task.title, byte < 128) :
    ∀ byte ∈ taskJson task.id task.title task.completed, byte < 128 := by
  have digits : ∀ byte ∈ decimal task.id, byte < 128 := by
    intro byte member
    have digit := decimal_digits task.id byte member
    simp only [isDigit, Bool.and_eq_true, decide_eq_true_eq] at digit
    exact UInt8.lt_of_le_of_lt digit.2 (by decide)
  have flag : ∀ byte ∈ if task.completed then ascii "true" else ascii "false", byte < 128 := by
    cases task.completed with
    | true => decide
    | false => decide
  unfold taskJson
  simp only [List.forall_mem_append]
  exact ⟨⟨⟨⟨⟨⟨by decide, digits⟩, by decide⟩, escape_json_ascii small⟩, by decide⟩, flag⟩,
    by decide⟩

theorem tasks_json_inside (tasks : List Task) :
    tasksJson tasks = inside [] (tasks.map fun task =>
      taskJson task.id task.title task.completed) := by
  induction tasks with
  | nil => rfl
  | cons task tasks ih =>
      cases tasks with
      | nil => rfl
      | cons next tasks =>
          rw [tasksJson, ih]
          · simp [inside, ascii]
          · simp

theorem tasks_json_keeps {tasks : List Task} {task : Task} (inTasks : task ∈ tasks) {byte : Byte}
    (member : byte ∈ task.title) (control : isTextByte byte = false) : byte ∈ tasksJson tasks := by
  have within : byte ∈ taskJson task.id task.title task.completed := by
    simp [taskJson, escape_json_keeps member control]
  rw [tasks_json_inside]
  exact (part_within [] (List.mem_map_of_mem (f := fun task : Task =>
    taskJson task.id task.title task.completed) inTasks)).subset within

theorem tasks_json_writes {tasks : List Task}
    (isText : ∀ task ∈ tasks, ∀ byte ∈ task.title, isTextByte byte = true) :
    Writes (ascii "[" ++ tasksJson tasks ++ ascii "]") (.array (tasks.map taskValue)) := by
  have items := Writes.array .none
    (tasks.map fun task => ⟨.none, taskJson task.id task.title task.completed, taskValue task,
      .none⟩) (by
    intro item member
    obtain ⟨task, inTasks, same⟩ := List.mem_map.mp member
    subst same
    exact task_json_writes (isText task inTasks))
  rw [List.map_map] at items
  have text : ascii "[" ++ tasksJson tasks ++ ascii "]" = arrayText .none
      (tasks.map fun task => ⟨.none, taskJson task.id task.title task.completed, taskValue task,
        .none⟩) := by
    rw [tasks_json_inside, arrayText, List.map_map]
    simp only [Function.comp_def, Item.padded, Blank.none, List.nil_append, List.append_nil]
    rfl
  rw [text]
  exact items

theorem tasks_json_ascii {tasks : List Task}
    (small : ∀ task ∈ tasks, ∀ byte ∈ task.title, byte < 128) :
    ∀ byte ∈ ascii "[" ++ tasksJson tasks ++ ascii "]", byte < 128 := by
  simp only [List.forall_mem_append]
  refine ⟨⟨by decide, ?_⟩, by decide⟩
  induction tasks with
  | nil => exact nofun
  | cons task tasks ih =>
      have first := task_json_ascii (small task List.mem_cons_self)
      have rest := ih fun other member => small other (List.mem_cons_of_mem task member)
      cases tasks with
      | nil => exact first
      | cons next tasks =>
          rw [tasksJson]
          · simp only [List.forall_mem_append]
            exact ⟨⟨first, by decide⟩, rest⟩
          · exact nofun

/-- The listing of tasks with ASCII titles is a JSON text of the tasks, in their order, and of
nothing else, if and only if no title has a control byte other than a tab, a newline or a
carriage return. -/
theorem listing_denotes_iff (tasks : List Task)
    (asciiTitles : ∀ task ∈ tasks, ∀ byte ∈ task.title, byte < 128) :
    (∃ response, respond (.listed true tasks) = some response ∧
      ∀ value, Denotes response.body value ↔ value = .array (tasks.map taskValue)) ↔
      ∀ task ∈ tasks, ∀ byte ∈ task.title, 32 ≤ byte ∨ byte = 9 ∨ byte = 10 ∨ byte = 13 := by
  have answer : ∃ response, respond (.listed true tasks) = some response ∧
      response.body = ascii "[" ++ tasksJson tasks ++ ascii "]" := ⟨_, rfl, rfl⟩
  obtain ⟨response, responds, body⟩ := answer
  constructor
  · rintro ⟨given, isGiven, denotes⟩ task inTasks byte member
    have same := Option.some.inj (responds.symm.trans isGiven)
    subst same
    have bytes := denotes_bytes ((denotes _).mpr rfl)
    rw [body] at bytes
    cases isText : isTextByte byte with
    | true =>
        simp only [isTextByte, isInsignificant, Bool.or_eq_true, decide_eq_true_eq,
          beq_iff_eq] at isText
        rcases isText with large | ((rfl | tab) | newline) | carriage
        · exact .inl large
        · exact .inl (by decide)
        · exact .inr (.inl tab)
        · exact .inr (.inr (.inl newline))
        · exact .inr (.inr (.inr carriage))
    | false =>
        have kept := tasks_json_keeps inTasks member isText
        have isListed := bytes byte (by simp [kept])
        cases isText.symm.trans isListed
  · intro clean
    have isText : ∀ task ∈ tasks, ∀ byte ∈ task.title, isTextByte byte = true := by
      intro task inTasks byte member
      rcases clean task inTasks byte member with large | rfl | rfl | rfl
      · exact text_byte_of_large large
      all_goals rfl
    have writes := tasks_json_writes isText
    have denotes : Denotes response.body (.array (tasks.map taskValue)) := by
      rw [body]
      refine ⟨ascii_utf8 (tasks_json_ascii asciiTitles), ⟨.none, _, _, .none⟩, writes, ?_, rfl⟩
      simp [Item.padded, Blank.none]
    refine ⟨response, responds, fun value => ⟨?_, ?_⟩⟩
    · intro other
      exact denotes_unique other denotes
    · rintro rfl
      exact denotes

theorem quoted_title_is_listed :
    ∃ response, respond (.listed true [⟨7, ascii "say \"hi\"", true⟩]) = some response ∧
      ∀ value, Denotes response.body value ↔
        value = .array [taskValue ⟨7, ascii "say \"hi\"", true⟩] := by
  apply (listing_denotes_iff [⟨7, ascii "say \"hi\"", true⟩] ?_).mpr
  · decide
  · decide

/-- A form can hold a title with another control byte, and no such listing can be read. -/
theorem control_byte_spoils_listing :
    getFormValue (ascii "title=%01") (ascii "title") = [1] ∧
      ∃ response, respond (.listed true [⟨1, [1], false⟩]) = some response ∧
        ∀ value, ¬ Denotes response.body value := by
  refine ⟨by decide, _, rfl, ?_⟩
  intro value denotes
  have isText := denotes_bytes denotes 1 (by decide)
  cases isText

end Listing

end Aorta.Http.HttpHandler
