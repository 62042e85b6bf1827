import Aorta.Http.HttpHandler
import Aorta.Library.JsonReader

/-!
# JSON bodies

The handlers do not read a JSON body but search it: for the first `"title"`, a colon,
and what stands between two quotation marks. They find the title where the first colon
behind the first `"title"` is that of a title, and nothing is escaped in it.
-/

namespace Aorta.Http.HttpHandler

open Aorta.Library.Ascii Aorta.Library.Decimal Aorta.Library.Json Aorta.Library.Search Aorta.Tasks

set_option autoImplicit false

section Reading

def withManager (handler : HttpHandler) (accepts : Operation → Bool) : HttpHandler :=
  { handler with taskManager := some accepts }

variable (handler : HttpHandler) (request : HttpRequest) (response : HttpResponse)
  (object : ObjectText)

def HasTitle (title : Bytes) : Prop := (ascii "title", Value.string title) ∈ object.entries

def HasFlag (flag : Bool) : Prop := (ascii "completed", Value.bool flag) ∈ object.entries

/-- A title that is a string and not empty is created, and without a title that is a
string nothing is. -/
def PostReads : Prop :=
  ∀ accepts,
    (∀ title, HasTitle object title → title ≠ [] →
      (handler.withManager accepts).handlePostTask request response =
        submit accepts (.create title) response) ∧
    ((∀ title, ¬ HasTitle object title) →
      (handler.withManager accepts).handlePostTask request response =
        badRequest response (ascii "Task title is required"))

/-- The task is updated to the title and the flag. -/
def PutReads (id : Nat) : Prop :=
  ∀ accepts title flag, HasTitle object title → title ≠ [] → HasFlag object flag →
    (handler.withManager accepts).handlePutTask request response =
      submit accepts (.update id title flag) response

end Reading

section Searching

/-- The first colon behind the first occurrence of the word is the one behind this text. -/
def FirstColon (word front : Bytes) : Prop :=
  ∃ position, find front word 0 = some position ∧ 58 ∉ front.drop position

/-- The text of an object up to the colon of a member. -/
def frontOf (object : ObjectText) (earlier : List Member) (member : Member) : Bytes :=
  object.before.val ++ 123 :: earlier.flatMap (fun other => other.padded ++ [44]) ++ member.head

/-- The first colon behind the first occurrence of the word is the one of this member. -/
def Reaches (object : ObjectText) (word : Bytes) (member : Member) : Prop :=
  ∃ earlier later, object.members = earlier ++ member :: later ∧
    FirstColon word (frontOf object earlier member)

theorem inside_split (blank : Bytes) (earlier : List Bytes) (part : Bytes) (later : List Bytes) :
    ∃ rest, inside blank (earlier ++ part :: later) =
      earlier.flatMap (fun other => other ++ [44]) ++ (part ++ rest) := by
  induction earlier with
  | nil =>
      cases later with
      | nil => exact ⟨[], by simp [inside]⟩
      | cons next later => exact ⟨44 :: inside blank (next :: later), rfl⟩
  | cons first earlier ih =>
      obtain ⟨rest, same⟩ := ih
      refine ⟨rest, ?_⟩
      have parts : inside blank (first :: earlier ++ part :: later) =
          first ++ 44 :: inside blank (earlier ++ part :: later) := by
        cases earlier with
        | nil => rfl
        | cons next earlier => rfl
      rw [parts, same]
      simp

theorem text_split {object : ObjectText} {earlier later : List Member} {member : Member}
    (split : object.members = earlier ++ member :: later) :
    ∃ rest, object.text = frontOf object earlier member ++ 58 ::
      (member.item.before.val ++ (member.item.text ++ rest)) := by
  obtain ⟨rest, same⟩ := inside_split object.blank.val (earlier.map Member.padded) member.padded
    (later.map Member.padded)
  refine ⟨member.item.behind.val ++ (rest ++ 125 :: object.behind.val), ?_⟩
  unfold ObjectText.text objectText frontOf
  rw [split, List.map_append, List.map_cons, same]
  simp [Member.padded, Item.padded, List.flatMap_map]

theorem first_colon_found {word front : Bytes} (reached : FirstColon word front) (rest : Bytes) :
    ∃ position, find (front ++ 58 :: rest) word 0 = some position ∧
      find (front ++ 58 :: rest) [58] position = some front.length := by
  obtain ⟨position, found, noColon⟩ := reached
  rw [find_zero] at found
  have inside := first_occurrence_le found
  refine ⟨position, ?_, ?_⟩
  · rw [find_zero]
    exact first_occurrence_append _ found
  · have bound : position ≤ (front ++ 58 :: rest).length := by
      rw [List.length_append]
      omega
    rw [find_drop bound, find_zero, List.drop_append_of_le_length (by omega),
      first_occurrence_item rest noColon, Option.map_some, List.length_drop]
    congr 1
    omega

theorem blank_no_quotation (blank : Blank) : 34 ∉ blank.val := by
  intro member
  cases blank.property 34 member

theorem json_title_at {front content rest : Bytes} (blank : Blank)
    (reached : FirstColon (ascii "\"title\"") front) :
    jsonTitle (front ++ 58 :: (blank.val ++ 34 :: (content ++ 34 :: rest))) =
      content.takeWhile (· ≠ 34) := by
  obtain ⟨position, key, colon⟩ :=
    first_colon_found reached (blank.val ++ 34 :: (content ++ 34 :: rest))
  have opens : find (front ++ 58 :: (blank.val ++ 34 :: (content ++ 34 :: rest))) [34]
      (front.length + 1) = some (front ++ 58 :: blank.val).length := by
    rw [find_after, first_occurrence_item _ (blank_no_quotation blank), Option.map_some,
      List.length_append, List.length_cons]
    congr 1
    omega
  have regroup : front ++ 58 :: (blank.val ++ 34 :: (content ++ 34 :: rest)) =
      (front ++ 58 :: blank.val) ++ 34 :: (content ++ 34 :: rest) := by simp
  have closes : find (front ++ 58 :: (blank.val ++ 34 :: (content ++ 34 :: rest))) [34]
      ((front ++ 58 :: blank.val).length + 1) = some ((front ++ 58 :: blank.val).length + 1 +
        (content.takeWhile (· ≠ 34)).length) := by
    rw [regroup, find_after, first_occurrence_item_takeWhile, Option.map_some]
  have behind : ((front ++ 58 :: blank.val) ++ 34 :: (content ++ 34 :: rest)).drop
      ((front ++ 58 :: blank.val).length + 1) = content ++ 34 :: rest := by
    rw [← List.drop_drop, List.drop_left]
    rfl
  have scanned : (content.takeWhile (· ≠ 34)) <+: content ++ 34 :: rest :=
    (List.takeWhile_prefix _).trans (List.prefix_append _ _)
  unfold jsonTitle
  simp only [key, colon, opens, closes, Option.bind_eq_bind, Option.bind_some, Option.getD_some]
  rw [regroup, substr, behind]
  have count : (front ++ 58 :: blank.val).length + 1 + (content.takeWhile (· ≠ 34)).length -
      (front ++ 58 :: blank.val).length - 1 = (content.takeWhile (· ≠ 34)).length := by omega
  rw [count]
  exact (List.prefix_iff_eq_take.mp scanned).symm

/-- No quotation mark stands behind a colon behind a `"title"`, so nothing is found. -/
def NothingBehind (body : Bytes) : Prop :=
  ∀ front between rest, body = front ++ ascii "\"title\"" ++ between ++ 58 :: rest → 34 ∉ rest

theorem find_item_from {body : Bytes} {item : Byte} {position found : Nat}
    (isFound : find body [item] position = some found) :
    ∃ before rest, body.drop position = before ++ item :: rest ∧
      body = body.take position ++ before ++ item :: rest ∧
      (body.take position ++ before).length = found := by
  unfold find at isFound
  split_ifs at isFound with bound
  obtain ⟨offset, first, same⟩ := Option.map_eq_some_iff.mp isFound
  obtain ⟨before, rest, split, length, _⟩ := first_occurrence_item_split first
  refine ⟨before, rest, split, ?_, ?_⟩
  · rw [List.append_assoc, ← split, List.take_append_drop]
  · rw [List.length_append, List.length_take, Nat.min_eq_left bound, length]
    exact same

theorem json_title_nothing {body : Bytes} (nothing : NothingBehind body) :
    jsonTitle body = [] := by
  unfold jsonTitle
  cases key : find body (ascii "\"title\"") 0 with
  | none => rfl
  | some position =>
      simp only [Option.bind_eq_bind, Option.bind_some]
      cases colon : find body [58] position with
      | none => rfl
      | some colonPosition =>
          rw [find_zero] at key
          have occurs := ((first_occurrence_eq_some _ _ _).mp key).2.1
          obtain ⟨before, rest, tail, split, length⟩ := find_item_from colon
          rw [tail] at occurs
          obtain ⟨between, same⟩ := prefix_before_item (by decide) occurs
          have noQuotation := nothing (body.take position) between rest (by
            rw [List.append_assoc _ (ascii _), same]
            exact split)
          have absent : find body [34] (colonPosition + 1) = none := by
            rw [split, ← length, find_after, (first_occurrence_item_eq_none _ _).mpr noQuotation]
            rfl
          simp only [Option.bind_some, absent, Option.bind_none, Option.getD_none]

theorem skip_space (blank : Blank) {first : Byte} (notSpace : isSpace first = false)
    (rest : Bytes) : (blank.val ++ first :: rest).dropWhile isSpace = first :: rest := by
  have spaces : ∀ byte ∈ blank.val, isSpace byte = true := by
    intro byte member
    have isBlank := blank.property byte member
    simp only [isInsignificant, Bool.or_eq_true, beq_iff_eq] at isBlank
    rcases isBlank with ((rfl | rfl) | rfl) | rfl
    all_goals rfl
  rw [List.dropWhile_append_of_pos spaces, List.dropWhile_cons_of_neg (by simp [notSpace])]

def flagText (flag : Bool) : Bytes := if flag then ascii "true" else ascii "false"

theorem json_completed_at {front rest : Bytes} (blank : Blank) (flag : Bool)
    (reached : FirstColon (ascii "\"completed\"") front) :
    jsonCompleted (front ++ 58 :: (blank.val ++ (flagText flag ++ rest))) = flagText flag := by
  obtain ⟨position, key, colon⟩ := first_colon_found reached (blank.val ++ (flagText flag ++ rest))
  have behind : (front ++ 58 :: (blank.val ++ (flagText flag ++ rest))).drop (front.length + 1) =
      blank.val ++ (flagText flag ++ rest) := by
    rw [← List.drop_drop, List.drop_left]
    rfl
  unfold jsonCompleted
  simp only [key, colon, behind, Option.bind_eq_bind, Option.bind_some]
  cases flag with
  | true =>
      have word : (blank.val ++ (flagText true ++ rest)).dropWhile isSpace =
          flagText true ++ rest := skip_space blank rfl _
      rw [word]
      rfl
  | false =>
      have word : (blank.val ++ (flagText false ++ rest)).dropWhile isSpace =
          flagText false ++ rest := skip_space blank rfl _
      rw [word]
      rfl

theorem json_completed_nowhere {body : Bytes}
    (nowhere : ¬ ascii "\"completed\"" <:+: body) : jsonCompleted body = [] := by
  have missing : find body (ascii "\"completed\"") 0 = none := by
    cases found : find body (ascii "\"completed\"") 0 with
    | none => rfl
    | some position =>
        rw [find_zero] at found
        obtain ⟨rest, split, _⟩ := first_occurrence_split (by decide) found
        exact absurd ⟨_, rest, split.symm⟩ nowhere
  unfold jsonCompleted
  rw [missing]
  rfl

end Searching

section Conditions

variable (object : ObjectText)

/-- The search comes to a title that is this string. -/
def ReachesTitle (pieces : List Piece) : Prop :=
  ∃ member, Reaches object (ascii "\"title\"") member ∧ decoded member.name = ascii "title" ∧
    member.item.text = quoted pieces

def ReachesFlag (flag : Bool) : Prop :=
  ∃ member, Reaches object (ascii "\"completed\"") member ∧
    decoded member.name = ascii "completed" ∧ member.item.value = .bool flag

/-- The title that is come to has no escapes, and there is no other. -/
def TitleRead : Prop :=
  ∃ pieces, ReachesTitle object pieces ∧ (∀ piece ∈ pieces, piece.isPlain = true) ∧
    ∀ title, HasTitle object title → title ≠ [] → title = decoded pieces

def FlagRead : Prop :=
  ∃ flag, ReachesFlag object flag ∧ ∀ other, HasFlag object other → other = flag

def Untitled : Prop := ∀ title, HasTitle object title → title = []

/-- The search comes to something that is not a title. -/
def TitleElsewhere : Prop :=
  (¬ ∃ pieces, ReachesTitle object pieces) ∧ ¬ NothingBehind object.text

def FlagElsewhere : Prop :=
  (¬ ∃ flag, ReachesFlag object flag) ∧ ascii "\"completed\"" <:+: object.text

def PostWell : Prop := TitleRead object ∨ NothingBehind object.text ∧ Untitled object

def PutWell : Prop :=
  Untitled object ∨ (∀ flag, ¬ HasFlag object flag) ∨ TitleRead object ∧ FlagRead object

variable {object}

theorem reaches_title {pieces : List Piece} (reached : ReachesTitle object pieces) :
    HasTitle object (decoded pieces) ∧
      jsonTitle object.text = (raw pieces).takeWhile (· ≠ 34) := by
  obtain ⟨member, ⟨earlier, later, split, colon⟩, name, text⟩ := reached
  have inMembers : member ∈ object.members := by simp [split]
  constructor
  · have value := writes_unique (text ▸ object.each member inMembers) (.string pieces)
    apply List.mem_map.mpr
    refine ⟨member, inMembers, ?_⟩
    rw [Member.entry, name, value]
  · obtain ⟨rest, same⟩ := text_split split
    have content : quoted pieces ++ rest = 34 :: (raw pieces ++ 34 :: rest) := by simp [quoted]
    rw [same, text, content]
    exact json_title_at member.item.before colon

theorem reaches_flag {flag : Bool} (reached : ReachesFlag object flag) :
    HasFlag object flag ∧ jsonCompleted object.text = flagText flag := by
  obtain ⟨member, ⟨earlier, later, split, colon⟩, name, value⟩ := reached
  have inMembers : member ∈ object.members := by simp [split]
  constructor
  · apply List.mem_map.mpr
    refine ⟨member, inMembers, ?_⟩
    rw [Member.entry, name, value]
  · obtain ⟨rest, same⟩ := text_split split
    have writes := object.each member inMembers
    rw [value] at writes
    have text : member.item.text = flagText flag := by
      generalize member.item.text = text at writes
      cases writes with
      | bool => rfl
    rw [same, text]
    exact json_completed_at member.item.before flag colon

theorem title_read_title (read : TitleRead object) {title : Bytes}
    (has : HasTitle object title) (filled : title ≠ []) : jsonTitle object.text = title := by
  obtain ⟨pieces, reached, plain, all⟩ := read
  rw [(reaches_title reached).2, all title has filled]
  exact (scanned_iff_plain pieces).mpr plain

/-- Where the handler takes the titles that are there, nothing is escaped in the one that
the search comes to. -/
theorem title_read_of {pieces : List Piece} (reached : ReachesTitle object pieces)
    (all : ∀ title, HasTitle object title → title ≠ [] → title = jsonTitle object.text) :
    TitleRead object := by
  obtain ⟨has, scanned⟩ := reaches_title reached
  refine ⟨pieces, reached, ?_⟩
  by_cases empty : decoded pieces = []
  · have none := decoded_nil empty
    subst none
    refine ⟨nofun, ?_⟩
    intro title isTitle filled
    rw [all title isTitle filled, scanned]
    rfl
  · have same := all _ has empty
    refine ⟨(scanned_iff_plain pieces).mp (scanned.symm.trans same.symm), ?_⟩
    intro title isTitle filled
    rw [all title isTitle filled, same]

theorem flag_text_injective {flag other : Bool} (same : flagText flag = flagText other) :
    flag = other := by
  cases flag with
  | true =>
      cases other with
      | true => rfl
      | false => cases same
  | false =>
      cases other with
      | true => cases same
      | false => rfl

end Conditions

section Handlers

variable {handler : HttpHandler} {request : HttpRequest} {response : HttpResponse}
  {object : ObjectText}

theorem post_json (json : isJson request = true) (body : request.body = object.text)
    (accepts : Operation → Bool) :
    (handler.withManager accepts).handlePostTask request response =
      if (jsonTitle object.text).isEmpty then badRequest response (ascii "Task title is required")
      else submit accepts (.create (jsonTitle object.text)) response := by
  simp only [handlePostTask, withTaskManager, withManager, json, body, if_true]

theorem put_json (json : isJson request = true) (body : request.body = object.text) {id : Nat}
    (target : parseTaskId request.target = some id) (accepts : Operation → Bool) :
    (handler.withManager accepts).handlePutTask request response =
      if jsonCompleted object.text ≠ ascii "true" ∧ jsonCompleted object.text ≠ ascii "false" then
        badRequest response (ascii "completed must be true or false")
      else submit accepts
        (.update id (jsonTitle object.text) (jsonCompleted object.text = ascii "true"))
        response := by
  simp only [handlePutTask, withTaskManager, withManager, json, body, target, if_true]

theorem put_json_flag (json : isJson request = true) (body : request.body = object.text) {id : Nat}
    (target : parseTaskId request.target = some id) {flag : Bool}
    (completed : jsonCompleted object.text = flagText flag) (accepts : Operation → Bool) :
    (handler.withManager accepts).handlePutTask request response =
      submit accepts (.update id (jsonTitle object.text) flag) response := by
  rw [put_json json body target, completed]
  cases flag with
  | true => rfl
  | false => rfl

theorem post_title (json : isJson request = true) (body : request.body = object.text)
    (reads : PostReads handler request response object) {title : Bytes}
    (has : HasTitle object title) (filled : title ≠ []) : title = jsonTitle object.text := by
  have creates := (reads fun _ => true).1 title has filled
  rw [post_json json body] at creates
  split_ifs at creates with empty
  · cases creates
  · cases creates
    rfl

theorem put_title (json : isJson request = true) (body : request.body = object.text) {id : Nat}
    (target : parseTaskId request.target = some id)
    (reads : PutReads handler request response object id) {title : Bytes} {flag : Bool}
    (has : HasTitle object title) (filled : title ≠ []) (hasFlag : HasFlag object flag) :
    title = jsonTitle object.text ∧ jsonCompleted object.text = flagText flag := by
  have updates := reads (fun _ => true) title flag has filled hasFlag
  rw [put_json json body target] at updates
  split_ifs at updates with neither
  · cases updates
  · have same := Operation.update.inj (HandleResult.pending.inj updates)
    refine ⟨same.2.1.symm, ?_⟩
    cases flag with
    | true => exact of_decide_eq_true same.2.2
    | false =>
        have notTrue := of_decide_eq_false same.2.2
        by_contra notFalse
        exact neither ⟨notTrue, notFalse⟩

theorem post_well_reads (json : isJson request = true) (body : request.body = object.text)
    (well : PostWell object) : PostReads handler request response object := by
  intro accepts
  rw [post_json json body]
  rcases well with read | ⟨nothing, untitled⟩
  · constructor
    · intro title has filled
      rw [title_read_title read has filled, if_neg (by simpa using filled)]
    · intro none
      obtain ⟨pieces, reached, _⟩ := read
      exact absurd (reaches_title reached).1 (none _)
  · rw [json_title_nothing nothing]
    constructor
    · intro title has filled
      exact absurd (untitled title has) filled
    · intro _
      rfl

theorem post_reads_well (json : isJson request = true) (body : request.body = object.text)
    (reads : PostReads handler request response object) :
    PostWell object ∨ TitleElsewhere object := by
  by_cases reached : ∃ pieces, ReachesTitle object pieces
  · obtain ⟨pieces, isReached⟩ := reached
    exact .inl (.inl (title_read_of isReached fun title => post_title json body reads))
  · by_cases nothing : NothingBehind object.text
    · left
      right
      refine ⟨nothing, ?_⟩
      intro title has
      by_contra filled
      have found := post_title json body reads has filled
      rw [json_title_nothing nothing] at found
      exact filled found
    · exact .inr ⟨reached, nothing⟩

theorem put_well_reads (json : isJson request = true) (body : request.body = object.text) {id : Nat}
    (target : parseTaskId request.target = some id) (well : PutWell object) :
    PutReads handler request response object id := by
  intro accepts title flag has filled hasFlag
  rcases well with untitled | unflagged | ⟨titleRead, other, reached, all⟩
  · exact absurd (untitled title has) filled
  · exact absurd hasFlag (unflagged flag)
  · rw [all flag hasFlag, put_json_flag json body target (reaches_flag reached).2,
      title_read_title titleRead has filled]

theorem put_reads_well (json : isJson request = true) (body : request.body = object.text) {id : Nat}
    (target : parseTaskId request.target = some id)
    (reads : PutReads handler request response object id) :
    PutWell object ∨ TitleElsewhere object ∨ FlagElsewhere object := by
  by_cases untitled : Untitled object
  · exact .inl (.inl untitled)
  by_cases unflagged : ∀ flag, ¬ HasFlag object flag
  · exact .inl (.inr (.inl unflagged))
  simp only [Untitled, not_forall, not_not] at untitled unflagged
  obtain ⟨title, has, filled⟩ := untitled
  obtain ⟨flag, hasFlag⟩ := unflagged
  by_cases reachesTitle : ∃ pieces, ReachesTitle object pieces
  · by_cases reachesFlag : ∃ flag, ReachesFlag object flag
    · left
      right
      right
      constructor
      · obtain ⟨pieces, reached⟩ := reachesTitle
        apply title_read_of reached
        intro other isTitle isFilled
        exact (put_title json body target reads isTitle isFilled hasFlag).1
      · obtain ⟨first, reached⟩ := reachesFlag
        refine ⟨first, reached, ?_⟩
        intro other isFlag
        have found := (put_title json body target reads has filled isFlag).2
        exact flag_text_injective (found.symm.trans (reaches_flag reached).2)
    · right
      right
      refine ⟨reachesFlag, ?_⟩
      by_contra nowhere
      have found := (put_title json body target reads has filled hasFlag).2
      rw [json_completed_nowhere nowhere] at found
      cases flag with
      | true => cases found
      | false => cases found
  · right
    left
    refine ⟨reachesTitle, ?_⟩
    intro nothing
    have found := (put_title json body target reads has filled hasFlag).1
    rw [json_title_nothing nothing] at found
    exact filled found

/-- A handler takes the title and the flag from a JSON body where the first colon behind
the first `"title"` is that of a title without escapes, that behind the first
`"completed"` is that of the flag, and no other member says otherwise. Where the search
comes to a title and to a flag, or to nothing, it does so only then. -/
theorem json_bodies_read_when (handler : HttpHandler) (request : HttpRequest)
    (response : HttpResponse) (object : ObjectText) (json : isJson request = true)
    (body : request.body = object.text) :
    ((PostWell object → PostReads handler request response object) ∧
      (PostReads handler request response object → PostWell object ∨ TitleElsewhere object)) ∧
    ∀ id, parseTaskId request.target = some id →
      (PutWell object → PutReads handler request response object id) ∧
        (PutReads handler request response object id →
          PutWell object ∨ TitleElsewhere object ∨ FlagElsewhere object) :=
  ⟨⟨post_well_reads json body, post_reads_well json body⟩, fun _ target =>
    ⟨put_well_reads json body target, put_reads_well json body target⟩⟩

end Handlers

section Bodies

def spelled (text : Bytes) : List Piece :=
  text.filterMap fun byte => if plain : isPlain byte = true then some (.plain byte plain) else none

def jsonRequest (target body : Bytes) : HttpRequest where
  method := ascii "POST"
  target := target
  headers := [(ascii "Content-Type", ascii "application/json")]
  body := body

def titleMember (pieces : List Piece) : Member :=
  ⟨.none, spelled (ascii "title"), .none, ⟨.none, quoted pieces, .string (decoded pieces), .none⟩⟩

def flagMember (flag : Bool) : Member :=
  ⟨.none, spelled (ascii "completed"), .none, ⟨.none, if flag then ascii "true" else ascii "false",
    .bool flag, .none⟩⟩

def titleObject (pieces : List Piece) (flag : Bool) : ObjectText where
  before := .none
  blank := .none
  members := [titleMember pieces, flagMember flag]
  each := List.forall_mem_cons.mpr ⟨.string pieces, List.forall_mem_singleton.mpr (.bool flag)⟩
  behind := .none

example : (titleObject (spelled (ascii "tea")) true).text =
    ascii "\x7b\"title\":\"tea\",\"completed\":true\x7d" := by decide

theorem title_object_title {pieces : List Piece} {flag : Bool} {title : Bytes}
    (has : HasTitle (titleObject pieces flag) title) : title = decoded pieces := by
  rcases List.mem_cons.mp has with same | other
  · cases (Prod.mk.inj same).2
    rfl
  · cases (Prod.mk.inj (List.mem_singleton.mp other)).2

def bareHandler : HttpHandler := ⟨⟨ascii "./public", fun _ => none⟩, none, []⟩

theorem plain_body_is_read :
    PostReads bareHandler
      (jsonRequest (ascii "/tasks/7") (titleObject (spelled (ascii "tea")) true).text) {}
      (titleObject (spelled (ascii "tea")) true) := by
  have reached : ReachesTitle (titleObject (spelled (ascii "tea")) true) (spelled (ascii "tea")) :=
    ⟨_, ⟨[], _, rfl, 1, by decide, by decide⟩, by decide, rfl⟩
  have well : PostWell (titleObject (spelled (ascii "tea")) true) :=
    .inl ⟨_, reached, by decide, fun title has _ => title_object_title has⟩
  exact (json_bodies_read_when bareHandler _ {} _ (by decide) rfl).1.1 well

def sayHi : List Piece :=
  spelled (ascii "say ") ++ [.short 34 34 rfl] ++ spelled (ascii "hi") ++ [.short 34 34 rfl]

theorem escaped_title_is_cut :
    (titleObject sayHi true).text =
        ascii "\x7b\"title\":\"say \\\"hi\\\"\",\"completed\":true\x7d" ∧
      HasTitle (titleObject sayHi true) (ascii "say \"hi\"") ∧
      jsonTitle (titleObject sayHi true).text = ascii "say \\" ∧
      ¬ ∃ handler, PostReads handler
        (jsonRequest (ascii "/tasks") (titleObject sayHi true).text) {}
          (titleObject sayHi true) := by
  have has : HasTitle (titleObject sayHi true) (ascii "say \"hi\"") := by
    apply List.mem_cons.mpr
    left
    rfl
  refine ⟨by decide, has, by decide, ?_⟩
  rintro ⟨handler, reads⟩
  have found := post_title (by decide) rfl reads has (by decide)
  revert found
  decide

end Bodies

end Aorta.Http.HttpHandler
