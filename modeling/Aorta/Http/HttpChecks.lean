import Aorta.Http.HttpMessage

/-!
# What each line must pass

Every check of the parser, stated as the exact condition under which it passes
and the parser it leaves behind. Line by line the flags and counters are
functions of the fields seen so far (`headerState`), and a further field passes
exactly when the longer field list is still admissible.
-/

namespace Aorta.Http.HttpParser

open Aorta.Library.Ascii Aorta.Library.Search Aorta.Library.Resume

set_option autoImplicit false

section Passing

variable {parser next : HttpParser}

theorem and_then_passes (first second : Check) :
    (first.andThen second) parser = (none, next) ↔
      ∃ middle, first parser = (none, middle) ∧ second middle = (none, next) := by
  unfold Check.andThen
  cases answered : first parser with
  | mk error middle =>
      cases error with
      | none => simp
      | some error => simp

theorem limit_header_line_passes (size : Nat) :
    limitHeaderLine size parser = (none, next) ↔
      size ≤ maxHeaderLineSize ∧ parser.headersSize + size + 2 ≤ maxHeadersSize ∧
        next = { parser with headersSize := parser.headersSize + (size + 2) } := by
  unfold limitHeaderLine
  split_ifs with large full
  · simp only [Prod.mk.injEq, reduceCtorEq, false_and, false_iff, not_and]
    omega
  · simp only [Prod.mk.injEq, reduceCtorEq, false_and, false_iff, not_and]
    omega
  · simp only [Prod.mk.injEq, true_and]
    constructor
    · intro same
      exact ⟨by omega, by omega, same.symm⟩
    · intro same
      exact same.2.2.symm

theorem refused_passes {exceeds within : Prop} [Decidable exceeds] {error : ParseResult}
    {noted : HttpParser} (limit : ¬ exceeds ↔ within) :
    (if exceeds then (some error, parser) else (none, noted)) = (none, next) ↔
      within ∧ next = noted := by
  split_ifs with refused
  · simp [← limit, refused]
  · simp [← limit, refused, eq_comm]

theorem count_header_passes :
    countHeader parser = (none, next) ↔
      parser.headerCount + 1 ≤ maxHeaderCount ∧
        next = { parser with headerCount := parser.headerCount + 1 } := by
  unfold countHeader
  exact refused_passes Nat.not_lt

theorem read_host_passes (field : Field) :
    readHost field.name field.value parser = (none, next) ↔
      (field.isHost → parser.hostCount = 0 ∧ field.value ≠ []) ∧
        next = { parser with
          hostCount := parser.hostCount + if field.isHost then 1 else 0 } := by
  unfold readHost Field.isHost
  by_cases host : equalsIgnoreCase field.name (ascii "Host")
  · simp only [host, if_true, true_implies, List.isEmpty_iff]
    split_ifs with second empty
    · simp only [Prod.mk.injEq, reduceCtorEq, false_and, false_iff, not_and]
      omega
    · simp [empty]
    · simp only [Prod.mk.injEq, true_and]
      constructor
      · intro same
        exact ⟨⟨by omega, empty⟩, same.symm⟩
      · intro same
        exact same.2.symm
  · simp only [host, Bool.false_eq_true, if_false, false_implies, Prod.mk.injEq, true_and,
      Nat.add_zero]
    exact eq_comm

theorem read_content_length_passes (field : Field) :
    readContentLength field.name field.value parser = (none, next) ↔
      (field.isContentLength →
        (field.value ≠ [] ∧ field.value.all isDigit) ∧ field.length ≤ maxBodySize ∧
          (parser.hasContentLength → parser.contentLength = field.length)) ∧
        next = { parser with
          contentLength := if field.isContentLength then field.length
            else parser.contentLength
          hasContentLength := parser.hasContentLength || field.isContentLength } := by
  unfold readContentLength Field.isContentLength
  by_cases named : equalsIgnoreCase field.name (ascii "Content-Length")
  · simp only [named, if_true, true_implies, List.isEmpty_iff, Bool.or_true]
    by_cases empty : field.value = []
    · simp [empty]
    · rw [if_neg empty]
      cases digits : contentLengthDigits 0 field.value with
      | error error =>
          have wrong : ¬(field.value.all isDigit ∧ field.length ≤ maxBodySize) := by
            intro parts
            have read := (content_length_digits_eq_ok (Nat.zero_le _) field.value
              field.length).mpr ⟨parts.1, rfl, parts.2⟩
            rw [digits] at read
            cases read
          simp only [Prod.mk.injEq, reduceCtorEq, false_and, false_iff, not_and]
          intro parts
          exact absurd ⟨parts.1.2, parts.2.1⟩ wrong
      | ok length =>
          obtain ⟨all, same, bound⟩ :=
            (content_length_digits_eq_ok (Nat.zero_le _) field.value length).mp digits
          change field.length = length at same
          subst same
          simp only
          by_cases differs : parser.hasContentLength ∧ parser.contentLength ≠ field.length
          · rw [if_pos differs]
            simp only [Prod.mk.injEq, reduceCtorEq, false_and, false_iff, not_and]
            intro parts
            exact absurd (parts.2.2 differs.1) differs.2
          · rw [if_neg differs]
            simp only [Prod.mk.injEq, true_and]
            constructor
            · intro same
              refine ⟨⟨⟨empty, all⟩, bound, ?_⟩, same.symm⟩
              intro has
              by_contra other
              exact differs ⟨has, other⟩
            · intro parts
              exact parts.2.symm
  · simp only [named, Bool.false_eq_true, if_false, false_implies, Prod.mk.injEq, true_and,
      Bool.or_false]
    exact eq_comm

theorem read_transfer_encoding_passes (field : Field) :
    readTransferEncoding field.name field.value parser = (none, next) ↔
      (field.isTransferEncoding → !parser.hasTransferEncoding ∧ field.isChunked) ∧
        next = { parser with
          hasTransferEncoding := parser.hasTransferEncoding || field.isTransferEncoding
          chunkedTransferEncoding :=
            parser.chunkedTransferEncoding || field.isTransferEncoding } := by
  unfold readTransferEncoding Field.isTransferEncoding Field.isChunked
  by_cases named : equalsIgnoreCase field.name (ascii "Transfer-Encoding")
  · simp only [named, if_true, true_implies, Bool.or_true]
    cases has : parser.hasTransferEncoding with
    | true => simp
    | false =>
        cases chunked : equalsIgnoreCase (trim field.value) (ascii "chunked") with
        | false => simp
        | true =>
            simp only [Bool.false_eq_true, if_false, Bool.not_true, Bool.not_false, true_and,
              Prod.mk.injEq, and_self]
            exact eq_comm
  · simp only [named, Bool.false_eq_true, if_false, false_implies, Prod.mk.injEq, true_and,
      Bool.or_false]
    exact eq_comm

theorem split_name_field {field : Field} (wellFormed : field.WellFormed) :
    splitName field.line = some (field.name, field.name.length) :=
  (split_name_eq_some _ _ _).mpr ⟨wellFormed.name, rfl, field.pad ++ field.value, rfl⟩

theorem field_of_line {line name : Bytes} {colonAt : Nat} (free : LineEndFree line)
    (split : splitName line = some (name, colonAt)) :
    ∃ field : Field, field.WellFormed ∧ field.line = line := by
  obtain ⟨valid, -, rest, rfl⟩ := (split_name_eq_some _ _ _).mp split
  obtain ⟨together, pad, value⟩ := blanks_split rest
  have same : name ++ colon :: (rest.takeWhile isBlank ++ rest.dropWhile isBlank) =
      name ++ colon :: rest := by rw [← together]
  exact ⟨⟨name, rest.takeWhile isBlank, rest.dropWhile isBlank⟩,
    ⟨valid, pad, value, by rw [Field.line, same]; exact free⟩, same⟩

theorem read_header_field {field : Field} (wellFormed : field.WellFormed) :
    readHeader field.line =
      (readHost field.name field.value).andThen
        ((readContentLength field.name field.value).andThen
          ((readTransferEncoding field.name field.value).andThen
            (pushHeader field.name field.value))) := by
  have value : (field.line.drop (field.name.length + 1)).dropWhile isBlank = field.value := by
    unfold Field.line
    rw [← List.drop_drop, List.drop_left, List.drop_succ_cons, List.drop_zero,
      drop_blanks wellFormed.pad wellFormed.value]
  simp only [readHeader, split_name_field wellFormed, value]

theorem limit_request_line_passes (size : Nat) :
    limitRequestLine size parser = (none, next) ↔
      size ≤ maxRequestLineSize ∧ next = parser := by
  unfold limitRequestLine
  exact refused_passes Nat.not_lt

theorem read_request_line_passes (line : Bytes) :
    readRequestLine line parser = (none, next) ↔
      ∃ method target, line = method ++ space :: (target ++ space :: ascii "HTTP/1.1") ∧
        isValidMethod method ∧ isValidTarget target ∧ space ∉ target ∧
        next = { parser with
          request := { parser.request with
            method := method, target := target, version := ascii "HTTP/1.1" } } := by
  constructor
  · intro passes
    unfold readRequestLine at passes
    cases split : splitRequestLine line with
    | none =>
        rw [split] at passes
        cases passes
    | some parts =>
        obtain ⟨method, target, version⟩ := parts
        obtain ⟨shape, -, noSpace, -⟩ := (split_request_line_eq_some _ _ _ _).mp split
        rw [split] at passes
        simp only at passes
        split_ifs at passes with noMethod noTarget sameVersion
        · cases passes
        · cases passes
        · cases passes
        · rw [not_not] at sameVersion
          subst sameVersion
          simp only [Bool.not_eq_true', Bool.not_eq_false] at noMethod noTarget
          simp only [Prod.mk.injEq, true_and] at passes
          exact ⟨method, target, shape, noMethod, noTarget, noSpace, passes.symm⟩
  · intro parts
    obtain ⟨method, target, rfl, validMethod, validTarget, noSpace, rfl⟩ := parts
    obtain ⟨someMethod, token⟩ := (is_token_iff method).mp validMethod
    have noFirst : space ∉ method := by
      intro member
      exact token_byte_ne_space (token _ member) rfl
    have split := (split_request_line_eq_some
      (method ++ space :: (target ++ space :: ascii "HTTP/1.1")) method target _).mpr
      ⟨rfl, noFirst, noSpace, by decide, someMethod, ((is_valid_target_iff _).mp validTarget).1,
        by decide⟩
    unfold readRequestLine
    rw [split]
    simp [validMethod, validTarget]

/-- A field passes its checks exactly when it does not contradict the parser's
flags and counters. -/
theorem read_header_line_passes {field : Field} (wellFormed : field.WellFormed) :
    readHeaderLine field.line parser = (none, next) ↔
      parser.headerCount + 1 ≤ maxHeaderCount ∧
        (field.isHost → parser.hostCount = 0 ∧ field.value ≠ []) ∧
        (field.isContentLength →
          (field.value ≠ [] ∧ field.value.all isDigit) ∧ field.length ≤ maxBodySize ∧
            (parser.hasContentLength → parser.contentLength = field.length)) ∧
        (field.isTransferEncoding → !parser.hasTransferEncoding ∧ field.isChunked) ∧
        next = { parser with
          headerCount := parser.headerCount + 1
          hostCount := parser.hostCount + if field.isHost then 1 else 0
          contentLength := if field.isContentLength then field.length
            else parser.contentLength
          hasContentLength := parser.hasContentLength || field.isContentLength
          hasTransferEncoding := parser.hasTransferEncoding || field.isTransferEncoding
          chunkedTransferEncoding :=
            parser.chunkedTransferEncoding || field.isTransferEncoding
          request := { parser.request with
            headers := parser.request.headers ++ [field.header] } } := by
  unfold readHeaderLine
  rw [read_header_field wellFormed]
  simp only [and_then_passes, count_header_passes, read_host_passes,
    read_content_length_passes, read_transfer_encoding_passes, pushHeader, Prod.mk.injEq,
    true_and]
  constructor
  · intro parts
    obtain ⟨_, ⟨count, rfl⟩, _, ⟨host, rfl⟩, _, ⟨length, rfl⟩, _, ⟨encoding, rfl⟩, rfl⟩ := parts
    exact ⟨count, host, length, encoding, rfl⟩
  · intro parts
    obtain ⟨count, host, length, encoding, rfl⟩ := parts
    exact ⟨_, ⟨count, rfl⟩, _, ⟨host, rfl⟩, _, ⟨length, rfl⟩, _, ⟨encoding, rfl⟩, rfl⟩

theorem read_header_line_fails {line : Bytes} (noName : splitName line = none) :
    readHeaderLine line parser ≠ (none, next) := by
  unfold readHeaderLine
  rw [Ne, and_then_passes]
  intro parts
  obtain ⟨middle, -, passes⟩ := parts
  simp only [readHeader, noName] at passes
  cases passes

end Passing

/-- The length announced by the last `Content-Length` field. -/
def announced (fields : List Field) : Nat :=
  fields.foldl (fun length field => if field.isContentLength then field.length else length) 0

/-- The parser behind the request line and some header fields. -/
def headerState (method target : Bytes) (fields : List Field) : HttpParser where
  state := .headers
  request :=
    { method := method
      target := target
      version := ascii "HTTP/1.1"
      headers := fields.map Field.header }
  contentLength := announced fields
  headersSize := blockSize fields
  headerCount := fields.length
  hostCount := fields.countP Field.isHost
  hasContentLength := fields.any Field.isContentLength
  hasTransferEncoding := fields.any Field.isTransferEncoding
  chunkedTransferEncoding := fields.any Field.isTransferEncoding

/-- A further field is within the limits and does not contradict the others. -/
structure Admits (fields : List Field) (field : Field) : Prop where
  lineSize : field.line.length ≤ maxHeaderLineSize
  size : blockSize fields + field.line.length + 2 ≤ maxHeadersSize
  count : fields.length + 1 ≤ maxHeaderCount
  host : field.isHost → fields.countP Field.isHost = 0 ∧ field.value ≠ []
  length : field.isContentLength →
    (field.value ≠ [] ∧ field.value.all isDigit) ∧ field.length ≤ maxBodySize ∧
      (fields.any Field.isContentLength → announced fields = field.length)
  encoding : field.isTransferEncoding →
    !fields.any Field.isTransferEncoding ∧ field.isChunked

theorem block_size_append (first second : List Field) :
    blockSize (first ++ second) = blockSize first + blockSize second := by
  simp [blockSize]

theorem block_size_singleton (field : Field) :
    blockSize [field] = field.line.length + 2 := by
  simp [blockSize]

theorem announced_append (fields : List Field) (field : Field) :
    announced (fields ++ [field]) =
      if field.isContentLength then field.length else announced fields := by
  simp [announced]

/-- Where all lengths agree, the last one is any of them. -/
theorem announced_of_mem {fields : List Field} {field : Field}
    (agree : ∀ first ∈ fields, ∀ second ∈ fields, first.isContentLength →
      second.isContentLength → first.length = second.length)
    (member : field ∈ fields) (named : field.isContentLength) :
    announced fields = field.length := by
  induction fields using List.reverseRecOn with
  | nil => cases member
  | append_singleton fields last ih =>
      rw [announced_append]
      split_ifs with lastNamed
      · exact agree last (by simp) field member lastNamed named
      · simp only [List.mem_append, List.mem_singleton] at member
        rcases member with earlier | rfl
        · apply ih _ earlier
          intro first inFirst second inSecond
          exact agree first (by simp [inFirst]) second (by simp [inSecond])
        · exact absurd named lastNamed

theorem admissible_nil : Admissible [] := by
  constructor <;> simp [blockSize]

theorem any_eq_false_of_count {fields : List Field} {named : Field → Bool}
    (absent : fields.countP named = 0) : (!fields.any named) = true := by
  rw [List.countP_eq_zero] at absent
  simpa using absent

theorem admissible_admits {fields : List Field} {field : Field}
    (whole : Admissible (fields ++ [field])) : Admits fields field := by
  have last : field ∈ fields ++ [field] := by simp
  have before := whole.fewer (List.sublist_append_left fields [field])
  have size := whole.size
  have hosts := whole.hosts
  have encodings := whole.encodings
  rw [block_size_append, block_size_singleton] at size
  rw [List.countP_append, List.countP_singleton] at hosts encodings
  constructor
  · exact whole.lineSize field last
  · omega
  · simpa using whole.count
  · intro isHost
    rw [if_pos isHost] at hosts
    exact ⟨by omega, whole.host field last isHost⟩
  · intro named
    refine ⟨whole.digits field last named, whole.bound field last named, ?_⟩
    intro some
    obtain ⟨earlier, member, earlierNamed⟩ := List.any_eq_true.mp some
    rw [announced_of_mem before.agree member earlierNamed]
    exact whole.agree earlier (List.mem_append_left _ member) field last earlierNamed named
  · intro named
    rw [if_pos named] at encodings
    exact ⟨any_eq_false_of_count (by omega), whole.chunked field last named⟩

theorem forall_mem_snoc {fields : List Field} {field : Field} {Good : Field → Prop}
    (earlier : ∀ other ∈ fields, Good other) (last : Good field) :
    ∀ other ∈ fields ++ [field], Good other := by
  intro other member
  rcases List.mem_append.mp member with inFields | isLast
  · exact earlier other inFields
  · rw [List.mem_singleton.mp isLast]
    exact last

theorem Admits.agree {fields : List Field} {field : Field} (admits : Admits fields field)
    (before : Admissible fields) :
    ∀ first ∈ fields ++ [field], ∀ second ∈ fields ++ [field], first.isContentLength →
      second.isContentLength → first.length = second.length := by
  have meets : ∀ earlier ∈ fields, earlier.isContentLength → field.isContentLength →
      earlier.length = field.length := by
    intro earlier member earlierNamed named
    rw [← announced_of_mem before.agree member earlierNamed]
    exact (admits.length named).2.2 (List.any_eq_true.mpr ⟨earlier, member, earlierNamed⟩)
  apply forall_mem_snoc
  · intro first inFirst
    exact forall_mem_snoc (before.agree first inFirst) (meets first inFirst)
  · apply forall_mem_snoc
    · intro second inSecond named secondNamed
      exact (meets second inSecond secondNamed named).symm
    · intro _ _
      rfl

theorem count_snoc_le_one {fields : List Field} {field : Field} {named : Field → Bool}
    (once : fields.countP named ≤ 1) (first : named field = true → fields.countP named = 0) :
    (fields ++ [field]).countP named ≤ 1 := by
  rw [List.countP_append, List.countP_singleton]
  split_ifs with isNamed
  · rw [first isNamed]
  · exact once

theorem Admits.admissible {fields : List Field} {field : Field} (admits : Admits fields field)
    (before : Admissible fields) (wellFormed : field.WellFormed) :
    Admissible (fields ++ [field]) where
  wellFormed := forall_mem_snoc before.wellFormed wellFormed
  lineSize := forall_mem_snoc before.lineSize admits.lineSize
  size := by
    have size := admits.size
    rw [block_size_append, block_size_singleton]
    omega
  count := by simpa using admits.count
  hosts := count_snoc_le_one before.hosts fun isHost => (admits.host isHost).1
  host := forall_mem_snoc before.host fun isHost => (admits.host isHost).2
  digits := forall_mem_snoc before.digits fun named => (admits.length named).1
  bound := forall_mem_snoc before.bound fun named => (admits.length named).2.1
  agree := admits.agree before
  encodings := by
    apply count_snoc_le_one before.encodings
    intro named
    have absent := (admits.encoding named).1
    rw [List.countP_eq_zero]
    simpa using absent
  chunked := forall_mem_snoc before.chunked fun named => (admits.encoding named).2

theorem admissible_append (fields : List Field) (field : Field) :
    Admissible (fields ++ [field]) ↔
      Admissible fields ∧ field.WellFormed ∧ Admits fields field := by
  constructor
  · intro whole
    exact ⟨whole.fewer (List.sublist_append_left fields [field]),
      whole.wellFormed field (by simp), admissible_admits whole⟩
  · intro ⟨before, wellFormed, admits⟩
    exact admits.admissible before wellFormed

section Lines

variable {parser next : HttpParser} {line : Bytes}

theorem or_else_again (check : Check) (continuation : HttpParser → Progress) :
    check.orElse parser continuation = .again next ↔
      ∃ middle, check parser = (none, middle) ∧ continuation middle = .again next := by
  unfold Check.orElse
  cases answered : check parser with
  | mk error middle =>
      cases error with
      | none => simp
      | some error => simp

theorem proceed_again (check : Check) (cursor : Nat) :
    check.proceed cursor parser = .again next ↔
      ∃ middle, check parser = (none, middle) ∧ next = middle.setCursor cursor := by
  unfold Check.proceed
  rw [or_else_again]
  simp only [Progress.again.injEq]
  constructor
  · intro parts
    obtain ⟨middle, passes, same⟩ := parts
    exact ⟨middle, passes, same.symm⟩
  · intro parts
    obtain ⟨middle, passes, same⟩ := parts
    exact ⟨middle, passes, same.symm⟩

/-- The parser takes the line and goes on from `next`. -/
def Follows (parser : HttpParser) (line : Bytes) (next : HttpParser) : Prop :=
  readStep parser (line ++ crlf) = .again next (line.length + 2)

theorem follows_iff (isLine : parser.state.isLine) (free : LineEndFree line) :
    Follows parser line next ↔
      ∃ after, finishLine (parser.setCursor 0) line (line.length + 2) = .again after ∧
        next = after.setCursor 0 := by
  have step := read_step_finished_line isLine free []
  rw [List.append_nil] at step
  unfold Follows
  rw [step]
  have takes := finish_line_takes (parser.setCursor 0) isLine line (line.length + 2)
  cases finished : finishLine (parser.setCursor 0) line (line.length + 2) with
  | answer result after => simp [Progress.outcome]
  | again after =>
      rw [finished] at takes
      simp only [Progress.outcome, Outcome.again.injEq, Progress.again.injEq]
      constructor
      · intro same
        exact ⟨after, rfl, same.1.symm⟩
      · intro same
        obtain ⟨_, rfl, same⟩ := same
        exact ⟨same.symm, takes⟩

theorem request_line_follows (free : LineEndFree line) :
    Follows {} line next ↔
      ∃ method target, line = method ++ space :: (target ++ space :: ascii "HTTP/1.1") ∧
        isValidMethod method ∧ isValidTarget target ∧ space ∉ target ∧
        line.length ≤ maxRequestLineSize ∧ next = headerState method target [] := by
  rw [follows_iff rfl free]
  simp only [finishLine, set_cursor_state, proceed_again, and_then_passes,
    limit_request_line_passes, read_request_line_passes, enterHeaders, Prod.mk.injEq, true_and]
  constructor
  · intro parts
    obtain ⟨_, ⟨_, ⟨_, ⟨size, rfl⟩, _, ⟨method, target, shape, validMethod, validTarget,
      noSpace, rfl⟩, rfl⟩, rfl⟩, rfl⟩ := parts
    exact ⟨method, target, shape, validMethod, validTarget, noSpace, size, rfl⟩
  · intro parts
    obtain ⟨method, target, shape, validMethod, validTarget, noSpace, size, rfl⟩ := parts
    exact ⟨_, ⟨_, ⟨_, ⟨size, rfl⟩, _, ⟨method, target, shape, validMethod, validTarget,
      noSpace, rfl⟩, rfl⟩, rfl⟩, rfl⟩

theorem header_line_follows (method target : Bytes) (fields : List Field) (some : line ≠ [])
    (free : LineEndFree line) :
    Follows (headerState method target fields) line next ↔
      ∃ field : Field, field.WellFormed ∧ field.line = line ∧ Admits fields field ∧
        next = headerState method target (fields ++ [field]) := by
  have notBlank : ¬line.isEmpty := by simpa using some
  have grows : ∀ field : Field,
      headerState method target (fields ++ [field]) =
        { headerState method target fields with
          headersSize := blockSize fields + (field.line.length + 2)
          headerCount := fields.length + 1
          hostCount := fields.countP Field.isHost + if field.isHost then 1 else 0
          contentLength := if field.isContentLength then field.length else announced fields
          hasContentLength := fields.any Field.isContentLength || field.isContentLength
          hasTransferEncoding := fields.any Field.isTransferEncoding || field.isTransferEncoding
          chunkedTransferEncoding :=
            fields.any Field.isTransferEncoding || field.isTransferEncoding
          request := { (headerState method target fields).request with
            headers := fields.map Field.header ++ [field.header] } } := by
    intro field
    simp [headerState, block_size_append, block_size_singleton, announced_append,
      List.countP_append, List.countP_singleton]
  rw [follows_iff rfl free]
  simp only [finishLine, set_cursor_state, headerState, finishHeaderLine, or_else_again,
    if_neg notBlank, proceed_again, limit_header_line_passes]
  constructor
  · intro parts
    obtain ⟨_, ⟨_, ⟨lineSize, size, rfl⟩, _, passes, rfl⟩, rfl⟩ := parts
    cases split : splitName line with
    | none => exact absurd passes (read_header_line_fails split)
    | some parts =>
        obtain ⟨field, wellFormed, rfl⟩ := field_of_line free split
        rw [read_header_line_passes wellFormed] at passes
        obtain ⟨count, host, length, encoding, rfl⟩ := passes
        refine ⟨field, wellFormed, rfl, ⟨lineSize, size, count, host, length, encoding⟩, ?_⟩
        exact (grows field).symm
  · intro parts
    obtain ⟨field, wellFormed, rfl, admits, rfl⟩ := parts
    refine ⟨_, ⟨_, ⟨admits.lineSize, admits.size, rfl⟩, _,
      (read_header_line_passes wellFormed).mpr
        ⟨admits.count, admits.host, admits.length, admits.encoding, rfl⟩, rfl⟩, ?_⟩
    exact grows field

/-- The parser behind the header section. -/
def headersEnd (method target : Bytes) (fields : List Field) (state : State) : HttpParser :=
  { headerState method target fields with
    state := state
    headersSize := blockSize fields + 2 }

theorem end_headers_passes :
    endHeaders parser = (none, next) ↔
      parser.hostCount = 1 ∧ ¬(parser.hasTransferEncoding ∧ parser.hasContentLength) ∧
        (parser.hasTransferEncoding → parser.chunkedTransferEncoding) ∧
        next = { parser with
          state := if parser.hasTransferEncoding then .chunkSize else .body } := by
  unfold endHeaders
  by_cases hosts : parser.hostCount = 1
  · cases encoded : parser.hasTransferEncoding with
    | false =>
        simp only [hosts, ne_eq, not_true_eq_false, if_false, Bool.false_eq_true, false_and,
          false_implies, Prod.mk.injEq, true_and, not_false_eq_true]
        exact eq_comm
    | true =>
        cases sized : parser.hasContentLength with
        | true => simp [hosts]
        | false =>
            cases chunked : parser.chunkedTransferEncoding with
            | false => simp [hosts]
            | true =>
                simp only [hosts, ne_eq, not_true_eq_false, if_false, Bool.false_eq_true,
                  and_false, if_true, Bool.not_true, Prod.mk.injEq, true_and, true_implies,
                  not_false_eq_true]
                exact eq_comm
  · simp [hosts]

theorem blank_line_follows (method target : Bytes) (fields : List Field) :
    Follows (headerState method target fields) [] next ↔
      blockSize fields + 2 ≤ maxHeadersSize ∧ fields.countP Field.isHost = 1 ∧
        ¬(fields.any Field.isTransferEncoding ∧ fields.any Field.isContentLength) ∧
        next = headersEnd method target fields
          (if fields.any Field.isTransferEncoding then .chunkSize else .body) := by
  rw [follows_iff rfl (by decide)]
  simp only [finishLine, set_cursor_state, headerState, finishHeaderLine, or_else_again,
    List.isEmpty_nil, if_true, proceed_again, limit_header_line_passes, end_headers_passes]
  constructor
  · intro parts
    obtain ⟨_, ⟨_, ⟨-, size, rfl⟩, _, ⟨hosts, both, -, rfl⟩, rfl⟩, rfl⟩ := parts
    exact ⟨size, hosts, both, rfl⟩
  · intro parts
    obtain ⟨size, hosts, both, rfl⟩ := parts
    exact ⟨_, ⟨_, ⟨Nat.zero_le _, size, rfl⟩, _, ⟨hosts, both, id, rfl⟩, rfl⟩, rfl⟩

theorem limit_chunk_size_passes (size : Nat) :
    limitChunkSize size parser = (none, next) ↔
      size ≤ maxHeaderLineSize ∧ next = parser := by
  unfold limitChunkSize
  exact refused_passes Nat.not_lt

/-- The parser behind a chunk-size line. -/
def chunkStart (parser : HttpParser) (number : Nat) : HttpParser :=
  { parser.setCursor 0 with
    chunkSize := number
    chunkBytesRead := 0
    state := if number = 0 then .chunkTrailers else .chunkData }

theorem size_line_follows (state : parser.state = .chunkSize) (free : LineEndFree line) :
    Follows parser line next ↔
      ∃ size : SizeLine, size.WellFormed ∧ size.line = line ∧
        next = parser.chunkStart size.number := by
  rw [follows_iff (by rw [state]; rfl) free]
  simp only [finishLine, set_cursor_state, state, proceed_again, and_then_passes,
    limit_chunk_size_passes]
  constructor
  · intro parts
    obtain ⟨_, ⟨_, ⟨_, ⟨lineSize, rfl⟩, passes⟩, rfl⟩, rfl⟩ := parts
    cases valid : isValidChunkSize line with
    | none =>
        simp only [readChunkSize, valid] at passes
        cases passes
    | some number =>
        obtain ⟨size, rfl, left, some, digits, right, extension, rfl, bound⟩ :=
          (is_valid_chunk_size_eq_some _ _).mp valid
        simp only [readChunkSize, valid, Prod.mk.injEq, true_and] at passes
        exact ⟨size, ⟨left, some, digits, right, extension, bound, lineSize, free⟩, rfl,
          by rw [← passes]; rfl⟩
  · intro parts
    obtain ⟨size, shaped, rfl, rfl⟩ := parts
    have valid := (is_valid_chunk_size_eq_some size.line size.number).mpr
      ⟨size, rfl, shaped.left, shaped.some, shaped.digits, shaped.right, shaped.extension, rfl,
        shaped.bound⟩
    have passes : readChunkSize size.line (parser.setCursor 0) =
        (none, parser.chunkStart size.number) := by
      simp only [readChunkSize, valid]
      rfl
    exact ⟨_, ⟨_, ⟨_, ⟨shaped.lineSize, rfl⟩, passes⟩, rfl⟩, rfl⟩

theorem limit_trailer_line_passes (size : Nat) :
    limitTrailerLine size parser = (none, next) ↔
      parser.trailerSize + size + 2 ≤ maxHeadersSize ∧
        next = { parser with trailerSize := parser.trailerSize + (size + 2) } := by
  unfold limitTrailerLine
  exact refused_passes Nat.not_lt

theorem read_trailer_line_passes :
    readTrailerLine line parser = (none, next) ↔
      (splitName line).isSome ∧ parser.trailerCount + 1 ≤ maxHeaderCount ∧
        next = { parser with trailerCount := parser.trailerCount + 1 } := by
  unfold readTrailerLine
  simp only [and_then_passes, countTrailer, readTrailer]
  cases splitName line with
  | none => simp
  | some parts =>
      split_ifs with full
      · simp only [Prod.mk.injEq, reduceCtorEq, false_and, exists_false, Option.isSome_some,
          true_and, false_iff, not_and]
        omega
      · simp only [Prod.mk.injEq, true_and, exists_eq_left', Option.isSome_some]
        constructor
        · intro same
          exact ⟨by omega, same.symm⟩
        · intro same
          exact same.2.symm

/-- The parser behind a trailer line. -/
def trailerNext (parser : HttpParser) (size : Nat) : HttpParser :=
  { parser.setCursor 0 with
    trailerSize := parser.trailerSize + (size + 2)
    trailerCount := parser.trailerCount + 1 }

theorem finish_line_trailers (state : parser.state = .chunkTrailers) (cursor : Nat) :
    finishLine (parser.setCursor 0) line cursor =
      finishTrailerLine line cursor (parser.setCursor 0) := by
  unfold finishLine
  rw [set_cursor_state, state]

theorem trailer_line_follows (state : parser.state = .chunkTrailers) (some : line ≠ [])
    (free : LineEndFree line) :
    Follows parser line next ↔
      ∃ field : Field, field.WellFormed ∧ field.line = line ∧
        parser.trailerSize + line.length + 2 ≤ maxHeadersSize ∧
        parser.trailerCount + 1 ≤ maxHeaderCount ∧
        next = parser.trailerNext line.length := by
  have notBlank : ¬line.isEmpty := by simpa using some
  rw [follows_iff (by rw [state]; rfl) free, finish_line_trailers state]
  simp only [finishTrailerLine, or_else_again, if_neg notBlank, proceed_again,
    limit_trailer_line_passes, read_trailer_line_passes]
  constructor
  · intro parts
    obtain ⟨_, ⟨_, ⟨size, rfl⟩, _, ⟨named, count, rfl⟩, rfl⟩, rfl⟩ := parts
    obtain ⟨⟨name, colonAt⟩, split⟩ := Option.isSome_iff_exists.mp named
    obtain ⟨field, wellFormed, same⟩ := field_of_line free split
    exact ⟨field, wellFormed, same, size, count, rfl⟩
  · intro parts
    obtain ⟨field, wellFormed, rfl, size, count, rfl⟩ := parts
    have named : (splitName field.line).isSome := by rw [split_name_field wellFormed]; rfl
    exact ⟨_, ⟨_, ⟨size, rfl⟩, _, ⟨named, count, rfl⟩, rfl⟩, rfl⟩

theorem proceed_not_complete {check : Check} (rejects : check.Rejects) (cursor : Nat) :
    check.proceed cursor parser ≠ .answer .complete next := by
  unfold Check.proceed Check.orElse
  cases answered : check parser with
  | mk error middle =>
      cases error with
      | none => simp
      | some error =>
          intro complete
          simp only [Progress.answer.injEq] at complete
          exact (rejects parser error middle answered).2 complete.1

/-- Only the blank line behind the trailers completes a request. -/
theorem finish_line_complete {cursor : Nat} (isLine : parser.state.isLine)
    (complete : finishLine parser line cursor = .answer .complete next) :
    parser.state = .chunkTrailers ∧ line = [] ∧ parser.trailerSize + 2 ≤ maxHeadersSize := by
  unfold finishLine at complete
  cases state : parser.state with
  | requestLine =>
      simp only [state] at complete
      exact absurd complete (proceed_not_complete ((limit_request_line_rejects _).andThen
        ((read_request_line_rejects line).andThen enter_headers_rejects)) cursor)
  | headers =>
      simp only [state, finishHeaderLine, Check.orElse] at complete
      cases answered : limitHeaderLine line.length parser with
      | mk error middle =>
          simp only [answered] at complete
          cases error with
          | some error =>
              simp only [Progress.answer.injEq] at complete
              exact absurd complete.1 (limit_header_line_rejects _ _ _ _ answered).2
          | none =>
              simp only at complete
              split_ifs at complete
              · exact absurd complete (proceed_not_complete end_headers_rejects cursor)
              · exact absurd complete (proceed_not_complete (read_header_line_rejects line) cursor)
  | chunkSize =>
      simp only [state] at complete
      exact absurd complete (proceed_not_complete ((limit_chunk_size_rejects _).andThen
        (read_chunk_size_rejects line)) cursor)
  | chunkTrailers =>
      simp only [state, finishTrailerLine, Check.orElse] at complete
      cases answered : limitTrailerLine line.length parser with
      | mk error middle =>
          simp only [answered] at complete
          cases error with
          | some error =>
              simp only [Progress.answer.injEq] at complete
              exact absurd complete.1 (limit_trailer_line_rejects _ _ _ _ answered).2
          | none =>
              simp only at complete
              split_ifs at complete with blank
              · obtain rfl : line = [] := by simpa using blank
                have size := ((limit_trailer_line_passes _).mp answered).1
                exact ⟨rfl, rfl, by simpa using size⟩
              · exact absurd complete (proceed_not_complete (read_trailer_line_rejects line) cursor)
  | body => simp [state, State.isLine] at isLine
  | chunkData => simp [state, State.isLine] at isLine
  | chunkDataCRLF => simp [state, State.isLine] at isLine

theorem blank_trailer_ends (state : parser.state = .chunkTrailers) :
    ¬Follows parser [] next := by
  rw [follows_iff (by rw [state]; rfl) (by decide), finish_line_trailers state]
  simp [finishTrailerLine, or_else_again]

theorem trailers_complete (state : parser.state = .chunkTrailers)
    (size : parser.trailerSize + 2 ≤ maxHeadersSize) :
    readStep parser crlf =
      .answer .complete { parser.setCursor 0 with trailerSize := parser.trailerSize + 2 } 2 := by
  have step := read_step_finished_line (show parser.state.isLine by rw [state]; rfl)
    (show firstOccurrence crlf [] = none by decide) []
  rw [List.nil_append, List.append_nil] at step
  have passes := (limit_trailer_line_passes 0).mpr
    ⟨show (parser.setCursor 0).trailerSize + 0 + 2 ≤ maxHeadersSize from size, rfl⟩
  rw [step, finish_line_trailers state]
  simp only [finishTrailerLine, Check.orElse, List.length_nil, passes, List.isEmpty_nil,
    if_true]
  rfl

end Lines

end Aorta.Http.HttpParser
