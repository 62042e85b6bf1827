import Aorta.Net.Pipelining

/-!
# Fragments and line limits

A finished line may have 8192 bytes, and a trailer line even more; an unfinished
one is given up once more than 8192 bytes of it have arrived, and the CR of its
line end counts. So an acceptable request is refused exactly when some fragment
stops too deep inside an unfinished line.
-/

namespace Aorta.Net.Connection

open Aorta.Library.Ascii Aorta.Library.Search Aorta.Library.Resume Aorta.Http
open Aorta.Http.HttpParser

set_option autoImplicit false

/-- `NeedMoreData` until the last of the `needed` bytes is there, and then `Complete`. -/
def WaitsThenCompletes (needed : Nat) (fragments : List Bytes) (feeding : Feeding) : Prop :=
  ∃ before last after, fragments = before ++ last :: after ∧
    before.flatten.length < needed ∧ needed ≤ (before ++ [last]).flatten.length ∧
    feeding.answers = List.replicate before.length .needMoreData ++ [.complete]

/-- No fragment stops behind more than 8192 bytes of an unfinished line. -/
def StopsInTime (pieces : List Piece) (fragments : List Bytes) : Prop :=
  ∀ before after, fragments = before ++ after →
    before.flatten.length < (piecesBytes pieces).length →
    unfinishedLine pieces before.flatten.length ≤ maxHeaderLineSize

section Stream

variable {message : Message} {tail : Bytes}

theorem answer_behind (valid : message.Valid) {fed rest : Bytes}
    (part : fed ++ rest = message.encode ++ tail) (enough : message.encode.length ≤ fed.length) :
    (({} : HttpParser).parse fed).1 = .complete := by
  have front := congrArg (List.take message.encode.length) part
  rw [List.take_append_of_le_length enough, List.take_left] at front
  have split := List.take_append_drop message.encode.length fed
  rw [front] at split
  obtain ⟨final, parsed, -⟩ := parse_message valid (fed.drop message.encode.length)
  rw [← split, parsed]

theorem answer_inside (valid : message.Valid) {fed rest : Bytes}
    (part : fed ++ rest = message.encode ++ tail) (short : fed.length < message.encode.length) :
    (({} : HttpParser).parse fed).1 ≠ .complete ∧
      ((({} : HttpParser).parse fed).1 = .needMoreData ↔
        unfinishedLine message.pieces fed.length ≤ maxHeaderLineSize) := by
  have front := congrArg (List.take fed.length) part
  rw [List.take_left, List.take_append_of_le_length (Nat.le_of_lt short)] at front
  obtain ⟨final, walk, -⟩ := walk_message valid
  have cut := walk.cut short
  have encoded : piecesBytes message.pieces = message.encode := rfl
  rw [encoded, ← front] at cut
  rw [parse_at_start _ rfl]
  exact cut

end Stream

/-- The fragment that brings the last needed byte. -/
theorem crossing (needed : Nat) (fragments : List Bytes) (positive : 0 < needed)
    (enough : needed ≤ fragments.flatten.length) :
    ∃ before last after, fragments = before ++ last :: after ∧
      before.flatten.length < needed ∧ needed ≤ (before ++ [last]).flatten.length := by
  induction fragments generalizing needed with
  | nil =>
      simp only [List.flatten_nil, List.length_nil] at enough
      omega
  | cons fragment fragments ih =>
      rw [List.flatten_cons, List.length_append] at enough
      by_cases first : needed ≤ fragment.length
      · exact ⟨[], fragment, fragments, rfl, positive, by simpa using first⟩
      · obtain ⟨before, last, after, rfl, short, long⟩ :=
          ih (needed - fragment.length) (by omega) (by omega)
        refine ⟨fragment :: before, last, after, rfl, ?_, ?_⟩
        · rw [List.flatten_cons, List.length_append]
          omega
        · rw [List.cons_append, List.flatten_cons, List.length_append]
          omega

theorem unfinished_at_start (message : Message) : unfinishedLine message.pieces 0 = 0 := by
  simp [Message.pieces, Message.headPieces, unfinishedLine]

section Feeding

variable {message : Message} {tail : Bytes} {fragments : List Bytes} {fd reactorId : Int}

theorem stops_in_time_waits (valid : message.Valid)
    (stream : fragments.flatten = message.encode ++ tail)
    (inTime : StopsInTime message.pieces fragments) :
    WaitsThenCompletes message.encode.length fragments
      ((accepted fd reactorId).feedAll fragments) := by
  have total : message.encode.length ≤ fragments.flatten.length := by
    rw [stream, List.length_append]
    omega
  obtain ⟨before, last, after, rfl, short, long⟩ :=
    crossing message.encode.length fragments message.encode_positive total
  refine ⟨before, last, after, rfl, short, long, ?_⟩
  have complete : (({} : HttpParser).parse ((before ++ [last]).flatten)).1 = .complete := by
    have part : (before ++ [last]).flatten ++ after.flatten = message.encode ++ tail := by
      rw [← stream]
      simp
    exact answer_behind valid part long
  have answers := feed_all_answers before last after (accepted_in_step fd reactorId) (by
    intro front rest split some
    have size : front.flatten.length < message.encode.length := by
      rw [split, List.flatten_append, List.length_append] at short
      omega
    have part : front.flatten ++ (rest ++ last :: after).flatten = message.encode ++ tail := by
      rw [← stream, split]
      simp
    apply (answer_inside valid part size).2.mpr
    apply inTime front (rest ++ last :: after) _ size
    rw [split, List.append_assoc]) (by rw [List.nil_append, complete]; decide)
  rw [answers, List.nil_append, complete]

theorem waits_stops_in_time (valid : message.Valid)
    (stream : fragments.flatten = message.encode ++ tail)
    (waits : WaitsThenCompletes message.encode.length fragments
      ((accepted fd reactorId).feedAll fragments)) :
    StopsInTime message.pieces fragments := by
  obtain ⟨before, last, after, split, short, long, answers⟩ := waits
  intro front rest cut size
  change front.flatten.length < message.encode.length at size
  by_cases empty : front = []
  · rw [empty, List.flatten_nil, List.length_nil, unfinished_at_start]
    exact Nat.zero_le _
  · -- a longer front would already hold the fragment that completes the message
    have few : front.length ≤ before.length := by
      by_contra many
      have inFront : before ++ [last] <+: front := by
        have short : before ++ [last] <+: fragments := ⟨after, by rw [split]; simp⟩
        have long : front <+: fragments := ⟨rest, cut.symm⟩
        apply List.prefix_of_prefix_length_le short long
        simp only [List.length_append, List.length_singleton]
        omega
      obtain ⟨more, same⟩ := inFront
      rw [← same, List.flatten_append, List.length_append] at size
      omega
    have waited := feed_all_waited fragments (accepted_in_step fd reactorId) answers front rest
      cut empty few
    have part : front.flatten ++ rest.flatten = message.encode ++ tail := by
      rw [← stream, cut, List.flatten_append]
    exact (answer_inside valid part size).2.mp waited

end Feeding

/-- A stream that a fresh parser accepts starts with a valid message. Fed in
non-empty fragments it is accepted, with the last needed byte and not before,
exactly when no fragment stops behind more than 8192 bytes of an unfinished
request line, header line, chunk-size line or trailer line. -/
theorem fragmented_request_accepted_iff (fd reactorId : Int) (stream : Bytes)
    (whole : HttpParser) (accepts : ({} : HttpParser).parse stream = (.complete, whole)) :
    ∃ (message : Message) (tail : Bytes), message.Valid ∧ stream = message.encode ++ tail ∧
      whole.getConsumedBytes = message.encode.length ∧
      ∀ fragments : List Bytes, (∀ fragment ∈ fragments, fragment ≠ []) →
        fragments.flatten = stream →
        (WaitsThenCompletes whole.getConsumedBytes fragments
            ((accepted fd reactorId).feedAll fragments) ↔
          StopsInTime message.pieces fragments) := by
  obtain ⟨message, tail, valid, rfl, -, consumed⟩ := message_of_complete accepts
  refine ⟨message, tail, valid, rfl, consumed, ?_⟩
  intro fragments _ cut
  rw [consumed]
  constructor
  · exact waits_stops_in_time valid cut
  · exact stops_in_time_waits valid cut

/-- A short request with two bytes behind it. -/
theorem fragmented_get_accepted_iff :
    let stream := ascii "GET / HTTP/1.1\r\nHost: a\r\n\r\nGE"
    let whole := (({} : HttpParser).parse stream).2
    ({} : HttpParser).parse stream = (.complete, whole) ∧
      ∃ (message : Message) (tail : Bytes), message.Valid ∧ stream = message.encode ++ tail ∧
        whole.getConsumedBytes = message.encode.length ∧
        ∀ fragments : List Bytes, (∀ fragment ∈ fragments, fragment ≠ []) →
          fragments.flatten = stream →
          (WaitsThenCompletes whole.getConsumedBytes fragments
              ((accepted 7 0).feedAll fragments) ↔
            StopsInTime message.pieces fragments) := by
  have parsed : ({} : HttpParser).parse (ascii "GET / HTTP/1.1\r\nHost: a\r\n\r\nGE") =
      (.complete,
        (({} : HttpParser).parse (ascii "GET / HTTP/1.1\r\nHost: a\r\n\r\nGE")).2) := by decide
  exact ⟨parsed, fragmented_request_accepted_iff 7 0 _ _ parsed⟩

def longGet (size : Nat) : Message where
  method := ascii "GET"
  target := List.replicate size 47
  fields := [plainField "Host" "a"]
  framing := .empty

theorem long_get_line (size : Nat) : (longGet size).requestLine.length = size + 13 := by
  simp [longGet, Message.requestLine, ascii]

theorem long_get_valid {size : Nat} (some : 0 < size) (fits : size + 13 ≤ maxRequestLineSize) :
    (longGet size).Valid where
  method := (by decide : isValidMethod (ascii "GET"))
  target := by
    rw [is_valid_target_iff]
    simp [longGet]
    omega
  targetSpace := by simp [longGet, space]
  lineSize := by rwa [long_get_line]
  fields := (by decide : Admissible [plainField "Host" "a"])
  headSize := (by decide : blockSize [plainField "Host" "a"] + 2 ≤ maxHeadersSize)
  host := (by decide : [plainField "Host" "a"].countP Field.isHost = 1)
  framing := (by decide : Framing.empty.Valid [plainField "Host" "a"])

theorem long_get_length (size : Nat) : (longGet size).encode.length = size + 26 := by
  have rest : (longGet size).encode = (longGet size).requestLine ++ crlf ++
      piecesBytes (fieldPieces [plainField "Host" "a"] ++ [.line []] ++ [.data []]) := rfl
  have fixed : (piecesBytes (fieldPieces [plainField "Host" "a"] ++ [.line []] ++
      [.data []])).length = 11 := by decide
  rw [rest, List.length_append, fixed, List.length_append, long_get_line]
  simp [crlf]

theorem long_get_cut (size : Nat) (long : maxRequestLineSize < size + 14) :
    (({} : HttpParser).parse ((longGet size).encode.take (size + 14))).1 =
      .requestLineTooLarge := by
  have line := long_get_line size
  have lineFree : firstOccurrence crlf (longGet size).requestLine = none := by
    apply line_end_free_of_no_cr
    simp [longGet, Message.requestLine, ascii, space]
  have inside : size + 14 < ((longGet size).requestLine ++ crlf).length := by
    rw [List.length_append, line]
    simp [crlf]
  have front : (longGet size).encode.take (size + 14) =
      ((longGet size).requestLine ++ crlf).take (size + 14) := by
    have split : (longGet size).encode = ((longGet size).requestLine ++ crlf) ++
        piecesBytes ((fieldPieces (longGet size).fields ++ [.line []]) ++
          (longGet size).framing.pieces) := rfl
    rw [split, List.take_append_of_le_length (Nat.le_of_lt inside)]
  have step := read_step_unfinished_line (show State.isLine ({} : HttpParser).state from rfl)
    lineFree inside
  rw [parse_at_start _ rfl, front, reader.run_answer (show reader.step _ _ = _ from step)]
  simp only [pendingLine, pendingRequestLine]
  rw [if_pos long]

/-- Uncut, the longest allowed request line is accepted; cut in front of its LF,
the first fragment already answers `RequestLineTooLarge`. -/
theorem longest_request_line_cut_before_line_feed :
    let stream := (longGet 8179).encode
    let fragments := [stream.take 8193, stream.drop 8193]
    (∃ whole, ({} : HttpParser).parse stream = (.complete, whole)) ∧
      fragments.flatten = stream ∧ (∀ fragment ∈ fragments, fragment ≠ []) ∧
      ((accepted 7 0).feedAll fragments).answers = [.requestLineTooLarge] := by
  have valid : (longGet 8179).Valid := long_get_valid (by decide) (by decide)
  obtain ⟨whole, parsed, -⟩ := parse_message valid []
  rw [List.append_nil] at parsed
  have cut := long_get_cut 8179 (by decide)
  have length := long_get_length 8179
  generalize (longGet 8179).encode = stream at parsed cut length
  refine ⟨⟨whole, parsed⟩, ?_, ?_, ?_⟩
  · simp
  · intro fragment member empty
    simp only [List.mem_cons, List.not_mem_nil, or_false] at member
    subst empty
    rcases member with first | second
    · have size := congrArg List.length first
      simp [length] at size
    · have size := congrArg List.length second
      simp [length] at size
  · have answers := feed_all_answers [] (stream.take 8193) [stream.drop 8193]
      (accepted_in_step 7 0) (by
        intro front rest split some
        exact absurd (List.append_eq_nil_iff.mp split.symm).1 some)
    simp only [List.nil_append, List.flatten_cons, List.flatten_nil, List.append_nil,
      List.length_nil, List.replicate_zero, cut] at answers
    exact answers (by decide)

end Aorta.Net.Connection
