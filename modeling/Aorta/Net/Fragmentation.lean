import Aorta.Net.Connection
import Aorta.Http.HttpReader

/-!
# Fragmented input

A connection feeds its parser whatever `recv` hands out: the bytes are appended
to the receive buffer, the parser runs, and after `NeedMoreData` the consumed
prefix is erased. At every moment such a connection stands exactly where one
`parse` call over all bytes received so far would stand.
-/

namespace Aorta.Net.Connection

open Aorta.Library.Ascii Aorta.Library.Resume Aorta.Http Aorta.Http.HttpParser

set_option autoImplicit false

/-- Append a fragment, parse, and after `NeedMoreData` drop what was consumed. -/
def feed (connection : Connection) (fragment : Bytes) : ParseResult × Connection :=
  let connection :=
    { connection with receiveBuffer := connection.receiveBuffer ++ fragment }
  let (result, connection) := connection.parseRequest
  if result = .needMoreData then (result, connection.consumeParsedBytes)
  else (result, connection)

/-- What feeding fragments led to: the answers given, the bytes fed, the
connection afterwards. -/
structure Feeding where
  answers : List ParseResult
  fed : Bytes
  connection : Connection

/-- Feed fragments up to the first answer other than `NeedMoreData`. -/
def feedAll (connection : Connection) : List Bytes → Feeding
  | [] => ⟨[], [], connection⟩
  | fragment :: fragments =>
      if (connection.feed fragment).1 = .needMoreData then
        let rest := (connection.feed fragment).2.feedAll fragments
        { rest with answers := .needMoreData :: rest.answers, fed := fragment ++ rest.fed }
      else ⟨[(connection.feed fragment).1], fragment, (connection.feed fragment).2⟩

/-- The connection stands where a fresh parser over all the bytes `fed` stands. -/
def InStep (connection : Connection) (fed : Bytes) : Prop :=
  connection.parser.cursor = 0 ∧
    reader.CaughtUp {} fed connection.parser connection.receiveBuffer

theorem parse_at_start (parser : HttpParser) (atStart : parser.cursor = 0) (buffer : Bytes) :
    parser.parse buffer =
      ((reader.run parser buffer).answer,
        (reader.run parser buffer).state.setCursor (reader.run parser buffer).used) := by
  rw [parse_eq_run (by rw [atStart]; exact Nat.zero_le _), atStart, List.drop_zero,
    Nat.zero_add]

/-- After `NeedMoreData` at most an unfinished line is left. -/
theorem hungry_rest {connection after : Connection} (rewound : connection.parser.cursor = 0)
    (hungry : connection.parseRequest = (.needMoreData, after)) :
    after.consumeParsedBytes.receiveBuffer.length ≤ maxHeaderLineSize := by
  have parsed := parse_at_start connection.parser rewound connection.receiveBuffer
  have rest := reader.run_rest_le (fun step => (step_hungry step).2.1) connection.parser
    connection.receiveBuffer
  unfold parseRequest at hungry
  rw [parsed] at hungry
  obtain ⟨answer, rfl⟩ := Prod.mk.inj hungry
  rw [consume_parsed_bytes_buffer, set_cursor_cursor, List.length_drop]
  exact Nat.sub_le_iff_le_add'.mpr (rest answer)

section Feed

variable {connection : Connection} (fragment : Bytes)

theorem feed_answer (atStart : connection.parser.cursor = 0) :
    (connection.feed fragment).1 =
      (reader.run connection.parser (connection.receiveBuffer ++ fragment)).answer := by
  simp only [feed, parseRequest, parse_at_start _ atStart]
  split_ifs <;> rfl

theorem feed_hungry (atStart : connection.parser.cursor = 0)
    (hungry : (connection.feed fragment).1 = .needMoreData) :
    let reading := reader.run connection.parser (connection.receiveBuffer ++ fragment)
    (connection.feed fragment).2.parser = reading.state.setCursor 0 ∧
      (connection.feed fragment).2.receiveBuffer =
        (connection.receiveBuffer ++ fragment).drop reading.used := by
  have answer := hungry
  rw [feed_answer fragment atStart] at answer
  simp only [feed, parseRequest, parse_at_start _ atStart, answer, if_true,
    consume_parsed_bytes_rewinds, consume_parsed_bytes_buffer, set_cursor_cursor]
  exact ⟨rfl, trivial⟩

theorem feed_done (atStart : connection.parser.cursor = 0)
    (done : (connection.feed fragment).1 ≠ .needMoreData) :
    let reading := reader.run connection.parser (connection.receiveBuffer ++ fragment)
    (connection.feed fragment).2.parser = reading.state.setCursor reading.used ∧
      (connection.feed fragment).2.receiveBuffer = connection.receiveBuffer ++ fragment := by
  have answer := done
  rw [feed_answer fragment atStart] at answer
  simp only [feed, parseRequest, parse_at_start _ atStart, if_neg answer]
  exact ⟨trivial, trivial⟩

/-- The answer is the one a fresh parser gives on everything fed so far. -/
theorem in_step_answer {fed : Bytes} (inStep : connection.InStep fed) :
    (connection.feed fragment).1 = (({} : HttpParser).parse (fed ++ fragment)).1 := by
  rw [feed_answer fragment inStep.1, parse_at_start _ rfl]
  exact (reader.caught_up_answer fragment inStep.2).symm

theorem in_step_hungry {fed : Bytes} (inStep : connection.InStep fed)
    (hungry : (connection.feed fragment).1 = .needMoreData) :
    (connection.feed fragment).2.InStep (fed ++ fragment) := by
  obtain ⟨parser, buffer⟩ := feed_hungry fragment inStep.1 hungry
  rw [feed_answer fragment inStep.1] at hungry
  constructor
  · rw [parser]
    rfl
  · rw [parser, buffer]
    have next := reader.caught_up_hungry fragment inStep.2 hungry
    unfold Reader.CaughtUp at next ⊢
    simpa only [run_set_cursor] using next

theorem in_step_complete {fed : Bytes} (inStep : connection.InStep fed)
    (complete : (connection.feed fragment).1 = .complete) :
    let whole := (({} : HttpParser).parse (fed ++ fragment)).2
    whole.getRequest = (connection.feed fragment).2.getRequest ∧
      (fed ++ fragment).drop whole.getConsumedBytes =
        (connection.feed fragment).2.receiveBuffer.drop
          (connection.feed fragment).2.getConsumedBytes := by
  have done : (connection.feed fragment).1 ≠ .needMoreData := by
    rw [complete]
    decide
  obtain ⟨parser, buffer⟩ := feed_done fragment inStep.1 done
  rw [feed_answer fragment inStep.1] at complete
  obtain ⟨state, left⟩ := reader.caught_up_accepted fragment inStep.2 complete
  have whole := parse_at_start {} rfl (fed ++ fragment)
  simp only [getRequest, getConsumedBytes, HttpParser.getRequest, HttpParser.getConsumedBytes,
    parser, buffer, whole, set_cursor_request, set_cursor_cursor]
  exact ⟨by rw [state], left⟩

end Feed

def accepted (fd reactorId : Int) : Connection := { fd := fd, reactorId := reactorId }

theorem accepted_in_step (fd reactorId : Int) : (accepted fd reactorId).InStep [] :=
  ⟨rfl, reader.caught_up_start {}⟩

theorem feed_all_complete (fragments : List Bytes) (before : Bytes) (connection : Connection)
    (inStep : connection.InStep before)
    (completes : .complete ∈ (connection.feedAll fragments).answers) :
    let feeding := connection.feedAll fragments
    ∃ whole, ({} : HttpParser).parse (before ++ feeding.fed) = (.complete, whole) ∧
      whole.getRequest = feeding.connection.getRequest ∧
      (before ++ feeding.fed).drop whole.getConsumedBytes =
        feeding.connection.receiveBuffer.drop feeding.connection.getConsumedBytes := by
  induction fragments generalizing before connection with
  | nil => cases completes
  | cons fragment fragments ih =>
      unfold feedAll at completes ⊢
      by_cases hungry : (connection.feed fragment).1 = .needMoreData
      · simp only [if_pos hungry, List.mem_cons, reduceCtorEq, false_or] at completes ⊢
        have rest := ih (before ++ fragment) _ (in_step_hungry fragment inStep hungry) completes
        simpa only [List.append_assoc] using rest
      · simp only [if_neg hungry, List.mem_singleton] at completes ⊢
        have answer := in_step_answer fragment inStep
        exact ⟨_, Prod.ext (answer.symm.trans completes.symm) rfl,
          in_step_complete fragment inStep completes.symm⟩

/-- Fragment by fragment the answers are those a fresh parser gives on the growing
stream. -/
theorem feed_all_answers (before : List Bytes) (last : Bytes) (after : List Bytes)
    {connection : Connection} {fed : Bytes} (inStep : connection.InStep fed)
    (waits : ∀ front rest, before = front ++ rest → front ≠ [] →
      (({} : HttpParser).parse (fed ++ front.flatten)).1 = .needMoreData)
    (done : (({} : HttpParser).parse (fed ++ (before ++ [last]).flatten)).1 ≠ .needMoreData) :
    (connection.feedAll (before ++ last :: after)).answers =
      List.replicate before.length .needMoreData ++
        [(({} : HttpParser).parse (fed ++ (before ++ [last]).flatten)).1] := by
  induction before generalizing connection fed with
  | nil =>
      have answer := in_step_answer last inStep
      simp only [List.nil_append, List.flatten_cons, List.flatten_nil, List.append_nil]
        at done ⊢
      rw [← answer] at done ⊢
      simp [feedAll, done]
  | cons fragment before ih =>
      have answer := in_step_answer fragment inStep
      have first := waits [fragment] before rfl (by simp)
      simp only [List.flatten_cons, List.flatten_nil, List.append_nil] at first
      rw [first] at answer
      simp only [List.cons_append, List.flatten_cons, ← List.append_assoc fed] at done ⊢
      have rest := ih (in_step_hungry fragment inStep answer) (by
        intro front rest split some
        have whole := waits (fragment :: front) rest (by rw [split]; rfl) (by simp)
        rwa [List.flatten_cons, ← List.append_assoc] at whole) done
      simp only [feedAll, if_pos answer, rest]
      rfl

/-- Where the connection only asked for more, a fresh parser asks for more. -/
theorem feed_all_waited (fragments : List Bytes) {connection : Connection} {fed : Bytes}
    (inStep : connection.InStep fed) {count : Nat} {others : List ParseResult}
    (answers : (connection.feedAll fragments).answers =
      List.replicate count .needMoreData ++ others)
    (front rest : List Bytes) (split : fragments = front ++ rest) (some : front ≠ [])
    (few : front.length ≤ count) :
    (({} : HttpParser).parse (fed ++ front.flatten)).1 = .needMoreData := by
  induction fragments generalizing connection fed count front with
  | nil =>
      have empty : front = [] := (List.append_eq_nil_iff.mp split.symm).1
      exact absurd empty some
  | cons fragment fragments ih =>
      cases front with
      | nil => exact absurd rfl some
      | cons first front =>
          rw [List.cons_append, List.cons.injEq] at split
          obtain ⟨rfl, split⟩ := split
          obtain ⟨count, rfl⟩ : ∃ fewer, count = fewer + 1 := by
            rw [List.length_cons] at few
            exact ⟨count - 1, by omega⟩
          have answer := in_step_answer fragment inStep
          have waits : (connection.feed fragment).1 = .needMoreData := by
            by_contra done
            simp only [feedAll, if_neg done, List.replicate_succ, List.cons_append,
              List.cons.injEq] at answers
            exact done answers.1
          rw [List.flatten_cons, ← List.append_assoc]
          by_cases last : front = []
          · rw [last, List.flatten_nil, List.append_nil, ← answer, waits]
          · simp only [feedAll, if_pos waits, List.replicate_succ, List.cons_append,
              List.cons.injEq, true_and] at answers
            rw [List.length_cons] at few
            exact ih (in_step_hungry fragment inStep waits) answers front split last (by omega)

/-- However the stream is cut, a request the connection accepts is the request a
fresh parser finds in the uncut bytes, with the same bytes left over. -/
theorem fragmented_request_is_whole_request (fd reactorId : Int) (fragments : List Bytes)
    (completes : .complete ∈ ((accepted fd reactorId).feedAll fragments).answers) :
    let feeding := (accepted fd reactorId).feedAll fragments
    ∃ whole, ({} : HttpParser).parse feeding.fed = (.complete, whole) ∧
      whole.getRequest = feeding.connection.getRequest ∧
      feeding.fed.drop whole.getConsumedBytes =
        feeding.connection.receiveBuffer.drop feeding.connection.getConsumedBytes :=
  feed_all_complete fragments [] _ (accepted_in_step fd reactorId) completes

/-- A request cut inside a header name and between the last CR and LF, with the
start of another request behind it. -/
theorem fragmented_get_is_whole_get :
    let fragments := [ascii "GET / HTTP/1.1\r\nHo", ascii "st: a\r\n\r", ascii "\nGET"]
    let feeding := (accepted 7 0).feedAll fragments
    feeding.answers = [.needMoreData, .needMoreData, .complete] ∧
      ∃ whole, ({} : HttpParser).parse feeding.fed = (.complete, whole) ∧
        whole.getRequest = feeding.connection.getRequest ∧
        feeding.fed.drop whole.getConsumedBytes =
          feeding.connection.receiveBuffer.drop feeding.connection.getConsumedBytes :=
  ⟨by decide, fragmented_request_is_whole_request 7 0
    [ascii "GET / HTTP/1.1\r\nHo", ascii "st: a\r\n\r", ascii "\nGET"] (by decide)⟩

end Aorta.Net.Connection
