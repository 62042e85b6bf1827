import Aorta.Library.Run
import Aorta.Net.Connection

/-!
# The output of a connection

What `Connection::write` puts on the socket, compared with what the entries of
the output queue announce. The two kinds of entries differ in one place only: a
`send` that answers 0 is an error, while a `sendfile` that answers 0 counts as the
end of the file, however many of the announced bytes are still missing.
-/

namespace Aorta.Net

open Aorta.Library.Ascii Aorta.Library.Run

set_option autoImplicit false

/-- A byte on the socket: of a response, or at a position of an open file. -/
inductive WireByte where
  | memory (byte : Byte)
  | file (fileFd : Int) (position : Nat)
deriving DecidableEq, Repr

def Sent.wire : Sent → List WireByte
  | .bytes data => data.map .memory
  | .file fileFd offset count => (List.range' offset count).map (.file fileFd)

namespace OutputBuffer

def offset : OutputBuffer → Nat
  | .memory _ offset => offset
  | .file _ _ offset => offset

def isFile : OutputBuffer → Bool
  | .memory _ _ => false
  | .file _ _ _ => true

def announced : OutputBuffer → List WireByte
  | .memory data _ => data.map .memory
  | .file fileFd fileSize _ => (List.range' 0 fileSize).map (.file fileFd)

def unsent (output : OutputBuffer) : List WireByte := output.announced.drop output.offset

def left (output : OutputBuffer) : Nat := output.size - output.offset

def finished (output : OutputBuffer) : Bool := output.offset ≥ output.size

def advance (count : Nat) : OutputBuffer → OutputBuffer
  | .memory data offset => .memory data (offset + count)
  | .file fileFd fileSize offset => .file fileFd fileSize (offset + count)

def emit (count : Nat) : OutputBuffer → Sent
  | .memory data offset => .bytes ((data.drop offset).take count)
  | .file fileFd _ offset => .file fileFd offset count

@[simp] theorem announced_length (output : OutputBuffer) :
    output.announced.length = output.size := by
  cases output <;> simp [announced, size]

@[simp] theorem advance_size (output : OutputBuffer) (count : Nat) :
    (output.advance count).size = output.size := by
  cases output <;> rfl

@[simp] theorem advance_offset (output : OutputBuffer) (count : Nat) :
    (output.advance count).offset = output.offset + count := by
  cases output <;> rfl

@[simp] theorem advance_announced (output : OutputBuffer) (count : Nat) :
    (output.advance count).announced = output.announced := by
  cases output <;> rfl

theorem finished_unsent {output : OutputBuffer} (finished : output.finished = true) :
    output.unsent = [] := by
  apply List.drop_eq_nil_of_le
  rw [announced_length]
  exact of_decide_eq_true finished

theorem unsent_advance (output : OutputBuffer) (count : Nat) :
    (output.advance count).unsent = output.unsent.drop count := by
  unfold unsent
  rw [advance_announced, advance_offset, List.drop_drop]

theorem emit_wire {output : OutputBuffer} {count : Nat} (within : count ≤ output.left) :
    (output.emit count).wire = output.unsent.take count := by
  cases output with
  | memory data offset =>
      simp only [emit, Sent.wire, unsent, announced, OutputBuffer.offset, List.map_take,
        List.map_drop]
  | file fileFd fileSize offset =>
      simp only [emit, Sent.wire, unsent, announced, OutputBuffer.offset, ← List.map_drop,
        ← List.map_take, List.drop_range', Nat.mul_one, Nat.zero_add]
      rw [List.take_range'_of_length_ge]
      exact within

theorem emit_advance {output : OutputBuffer} {count : Nat} (within : count ≤ output.left) :
    (output.emit count).wire ++ (output.advance count).unsent = output.unsent := by
  rw [emit_wire within, unsent_advance, List.take_append_drop]

end OutputBuffer

namespace Connection

theorem queue_response_queue (connection : Connection) (response : Bytes) :
    (connection.queueResponse response).2.outputQueue =
      if (connection.queueResponse response).1 then
        connection.outputQueue ++ [.memory response 0]
      else connection.outputQueue := by
  unfold queueResponse
  by_cases large : response.length > maxOutputQueueSize
  · rw [if_pos large]
    rfl
  · rw [if_neg large]
    by_cases full :
        connection.outputQueueSize + response.length > maxOutputQueueSize
    · rw [if_pos full]
      rfl
    · rw [if_neg full]
      rfl

theorem queue_file_queue (connection : Connection) (openFile : Bytes → Option Int)
    (path : Bytes) (fileSize : Nat) :
    (connection.queueFile openFile path fileSize).2.outputQueue =
      if (connection.queueFile openFile path fileSize).1 then
        connection.outputQueue ++
          ((openFile path).map fun fileFd => OutputBuffer.file fileFd fileSize 0).toList
      else connection.outputQueue := by
  unfold queueFile
  by_cases large : fileSize > maxOutputQueueSize
  · rw [if_pos large]
    rfl
  · rw [if_neg large]
    by_cases full : connection.outputQueueSize + fileSize > maxOutputQueueSize
    · rw [if_pos full]
      rfl
    · rw [if_neg full]
      cases openFile path with
      | none => rfl
      | some fileFd => rfl

theorem queue_response_accepts (connection : Connection) (response : Bytes) :
    (connection.queueResponse response).1 = true ↔
      connection.outputQueueSize + response.length ≤ maxOutputQueueSize := by
  unfold queueResponse
  split_ifs with large full
  · simp only [false_iff]
    omega
  · simp only [false_iff]
    omega
  · simp only [true_iff]
    omega

theorem queue_response_size {connection : Connection} {response : Bytes}
    (accepted : (connection.queueResponse response).1 = true) :
    (connection.queueResponse response).2.outputQueueSize =
      connection.outputQueueSize + response.length := by
  unfold queueResponse at accepted ⊢
  split_ifs at accepted ⊢
  rfl

theorem queue_file_accepts (connection : Connection) (openFile : Bytes → Option Int)
    (path : Bytes) (fileSize : Nat) :
    (connection.queueFile openFile path fileSize).1 = true ↔
      connection.outputQueueSize + fileSize ≤ maxOutputQueueSize ∧
        (openFile path).isSome = true := by
  unfold queueFile
  split_ifs with large full
  · simp only [false_iff, not_and]
    omega
  · simp only [false_iff, not_and]
    omega
  · cases openFile path with
    | none => simp
    | some fileFd =>
        simp only [Option.isSome_some, and_true, true_iff]
        omega

/-- The front entry has sent `count` more bytes and is dropped with its last one. -/
def progress (connection : Connection) (output : OutputBuffer) (count : Nat) : Connection :=
  let connection := connection.setFront (output.advance count)
  if output.offset + count = output.size then connection.popFront output.size else connection

theorem write_loop_cons (fuel : Nat) (results : List SendResult) (connection : Connection)
    {output : OutputBuffer} {rest : List OutputBuffer}
    (queue : connection.outputQueue = output :: rest) :
    writeLoop (fuel + 1) results connection =
      if output.finished then writeLoop fuel results (connection.popFront output.size)
      else
        match results with
        | [] => (.wouldBlock, connection, [])
        | .sent count :: results =>
            let bytesSent := min count output.left
            if bytesSent > 0 then
              let (result, after, wire) :=
                writeLoop fuel results (connection.progress output bytesSent)
              (result, after, output.emit bytesSent :: wire)
            else if output.isFile then writeLoop fuel results (connection.popFront output.size)
            else (.error, connection, [])
        | .wouldBlock :: _ => (.wouldBlock, connection, [])
        | .interrupted :: results => writeLoop fuel results connection
        | .failed :: _ => (.error, connection, []) := by
  cases output with
  | memory data offset =>
      simp only [writeLoop, queue, OutputBuffer.finished, decide_eq_true_eq]
      rfl
  | file fileFd fileSize offset =>
      simp only [writeLoop, queue, OutputBuffer.finished, decide_eq_true_eq]
      rfl

theorem pop_front_queue {connection : Connection} {output : OutputBuffer}
    {rest : List OutputBuffer} (queue : connection.outputQueue = output :: rest) (size : Nat) :
    (connection.popFront size).outputQueue = rest := by
  unfold popFront
  rw [queue, List.tail_cons]

theorem progress_queue {connection : Connection} {output : OutputBuffer}
    {rest : List OutputBuffer} (queue : connection.outputQueue = output :: rest) (count : Nat) :
    (connection.progress output count).outputQueue =
      if output.offset + count = output.size then rest else output.advance count :: rest := by
  unfold progress
  simp only
  split_ifs
  · simp only [popFront, setFront, queue, List.tail_cons]
  · simp only [setFront, queue, List.tail_cons]

section Rule

variable {motive : List SendResult → Connection → WriteResult × Connection × List Sent → Prop}
  (drained : ∀ results connection, connection.outputQueue = [] →
    motive results connection (.complete, connection, []))
  (drops : ∀ results connection output rest outcome,
    connection.outputQueue = output :: rest → output.finished = true →
    motive results (connection.popFront output.size) outcome → motive results connection outcome)
  (blocks : ∀ results connection output rest, connection.outputQueue = output :: rest →
    output.finished = false → motive results connection (.wouldBlock, connection, []))
  (fails : ∀ results connection output rest, connection.outputQueue = output :: rest →
    output.finished = false → motive results connection (.error, connection, []))
  (retries : ∀ results connection output rest outcome,
    connection.outputQueue = output :: rest → output.finished = false →
    motive results connection outcome → motive (.interrupted :: results) connection outcome)
  (sends : ∀ count results connection output rest result after wire,
    connection.outputQueue = output :: rest → output.finished = false → 0 < count →
    motive results (connection.progress output (min count output.left)) (result, after, wire) →
    motive (.sent count :: results) connection
      (result, after, output.emit (min count output.left) :: wire))
  (ends : ∀ results connection output rest outcome,
    connection.outputQueue = output :: rest → output.finished = false → output.isFile = true →
    motive results (connection.popFront output.size) outcome →
    motive (.sent 0 :: results) connection outcome)

include drained drops blocks fails retries sends ends

theorem write_loop_rule (fuel : Nat) (results : List SendResult) (connection : Connection)
    (enough : results.length + connection.outputQueue.length < fuel) :
    motive results connection (writeLoop fuel results connection) := by
  induction fuel generalizing results connection with
  | zero => omega
  | succ fuel ih =>
      cases queue : connection.outputQueue with
      | nil =>
          simp only [writeLoop, queue]
          exact drained results connection queue
      | cons output rest =>
          rw [queue, List.length_cons] at enough
          rw [write_loop_cons fuel results connection queue]
          have popped : (connection.popFront output.size).outputQueue.length = rest.length := by
            rw [pop_front_queue queue]
          cases finished : output.finished with
          | true =>
              rw [if_pos rfl]
              apply drops results connection output rest _ queue finished
              apply ih
              omega
          | false =>
              rw [if_neg Bool.false_ne_true]
              cases results with
              | nil => exact blocks [] connection output rest queue finished
              | cons result results =>
                  rw [List.length_cons] at enough
                  cases result with
                  | wouldBlock => exact blocks _ connection output rest queue finished
                  | failed => exact fails _ connection output rest queue finished
                  | interrupted =>
                      apply retries results connection output rest _ queue finished
                      apply ih
                      rw [queue, List.length_cons]
                      omega
                  | sent count =>
                      have unfinished : 0 < output.left := by
                        have before := of_decide_eq_false finished
                        unfold OutputBuffer.left
                        omega
                      rcases Nat.eq_zero_or_pos count with zero | positive
                      · subst zero
                        simp only [Nat.zero_min, gt_iff_lt, Nat.lt_irrefl, if_false]
                        cases file : output.isFile with
                        | false =>
                            exact fails _ connection output rest queue finished
                        | true =>
                            apply ends results connection output rest _ queue finished file
                            apply ih
                            omega
                      · have some : min count output.left > 0 := by omega
                        simp only [if_pos some]
                        apply sends count results connection output rest _ _ _ queue finished
                          positive
                        apply ih
                        rw [progress_queue queue]
                        split_ifs
                        · omega
                        · rw [List.length_cons]
                          omega

theorem write_rule (results : List SendResult) (connection : Connection) :
    motive results connection (connection.write results) := by
  apply write_loop_rule drained drops blocks fails retries sends ends
  omega

end Rule

theorem progress_input (connection : Connection) (output : OutputBuffer) (count : Nat) :
    (connection.progress output count).SameInput connection := by
  unfold progress
  simp only
  split_ifs
  · exact (pop_front_input _ _).trans (set_front_input connection _)
  · exact set_front_input connection _

theorem write_input (connection : Connection) (results : List SendResult) :
    (connection.write results).2.1.SameInput connection := by
  apply write_rule (motive := fun _ connection outcome => outcome.2.1.SameInput connection)
  case drained => exact fun _ _ _ => .rfl
  case blocks => exact fun _ _ _ _ _ _ => .rfl
  case fails => exact fun _ _ _ _ _ _ => .rfl
  case retries => exact fun _ _ _ _ _ _ _ same => same
  case drops =>
    intro _ connection output _ _ _ _ same
    exact same.trans (pop_front_input connection output.size)
  case ends =>
    intro _ connection output _ _ _ _ _ same
    exact same.trans (pop_front_input connection output.size)
  case sends =>
    intro _ _ connection output _ _ _ _ _ _ _ same
    exact same.trans (progress_input connection output _)

/-- The queue is empty after `Complete` and only then. -/
theorem write_result_queue (connection : Connection) (results : List SendResult) :
    ((connection.write results).1 = .complete → (connection.write results).2.1.outputQueue = []) ∧
      ((connection.write results).1 ≠ .complete →
        (connection.write results).2.1.outputQueue ≠ []) := by
  apply write_rule
    (motive := fun _ _ outcome =>
      (outcome.1 = .complete → outcome.2.1.outputQueue = []) ∧
        (outcome.1 ≠ .complete → outcome.2.1.outputQueue ≠ []))
  case drained => exact fun _ _ empty => ⟨fun _ => empty, fun stops => absurd rfl stops⟩
  case drops => exact fun _ _ _ _ _ _ _ holds => holds
  case blocks =>
    intro _ _ _ _ queue _
    exact ⟨nofun, fun _ => by rw [queue]; exact List.cons_ne_nil _ _⟩
  case fails =>
    intro _ _ _ _ queue _
    exact ⟨nofun, fun _ => by rw [queue]; exact List.cons_ne_nil _ _⟩
  case retries => exact fun _ _ _ _ _ _ _ holds => holds
  case sends => exact fun _ _ _ _ _ _ _ _ _ _ _ holds => holds
  case ends => exact fun _ _ _ _ _ _ _ _ holds => holds

/-- A `sendfile` of this `write` answers 0 for a file that has not been sent in full. -/
def endsShort : List SendResult → List OutputBuffer → Bool
  | [], _ => false
  | result :: results, queue =>
      match queue.dropWhile OutputBuffer.finished, result with
      | output :: rest, .sent count =>
          if count = 0 then output.isFile
          else endsShort results (output.advance (min count output.left) :: rest)
      | _ :: _, .interrupted => endsShort results queue
      | _, _ => false

theorem ends_short_finished {output : OutputBuffer} (finished : output.finished = true)
    (results : List SendResult) (rest : List OutputBuffer) :
    endsShort results (output :: rest) = endsShort results rest := by
  induction results with
  | nil => rfl
  | cons result results ih =>
      simp only [endsShort, List.dropWhile_cons_of_pos finished, ih]

theorem ends_short_interrupted (results : List SendResult) {output : OutputBuffer}
    (unfinished : output.finished = false) (rest : List OutputBuffer) :
    endsShort (.interrupted :: results) (output :: rest) = endsShort results (output :: rest) := by
  simp only [endsShort, List.dropWhile_cons_of_neg (Bool.not_eq_true _ ▸ unfinished)]

theorem ends_short_sent (count : Nat) (results : List SendResult) {output : OutputBuffer}
    (unfinished : output.finished = false) (rest : List OutputBuffer) :
    endsShort (.sent count :: results) (output :: rest) =
      if count = 0 then output.isFile
      else endsShort results (output.advance (min count output.left) :: rest) := by
  simp only [endsShort, List.dropWhile_cons_of_neg (Bool.not_eq_true _ ▸ unfinished)]

def unsent (connection : Connection) : List WireByte :=
  connection.outputQueue.flatMap OutputBuffer.unsent

theorem unsent_cons {connection : Connection} {output : OutputBuffer} {rest : List OutputBuffer}
    (queue : connection.outputQueue = output :: rest) :
    connection.unsent = output.unsent ++ rest.flatMap OutputBuffer.unsent := by
  unfold unsent
  rw [queue, List.flatMap_cons]

theorem unsent_pop_front {connection : Connection} {output : OutputBuffer}
    {rest : List OutputBuffer} (queue : connection.outputQueue = output :: rest)
    (finished : output.finished = true) :
    (connection.popFront output.size).unsent = connection.unsent := by
  rw [unsent_cons queue, OutputBuffer.finished_unsent finished, List.nil_append]
  unfold unsent
  rw [pop_front_queue queue]

theorem progress_unsent {connection : Connection} {output : OutputBuffer}
    {rest : List OutputBuffer} (queue : connection.outputQueue = output :: rest) (count : Nat) :
    (connection.progress output count).unsent =
      (output.advance count).unsent ++ rest.flatMap OutputBuffer.unsent := by
  have after := progress_queue queue count
  split_ifs at after with last
  · have nothing : (output.advance count).unsent = [] := by
      apply OutputBuffer.finished_unsent
      apply decide_eq_true
      rw [OutputBuffer.advance_size, OutputBuffer.advance_offset, last]
    unfold unsent
    rw [after, nothing, List.nil_append]
  · exact unsent_cons after

/-- As long as no file ends short, `write` sends the unsent bytes in their order. -/
theorem write_conserves (connection : Connection) (results : List SendResult) :
    endsShort results connection.outputQueue = false →
      (connection.write results).2.2.flatMap Sent.wire ++ (connection.write results).2.1.unsent =
        connection.unsent := by
  apply write_rule
    (motive := fun results connection outcome =>
      endsShort results connection.outputQueue = false →
        outcome.2.2.flatMap Sent.wire ++ outcome.2.1.unsent = connection.unsent)
  case drained => exact fun _ _ _ _ => rfl
  case blocks => exact fun _ _ _ _ _ _ _ => rfl
  case fails => exact fun _ _ _ _ _ _ _ => rfl
  case drops =>
    intro results connection output rest outcome queue finished holds whole
    rw [queue, ends_short_finished finished] at whole
    rw [pop_front_queue queue] at holds
    rw [holds whole, unsent_pop_front queue finished]
  case retries =>
    intro results connection output rest outcome queue unfinished holds whole
    rw [queue, ends_short_interrupted results unfinished, ← queue] at whole
    exact holds whole
  case ends =>
    intro results connection output rest outcome queue unfinished file _ whole
    rw [queue, ends_short_sent 0 results unfinished, if_pos rfl, file] at whole
    cases whole
  case sends =>
    intro count results connection output rest result after wire queue unfinished positive holds
      whole
    rw [queue, ends_short_sent count results unfinished, if_neg (Nat.ne_of_gt positive)] at whole
    have still : endsShort results
        (connection.progress output (min count output.left)).outputQueue = false := by
      rw [progress_queue queue]
      split_ifs with last
      · rwa [ends_short_finished] at whole
        apply decide_eq_true
        rw [OutputBuffer.advance_size, OutputBuffer.advance_offset, last]
      · exact whole
    have rest := holds still
    rw [progress_unsent queue] at rest
    rw [List.flatMap_cons, List.append_assoc, rest, unsent_cons queue, ← List.append_assoc,
      OutputBuffer.emit_advance (Nat.min_le_right _ _)]

end Connection

/-- A connection with the entries it has accepted, what it has put on the socket,
and what the last call answered if it was a `write`. -/
structure Output where
  connection : Connection
  entries : List OutputBuffer := []
  wire : List Sent := []
  answer : Option Connection.WriteResult := none

namespace Output

inductive Operation where
  | queueResponse (response : Bytes)
  | queueFile (openFile : Bytes → Option Int) (path : Bytes) (fileSize : Nat)
  | write (results : List SendResult)

def queued (output : Output) (entries : List OutputBuffer) (outcome : Bool × Connection) :
    Output :=
  { output with
    connection := outcome.2
    entries := if outcome.1 then output.entries ++ entries else output.entries
    answer := none }

def perform (output : Output) : Operation → Output
  | .queueResponse response =>
      output.queued [.memory response 0] (output.connection.queueResponse response)
  | .queueFile openFile path fileSize =>
      output.queued ((openFile path).map fun fileFd => .file fileFd fileSize 0).toList
        (output.connection.queueFile openFile path fileSize)
  | .write results =>
      let (result, connection, wire) := output.connection.write results
      { output with
        connection := connection
        wire := output.wire ++ wire
        answer := some result }

def sentBytes (output : Output) : List WireByte := output.wire.flatMap Sent.wire

def announcedBytes (output : Output) : List WireByte :=
  output.entries.flatMap OutputBuffer.announced

/-- The bytes on the socket are the announced bytes in their order, and all of them
after `Complete`. -/
def WireExact (output : Output) : Prop :=
  output.sentBytes <+: output.announcedBytes ∧
    (output.answer = some .complete → output.sentBytes = output.announcedBytes)

instance (output : Output) : Decidable output.WireExact :=
  inferInstanceAs (Decidable (_ ∧ _))

/-- No file turns out shorter than it was announced. -/
def FilesWhole (output : Output) : Operation → Prop
  | .queueResponse _ => True
  | .queueFile _ _ _ => True
  | .write results => Connection.endsShort results output.connection.outputQueue = false

instance (output : Output) : ∀ operation, Decidable (output.FilesWhole operation)
  | .queueResponse _ => isTrue trivial
  | .queueFile _ _ _ => isTrue trivial
  | .write _ => inferInstanceAs (Decidable (_ = _))

/-- Every announced byte is on the socket or still in the queue. -/
structure Conserved (output : Output) : Prop where
  bytes : output.sentBytes ++ output.connection.unsent = output.announcedBytes
  drained : output.answer = some .complete → output.connection.outputQueue = []

theorem Conserved.wire_exact {output : Output} (conserved : Conserved output) :
    output.WireExact := by
  constructor
  · exact ⟨output.connection.unsent, conserved.bytes⟩
  · intro complete
    rw [← conserved.bytes, Connection.unsent, conserved.drained complete, List.flatMap_nil,
      List.append_nil]

theorem queued_conserved {output : Output} (conserved : Conserved output)
    {entries : List OutputBuffer} {outcome : Bool × Connection}
    (fresh : ∀ entry ∈ entries, entry.offset = 0)
    (queues : outcome.2.outputQueue =
      if outcome.1 then output.connection.outputQueue ++ entries
      else output.connection.outputQueue) :
    Conserved (output.queued entries outcome) := by
  have all : entries.flatMap OutputBuffer.unsent = entries.flatMap OutputBuffer.announced := by
    apply List.flatMap_congr
    intro entry member
    unfold OutputBuffer.unsent
    rw [fresh entry member, List.drop_zero]
  constructor
  · have before := conserved.bytes
    cases accepted : outcome.1 with
    | false =>
        simp only [accepted, Bool.false_eq_true, if_false] at queues
        simp only [queued, accepted, Bool.false_eq_true, if_false, sentBytes, announcedBytes,
          Connection.unsent, queues] at before ⊢
        exact before
    | true =>
        simp only [accepted, if_true] at queues
        simp only [queued, accepted, if_true, sentBytes, announcedBytes, Connection.unsent,
          queues, List.flatMap_append, all] at before ⊢
        rw [← List.append_assoc, before]
  · intro impossible
    cases impossible

theorem perform_conserved (output : Output) (operation : Operation)
    (conserved : Conserved output) (whole : output.FilesWhole operation) :
    Conserved (output.perform operation) := by
  cases operation with
  | queueResponse response =>
      apply queued_conserved conserved
      · intro entry member
        rw [List.mem_singleton.mp member]
        rfl
      · exact output.connection.queue_response_queue response
  | queueFile openFile path fileSize =>
      apply queued_conserved conserved
      · intro entry member
        obtain ⟨fileFd, -, rfl⟩ := Option.map_eq_some_iff.mp (Option.mem_toList.mp member)
        rfl
      · exact output.connection.queue_file_queue openFile path fileSize
  | write results =>
      constructor
      · have sent := output.connection.write_conserves results whole
        have before := conserved.bytes
        rw [← sent, ← List.append_assoc] at before
        simp only [perform, sentBytes, List.flatMap_append]
        exact before
      · intro complete
        exact (output.connection.write_result_queue results).1 (Option.some.inj complete)

/-- In every run in which no file ends before its announced size, the bytes on the
socket are those announced. -/
theorem output_is_exact_on_the_wire (fd reactorId : Int) (operations : List Operation)
    (whole : Throughout perform FilesWhole { connection := { fd, reactorId } } operations) :
    (run perform { connection := { fd, reactorId } } operations).WireExact := by
  have fresh : Conserved { connection := { fd, reactorId } } := ⟨rfl, nofun⟩
  exact (run_invariant_throughout perform perform_conserved fresh operations whole).wire_exact

/-- A response and a file of three bytes, sent in pieces around a stall. -/
theorem output_is_exact_around_stall :
    (run perform { connection := { fd := 5, reactorId := 0 } }
      [.queueResponse (ascii "ab"), .queueFile (fun _ => some 9) (ascii "f") 3,
        .write [.sent 1, .interrupted, .sent 4, .sent 2, .wouldBlock],
        .write [.sent 1]]).WireExact :=
  output_is_exact_on_the_wire 5 0 _ (by decide)

/-- A file of three announced bytes that turns out to have one: the next response
follows where the missing bytes belong. -/
theorem short_file_shifts_the_next_response :
    ¬ ∀ operations : List Operation,
      (run perform { connection := { fd := 5, reactorId := 0 } } operations).WireExact := by
  intro exact'
  have shifted := exact'
    [.queueFile (fun _ => some 9) (ascii "f") 3, .queueResponse (ascii "ab"),
      .write [.sent 1, .sent 0, .sent 2]]
  revert shifted
  decide

end Output

end Aorta.Net
