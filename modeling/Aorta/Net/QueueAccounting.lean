import Aorta.Net.Output
import Mathlib.Algebra.GroupWithZero.Nat
import Mathlib.Algebra.Order.BigOperators.Group.List
import Mathlib.Algebra.Order.Group.Nat

/-!
# The size counter of the output queue

`output_queue_size` is kept beside the queue: both queueing calls add to it, and
five branches of `Connection::write` subtract from it when they drop an entry.
In every state it is the sum over the entries, including the states between two
rounds of the loop.
-/

namespace Aorta.Net

open Aorta.Library.Ascii Aorta.Library.Run

set_option autoImplicit false

namespace Connection

/-- The counter is the sum over the entries and within the capacity, and no entry
is sent further than its end. -/
structure Accounted (connection : Connection) : Prop where
  counts : connection.outputQueueSize = (connection.outputQueue.map OutputBuffer.size).sum
  bounded : connection.outputQueueSize ≤ maxOutputQueueSize
  offsets : ∀ output ∈ connection.outputQueue, output.offset ≤ output.size

/-- The unsigned subtractions `size - offset` and `output_queue_size -= size` do not wrap. -/
def SubtractionsExact (connection : Connection) : Prop :=
  ∀ output ∈ connection.outputQueue,
    output.offset ≤ output.size ∧ output.size ≤ connection.outputQueueSize

theorem Accounted.subtractions {connection : Connection} (accounted : connection.Accounted) :
    connection.SubtractionsExact := by
  intro output member
  have part : output.size ≤ (connection.outputQueue.map OutputBuffer.size).sum := by
    apply List.le_sum_of_mem
    exact List.mem_map_of_mem member
  constructor
  · exact accounted.offsets output member
  · rw [accounted.counts]
    exact part

theorem Accounted.front {connection : Connection} {output : OutputBuffer}
    {rest : List OutputBuffer} (accounted : connection.Accounted)
    (queue : connection.outputQueue = output :: rest) :
    connection.outputQueueSize = output.size + (rest.map OutputBuffer.size).sum := by
  rw [accounted.counts, queue, List.map_cons, List.sum_cons]

theorem pop_front_accounted {connection : Connection} {output : OutputBuffer}
    {rest : List OutputBuffer} (accounted : connection.Accounted)
    (queue : connection.outputQueue = output :: rest) :
    (connection.popFront output.size).Accounted := by
  have front := accounted.front queue
  have within := accounted.bounded
  have size : (connection.popFront output.size).outputQueueSize =
      (rest.map OutputBuffer.size).sum := by
    simp only [popFront, front]
    omega
  constructor
  · rw [size, pop_front_queue queue]
  · omega
  · intro entry member
    rw [pop_front_queue queue] at member
    apply accounted.offsets entry
    rw [queue]
    exact List.mem_cons_of_mem output member

theorem set_front_accounted {connection : Connection} {output sent : OutputBuffer}
    {rest : List OutputBuffer} (accounted : connection.Accounted)
    (queue : connection.outputQueue = output :: rest) (size : sent.size = output.size)
    (within : sent.offset ≤ sent.size) :
    (connection.setFront sent).Accounted := by
  have after : (connection.setFront sent).outputQueue = sent :: rest := by
    simp only [setFront, queue, List.tail_cons]
  constructor
  · rw [after, List.map_cons, List.sum_cons, size]
    exact accounted.front queue
  · exact accounted.bounded
  · intro entry member
    rw [after] at member
    rcases List.mem_cons.mp member with rfl | old
    · exact within
    · apply accounted.offsets entry
      rw [queue]
      exact List.mem_cons_of_mem output old

theorem progress_accounted {connection : Connection} {output : OutputBuffer}
    {rest : List OutputBuffer} (accounted : connection.Accounted)
    (queue : connection.outputQueue = output :: rest) {count : Nat}
    (within : count ≤ output.left) :
    (connection.progress output count).Accounted := by
  have offset : output.offset ≤ output.size := by
    apply accounted.offsets
    rw [queue]
    exact List.mem_cons_self
  have advanced : (connection.setFront (output.advance count)).Accounted := by
    apply set_front_accounted accounted queue (output.advance_size count)
    rw [OutputBuffer.advance_size, OutputBuffer.advance_offset]
    unfold OutputBuffer.left at within
    omega
  unfold progress
  simp only
  split_ifs
  · have queue' : (connection.setFront (output.advance count)).outputQueue =
        output.advance count :: rest := by
      simp only [setFront, queue, List.tail_cons]
    have popped := pop_front_accounted advanced queue'
    rwa [OutputBuffer.advance_size] at popped
  · exact advanced

/-- The state after any number of rounds, since the loop stops where its fuel ends. -/
theorem write_loop_accounted (rounds : Nat) (results : List SendResult) (connection : Connection)
    (accounted : connection.Accounted) :
    (writeLoop rounds results connection).2.1.Accounted := by
  induction rounds generalizing results connection with
  | zero => exact accounted
  | succ rounds ih =>
      cases queue : connection.outputQueue with
      | nil =>
          simp only [writeLoop, queue]
          exact accounted
      | cons output rest =>
          rw [write_loop_cons rounds results connection queue]
          have dropped := pop_front_accounted accounted queue
          cases finished : output.finished with
          | true =>
              rw [if_pos rfl]
              exact ih results _ dropped
          | false =>
              rw [if_neg Bool.false_ne_true]
              cases results with
              | nil => exact accounted
              | cons result results =>
                  cases result with
                  | wouldBlock => exact accounted
                  | failed => exact accounted
                  | interrupted => exact ih results connection accounted
                  | sent count =>
                      simp only
                      split_ifs
                      · apply ih
                        exact progress_accounted accounted queue (Nat.min_le_right _ _)
                      · exact ih results _ dropped
                      · exact accounted

theorem write_accounted (results : List SendResult) {connection : Connection}
    (accounted : connection.Accounted) : (connection.write results).2.1.Accounted := by
  unfold write
  exact write_loop_accounted _ results connection accounted

theorem push_accounted {connection : Connection} (accounted : connection.Accounted)
    (output : OutputBuffer) (fresh : output.offset = 0)
    (room : connection.outputQueueSize + output.size ≤ maxOutputQueueSize) :
    Accounted { connection with
      outputQueue := connection.outputQueue ++ [output]
      outputQueueSize := connection.outputQueueSize + output.size } := by
  constructor
  · simp only [List.map_append, List.sum_append, List.map_cons, List.map_nil, List.sum_singleton,
      accounted.counts]
  · exact room
  · intro entry member
    rcases List.mem_append.mp member with old | new
    · exact accounted.offsets entry old
    · rw [List.mem_singleton.mp new, fresh]
      exact Nat.zero_le _

theorem queue_response_accounted (response : Bytes) {connection : Connection}
    (accounted : connection.Accounted) : (connection.queueResponse response).2.Accounted := by
  unfold queueResponse
  split_ifs with large full
  · exact accounted
  · exact accounted
  · apply push_accounted accounted (.memory response 0) rfl
    exact Nat.le_of_not_gt full

theorem queue_file_accounted (openFile : Bytes → Option Int) (path : Bytes) (fileSize : Nat)
    {connection : Connection} (accounted : connection.Accounted) :
    (connection.queueFile openFile path fileSize).2.Accounted := by
  unfold queueFile
  split_ifs with large full
  · exact accounted
  · exact accounted
  · cases openFile path with
    | none => exact accounted
    | some fileFd =>
        apply push_accounted accounted (.file fileFd fileSize 0) rfl
        exact Nat.le_of_not_gt full

theorem queue_response_refused {connection : Connection} {response : Bytes}
    (refused : (connection.queueResponse response).1 = false) :
    (connection.queueResponse response).2 = connection := by
  unfold queueResponse at refused ⊢
  split_ifs at refused ⊢ with large full
  · rfl
  · rfl

theorem queue_file_refused {connection : Connection} {openFile : Bytes → Option Int}
    {path : Bytes} {fileSize : Nat}
    (refused : (connection.queueFile openFile path fileSize).1 = false) :
    (connection.queueFile openFile path fileSize).2 = connection := by
  unfold queueFile at refused ⊢
  split_ifs at refused ⊢ with large full
  · rfl
  · rfl
  · cases answer : openFile path with
    | none => rfl
    | some fileFd =>
        rw [answer] at refused
        cases refused

end Connection

namespace Output

theorem perform_accounted (output : Output) (operation : Operation)
    (accounted : output.connection.Accounted) :
    (output.perform operation).connection.Accounted := by
  cases operation with
  | queueResponse response => exact Connection.queue_response_accounted response accounted
  | queueFile openFile path fileSize =>
      exact Connection.queue_file_accounted openFile path fileSize accounted
  | write results => exact Connection.write_accounted results accounted

/-- In every run of the output side, before every round of a later `write` as well, the
counter is the sum over the queue; and a refused call changes nothing. -/
theorem output_queue_is_accounted (fd reactorId : Int) (operations : List Operation) :
    let connection := (run perform { connection := { fd, reactorId } } operations).connection
    (∀ rounds results,
      (Connection.writeLoop rounds results connection).2.1.Accounted ∧
        (Connection.writeLoop rounds results connection).2.1.SubtractionsExact) ∧
      (∀ response, (connection.queueResponse response).1 = false →
        (connection.queueResponse response).2 = connection) ∧
      (∀ openFile path fileSize,
        (connection.queueFile openFile path fileSize).1 = false →
          (connection.queueFile openFile path fileSize).2 = connection) := by
  intro connection
  have fresh : Connection.Accounted { fd, reactorId } :=
    ⟨rfl, Nat.zero_le _, fun _ member => absurd member List.not_mem_nil⟩
  have accounted : connection.Accounted :=
    run_invariant perform perform_accounted fresh operations
  refine ⟨fun rounds results => ?_, fun _ => Connection.queue_response_refused,
    fun _ _ _ => Connection.queue_file_refused⟩
  have still := Connection.write_loop_accounted rounds results connection accounted
  exact ⟨still, still.subtractions⟩

/-- A file cut short between two responses leaves the counter at the second response. -/
example :
    (run perform { connection := { fd := 5, reactorId := 0 } }
      [.queueResponse (ascii "ab"), .queueFile (fun _ => some 9) (ascii "f") 3,
        .queueResponse (ascii "cd"), .write [.sent 2, .sent 1, .sent 0, .sent 1]]).connection
        = { fd := 5, reactorId := 0, outputQueue := [.memory (ascii "cd") 1],
            outputQueueSize := 2 } := by
  decide

end Output

end Aorta.Net
