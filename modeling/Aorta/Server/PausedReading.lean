import Aorta.Server.Watching

/-!
# Reading while a job is outstanding

A job that is left outstanding takes `EPOLLIN` out of the mask, and the completion puts
it back. So does a write: an event that reports `EPOLLIN` and `EPOLLOUT` together calls
`handleWrite` right after `handleClient` has left a job behind, and with output in the
queue the mask has `EPOLLIN` again.
-/

namespace Aorta.Server

open Aorta.Library.Ascii Aorta.Library.Run Aorta.Http Aorta.Net

set_option autoImplicit false

/-- No input is awaited while a job is outstanding. -/
def Paused (_ : Connection) (state : ConnectionState) : Prop :=
  state.redisPending = true → state.currentEvents.input = false

/-- A connection whose output may be written. -/
def Writable (connection : Connection) (state : ConnectionState) : Prop :=
  Paused connection state ∧ (connection.outputQueue ≠ [] → state.redisPending = false)

namespace Reactor

theorem idle_paused (connection : Connection) {state : ConnectionState}
    (idle : state.redisPending = false) : Paused connection state := by
  intro pending
  rw [idle] at pending
  cases pending

theorem paused_kept : Kept Writable Paused where
  accepted := fun _ _ _ _ => nofun
  fetched := fun _ session _ _ _ idle => ⟨idle_paused session.connection idle, fun _ => idle⟩
  paused := fun _ _ _ _ => rfl
  completed := fun connection _ _ _ => ⟨idle_paused connection rfl, fun _ => rfl⟩
  idle := fun _ _ writable _ => writable.1
  stalled := fun _ after state writable some _ =>
    idle_paused after (show state.redisPending = false from writable.2 some)
  drained := fun _ after state writable some _ =>
    idle_paused after (show state.redisPending = false from writable.2 some)

/-- `EPOLLOUT` is handled for a connection that has output in its queue and a job
outstanding. -/
def writesWhilePaused (reactor : Reactor) : Input → Bool
  | .client fd events _ =>
      match reactor.connections.lookup fd, reactor.connectionStates.lookup fd with
      | some connection, some state =>
          events.output && state.redisPending && connection.hasPendingOutput
      | _, _ => false
  | _ => false

variable (handle : Nat → HttpRequest → HandleResult)

theorem simple_paused (reactor : Reactor) (input : Input) (simple : input.Simple)
    (paused : reactor.AllWatch Paused) (calm : reactor.writesWhilePaused input = false) :
    (reactor.step handle input).AllWatch Paused := by
  apply simple_watches handle paused_kept simple paused
  intro fd answers same connection found
  obtain ⟨state, foundState, watched, here⟩ := paused fd connection found
  refine ⟨state, foundState, watched, here, ?_⟩
  intro some
  have waiting : connection.hasPendingOutput = true := by
    simpa [Connection.hasPendingOutput] using some
  rw [same] at calm
  simpa [writesWhilePaused, found, foundState, waiting] using calm

/-- Between two events no connection with an outstanding job is watched for input, as
long as no `EPOLLOUT` is handled for one that has output in its queue. The conditions of
an event count one after the other. -/
theorem reading_is_paused (id : Int) (inputs : List Input)
    (calm : Throughout (step handle) (fun reactor input => reactor.writesWhilePaused input = false)
      { id := id } (inputs.flatMap Input.split)) :
    let reactor := run (step handle) { id := id } inputs
    ∀ fd connection state, reactor.connections.lookup fd = some connection →
      reactor.connectionStates.lookup fd = some state → state.redisPending = true →
      state.currentEvents.input = false ∧ reactor.epoll.lookup fd = some state.currentEvents := by
  intro reactor fd connection state found foundState pending
  have start : AllWatch Paused { id := id } := by
    intro fd connection found
    cases found
  have paused := run_simple_invariant handle (simple_paused handle) start inputs calm
  obtain ⟨known, isKnown, watched, here⟩ := paused fd connection found
  rw [foundState] at isKnown
  cases isKnown
  exact ⟨here pending, watched⟩

def taskOnly (_ : Nat) (request : HttpRequest) : HandleResult :=
  if request.target = ascii "/tasks" then .pending else .completed {}

def helloAndTask (events : EventMask) : List Input :=
  [.accept [.client 7 true true true],
    .client 7 { input := true }
      { recvs := [.received (ascii "GET /hello HTTP/1.1\r\nHost: a\r\n\r\n")] },
    .client 7 events
      { recvs := [.received (ascii "GET /tasks HTTP/1.1\r\nHost: a\r\n\r\n")]
        write := { sends := [.sent 10] } }]

/-- The second request leaves a job behind while the first response is in the queue. -/
theorem task_behind_stalled_response_is_paused :
    let reactor := run (step taskOnly) { id := 0 } (helloAndTask { input := true })
    (∃ state, reactor.connectionStates.lookup 7 = some state ∧ state.redisPending = true) ∧
      ∀ fd connection state, reactor.connections.lookup fd = some connection →
        reactor.connectionStates.lookup fd = some state → state.redisPending = true →
        state.currentEvents.input = false ∧
          reactor.epoll.lookup fd = some state.currentEvents :=
  ⟨⟨{ deadline := requestTimeoutSeconds * second
      generation := 1, requestInFlight := true, redisPending := true
      currentEvents := { readHangup := true } }, by decide⟩,
    reading_is_paused taskOnly 0 (helloAndTask { input := true }) (by decide)⟩

/-- The same with `EPOLLOUT` in the second event: the socket takes ten bytes, and input is
awaited again while the job is outstanding. -/
theorem write_behind_task_resumes_reading :
    let reactor := run (step taskOnly) { id := 0 } (helloAndTask { input := true, output := true })
    ∃ connection state, reactor.connections.lookup 7 = some connection ∧
      reactor.connectionStates.lookup 7 = some state ∧ state.redisPending = true ∧
      state.currentEvents.input = true ∧ reactor.epoll.lookup 7 = some state.currentEvents :=
  ⟨{ fd := 7, reactorId := 0
     outputQueue := [.memory ({} : HttpResponse).serialize 10]
     outputQueueSize := ({} : HttpResponse).serialize.length },
    { deadline := requestTimeoutSeconds * second
      generation := 1, requestInFlight := true, redisPending := true
      currentEvents := { input := true, output := true, readHangup := true } }, by decide⟩

end Reactor

end Aorta.Server
