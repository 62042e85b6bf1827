import Aorta.Server.Watching

/-!
# What the reactor waits for

`Awake` says that nothing is missing between two events. Inside the handlers it does not
hold, since responses are queued before the inline write; what it takes to come back to
it is that a connection with output goes through `handleWrite`.
-/

namespace Aorta.Server

open Aorta.Library.Ascii Aorta.Library.Run Aorta.Http Aorta.Net

set_option autoImplicit false

/-- Output waits for the socket or for a job, input is awaited unless a job is
outstanding, and the socket is watched for writing only with something to write. -/
structure Awake (connection : Connection) (state : ConnectionState) : Prop where
  output : connection.outputQueue ≠ [] →
    state.currentEvents.output = true ∨ state.redisPending = true
  input : state.redisPending = false → state.currentEvents.input = true
  needed : state.currentEvents.output = true → connection.outputQueue ≠ []

namespace Session

variable {before session : Session}

theorem Fetches.awake (fetches : Fetches before session)
    (awake : Awake before.connection before.state)
    (idle : before.state.redisPending = false)
    (empty : session.connection.outputQueue = []) : Awake session.connection session.state := by
  have nothing : before.connection.outputQueue = [] := by
    have kept := fetches.kept
    rwa [empty, List.prefix_nil] at kept
  constructor
  · intro some
    exact absurd empty some
  · intro _
    rw [fetches.events]
    exact awake.input idle
  · intro watched
    rw [fetches.events] at watched
    exact absurd nothing (awake.needed watched)

end Session

namespace Reactor

def AllAwake (reactor : Reactor) : Prop := ∀ fd, reactor.Watches Awake fd

variable (handle : Nat → HttpRequest → HandleResult)

theorem awake_kept :
    Kept (fun connection state => connection.outputQueue = [] → Awake connection state) Awake where
  accepted := fun _ _ _ _ => ⟨fun some => absurd rfl some, fun _ => rfl, nofun⟩
  fetched := fun _ _ awake idle fetches _ empty => fetches.awake awake idle empty
  paused := by
    intro connection state pending
    constructor
    · intro _
      exact .inr pending
    · intro idle
      rw [show state.redisPending = false from idle] at pending
      cases pending
    · exact nofun
  completed := fun _ _ _ some empty => absurd empty some
  idle := fun _ _ awake empty => awake empty
  stalled := fun _ _ _ _ _ stalled => ⟨fun _ => .inl rfl, fun _ => rfl, fun _ => stalled⟩
  drained := fun _ _ _ _ _ drained => ⟨fun some => absurd drained some, fun _ => rfl, nofun⟩

theorem simple_awake (reactor : Reactor) (input : Input) (simple : input.Simple)
    (awake : reactor.AllAwake) : (reactor.step handle input).AllAwake := by
  apply simple_watches handle awake_kept simple awake
  intro fd answers _ connection found
  obtain ⟨state, foundState, watched, here⟩ := awake fd connection found
  exact ⟨state, foundState, watched, fun _ => here⟩

/-- Between two events every open connection is watched for what it waits for, and
its recorded mask is the one epoll has. -/
theorem open_connections_are_watched (id : Int) (inputs : List Input) :
    let reactor := run (step handle) { id := id } inputs
    ∀ fd connection, reactor.connections.lookup fd = some connection →
      ∃ state, reactor.connectionStates.lookup fd = some state ∧
        (connection.outputQueue ≠ [] →
          state.currentEvents.output = true ∨ state.redisPending = true) ∧
        (state.redisPending = false → state.currentEvents.input = true) ∧
        (state.currentEvents.output = true → connection.outputQueue ≠ []) ∧
        reactor.epoll.lookup fd = some state.currentEvents := by
  intro reactor fd connection found
  have start : AllAwake { id := id } := by
    intro fd connection found
    cases found
  have awake := run_simple_always handle (simple_awake handle) start inputs
  obtain ⟨state, foundState, watched, here⟩ := awake fd connection found
  exact ⟨state, foundState, here.output, here.input, here.needed, watched⟩

/-- A client that does not read: its response stays in the queue. -/
def stalledClient : List Input :=
  [.accept [.client 7 true true true],
    .client 7 { input := true }
      { recvs := [.received (ascii "GET /hello HTTP/1.1\r\nHost: a\r\n\r\n")] }]

theorem stalled_client_is_watched :
    let reactor := run (step fun _ _ => .completed {}) { id := 0 } stalledClient
    ∃ state, reactor.connectionStates.lookup 7 = some state ∧
      (state.currentEvents.output = true ∨ state.redisPending = true) ∧
      reactor.epoll.lookup 7 = some state.currentEvents := by
  obtain ⟨state, foundState, output, -, -, watched⟩ :=
    open_connections_are_watched (fun _ _ => .completed {}) 0 stalledClient 7
      { fd := 7, reactorId := 0
        outputQueue := [.memory ({} : HttpResponse).serialize 0]
        outputQueueSize := ({} : HttpResponse).serialize.length } (by decide)
  exact ⟨state, foundState, output (List.cons_ne_nil _ _), watched⟩

end Reactor

end Aorta.Server
