import Aorta.Library.FiniteMap
import Aorta.Server.Ledger
import Aorta.Server.Transitions

/-!
# Delivery of asynchronous responses

Every handler of the reactor keeps the ledger: the loops of `handleClient` serve
requests only on a connection without an outstanding job, a completion reaches a
connection only under the generation it was asked on, and removing a connection
never frees its generation for another one.
-/

namespace Aorta.Server

open Aorta.Library.Ascii Aorta.Library.FiniteMap Aorta.Library.Run Aorta.Http Aorta.Net
open Aorta.Http.HttpParser (ParseResult)

set_option autoImplicit false

def slots (states : Table ConnectionState) (fd : Int) : Option (Nat × Bool) :=
  (states.lookup fd).map fun state => (state.generation, state.redisPending)

theorem slots_insert (states : Table ConnectionState) (fd : Int) (state : ConnectionState) :
    slots (states.insert fd state) =
      Function.update (slots states) fd (some (state.generation, state.redisPending)) := by
  change Option.map _ ∘ find (states.insert fd state) = _
  rw [find_insert, Function.comp_update]
  rfl

theorem slots_erase (states : Table ConnectionState) (fd : Int) :
    slots (states.erase fd) = Function.update (slots states) fd none := by
  change Option.map _ ∘ find (states.erase fd) = _
  rw [find_erase, Function.comp_update]
  rfl

def Shared.outstanding (shared : Shared) : List Callback :=
  shared.completions.map Prod.fst ++ shared.jobs

/-- The reactor's tables and queues form a ledger. -/
def Reactor.Keeps (reactor : Reactor) : Prop :=
  Ledger reactor.nextConnectionGeneration (slots reactor.connectionStates)
    reactor.shared.outstanding reactor.shared.serial reactor.shared.history

namespace Session

variable (handle : Nat → HttpRequest → HandleResult) (openFile : Bytes → Option Int)

/-- The session with its state put back would keep the ledger. -/
def Keeps (next : Nat) (others : Int → Option (Nat × Bool)) (session : Session) : Prop :=
  Ledger next
    (Function.update others session.fd
      (some (session.state.generation, session.state.redisPending)))
    session.shared.outstanding session.shared.serial session.shared.history

/-- A session that may dispatch requests, and one that may only be put back. -/
def Ready (next : Nat) (others : Int → Option (Nat × Bool)) (fd : Int) (session : Session) :
    Prop :=
  session.Keeps next others ∧ session.fd = fd ∧ session.state.redisPending = false

/-- How a session may be left: put back, and ready unless a job is outstanding. -/
def Left (next : Nat) (others : Int → Option (Nat × Bool)) (fd : Int)
    (outcome : Served × Session) : Prop :=
  outcome.2.Keeps next others ∧ outcome.2.fd = fd ∧
    (outcome.1 ≠ .pending → outcome.2.state.redisPending = false)

variable {next : Nat} {others : Int → Option (Nat × Bool)} {fd : Int} {session : Session}

theorem Ready.left (ready : session.Ready next others fd) (served : Served)
    (connection : Connection) :
    Left next others fd (served, { session with connection := connection }) :=
  ⟨ready.1, ready.2.1, fun _ => ready.2.2⟩

theorem dispatch_left (ready : session.Ready next others fd) :
    Left next others fd (session.dispatch handle openFile) := by
  obtain ⟨keeps, sameFd, idle⟩ := ready
  unfold Keeps at keeps
  rw [idle] at keeps
  have slot : Function.update others session.fd (some (session.state.generation, false))
      session.fd = some (session.state.generation, false) := Function.update_self ..
  have dispatches := dispatch_dispatches openFile handle session
  generalize session.dispatch handle openFile = outcome at dispatches ⊢
  cases dispatches with
  | pending closeAfterWrite =>
      refine ⟨?_, sameFd, fun differs => absurd rfl differs⟩
      have submitted := keeps.submit slot closeAfterWrite session.connection.getRequest
      rw [Function.update_idem, Shared.outstanding, List.append_assoc] at submitted
      exact submitted
  | refused after =>
      refine ⟨?_, sameFd, fun _ => idle⟩
      simp only [Keeps, fail, dispatched, idle]
      exact keeps.dispatch session.fd session.state.generation session.connection.getRequest
  | fileRefused after =>
      refine ⟨?_, sameFd, fun _ => idle⟩
      simp only [Keeps, fail, responded, dispatched, idle]
      exact keeps.serve slot session.connection.getRequest
  | answered after =>
      refine ⟨?_, sameFd, fun _ => idle⟩
      simp only [Keeps, finish, refreshDeadline, ConnectionState.refreshDeadline, responded,
        dispatched, idle]
      exact keeps.serve slot session.connection.getRequest

theorem Left.goes {outcome : Served × Session} (left : Left next others fd outcome) :
    Goes (Ready next others fd) (Left next others fd) outcome := by
  constructor
  · intro waits
    refine ⟨left.1, left.2.1, left.2.2 ?_⟩
    rw [waits]
    exact nofun
  · intro _
    exact left

theorem read_loop_left (fuel : Nat) (recvs : List RecvResult)
    (ready : session.Ready next others fd) :
    Left next others fd (session.readLoop handle openFile fuel recvs) := by
  apply read_loop_rule openFile handle _ _ _ _ _ _ fuel recvs ready
  · intro session connection ready _
    exact ready
  · intro session ready
    exact ready
  · intro session ready
    exact ready.left .failed session.connection
  · intro session ready
    exact (dispatch_left handle openFile ready).goes
  · intro session ready
    exact ready.left .waiting session.connection
  · intro session ready
    exact ⟨ready.1.ended _, ready.2.1, fun _ => ready.2.2⟩

end Session

namespace Reactor

/-- Nothing was accepted, dispatched or answered; descriptors may have been closed. -/
structure Quiet (before after : Reactor) : Prop where
  next : after.nextConnectionGeneration = before.nextConnectionGeneration
  states : ∀ fd state, after.connectionStates.lookup fd = some state →
    ∃ old events, before.connectionStates.lookup fd = some old ∧
      state = { old with currentEvents := events }
  jobs : after.shared.jobs = before.shared.jobs
  completions : after.shared.completions = before.shared.completions
  serial : after.shared.serial = before.shared.serial
  history : after.shared.history = before.shared.history
  closing : after.shared.closing = before.shared.closing
  notes : after.shared.notes = before.shared.notes

theorem Quiet.slots {before after : Reactor} (quiet : Quiet before after) (fd : Int)
    (slot : Nat × Bool) (found : slots after.connectionStates fd = some slot) :
    slots before.connectionStates fd = some slot := by
  obtain ⟨state, foundState, rfl⟩ := Option.map_eq_some_iff.mp found
  obtain ⟨old, events, foundOld, rfl⟩ := quiet.states fd state foundState
  unfold Aorta.Server.slots
  rw [foundOld]
  rfl

theorem Quiet.refl (reactor : Reactor) : Quiet reactor reactor :=
  ⟨rfl, fun _ state found => ⟨state, state.currentEvents, found, rfl⟩, rfl, rfl, rfl, rfl, rfl,
    rfl⟩

theorem Quiet.trans {before middle after : Reactor} (first : Quiet before middle)
    (second : Quiet middle after) : Quiet before after where
  next := second.next.trans first.next
  states := by
    intro fd state found
    obtain ⟨between, events, foundBetween, rfl⟩ := second.states fd state found
    obtain ⟨old, earlier, foundOld, rfl⟩ := first.states fd between foundBetween
    exact ⟨old, events, foundOld, rfl⟩
  jobs := second.jobs.trans first.jobs
  completions := second.completions.trans first.completions
  serial := second.serial.trans first.serial
  history := second.history.trans first.history
  closing := second.closing.trans first.closing
  notes := second.notes.trans first.notes

theorem Quiet.counted (reactor : Reactor) (connections : Table Connection) (shared : Shared)
    (same : shared.jobs = reactor.shared.jobs ∧
      shared.completions = reactor.shared.completions ∧
      shared.serial = reactor.shared.serial ∧ shared.history = reactor.shared.history ∧
      shared.closing = reactor.shared.closing ∧ shared.notes = reactor.shared.notes) :
    Quiet reactor { reactor with connections := connections, shared := shared } where
  next := rfl
  states _ state found := ⟨state, state.currentEvents, found, rfl⟩
  jobs := same.1
  completions := same.2.1
  serial := same.2.2.1
  history := same.2.2.2.1
  closing := same.2.2.2.2.1
  notes := same.2.2.2.2.2

theorem Quiet.keeps {before after : Reactor} (quiet : Quiet before after)
    (keeps : before.Keeps) : after.Keeps := by
  unfold Keeps Shared.outstanding
  rw [quiet.next, quiet.jobs, quiet.completions, quiet.serial, quiet.history]
  exact keeps.narrow quiet.slots

theorem remove_connection_quiet (reactor : Reactor) (fd : Int) :
    Quiet reactor (reactor.removeConnection fd) := by
  unfold removeConnection
  cases reactor.connections.lookup fd with
  | none => exact .refl reactor
  | some connection =>
      refine ⟨rfl, ?_, rfl, rfl, rfl, rfl, rfl, rfl⟩
      intro other state found
      by_cases same : other = fd
      · subst same
        rw [AList.lookup_erase] at found
        cases found
      · rw [AList.lookup_erase_ne same] at found
        exact ⟨state, state.currentEvents, found, rfl⟩

theorem slots_same {states : Table ConnectionState} {fd : Int} {state : ConnectionState}
    (found : states.lookup fd = some state) (other : ConnectionState)
    (generation : other.generation = state.generation)
    (pending : other.redisPending = state.redisPending) :
    slots (states.insert fd other) = slots states := by
  have slot : slots states fd = some (state.generation, state.redisPending) := by
    simp [slots, found]
  rw [slots_insert, generation, pending, ← slot, Function.update_eq_self]

theorem update_events_quiet (reactor : Reactor) (fd : Int) (events : EventMask)
    (modified : Bool) : Quiet reactor (reactor.updateEvents fd events modified) := by
  unfold updateEvents
  cases foundState : reactor.connectionStates.lookup fd with
  | none => exact .refl reactor
  | some state =>
      simp only
      split_ifs
      · exact .refl reactor
      · apply Quiet.trans _ (remove_connection_quiet _ fd)
        exact .counted reactor reactor.connections reactor.shared.incrementErrors
          ⟨rfl, rfl, rfl, rfl, rfl, rfl⟩
      · refine ⟨rfl, ?_, rfl, rfl, rfl, rfl, rfl, rfl⟩
        intro other watched found
        by_cases same : other = fd
        · subst same
          rw [AList.lookup_insert] at found
          cases found
          exact ⟨state, events, foundState, rfl⟩
        · rw [AList.lookup_insert_ne same] at found
          exact ⟨watched, watched.currentEvents, found, rfl⟩

theorem handle_write_quiet (reactor : Reactor) (fd : Int) (answers : WriteAnswers) :
    Quiet reactor (reactor.handleWrite fd answers) := by
  have writes := reactor.handle_write_writes fd answers
  generalize reactor.handleWrite fd answers = outcome at writes ⊢
  cases writes with
  | idle => exact .refl reactor
  | failed connection after =>
      apply Quiet.trans _ (remove_connection_quiet _ fd)
      exact .counted reactor _ _ ⟨rfl, rfl, rfl, rfl, rfl, rfl⟩
  | blocked connection after =>
      apply Quiet.trans _ (update_events_quiet _ fd _ _)
      exact .counted reactor _ _ ⟨rfl, rfl, rfl, rfl, rfl, rfl⟩
  | closed connection after =>
      apply Quiet.trans _ (remove_connection_quiet _ fd)
      exact .counted reactor _ _ ⟨rfl, rfl, rfl, rfl, rfl, rfl⟩
  | flushed connection after =>
      apply Quiet.trans _ (update_events_quiet _ fd _ _)
      exact .counted reactor _ _ ⟨rfl, rfl, rfl, rfl, rfl, rfl⟩

variable (handle : Nat → HttpRequest → HandleResult) {reactor : Reactor}

theorem disconnect_keeps (keeps : reactor.Keeps) (fd : Int) (connection : Connection) :
    (reactor.disconnect fd connection).Keeps := by
  unfold disconnect
  cases reactor.connectionStates.lookup fd with
  | none => exact (remove_connection_quiet reactor fd).keeps keeps
  | some state =>
      apply (remove_connection_quiet _ fd).keeps
      exact keeps.ended _

theorem accept_client_keeps (keeps : reactor.Keeps) (fd : Int) :
    (reactor.acceptClient fd).Keeps := by
  unfold acceptClient Keeps
  simp only
  rw [slots_insert]
  exact keeps.accept fd

theorem put_keeps {session : Session}
    (keeps : session.Keeps reactor.nextConnectionGeneration (slots reactor.connectionStates)) :
    (reactor.put session).Keeps := by
  unfold put Keeps
  simp only
  rw [slots_insert]
  exact keeps

theorem handle_client_keeps (keeps : reactor.Keeps) (fd : Int) (answers : ClientAnswers) :
    (reactor.handleClient handle fd answers).Keeps := by
  have reads := handle_client_reads handle reactor fd answers
  generalize reactor.handleClient handle fd answers = outcome at reads ⊢
  cases reads with
  | idle => exact keeps
  | unknown => exact (remove_connection_quiet reactor fd).keeps keeps
  | served connection state served session after found foundState idle loops leaves =>
      have ready : Session.Ready reactor.nextConnectionGeneration
          (slots reactor.connectionStates) fd ⟨fd, connection, state, reactor.shared⟩ := by
        refine ⟨?_, rfl, idle⟩
        unfold Session.Keeps
        rw [← slots_insert, slots_same foundState _ rfl rfl]
        exact keeps
      have left := Session.read_loop_left handle answers.openFile
        (answers.recvs.length + 1) answers.recvs ready
      rw [loops] at left
      have put := put_keeps left.1
      cases leaves with
      | failed => exact (remove_connection_quiet _ fd).keeps put
      | paused => exact (update_events_quiet _ fd _ _).keeps put
      | written => exact (handle_write_quiet _ fd _).keeps put
      | stored => exact put

theorem waiting_slot {states : Table ConnectionState} {state : ConnectionState}
    {callback : Callback} (found : states.lookup callback.fd = some state)
    (same : state.generation = callback.generation) :
    slots states callback.fd = some (callback.generation, state.redisPending) := by
  simp [slots, found, same]

/-- A completion marks its connection free again only under its own generation. -/
theorem complete_async_response_keeps {callback : Callback}
    (ledger : Ledger reactor.nextConnectionGeneration (slots reactor.connectionStates)
      (callback :: reactor.shared.outstanding) reactor.shared.serial reactor.shared.history)
    (response : HttpResponse) (answers : WriteAnswers) :
    (reactor.completeAsyncResponse callback response answers).Keeps := by
  have completes := reactor.complete_async_response_completes callback response answers
  generalize reactor.completeAsyncResponse callback response answers = outcome at completes ⊢
  cases completes with
  | dropped => exact ledger.take
  | refused connection state after found foundState same =>
      have freed := ledger.take.unmark (waiting_slot foundState same) ledger.taken_free
      rw [← same] at freed
      apply (remove_connection_quiet _ callback.fd).keeps
      exact put_keeps freed
  | queued connection state after found foundState same input =>
      have completed := ledger.complete (waiting_slot foundState same)
      unfold Callback.entry at completed
      rw [← same] at completed
      apply (handle_write_quiet _ callback.fd answers).keeps
      exact put_keeps completed

theorem pop_completion_keeps (keeps : reactor.Keeps) (answers : WriteAnswers) :
    (reactor.popCompletion answers).Keeps := by
  unfold popCompletion
  cases waiting : reactor.shared.completions with
  | nil => exact keeps
  | cons completion completions =>
      have ledger := keeps
      unfold Keeps Shared.outstanding at ledger
      rw [waiting] at ledger
      exact complete_async_response_keeps ledger _ answers

theorem handle_client_event_keeps (keeps : reactor.Keeps) (fd : Int) (events : EventMask)
    (answers : ClientAnswers) : (reactor.handleClientEvent handle fd events answers).Keeps := by
  apply handle_client_event_invariant handle fd events answers _ _ _ _ _ keeps
  · intro reactor keeps
    exact keeps
  · intro reactor keeps
    exact (remove_connection_quiet reactor fd).keeps keeps
  · intro reactor keeps
    exact handle_client_keeps handle keeps fd answers
  · intro reactor keeps
    exact (handle_write_quiet reactor fd answers.write).keeps keeps
  · intro reactor connection keeps
    exact disconnect_keeps keeps fd connection

/-- A finished job keeps its callback until the completion is delivered. -/
theorem finish_job_keeps (keeps : reactor.Keeps) (job : Nat) (response : Option HttpResponse) :
    (reactor.finishJob job response).Keeps := by
  unfold finishJob
  cases found : reactor.shared.jobs[job]? with
  | none => exact keeps
  | some callback =>
      obtain ⟨bound, rfl⟩ := List.getElem?_eq_some_iff.mp found
      have moved : (reactor.shared.completions.map Prod.fst ++
          (reactor.shared.jobs[job] :: reactor.shared.jobs.eraseIdx job)).Perm
          reactor.shared.outstanding :=
        (List.getElem_cons_eraseIdx_perm bound).append_left _
      have single := ((moved.map Callback.generation).nodup_iff).mpr keeps.single
      have published : (Shared.outstanding { reactor.shared with
          jobs := reactor.shared.jobs.eraseIdx job
          completions := reactor.shared.completions ++
            (response.map fun response => (reactor.shared.jobs[job], response)).toList }).Sublist
          (reactor.shared.completions.map Prod.fst ++
            (reactor.shared.jobs[job] :: reactor.shared.jobs.eraseIdx job)) := by
        cases response with
        | none => simp [Shared.outstanding]
        | some response => simp [Shared.outstanding]
      apply keeps.fewer
      · intro callback member
        exact moved.subset (published.subset member)
      · exact single.sublist (published.map Callback.generation)

theorem step_keeps (reactor : Reactor) (input : Input) (keeps : reactor.Keeps) :
    (reactor.step handle input).Keeps := by
  cases input with
  | accept answers =>
      apply handle_accept_invariant _ answers keeps
      intro reactor fd keeps
      exact accept_client_keeps keeps fd
  | timer expired =>
      apply handle_timer_invariant _ expired keeps
      intro reactor fd keeps
      exact (remove_connection_quiet reactor fd).keeps keeps
  | completions answers =>
      apply drain_completions_invariant _ _ answers keeps
      intro reactor answers keeps
      exact pop_completion_keeps keeps answers
  | client fd events answers => exact handle_client_event_keeps handle keeps fd events answers
  | worker job response => exact finish_job_keeps keeps job response

theorem run_keeps (id : Int) (inputs : List Input) :
    (run (step handle) { id := id } inputs).Keeps :=
  run_invariant (step handle) (step_keeps handle)
    (show Keeps { id := id } from Ledger.start 0) inputs

/-- Every response is queued under the descriptor and the generation its request
was dispatched on, at most once for each request and in the order of the requests,
and no generation has two jobs outstanding. -/
theorem responses_reach_their_connection (id : Int) (inputs : List Input) :
    let reactor := run (step handle) { id := id } inputs
    (∀ entry ∈ reactor.shared.history.queued,
      entry ∈ reactor.shared.history.dispatched ∧
        ∀ request ∈ reactor.shared.history.dispatched,
          request.serial = entry.serial → request = entry) ∧
    (reactor.shared.history.queued.map Entry.serial).Nodup ∧
    (reactor.shared.outstanding.map Callback.generation).Nodup ∧
    InOrder reactor.shared.history.queued := by
  intro reactor
  have keeps : reactor.Keeps := run_keeps handle id inputs
  refine ⟨?_, keeps.queued_once, keeps.single, keeps.inOrder⟩
  intro entry member
  refine ⟨keeps.known entry member, ?_⟩
  intro request dispatched same
  exact keeps.entry_unique dispatched (keeps.known entry member) same

end Reactor

end Aorta.Server
