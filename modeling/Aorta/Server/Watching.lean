import Aorta.Server.Splitting
import Aorta.Server.Transitions

/-!
# What connections are watched for

The mask of a connection is changed in three places only: when a job is left
outstanding, when a write stalls and when a write empties the queue. A property of
connections and their states that survives these changes is kept by every handler. It
may be broken inside a handler, as long as what holds instead is enough for
`handleWrite` to restore it: `Kept` says what it takes.
-/

namespace Aorta.Server

open Aorta.Library.Ascii Aorta.Http Aorta.Net

set_option autoImplicit false

namespace Session

variable (handle : Nat → HttpRequest → HandleResult) (openFile : Bytes → Option Int)

/-- The loops only add to the output queue and leave the mask to their caller. -/
structure Fetches (before session : Session) : Prop where
  fd : session.fd = before.fd
  events : session.state.currentEvents = before.state.currentEvents
  kept : before.connection.outputQueue <+: session.connection.outputQueue

def Fetching (before session : Session) : Prop :=
  Fetches before session ∧ session.state.redisPending = false

def Fetched (before : Session) (outcome : Served × Session) : Prop :=
  outcome.2.fd = before.fd ∧ (outcome.1 ≠ .failed →
    Fetches before outcome.2 ∧ outcome.2.state.redisPending = decide (outcome.1 = .pending))

variable {before session : Session}

theorem fail_fetched (sameFd : session.fd = before.fd) : Fetched before session.fail :=
  ⟨sameFd, fun goesOn => absurd rfl goesOn⟩

theorem Fetching.input (fetching : Fetching before session) {connection : Connection}
    (same : connection.SameOutput session.connection) :
    Fetching before { session with connection := connection } := by
  refine ⟨⟨fetching.1.fd, fetching.1.events, ?_⟩, fetching.2⟩
  rw [same.1]
  exact fetching.1.kept

theorem Fetching.finish (fetching : Fetching before session) :
    Fetched before session.finish := by
  have consumed := fetching.input session.connection.consume_parsed_bytes_output
  have goesOn : session.finish.1 ≠ .pending := by
    rcases session.finish_served with served | served <;> rw [served] <;> exact nofun
  refine ⟨fetching.1.fd, fun _ => ⟨⟨consumed.1.fd, consumed.1.events, consumed.1.kept⟩, ?_⟩⟩
  exact consumed.2.trans (decide_eq_false goesOn).symm

theorem dispatch_fetched (fetching : Fetching before session) :
    Fetched before (session.dispatch handle openFile) := by
  have dispatches := dispatch_dispatches openFile handle session
  generalize session.dispatch handle openFile = outcome at dispatches ⊢
  cases dispatches with
  | pending closeAfterWrite =>
      have consumed := fetching.input session.connection.consume_parsed_bytes_output
      exact ⟨fetching.1.fd, fun _ =>
        ⟨⟨consumed.1.fd, consumed.1.events, consumed.1.kept⟩, rfl⟩⟩
  | refused after => exact fail_fetched fetching.1.fd
  | fileRefused after => exact fail_fetched fetching.1.fd
  | answered after parser buffer kept =>
      have responded : Fetching before (session.responded after) :=
        ⟨⟨fetching.1.fd, fetching.1.events, fetching.1.kept.trans kept⟩, fetching.2⟩
      exact responded.finish

theorem dispatch_goes (fetching : Fetching before session) :
    Goes (Fetching before) (Fetched before) (session.dispatch handle openFile) := by
  have fetched := dispatch_fetched handle openFile fetching
  constructor
  · intro waits
    have fetches := fetched.2 (by rw [waits]; exact nofun)
    rw [waits] at fetches
    exact fetches
  · intro _
    exact fetched

theorem read_loop_fetched (fuel : Nat) (recvs : List RecvResult)
    (idle : session.state.redisPending = false) :
    Fetched session (session.readLoop handle openFile fuel recvs) := by
  have start : Fetching session session := ⟨⟨rfl, rfl, List.prefix_rfl⟩, idle⟩
  apply read_loop_rule openFile handle _ _ _ _ _ _ fuel recvs start
  · intro session connection fetching same
    exact fetching.input same
  · intro session fetching
    exact ⟨⟨fetching.1.fd, fetching.1.events, fetching.1.kept⟩, fetching.2⟩
  · intro session fetching
    exact fail_fetched fetching.1.fd
  · intro session fetching
    exact dispatch_goes handle openFile fetching
  · intro session fetching
    exact ⟨fetching.1.fd, fun _ => fetching⟩
  · intro session fetching
    exact ⟨fetching.1.fd, fun goesOn => absurd rfl goesOn⟩

end Session

namespace Reactor

/-- If the descriptor is open, epoll watches it for its current events, and the
connection and its state have the property. -/
def Watches (reactor : Reactor) (property : Connection → ConnectionState → Prop) (fd : Int) :
    Prop :=
  ∀ connection, reactor.connections.lookup fd = some connection →
    ∃ state, reactor.connectionStates.lookup fd = some state ∧
      reactor.epoll.lookup fd = some state.currentEvents ∧ property connection state

def AllWatch (property : Connection → ConnectionState → Prop) (reactor : Reactor) : Prop :=
  ∀ fd, reactor.Watches property fd

variable (handle : Nat → HttpRequest → HandleResult) {reactor : Reactor} {fd : Int}
  {property : Connection → ConnectionState → Prop}

theorem remove_connection_watches
    (others : ∀ other, other ≠ fd → reactor.Watches property other) :
    (reactor.removeConnection fd).AllWatch property := by
  unfold removeConnection
  intro other
  by_cases same : other = fd
  · subst same
    cases found : reactor.connections.lookup other with
    | none =>
        intro connection here
        rw [found] at here
        cases here
    | some removed =>
        intro connection here
        rw [AList.lookup_erase] at here
        cases here
  · cases reactor.connections.lookup fd with
    | none => exact others other same
    | some removed =>
        intro connection here
        simp only [AList.lookup_erase_ne same] at here ⊢
        exact others other same connection here

theorem update_events_watches (others : ∀ other, other ≠ fd → reactor.Watches property other)
    (events : EventMask) (modified : Bool)
    (here : reactor.Watches (fun connection state =>
      property connection { state with currentEvents := events }) fd) :
    (reactor.updateEvents fd events modified).AllWatch property := by
  unfold updateEvents
  cases foundState : reactor.connectionStates.lookup fd with
  | none =>
      intro other
      by_cases same : other = fd
      · subst same
        intro connection found
        obtain ⟨state, missing, -⟩ := here connection found
        rw [foundState] at missing
        cases missing
      · exact others other same
  | some state =>
      simp only
      split_ifs with unchanged refused
      · intro other
        by_cases same : other = fd
        · subst same
          intro connection found
          obtain ⟨known, isKnown, watched, awake⟩ := here connection found
          rw [foundState] at isKnown
          cases isKnown
          rw [← unchanged] at awake
          exact ⟨state, foundState, watched, awake⟩
        · exact others other same
      · apply remove_connection_watches
        exact others
      · intro other
        by_cases same : other = fd
        · subst same
          intro connection found
          obtain ⟨known, isKnown, -, awake⟩ := here connection found
          rw [foundState] at isKnown
          cases isKnown
          exact ⟨_, AList.lookup_insert _, AList.lookup_insert _, awake⟩
        · intro connection found
          simp only [AList.lookup_insert_ne same]
          exact others other same connection found

theorem replaced_others (others : ∀ other, other ≠ fd → reactor.Watches property other)
    (after : Connection) (shared : Shared) :
    ∀ other, other ≠ fd → Watches { reactor with
      connections := reactor.connections.insert fd after, shared := shared } property other := by
  intro other differs written
  simp only [AList.lookup_insert_ne differs]
  exact others other differs written

theorem replaced_here {connection : Connection}
    (found : reactor.connections.lookup fd = some connection)
    {before after : Connection → ConnectionState → Prop} (watches : reactor.Watches before fd)
    {written : Connection} (holds : ∀ state, before connection state → after written state)
    (shared : Shared) :
    Watches { reactor with
      connections := reactor.connections.insert fd written, shared := shared } after fd := by
  intro now isWritten
  rw [AList.lookup_insert] at isWritten
  cases isWritten
  obtain ⟨state, foundState, watched, here⟩ := watches connection found
  exact ⟨state, foundState, watched, holds state here⟩

theorem put_others (others : ∀ other, other ≠ fd → reactor.Watches property other)
    {session : Session} (sameFd : session.fd = fd) :
    ∀ other, other ≠ fd → (reactor.put session).Watches property other := by
  subst sameFd
  intro other differs connection found
  simp only [put, AList.lookup_insert_ne differs] at found ⊢
  exact others other differs connection found

theorem put_here {session : Session} (sameFd : session.fd = fd)
    (watched : reactor.epoll.lookup fd = some session.state.currentEvents)
    {property : Connection → ConnectionState → Prop}
    (holds : property session.connection session.state) :
    (reactor.put session).Watches property fd := by
  subst sameFd
  intro connection found
  unfold put at found
  rw [AList.lookup_insert] at found
  cases found
  exact ⟨session.state, AList.lookup_insert _, watched, holds⟩

theorem put_removed_watches (others : ∀ other, other ≠ fd → reactor.Watches property other)
    {session : Session} (sameFd : session.fd = fd) :
    ((reactor.put session).removeConnection fd).AllWatch property := by
  apply remove_connection_watches
  exact put_others others sameFd

/-- A property that the handlers keep, and what holds instead of it before
`handleWrite` is called. -/
structure Kept (ready property : Connection → ConnectionState → Prop) : Prop where
  accepted : ∀ fd id clock generation,
    property { fd := fd, reactorId := id } (.accepted clock generation)
  fetched : ∀ before session : Session, property before.connection before.state →
    before.state.redisPending = false → Session.Fetches before session →
      session.state.redisPending = false → ready session.connection session.state
  paused : ∀ (connection : Connection) (state : ConnectionState), state.redisPending = true →
    property connection { state with currentEvents := { readHangup := true } }
  completed : ∀ (connection : Connection) (state : ConnectionState) (clock : Int),
    connection.outputQueue ≠ [] → ready connection (state.answered clock)
  idle : ∀ (connection : Connection) (state : ConnectionState), ready connection state →
    connection.outputQueue = [] → property connection state
  stalled : ∀ (connection after : Connection) (state : ConnectionState),
    ready connection state → connection.outputQueue ≠ [] → after.outputQueue ≠ [] →
      property after { state with
        currentEvents := { input := true, output := true, readHangup := true } }
  drained : ∀ (connection after : Connection) (state : ConnectionState),
    ready connection state → connection.outputQueue ≠ [] → after.outputQueue = [] →
      property after { state with currentEvents := { input := true, readHangup := true } }

section Rules

variable {ready : Connection → ConnectionState → Prop} (kept : Kept ready property)

include kept

theorem handle_write_watches (others : ∀ other, other ≠ fd → reactor.Watches property other)
    (here : reactor.Watches ready fd) (answers : WriteAnswers) :
    (reactor.handleWrite fd answers).AllWatch property := by
  have unchanged : (∀ connection, reactor.connections.lookup fd = some connection →
      connection.outputQueue = []) → reactor.AllWatch property := by
    intro nothing other
    by_cases same : other = fd
    · subst same
      intro connection found
      obtain ⟨state, foundState, watched, isReady⟩ := here connection found
      exact ⟨state, foundState, watched,
        kept.idle connection state isReady (nothing connection found)⟩
    · exact others other same
  have writes := reactor.handle_write_writes fd answers
  generalize reactor.handleWrite fd answers = outcome at writes ⊢
  cases writes with
  | idle nothing => exact unchanged nothing
  | failed connection after found input =>
      apply remove_connection_watches
      exact replaced_others others after _
  | closed connection after found input =>
      apply remove_connection_watches
      exact replaced_others others after _
  | blocked connection after found input waiting stalled =>
      apply update_events_watches (replaced_others others after _)
      apply replaced_here found here
      intro state isReady
      exact kept.stalled connection after state isReady waiting stalled
  | flushed connection after found input waiting drained =>
      apply update_events_watches (replaced_others others after _)
      apply replaced_here found here
      intro state isReady
      exact kept.drained connection after state isReady waiting drained

theorem handle_client_watches (watches : reactor.AllWatch property) (fd : Int)
    (answers : ClientAnswers) :
    (reactor.handleClient handle fd answers).AllWatch property := by
  have others : ∀ other, other ≠ fd → reactor.Watches property other :=
    fun other _ => watches other
  have reads := handle_client_reads handle reactor fd answers
  generalize reactor.handleClient handle fd answers = outcome at reads ⊢
  cases reads with
  | idle => exact watches
  | unknown => exact remove_connection_watches others
  | served connection state served session after found foundState idle loops leaves =>
      obtain ⟨known, isKnown, watched, here⟩ := watches fd connection found
      rw [foundState] at isKnown
      cases isKnown
      have fetched := Session.read_loop_fetched handle answers.openFile
        (answers.recvs.length + 1) answers.recvs
        (show (⟨fd, connection, state, reactor.shared⟩ : Session).state.redisPending = false
          from idle)
      rw [loops] at fetched
      obtain ⟨sameFd, fetches⟩ := fetched
      have othersNow := put_others others sameFd
      have watchedNow : served ≠ .failed →
          reactor.epoll.lookup fd = some session.state.currentEvents := by
        intro goesOn
        rw [(fetches goesOn).1.events]
        exact watched
      have isReady : served ≠ .failed ∧ served ≠ .pending →
          ready session.connection session.state := by
        intro goesOn
        obtain ⟨last, pending⟩ := fetches goesOn.1
        exact kept.fetched _ session here idle last (pending.trans (decide_eq_false goesOn.2))
      cases leaves with
      | failed => exact put_removed_watches others sameFd
      | paused =>
          apply update_events_watches othersNow
          apply put_here sameFd (watchedNow nofun)
          exact kept.paused session.connection session.state (fetches nofun).2
      | written served goesOn =>
          apply handle_write_watches kept othersNow
          exact put_here sameFd (watchedNow goesOn.1) (isReady goesOn)
      | stored served goesOn nothing =>
          intro other
          by_cases same : other = fd
          · subst same
            exact put_here sameFd (watchedNow goesOn.1) (kept.idle _ _ (isReady goesOn) nothing)
          · exact othersNow other same

theorem complete_async_response_watches (watches : reactor.AllWatch property)
    (callback : Callback) (response : HttpResponse) (answers : WriteAnswers) :
    (reactor.completeAsyncResponse callback response answers).AllWatch property := by
  have others : ∀ other, other ≠ callback.fd → reactor.Watches property other :=
    fun other _ => watches other
  have completes := reactor.complete_async_response_completes callback response answers
  generalize reactor.completeAsyncResponse callback response answers = outcome at completes ⊢
  cases completes with
  | dropped => exact watches
  | refused connection state after found foundState => exact put_removed_watches others rfl
  | queued connection state after found foundState current pending input waiting =>
      obtain ⟨known, isKnown, watched, -⟩ := watches callback.fd connection found
      rw [foundState] at isKnown
      cases isKnown
      apply handle_write_watches kept
      · exact put_others others rfl
      · exact put_here rfl watched (kept.completed after state _ waiting)

theorem pop_completion_watches (watches : reactor.AllWatch property)
    (answers : WriteAnswers) :
    (reactor.popCompletion answers).AllWatch property := by
  unfold popCompletion
  cases reactor.shared.completions with
  | nil => exact watches
  | cons completion completions =>
      apply complete_async_response_watches kept
      exact watches

theorem accept_client_watches (watches : reactor.AllWatch property) (fd : Int) :
    (reactor.acceptClient fd).AllWatch property := by
  intro other connection found
  unfold acceptClient at found ⊢
  simp only at found ⊢
  by_cases same : other = fd
  · subst same
    rw [AList.lookup_insert] at found
    cases found
    exact ⟨_, AList.lookup_insert _, AList.lookup_insert _, kept.accepted _ _ _ _⟩
  · simp only [AList.lookup_insert_ne same] at found ⊢
    exact watches other connection found

/-- Events with one condition keep the property if `handleWrite` is only called where it
restores it. -/
theorem simple_watches {input : Input} (simple : input.Simple)
    (watches : reactor.AllWatch property)
    (writes : ∀ fd answers, input = .client fd { output := true } answers →
      reactor.Watches ready fd) :
    (reactor.step handle input).AllWatch property := by
  have removed : ∀ shared fd,
      (removeConnection { reactor with shared := shared } fd).AllWatch property := by
    intro shared fd
    apply remove_connection_watches
    exact fun other _ => watches other
  cases simple with
  | error fd answers => exact removed _ fd
  | hangup fd answers => exact removed _ fd
  | input fd answers => exact handle_client_watches handle kept watches fd answers
  | output fd answers =>
      apply handle_write_watches kept (fun other _ => watches other)
      exact writes fd answers rfl
  | readHangup fd answers =>
      change (reactor.handleReadHangup fd).AllWatch property
      apply handle_read_hangup_invariant fd _ watches
      intro connection _ _
      unfold disconnect
      cases reactor.connectionStates.lookup fd with
      | none => exact removed reactor.shared fd
      | some state => exact removed _ fd
  | accept answers =>
      apply handle_accept_invariant _ answers watches
      intro reactor fd watches
      exact accept_client_watches kept watches fd
  | timer expired =>
      apply handle_timer_invariant _ expired watches
      intro reactor fd watches
      apply remove_connection_watches
      exact fun other _ => watches other
  | completions answers =>
      apply drain_completions_invariant _ _ answers watches
      intro reactor answers watches
      exact pop_completion_watches kept watches answers
  | worker job response =>
      change (reactor.finishJob job response).AllWatch property
      unfold finishJob
      cases reactor.shared.jobs[job]? with
      | none => exact watches
      | some callback => exact watches

end Rules

/-- Every connection has a state. -/
def Stated (reactor : Reactor) : Prop :=
  reactor.AllWatch fun _ _ => True

theorem simple_stated (reactor : Reactor) (input : Input) (simple : input.Simple)
    (stated : reactor.Stated) : (reactor.step handle input).Stated := by
  have kept : Kept (fun _ _ => True) fun _ _ => True := by
    constructor <;> intros <;> trivial
  apply simple_watches handle kept simple stated
  exact fun fd answers _ => stated fd

end Reactor

end Aorta.Server
