import Aorta.Server.Delivery

/-!
# Events of connections that have been closed

The entries of one `epoll_wait` are handled one after the other, and a connection that is
accepted meanwhile may have the number of one that was closed. Its generation tells the
two apart, but an entry carries nothing but the number.
-/

namespace Aorta.Server

open Aorta.Library.Ascii Aorta.Library.Run Aorta.Http Aorta.Net

set_option autoImplicit false

namespace Session

variable (handle : Nat → HttpRequest → HandleResult) (openFile : Bytes → Option Int)

/-- The loops serve one descriptor and one generation. -/
def Same (before session : Session) : Prop :=
  session.fd = before.fd ∧ session.state.generation = before.state.generation

def LeftSame (before : Session) (outcome : Served × Session) : Prop := Same before outcome.2

theorem dispatch_same {before session : Session} (same : Same before session) :
    LeftSame before (session.dispatch handle openFile) := by
  have dispatches := dispatch_dispatches openFile handle session
  generalize session.dispatch handle openFile = outcome at dispatches ⊢
  cases dispatches with
  | pending => exact same
  | refused => exact same
  | fileRefused => exact same
  | answered => exact same

theorem read_loop_same (fuel : Nat) (recvs : List RecvResult) (session : Session) :
    LeftSame session (session.readLoop handle openFile fuel recvs) := by
  have start : Same session session := ⟨rfl, rfl⟩
  apply read_loop_rule openFile handle _ _ _ _ _ _ fuel recvs start
  · intro session connection same _
    exact same
  · intro session same
    exact same
  · intro session same
    exact same
  · intro session same
    have kept := dispatch_same handle openFile same
    exact ⟨fun _ => kept, fun _ => kept⟩
  · intro session same
    exact same
  · intro session same
    exact same

end Session

namespace Reactor

variable (since : Nat)

/-- The connection was accepted after the generation counter stood at a number. -/
def newSince (reactor : Reactor) (fd : Int) : Bool :=
  (reactor.connectionStates.lookup fd).any fun state => since < state.generation

/-- Nothing has happened to the connections accepted since. -/
def NewIdle (reactor : Reactor) : Prop :=
  ∀ fd state, reactor.connectionStates.lookup fd = some state → since < state.generation →
    state.redisPending = false ∧
      ∃ connection, reactor.connections.lookup fd = some connection ∧ connection.outputQueue = []

/-- The descriptor has no connection accepted since. -/
def OldAt (fd : Int) (reactor : Reactor) : Prop :=
  ∀ state, reactor.connectionStates.lookup fd = some state → state.generation ≤ since

/-- What holds while the event of an old connection is handled. -/
structure Handling (fd : Int) (reactor : Reactor) : Prop where
  idle : reactor.NewIdle since
  old : reactor.OldAt since fd

variable {since} {reactor : Reactor} {fd : Int}

theorem NewIdle.change {after : Reactor} (idle : reactor.NewIdle since)
    (states : ∀ other, other ≠ fd →
      after.connectionStates.lookup other = reactor.connectionStates.lookup other)
    (connections : ∀ other, other ≠ fd →
      after.connections.lookup other = reactor.connections.lookup other)
    (old : after.OldAt since fd) : after.Handling since fd := by
  refine ⟨?_, old⟩
  intro other state found new
  by_cases same : other = fd
  · subst same
    exact absurd new (Nat.not_lt.mpr (old state found))
  · rw [states other same] at found
    rw [connections other same]
    exact idle other state found new

theorem Handling.remove (handling : reactor.Handling since fd) :
    (reactor.removeConnection fd).Handling since fd := by
  unfold removeConnection
  cases reactor.connections.lookup fd with
  | none => exact handling
  | some connection =>
      apply handling.idle.change
      · exact fun other differs => AList.lookup_erase_ne differs
      · exact fun other differs => AList.lookup_erase_ne differs
      · intro state found
        rw [AList.lookup_erase] at found
        cases found

theorem Handling.share (handling : reactor.Handling since fd) (shared : Shared) :
    Handling since fd { reactor with shared := shared } :=
  ⟨handling.idle, handling.old⟩

theorem Handling.replace (handling : reactor.Handling since fd) (connection : Connection)
    (shared : Shared) :
    Handling since fd { reactor with
      connections := reactor.connections.insert fd connection, shared := shared } := by
  apply handling.idle.change
  · exact fun other differs => rfl
  · exact fun other differs => AList.lookup_insert_ne differs
  · exact handling.old

theorem Handling.put (handling : reactor.Handling since fd) {session : Session}
    (sameFd : session.fd = fd) (old : session.state.generation ≤ since) :
    (reactor.put session).Handling since fd := by
  subst sameFd
  apply handling.idle.change
  · exact fun other differs => AList.lookup_insert_ne differs
  · exact fun other differs => AList.lookup_insert_ne differs
  · intro state found
    unfold Reactor.put at found
    rw [AList.lookup_insert] at found
    cases found
    exact old

theorem Handling.update (handling : reactor.Handling since fd) (events : EventMask)
    (modified : Bool) : (reactor.updateEvents fd events modified).Handling since fd := by
  unfold updateEvents
  cases found : reactor.connectionStates.lookup fd with
  | none => exact handling
  | some state =>
      simp only
      split_ifs
      · exact handling
      · exact (handling.share _).remove
      · apply handling.idle.change
        · exact fun other differs => AList.lookup_insert_ne differs
        · exact fun other differs => rfl
        · intro other isOther
          rw [AList.lookup_insert] at isOther
          cases isOther
          exact handling.old state found

theorem Handling.write (handling : reactor.Handling since fd) (answers : WriteAnswers) :
    (reactor.handleWrite fd answers).Handling since fd := by
  have writes := reactor.handle_write_writes fd answers
  generalize reactor.handleWrite fd answers = outcome at writes ⊢
  cases writes with
  | idle => exact handling
  | failed connection after => exact (handling.replace after _).remove
  | blocked connection after => exact (handling.replace after _).update _ _
  | closed connection after => exact (handling.replace after _).remove
  | flushed connection after => exact (handling.replace after _).update _ _

variable (handle : Nat → HttpRequest → HandleResult)

theorem Handling.read (handling : reactor.Handling since fd) (answers : ClientAnswers) :
    (reactor.handleClient handle fd answers).Handling since fd := by
  have reads := handle_client_reads handle reactor fd answers
  generalize reactor.handleClient handle fd answers = outcome at reads ⊢
  cases reads with
  | idle => exact handling
  | unknown => exact handling.remove
  | served connection state served session after found foundState idle loops leaves =>
      have same := Session.read_loop_same handle answers.openFile
        (answers.recvs.length + 1) answers.recvs ⟨fd, connection, state, reactor.shared⟩
      rw [loops] at same
      obtain ⟨sameFd, generation⟩ := same
      have put : (reactor.put session).Handling since fd := by
        apply handling.put sameFd
        rw [generation]
        exact handling.old state foundState
      cases leaves with
      | failed => exact put.remove
      | paused => exact put.update _ _
      | written => exact put.write _
      | stored => exact put

theorem Handling.disconnected (handling : reactor.Handling since fd) (connection : Connection) :
    (reactor.disconnect fd connection).Handling since fd := by
  unfold disconnect
  cases reactor.connectionStates.lookup fd with
  | none => exact handling.remove
  | some state => exact (handling.share _).remove

theorem NewIdle.accept (idle : reactor.NewIdle since) (fd : Int) :
    (reactor.acceptClient fd).NewIdle since := by
  intro other state found new
  unfold acceptClient at found ⊢
  by_cases same : other = fd
  · subst same
    rw [AList.lookup_insert] at found
    cases found
    exact ⟨rfl, _, AList.lookup_insert _, rfl⟩
  · simp only [AList.lookup_insert_ne same] at found ⊢
    exact idle other state found new

theorem NewIdle.remove (idle : reactor.NewIdle since) (fd : Int) :
    (reactor.removeConnection fd).NewIdle since := by
  unfold removeConnection
  cases reactor.connections.lookup fd with
  | none => exact idle
  | some connection =>
      intro other state found new
      by_cases same : other = fd
      · subst same
        rw [AList.lookup_erase] at found
        cases found
      · simp only [AList.lookup_erase_ne same] at found ⊢
        exact idle other state found new

/-- A completion is for a connection that waits for it, and no new one does. -/
theorem NewIdle.pop (idle : reactor.NewIdle since) (answers : WriteAnswers) :
    (reactor.popCompletion answers).NewIdle since := by
  unfold popCompletion
  cases reactor.shared.completions with
  | nil => exact idle
  | cons completion completions =>
      obtain ⟨callback, response⟩ := completion
      simp only
      generalize holds : ({ reactor with
        shared := { reactor.shared with completions := completions } } : Reactor) = popped
      have idle : popped.NewIdle since := by
        rw [← holds]
        exact idle
      have handling : ∀ state, popped.connectionStates.lookup callback.fd = some state →
          state.redisPending = true → popped.Handling since callback.fd := by
        intro state found pending
        refine ⟨idle, fun other isOther => ?_⟩
        rw [found] at isOther
        cases isOther
        apply Nat.not_lt.mp
        intro new
        rw [(idle callback.fd state found new).1] at pending
        cases pending
      have completes := popped.complete_async_response_completes callback response answers
      generalize popped.completeAsyncResponse callback response answers = outcome at completes ⊢
      cases completes with
      | dropped => exact idle
      | refused connection state after found foundState current pending =>
          have old := handling state foundState pending
          exact ((old.put rfl (old.old state foundState)).remove).idle
      | queued connection state after found foundState current pending =>
          have old := handling state foundState pending
          exact ((old.put rfl (old.old state foundState)).write _).idle

theorem event_of_new_connection (answers : ClientAnswers) (events : EventMask)
    {connection : Connection}
    (found : reactor.connections.lookup fd = some connection)
    (silent : events.error = false ∧ events.hangup = false ∧ events.input = false)
    (empty : connection.outputQueue = []) :
    reactor.handleClientEvent handle fd events answers =
      if events.readHangup then reactor.disconnect fd connection else reactor := by
  have nothing : connection.hasPendingOutput = false := by
    simp [Connection.hasPendingOutput, empty]
  have written : reactor.handleWrite fd answers.write = reactor := by
    simp [handleWrite, found, nothing]
  simp [handleClientEvent, silent, written, handleReadHangup, found, nothing]

theorem removed_lookup (reactor : Reactor) (fd : Int) :
    (reactor.removeConnection fd).connections.lookup fd = none := by
  unfold removeConnection
  cases found : reactor.connections.lookup fd with
  | none => exact found
  | some connection => exact AList.lookup_erase _ _

theorem disconnected_lookup (reactor : Reactor) (fd : Int) (connection : Connection) :
    (reactor.disconnect fd connection).connections.lookup fd = none := by
  unfold disconnect
  cases reactor.connectionStates.lookup fd with
  | none => exact removed_lookup _ _
  | some state => exact removed_lookup _ _

theorem failed_read_removes {connection : Connection} {state : ConnectionState}
    (found : reactor.connections.lookup fd = some connection)
    (foundState : reactor.connectionStates.lookup fd = some state)
    (idle : state.redisPending = false) :
    (reactor.handleClient handle fd { recvs := [.failed] }).connections.lookup fd = none := by
  have fails : ∀ session : Session, ∃ after,
      session.readLoop handle (fun _ => none) 2 [.failed] = (.failed, after) := by
    intro session
    unfold Session.readLoop Connection.read
    split_ifs
    · exact ⟨_, rfl⟩
    · exact ⟨_, rfl⟩
  obtain ⟨session, failed⟩ := fails ⟨fd, connection, state, reactor.shared⟩
  unfold handleClient
  simp only [found, foundState, idle, Bool.false_eq_true, if_false, List.length_singleton, failed]
  exact removed_lookup _ _

theorem missing_event_ends (missing : reactor.connections.lookup fd = none)
    (answers : WriteAnswers) :
    reactor.handleWrite fd answers = reactor ∧ reactor.handleReadHangup fd = reactor := by
  simp [handleWrite, handleReadHangup, missing]

/-- The events of a descriptor neither read nor write nor remove its connection: whatever
`recv` and `send` would answer, it stays as it is. -/
def Untouched (reactor : Reactor) (fd : Int) (events : EventMask) : Prop :=
  ∀ answers, (reactor.handleClientEvent handle fd events answers).connections.lookup fd =
      reactor.connections.lookup fd ∧
    (reactor.handleClientEvent handle fd events answers).connectionStates.lookup fd =
      reactor.connectionStates.lookup fd

/-- Nothing but room in the output buffer of the socket is reported. -/
def onlyRoom (events : EventMask) : Bool :=
  !events.error && !events.hangup && !events.input && !events.readHangup

theorem untouched_iff {connection : Connection} {state : ConnectionState}
    (found : reactor.connections.lookup fd = some connection)
    (foundState : reactor.connectionStates.lookup fd = some state)
    (idle : state.redisPending = false) (empty : connection.outputQueue = [])
    (events : EventMask) :
    reactor.Untouched handle fd events ↔ onlyRoom events = true := by
  constructor
  · intro untouched
    obtain ⟨stays, _⟩ := untouched { recvs := [.failed] }
    rw [found] at stays
    have gone : ∀ after : Reactor, after.connections.lookup fd = none →
        reactor.handleClientEvent handle fd events { recvs := [.failed] } ≠ after := by
      intro after missing same
      rw [same, missing] at stays
      cases stays
    have alive : events.error = false := by
      apply Bool.eq_false_iff.mpr
      intro error
      apply gone _ (removed_lookup { reactor with shared := reactor.shared.incrementErrors } fd)
      simp only [handleClientEvent, error, if_true]
    have stands : events.hangup = false := by
      apply Bool.eq_false_iff.mpr
      intro hangup
      apply gone _ (removed_lookup reactor fd)
      simp only [handleClientEvent, alive, hangup, Bool.false_eq_true, if_false, if_true]
    have unread : events.input = false := by
      apply Bool.eq_false_iff.mpr
      intro input
      have missing := failed_read_removes handle found foundState idle
      obtain ⟨written, ended⟩ := missing_event_ends missing {}
      apply gone _ missing
      simp only [handleClientEvent, alive, stands, input, written, ended, Bool.false_eq_true,
        if_false, if_true, ite_self]
    have goesOn : events.readHangup = false := by
      apply Bool.eq_false_iff.mpr
      intro readHangup
      apply gone _ (disconnected_lookup reactor fd connection)
      rw [event_of_new_connection handle _ events found ⟨alive, stands, unread⟩ empty,
        if_pos readHangup]
    simp [onlyRoom, alive, stands, unread, goesOn]
  · intro quiet
    simp only [onlyRoom, Bool.and_eq_true, Bool.not_eq_true'] at quiet
    obtain ⟨⟨⟨alive, stands⟩, unread⟩, goesOn⟩ := quiet
    intro answers
    rw [event_of_new_connection handle answers events found ⟨alive, stands, unread⟩ empty, goesOn]
    exact ⟨rfl, rfl⟩

variable (since)

/-- An entry for a connection accepted since leaves it alone. -/
def Spares (reactor : Reactor) : Input → Prop
  | .client fd events _ =>
      reactor.newSince since fd = true → reactor.Untouched handle fd events
  | _ => True

/-- An entry for a connection accepted since reports nothing but room. -/
def ReportsRoom (reactor : Reactor) : Input → Prop
  | .client fd events _ => reactor.newSince since fd = true → onlyRoom events = true
  | _ => True

variable {since}

theorem new_since_state (new : reactor.newSince since fd = true) :
    ∃ state, reactor.connectionStates.lookup fd = some state ∧ since < state.generation := by
  unfold newSince at new
  cases found : reactor.connectionStates.lookup fd with
  | none =>
      rw [found] at new
      cases new
  | some state =>
      rw [found] at new
      exact ⟨state, rfl, of_decide_eq_true new⟩

theorem reports_room_iff_spares (reactor : Reactor) (input : Input)
    (idle : reactor.NewIdle since) :
    reactor.ReportsRoom since input ↔ reactor.Spares since handle input := by
  cases input with
  | client fd events answers =>
      apply forall_congr'
      intro new
      obtain ⟨state, foundState, later⟩ := new_since_state new
      obtain ⟨waits, connection, found, empty⟩ := idle fd state foundState later
      exact (untouched_iff handle found foundState waits empty events).symm
  | accept answers => exact Iff.rfl
  | timer expired => exact Iff.rfl
  | completions answers => exact Iff.rfl
  | worker job response => exact Iff.rfl

theorem step_new_idle (reactor : Reactor) (input : Input) (idle : reactor.NewIdle since)
    (quiet : reactor.ReportsRoom since input) : (reactor.step handle input).NewIdle since := by
  cases input with
  | accept answers =>
      apply handle_accept_invariant _ answers idle
      intro reactor fd idle
      exact idle.accept fd
  | timer expired =>
      apply handle_timer_invariant _ expired idle
      intro reactor fd idle
      exact idle.remove fd
  | completions answers =>
      apply drain_completions_invariant _ _ answers idle
      intro reactor answers idle
      exact idle.pop answers
  | client fd events answers =>
      cases new : reactor.newSince since fd with
      | true =>
          obtain ⟨state, foundState, later⟩ := new_since_state new
          obtain ⟨_, connection, found, empty⟩ := idle fd state foundState later
          have room := quiet new
          simp only [onlyRoom, Bool.and_eq_true, Bool.not_eq_true'] at room
          obtain ⟨⟨⟨alive, stands⟩, unread⟩, goesOn⟩ := room
          have same : reactor.step handle (.client fd events answers) = reactor := by
            change reactor.handleClientEvent handle fd events answers = reactor
            rw [event_of_new_connection handle answers events found ⟨alive, stands, unread⟩ empty,
              goesOn]
            rfl
          rw [same]
          exact idle
      | false =>
          have old : reactor.OldAt since fd := by
            intro state found
            apply Nat.not_lt.mp
            intro later
            simp [newSince, found, later] at new
          have handling : reactor.Handling since fd := ⟨idle, old⟩
          have handled : (reactor.step handle (.client fd events answers)).Handling since fd := by
            apply handle_client_event_invariant handle fd events answers _ _ _ _ _ handling
            · intro reactor handling
              exact handling.share _
            · intro reactor handling
              exact handling.remove
            · intro reactor handling
              exact handling.read handle answers
            · intro reactor handling
              exact handling.write answers.write
            · intro reactor connection handling
              exact handling.disconnected connection
          exact handled.idle
  | worker job response =>
      change (reactor.finishJob job response).NewIdle since
      unfold finishJob
      cases reactor.shared.jobs[job]? with
      | none => exact idle
      | some callback => exact idle

theorem run_generations (id : Int) (inputs : List Input) (fd : Int) :
    (run (step handle) { id := id } inputs).newSince
      (run (step handle) { id := id } inputs).nextConnectionGeneration fd = false := by
  have keeps := run_keeps handle id inputs
  generalize run (step handle) { id := id } inputs = reactor at keeps ⊢
  apply Bool.eq_false_iff.mpr
  intro new
  obtain ⟨state, found, later⟩ := new_since_state new
  have slot : slots reactor.connectionStates fd = some (state.generation, state.redisPending) := by
    simp [slots, found]
  exact absurd later (Nat.not_lt.mpr (keeps.current fd _ _ slot))

/-- Whatever has happened before and whatever the entries of a batch are, in whatever
order: they all spare the connections accepted in the batch exactly if none of them is for
one of these and reports anything but room. -/
theorem entries_spare_new_connections (id : Int) (inputs batch : List Input) :
    let reactor := run (step handle) { id := id } inputs
    let since := reactor.nextConnectionGeneration
    (∀ fd, reactor.newSince since fd = false) ∧
      (Throughout (step handle) (Spares since handle) reactor batch ↔
        Throughout (step handle) (ReportsRoom since) reactor batch) := by
  intro reactor since
  have none_new : ∀ fd, reactor.newSince since fd = false := run_generations handle id inputs
  have idle : reactor.NewIdle since := by
    intro fd state found later
    have old := none_new fd
    simp [newSince, found, later] at old
  refine ⟨none_new, ?_, ?_⟩
  · apply throughout_of_throughout (step handle) _ _ idle batch
    · intro reactor input idle spares
      have room := (reports_room_iff_spares handle reactor input idle).mpr spares
      exact step_new_idle handle reactor input idle room
    · exact fun reactor input idle => (reports_room_iff_spares handle reactor input idle).mpr
  · apply throughout_of_throughout (step handle) (step_new_idle handle) _ idle batch
    exact fun reactor input idle => (reports_room_iff_spares handle reactor input idle).mp

/-- A connection expires, its number goes to a new client, and the end of the old
connection is reported: the new one is removed. -/
theorem late_hangup_removes_new_connection :
    let reactor := run (step fun _ _ => .pending) { id := 0 } [.accept [.client 7 true true true]]
    let batch : List Input :=
      [.timer [7], .accept [.client 7 true true true], .client 7 { hangup := true } {}]
    ¬ Throughout (step fun _ _ => .pending)
        (Spares reactor.nextConnectionGeneration fun _ _ => .pending) reactor batch ∧
      (run (step fun _ _ => .pending) reactor (batch.take 2)).newSince
        reactor.nextConnectionGeneration 7 = true ∧
      (run (step fun _ _ => .pending) reactor batch).connections.lookup 7 = none := by
  intro reactor batch
  refine ⟨?_, rfl, rfl⟩
  intro throughout
  obtain ⟨stays, _⟩ := throughout.2.2.1 rfl {}
  cases stays

end Reactor

end Aorta.Server
