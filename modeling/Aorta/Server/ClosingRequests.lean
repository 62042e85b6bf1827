import Aorta.Server.Splitting
import Aorta.Server.Stranded

/-!
# Requests behind one that closes the connection

A request with `Connection: close` ends the loops of `handleClient`: at once if it is
answered at once, and if it leaves a job behind there is no reading until the job is
done. What is remembered afterwards is `close_after_write`, and `handleClient` does not
look at it when it is called again. As long as the last response is not flushed the
connection is open, and bytes that complete another request are served.
-/

namespace Aorta.Server

open Aorta.Library.Ascii Aorta.Library.Run Aorta.Http Aorta.Net
open Aorta.Http.HttpParser (ParseResult)

set_option autoImplicit false

def Marked (outstanding : List Callback) (connection : Connection) (state : ConnectionState) :
    Prop :=
  connection.closeAfterWrite = true ∨
    state.redisPending = true ∧ ∀ callback ∈ outstanding,
      callback.generation = state.generation → callback.closeAfterWrite = true

theorem Marked.fewer {outstanding others : List Callback} {connection : Connection}
    {state : ConnectionState} (marked : Marked outstanding connection state)
    (subset : ∀ callback ∈ others, callback.generation = state.generation →
      callback ∈ outstanding) : Marked others connection state := by
  apply marked.imp_right
  rintro ⟨pending, closes⟩
  exact ⟨pending, fun callback member same => closes callback (subset callback member same) same⟩

namespace Session

variable (handle : Nat → HttpRequest → HandleResult) (openFile : Bytes → Option Int)

/-- How the loops leave a session, compared with how they found it. -/
structure Asked (before : Session) (outcome : Served × Session) : Prop where
  fd : outcome.2.fd = before.fd
  generation : outcome.2.state.generation = before.state.generation
  dispatched : ∀ entry ∈ outcome.2.shared.history.dispatched,
    entry ∈ before.shared.history.dispatched ∨
      entry.generation = before.state.generation ∧
        ∀ closer ∈ before.shared.closing, closer.generation ≠ before.state.generation
  outstanding : ∀ callback ∈ outcome.2.shared.outstanding,
    callback ∈ before.shared.outstanding ∨ callback.generation = before.state.generation
  closing : ∀ closer ∈ outcome.2.shared.closing, closer ∈ before.shared.closing ∨
    closer.generation = before.state.generation ∧
      ∀ entry ∈ outcome.2.shared.history.dispatched, entry.serial ≤ closer.serial
  marked : outcome.1 ≠ .failed → ∀ closer ∈ outcome.2.shared.closing,
    closer.generation = before.state.generation →
      Marked outcome.2.shared.outstanding outcome.2.connection outcome.2.state

/-- A session on which no closing request has been dispatched. -/
structure Unclosed (before session : Session) : Prop where
  fd : session.fd = before.fd
  generation : session.state.generation = before.state.generation
  idle : session.state.redisPending = false
  stays : session.connection.closeAfterWrite = false
  dispatched : ∀ entry ∈ session.shared.history.dispatched,
    entry ∈ before.shared.history.dispatched ∨ entry.generation = before.state.generation
  numbered : ∀ entry ∈ session.shared.history.dispatched, entry.serial < session.shared.serial
  outstanding : session.shared.outstanding = before.shared.outstanding
  free : ∀ callback ∈ before.shared.outstanding,
    callback.generation ≠ before.state.generation
  closing : session.shared.closing = before.shared.closing
  none : ∀ closer ∈ before.shared.closing, closer.generation ≠ before.state.generation

variable {before session : Session}

theorem Unclosed.asked (unclosed : Unclosed before session) (served : Served) :
    Asked before (served, session) where
  fd := unclosed.fd
  generation := unclosed.generation
  dispatched entry member := (unclosed.dispatched entry member).imp_right fun same =>
    ⟨same, unclosed.none⟩
  outstanding _ member := .inl (unclosed.outstanding ▸ member)
  closing _ member := .inl (unclosed.closing ▸ member)
  marked _ closer member same :=
    absurd same (unclosed.none closer (unclosed.closing ▸ member))

theorem Unclosed.shares (unclosed : Unclosed before session) (shared : Shared)
    (dispatched : shared.history.dispatched = session.shared.history.dispatched)
    (serial : shared.serial = session.shared.serial)
    (outstanding : shared.outstanding = session.shared.outstanding)
    (closing : shared.closing = session.shared.closing) :
    Unclosed before { session with shared := shared } :=
  { unclosed with
    dispatched := fun entry member => unclosed.dispatched entry (dispatched ▸ member)
    numbered := fun entry member => by
      rw [serial]
      exact unclosed.numbered entry (dispatched ▸ member)
    outstanding := outstanding.trans unclosed.outstanding
    closing := closing.trans unclosed.closing }

theorem Unclosed.failed (unclosed : Unclosed before session) : Asked before session.fail :=
  (unclosed.shares session.shared.incrementErrors rfl rfl rfl rfl).asked .failed

theorem Unclosed.disconnected (unclosed : Unclosed before session) :
    Asked before session.disconnect :=
  (unclosed.shares (session.shared.endStream session.fd session.state.generation
    session.connection.outputQueue) rfl rfl rfl rfl).asked .failed

/-- A request is dispatched: it is the newest one, whether it closes or not. -/
theorem Unclosed.dispatch (unclosed : Unclosed before session) :
    (∀ entry ∈ session.dispatched.shared.history.dispatched,
      (entry ∈ before.shared.history.dispatched ∨
        entry.generation = before.state.generation) ∧
          entry.serial ≤ session.shared.serial) ∧
      ∀ closer ∈ session.dispatched.shared.closing, closer ∈ before.shared.closing ∨
        session.closes = true ∧ closer.generation = before.state.generation ∧
          closer.serial = session.shared.serial := by
  constructor
  · intro entry member
    rcases List.mem_append.mp member with earlier | new
    · exact ⟨unclosed.dispatched entry earlier, Nat.le_of_lt (unclosed.numbered entry earlier)⟩
    · rw [List.mem_singleton.mp new]
      exact ⟨.inr unclosed.generation, le_refl _⟩
  · intro closer member
    have listed : closer ∈ if session.closes then session.shared.closing ++
        [⟨session.shared.serial, session.fd, session.state.generation⟩]
        else session.shared.closing := member
    split_ifs at listed with closes
    · rcases List.mem_append.mp listed with earlier | new
      · exact .inl (unclosed.closing ▸ earlier)
      · rw [List.mem_singleton.mp new]
        exact .inr ⟨closes, unclosed.generation, rfl⟩
    · exact .inl (unclosed.closing ▸ listed)

theorem Unclosed.asked_dispatch (unclosed : Unclosed before session)
    {outcome : Served × Session} (sameFd : outcome.2.fd = session.fd)
    (generation : outcome.2.state.generation = session.state.generation)
    (dispatched : outcome.2.shared.history.dispatched =
      session.dispatched.shared.history.dispatched)
    (closing : outcome.2.shared.closing = session.dispatched.shared.closing)
    (outstanding : ∀ callback ∈ outcome.2.shared.outstanding,
      callback ∈ before.shared.outstanding ∨ callback.generation = before.state.generation)
    (marked : outcome.1 ≠ .failed → session.closes = true →
      Marked outcome.2.shared.outstanding outcome.2.connection outcome.2.state) :
    Asked before outcome := by
  obtain ⟨entries, closers⟩ := unclosed.dispatch
  constructor
  · exact sameFd.trans unclosed.fd
  · exact generation.trans unclosed.generation
  · intro entry member
    rw [dispatched] at member
    exact (entries entry member).1.imp_right fun same => ⟨same, unclosed.none⟩
  · exact outstanding
  · intro closer member
    rw [closing] at member
    apply (closers closer member).imp_right
    rintro ⟨-, same, last⟩
    refine ⟨same, fun entry inHistory => ?_⟩
    rw [dispatched] at inHistory
    rw [last]
    exact (entries entry inHistory).2
  · intro goesOn closer member same
    rw [closing] at member
    rcases closers closer member with old | ⟨closes, -⟩
    · exact absurd same (unclosed.none closer old)
    · exact marked goesOn closes

theorem Unclosed.still_outstanding (unclosed : Unclosed before session) {callback : Callback}
    (member : callback ∈ session.shared.outstanding) :
    callback ∈ before.shared.outstanding ∨ callback.generation = before.state.generation :=
  .inl (unclosed.outstanding ▸ member)

theorem finish_waits {session : Session} (waits : session.finish.1 = .waiting) :
    session.connection.closeAfterWrite = false := by
  have same := (finish_output session).2.2
  unfold finish Connection.shouldCloseAfterWrite at waits
  simp only at waits
  split_ifs at waits with closes
  rw [← same]
  exact Bool.eq_false_of_not_eq_true closes

theorem dispatch_asked (unclosed : Unclosed before session) :
    Goes (Unclosed before) (Asked before) (session.dispatch handle openFile) := by
  have dispatches := dispatch_dispatches openFile handle session
  generalize session.dispatch handle openFile = outcome at dispatches ⊢
  cases dispatches with
  | pending closeAfterWrite announced =>
      have submitted : ∀ callback ∈ ((session.dispatched.shared.submit ⟨session.fd,
          session.state.generation, closeAfterWrite, session.shared.serial⟩).outstanding),
          callback ∈ before.shared.outstanding ∨
            callback.generation = session.state.generation ∧
              callback.closeAfterWrite = closeAfterWrite := by
        intro callback member
        have listed : callback ∈ session.shared.outstanding ++ [⟨session.fd,
            session.state.generation, closeAfterWrite, session.shared.serial⟩] := by
          simpa [Shared.outstanding, Shared.submit, Shared.dispatch, Shared.announce, dispatched]
            using member
        rcases List.mem_append.mp listed with old | new
        · exact .inl (unclosed.outstanding ▸ old)
        · rw [List.mem_singleton.mp new]
          exact .inr ⟨rfl, rfl⟩
      refine ⟨by simp, fun _ => unclosed.asked_dispatch rfl rfl rfl rfl ?_ ?_⟩
      · intro callback member
        exact (submitted callback member).imp_right fun new => new.1.trans unclosed.generation
      · intro _ closes
        refine .inr ⟨rfl, fun callback member same => ?_⟩
        rcases submitted callback member with old | new
        · exact absurd (Eq.trans same unclosed.generation) (unclosed.free callback old)
        · rw [new.2, announced, closes]
  | refused after =>
      refine ⟨fun waits => (by cases waits), fun _ => unclosed.asked_dispatch rfl rfl rfl rfl ?_ ?_⟩
      · exact fun callback => unclosed.still_outstanding
      · exact fun goesOn => absurd rfl goesOn
  | fileRefused after =>
      refine ⟨fun waits => (by cases waits), fun _ => unclosed.asked_dispatch rfl rfl rfl rfl ?_ ?_⟩
      · exact fun callback => unclosed.still_outstanding
      · exact fun goesOn => absurd rfl goesOn
  | answered after parser buffer kept filled marked =>
      constructor
      · intro waits
        have plain : after.closeAfterWrite = false := finish_waits waits
        have closes : session.closes = false := (Bool.or_eq_false_iff.mp (marked ▸ plain)).1
        obtain ⟨entries, _⟩ := unclosed.dispatch
        refine { unclosed with
          stays := (finish_output _).2.2.trans plain
          dispatched := fun entry member => (entries entry member).1
          numbered := fun entry member => Nat.lt_succ_of_le (entries entry member).2
          closing := ?_ }
        have same : session.dispatched.shared.closing = session.shared.closing := by
          unfold dispatched Shared.announce
          rw [closes]
          rfl
        exact Eq.trans same unclosed.closing
      · intro _
        apply unclosed.asked_dispatch rfl rfl rfl rfl
        · exact fun callback => unclosed.still_outstanding
        · intro _ closes
          left
          rw [(finish_output _).2.2]
          exact marked.trans (by rw [closes]; rfl)

theorem read_loop_asked (fuel : Nat) (recvs : List RecvResult)
    (unclosed : Unclosed before session) :
    Asked before (session.readLoop handle openFile fuel recvs) := by
  apply read_loop_rule openFile handle _ _ _ _ _ _ fuel recvs unclosed
  · intro session connection unclosed same
    exact { unclosed with stays := same.2.2.trans unclosed.stays }
  · intro session unclosed
    exact { unclosed with }
  · intro session unclosed
    exact unclosed.failed
  · intro session unclosed
    exact dispatch_asked handle openFile unclosed
  · intro session unclosed
    exact unclosed.asked .waiting
  · intro session unclosed
    exact unclosed.disconnected

end Session

namespace Reactor

variable (handle : Nat → HttpRequest → HandleResult) {reactor : Reactor}
  {outstanding : List Callback}

/-- No request was dispatched behind one that closes its connection, and where such a
request was dispatched the connection is marked. -/
structure Closes (outstanding : List Callback) (reactor : Reactor) : Prop where
  last : ∀ closer ∈ reactor.shared.closing, ∀ entry ∈ reactor.shared.history.dispatched,
    entry.generation = closer.generation → entry.serial ≤ closer.serial
  known : ∀ closer ∈ reactor.shared.closing,
    closer.generation ≤ reactor.nextConnectionGeneration
  marked : ∀ fd connection state, reactor.connections.lookup fd = some connection →
    reactor.connectionStates.lookup fd = some state → ∀ closer ∈ reactor.shared.closing,
      closer.generation = state.generation → Marked outstanding connection state

theorem Closes.fewer (closes : reactor.Closes outstanding) {others : List Callback}
    (subset : ∀ callback ∈ others, callback ∈ outstanding) : reactor.Closes others where
  last := closes.last
  known := closes.known
  marked fd connection state found foundState closer member same :=
    (closes.marked fd connection state found foundState closer member same).fewer
      fun callback member _ => subset callback member

/-- Connections are closed or written to. -/
theorem Closes.descends {before after : Reactor} (closes : before.Closes outstanding)
    (next : after.nextConnectionGeneration = before.nextConnectionGeneration)
    (dispatched : after.shared.history.dispatched = before.shared.history.dispatched)
    (closing : after.shared.closing = before.shared.closing) (descends : Descends before after) :
    after.Closes outstanding := by
  constructor
  · rw [closing, dispatched]
    exact closes.last
  · rw [closing, next]
    exact closes.known
  · intro fd connection state found foundState closer member same
    obtain ⟨old, oldState, foundOld, foundOldState, input, generation, pending⟩ :=
      descends fd connection state found foundState
    rw [closing] at member
    have marked := closes.marked fd old oldState foundOld foundOldState closer member
      (same.trans generation)
    unfold Marked at marked ⊢
    rw [input.2.2, pending, generation]
    exact marked

theorem accept_client_closes (closes : reactor.Closes outstanding) (fd : Int) :
    (reactor.acceptClient fd).Closes outstanding := by
  constructor
  · exact closes.last
  · intro closer member
    exact Nat.le_succ_of_le (closes.known closer member)
  · intro other connection state found foundState closer member same
    unfold acceptClient at found foundState
    simp only at found foundState
    by_cases here : other = fd
    · subst here
      rw [AList.lookup_insert] at foundState
      cases foundState
      have old := closes.known closer member
      have new : closer.generation = reactor.nextConnectionGeneration + 1 := same
      omega
    · rw [AList.lookup_insert_ne here] at found foundState
      exact closes.marked other connection state found foundState closer member same

theorem asked_closes {after : Reactor} {fd : Int} {connection : Connection}
    {state : ConnectionState} {outcome : Served × Session} (keeps : reactor.Keeps)
    (closes : reactor.Closes reactor.shared.outstanding)
    (foundState : reactor.connectionStates.lookup fd = some state)
    (asked : Session.Asked ⟨fd, connection, state, reactor.shared⟩ outcome)
    (next : after.nextConnectionGeneration = reactor.nextConnectionGeneration)
    (dispatched : after.shared.history.dispatched = outcome.2.shared.history.dispatched)
    (pending : after.shared.outstanding = outcome.2.shared.outstanding)
    (closing : after.shared.closing = outcome.2.shared.closing)
    (others : ∀ other, other ≠ fd →
      after.connections.lookup other = reactor.connections.lookup other ∧
        after.connectionStates.lookup other = reactor.connectionStates.lookup other)
    (here : ∀ left, after.connections.lookup fd = some left → outcome.1 ≠ .failed ∧
      left = outcome.2.connection ∧
        after.connectionStates.lookup fd = some outcome.2.state) :
    after.Closes after.shared.outstanding := by
  have slot : slots reactor.connectionStates fd = some (state.generation, state.redisPending) := by
    simp [slots, foundState]
  constructor
  · rw [closing, dispatched]
    intro closer member entry inHistory same
    rcases asked.closing closer member with old | ⟨-, last⟩
    · rcases asked.dispatched entry inHistory with earlier | ⟨own, none⟩
      · exact closes.last closer old entry earlier same
      · exact absurd (same.symm.trans own) (none closer old)
    · exact last entry inHistory
  · rw [closing, next]
    intro closer member
    rcases asked.closing closer member with old | ⟨own, -⟩
    · exact closes.known closer old
    · rw [own]
      exact keeps.current fd state.generation state.redisPending slot
  · rw [closing, pending]
    intro other left leftState found isState closer member same
    by_cases isHere : other = fd
    · subst isHere
      obtain ⟨goesOn, sameConnection, sameState⟩ := here left found
      rw [isState] at sameState
      cases sameState
      rw [sameConnection]
      exact asked.marked goesOn closer member (same.trans asked.generation)
    · obtain ⟨sameConnection, sameState⟩ := others other isHere
      rw [sameConnection] at found
      rw [sameState] at isState
      have apart : leftState.generation ≠ state.generation := by
        intro equal
        have otherSlot : slots reactor.connectionStates other =
            some (state.generation, leftState.redisPending) := by
          simp [slots, isState, equal]
        exact isHere (keeps.distinct other fd state.generation _ _ otherSlot slot)
      rcases asked.closing closer member with old | ⟨own, -⟩
      · apply (closes.marked other left leftState found isState closer old same).fewer
        intro callback inList generation
        rcases asked.outstanding callback inList with known | own
        · exact known
        · exact absurd (generation.symm.trans own) apart
      · exact absurd (same.symm.trans own) apart

def Ends (reactor : Reactor) : Prop := reactor.Closes reactor.shared.outstanding

theorem Ends.descends {before after : Reactor} (ends : before.Ends)
    (quiet : Quiet before after) (descends : Descends before after) : after.Ends := by
  unfold Ends Shared.outstanding
  rw [quiet.jobs, quiet.completions]
  exact Closes.descends ends quiet.next (congrArg History.dispatched quiet.history)
    quiet.closing descends

theorem put_others_lookup (reactor : Reactor) (session : Session) {other : Int}
    (differs : other ≠ session.fd) :
    (reactor.put session).connections.lookup other = reactor.connections.lookup other ∧
      (reactor.put session).connectionStates.lookup other =
        reactor.connectionStates.lookup other :=
  ⟨AList.lookup_insert_ne differs, AList.lookup_insert_ne differs⟩

theorem put_ending {fd : Int} {connection : Connection} {state : ConnectionState}
    {served : Served} {session : Session} (keeps : reactor.Keeps) (ends : reactor.Ends)
    (foundState : reactor.connectionStates.lookup fd = some state)
    (asked : Session.Asked ⟨fd, connection, state, reactor.shared⟩ (served, session))
    (goesOn : served ≠ .failed) : (reactor.put session).Ends := by
  have sameFd : session.fd = fd := asked.fd
  apply asked_closes keeps ends foundState asked
  · rfl
  · rfl
  · rfl
  · rfl
  · intro other differs
    exact put_others_lookup reactor session (sameFd ▸ differs)
  · intro left found
    subst sameFd
    unfold put at found ⊢
    rw [AList.lookup_insert] at found ⊢
    cases found
    exact ⟨goesOn, rfl, rfl⟩

theorem put_removed_ending {fd : Int} {connection : Connection} {state : ConnectionState}
    {served : Served} {session : Session} (keeps : reactor.Keeps) (ends : reactor.Ends)
    (foundState : reactor.connectionStates.lookup fd = some state)
    (asked : Session.Asked ⟨fd, connection, state, reactor.shared⟩ (served, session)) :
    ((reactor.put session).removeConnection fd).Ends := by
  have sameFd : session.fd = fd := asked.fd
  subst sameFd
  have removed : (reactor.put session).connections.lookup session.fd = some session.connection :=
    AList.lookup_insert _
  unfold removeConnection
  rw [removed]
  apply asked_closes keeps ends foundState asked
  · rfl
  · rfl
  · rfl
  · rfl
  · intro other differs
    obtain ⟨same, sameState⟩ := put_others_lookup reactor session differs
    simp only [AList.lookup_erase_ne differs]
    exact ⟨same, sameState⟩
  · intro left found
    simp only [AList.lookup_erase] at found
    cases found

theorem handle_client_ending (keeps : reactor.Keeps) (ends : reactor.Ends) (fd : Int)
    (answers : ClientAnswers)
    (stays : ∀ connection state, reactor.connections.lookup fd = some connection →
      reactor.connectionStates.lookup fd = some state → state.redisPending = false →
        connection.closeAfterWrite = false) :
    (reactor.handleClient handle fd answers).Ends := by
  have reads := handle_client_reads handle reactor fd answers
  generalize reactor.handleClient handle fd answers = outcome at reads ⊢
  cases reads with
  | idle => exact ends
  | unknown =>
      exact ends.descends (remove_connection_quiet reactor fd)
        (remove_connection_descends reactor fd)
  | served connection state served session after found foundState idle loops leaves =>
      have plain := stays connection state found foundState idle
      have slot : slots reactor.connectionStates fd = some (state.generation, false) := by
        simp [slots, foundState, idle]
      have none : ∀ closer ∈ reactor.shared.closing, closer.generation ≠ state.generation := by
        intro closer member same
        rcases ends.marked fd connection state found foundState closer member same with
          marked | ⟨waiting, -⟩
        · rw [plain] at marked
          cases marked
        · rw [idle] at waiting
          cases waiting
      have asked : Session.Asked ⟨fd, connection, state, reactor.shared⟩ (served, session) := by
        rw [← loops]
        apply Session.read_loop_asked
        exact ⟨rfl, rfl, idle, plain, fun _ member => .inl member,
          fun _ member => keeps.serial_lt member, rfl, keeps.unmarked_free slot, rfl, none⟩
      cases leaves with
      | failed => exact put_removed_ending keeps ends foundState asked
      | paused =>
          have put := put_ending keeps ends foundState asked (by simp)
          exact put.descends (update_events_quiet _ fd _ _) (update_events_descends _ fd _ _)
      | written served goesOn =>
          have put := put_ending keeps ends foundState asked goesOn.1
          exact put.descends (handle_write_quiet _ fd _) (handle_write_descends _ fd _)
      | stored served goesOn => exact put_ending keeps ends foundState asked goesOn.1

theorem completed_closes {callback : Callback} {connection after : Connection}
    {state : ConnectionState} {shared : Shared}
    (closes : reactor.Closes (callback :: reactor.shared.outstanding))
    (found : reactor.connections.lookup callback.fd = some connection)
    (foundState : reactor.connectionStates.lookup callback.fd = some state)
    (current : state.generation = callback.generation)
    (input : after.SameInput (if callback.closeAfterWrite then
      connection.setCloseAfterWrite true else connection))
    (dispatched : shared.history.dispatched = reactor.shared.history.dispatched)
    (closing : shared.closing = reactor.shared.closing) :
    (reactor.put ⟨callback.fd, after, state.answered reactor.shared.clock, shared⟩).Closes
      reactor.shared.outstanding := by
  constructor
  · unfold put
    simp only [closing, dispatched]
    exact closes.last
  · unfold put
    simp only [closing]
    exact closes.known
  · intro other left leftState isLeft isState closer member same
    unfold put at isLeft isState member
    simp only [closing] at isLeft isState member
    by_cases here : other = callback.fd
    · subst here
      rw [AList.lookup_insert] at isLeft isState
      cases isLeft
      cases isState
      left
      rw [input.2.2]
      rcases closes.marked callback.fd connection state found foundState closer member same with
        marked | ⟨-, all⟩
      · split_ifs
        · rfl
        · exact marked
      · rw [if_pos (all callback List.mem_cons_self current.symm)]
        rfl
    · rw [AList.lookup_insert_ne here] at isLeft isState
      apply (closes.marked other left leftState isLeft isState closer member same).fewer
      exact fun waiting inList _ => List.mem_cons_of_mem callback inList

theorem complete_async_response_ends {callback : Callback}
    (closes : reactor.Closes (callback :: reactor.shared.outstanding)) (response : HttpResponse)
    (answers : WriteAnswers) :
    (reactor.completeAsyncResponse callback response answers).Ends := by
  have fewer : reactor.Ends := closes.fewer fun other => List.mem_cons_of_mem callback
  have completes := reactor.complete_async_response_completes callback response answers
  generalize reactor.completeAsyncResponse callback response answers = outcome at completes ⊢
  cases completes with
  | dropped => exact fewer
  | refused connection state after found foundState current =>
      have quiet := remove_connection_quiet (reactor.put ⟨callback.fd, after, state.completed,
        reactor.shared.incrementErrors⟩) callback.fd
      have descends := put_removed_descends reactor ⟨callback.fd, after, state.completed,
        reactor.shared.incrementErrors⟩
      unfold Ends Shared.outstanding
      rw [quiet.jobs, quiet.completions]
      exact Closes.descends fewer quiet.next (congrArg History.dispatched quiet.history)
        quiet.closing descends
  | queued connection state after found foundState current pending input =>
      have put : (reactor.put ⟨callback.fd, after, state.answered reactor.shared.clock,
          reactor.shared.respond callback.serial callback.fd state.generation⟩).Ends :=
        completed_closes closes found foundState current input rfl rfl
      exact put.descends (handle_write_quiet _ callback.fd answers)
        (handle_write_descends _ callback.fd answers)

theorem pop_completion_ends (ends : reactor.Ends) (answers : WriteAnswers) :
    (reactor.popCompletion answers).Ends := by
  unfold popCompletion
  cases waiting : reactor.shared.completions with
  | nil => exact ends
  | cons completion completions =>
      apply complete_async_response_ends
      unfold Ends Shared.outstanding at ends
      rw [waiting] at ends
      exact ⟨ends.last, ends.known, ends.marked⟩

theorem Ends.shares (ends : reactor.Ends) (shared : Shared)
    (dispatched : shared.history.dispatched = reactor.shared.history.dispatched)
    (closing : shared.closing = reactor.shared.closing)
    (subset : ∀ callback ∈ shared.outstanding, callback ∈ reactor.shared.outstanding) :
    Ends { reactor with shared := shared } := by
  have fewer := Closes.fewer ends subset
  constructor
  · simp only [closing, dispatched]
    exact fewer.last
  · simp only [closing]
    exact fewer.known
  · simp only [closing]
    exact fewer.marked

theorem finish_job_ends (ends : reactor.Ends) (job : Nat) (response : Option HttpResponse) :
    (reactor.finishJob job response).Ends := by
  unfold finishJob
  cases found : reactor.shared.jobs[job]? with
  | none => exact ends
  | some callback =>
      have known : callback ∈ reactor.shared.jobs := List.mem_of_getElem? found
      apply ends.shares
      · rfl
      · rfl
      · intro other member
        simp only [Shared.outstanding, List.map_append, List.mem_append] at member ⊢
        rcases member with (waiting | published) | unfinished
        · exact .inl waiting
        · cases response with
          | none => cases published
          | some response => exact .inr (List.mem_singleton.mp published ▸ known)
        · exact .inr (List.mem_of_mem_eraseIdx unfinished)

/-- The event reads from a connection that is to be closed. -/
def readsBehindClose (reactor : Reactor) : Input → Bool
  | .client fd events _ =>
      match reactor.connections.lookup fd, reactor.connectionStates.lookup fd with
      | some connection, some state =>
          events.input && !state.redisPending && connection.closeAfterWrite
      | _, _ => false
  | _ => false

theorem simple_ends (reactor : Reactor) (input : Input) (simple : input.Simple)
    (ends : reactor.Keeps ∧ reactor.Ends)
    (calm : reactor.readsBehindClose input = false) :
    (reactor.step handle input).Keeps ∧ (reactor.step handle input).Ends := by
  refine ⟨step_keeps handle reactor input ends.1, ?_⟩
  have removed : ∀ fd, (reactor.removeConnection fd).Ends := fun fd =>
    ends.2.descends (remove_connection_quiet reactor fd) (remove_connection_descends reactor fd)
  cases simple with
  | error fd answers =>
      have counted := ends.2.shares reactor.shared.incrementErrors rfl rfl fun _ member => member
      exact counted.descends (remove_connection_quiet _ fd) (remove_connection_descends _ fd)
  | hangup fd answers => exact removed fd
  | input fd answers =>
      apply handle_client_ending handle ends.1 ends.2 fd answers
      intro connection state found foundState idle
      simpa [readsBehindClose, found, foundState, idle] using calm
  | output fd answers =>
      exact ends.2.descends (handle_write_quiet reactor fd answers.write)
        (handle_write_descends reactor fd answers.write)
  | readHangup fd answers =>
      change (reactor.handleReadHangup fd).Ends
      apply handle_read_hangup_invariant fd _ ends.2
      intro connection _ _
      unfold disconnect
      cases reactor.connectionStates.lookup fd with
      | none => exact removed fd
      | some state =>
          have ended := ends.2.shares
            (reactor.shared.endStream fd state.generation connection.outputQueue) rfl rfl
            fun _ member => member
          exact ended.descends (remove_connection_quiet _ fd) (remove_connection_descends _ fd)
  | accept answers =>
      apply handle_accept_invariant _ answers ends.2
      intro reactor fd ends
      exact accept_client_closes ends fd
  | timer expired =>
      apply handle_timer_invariant _ expired ends.2
      intro reactor fd ends
      exact ends.descends (remove_connection_quiet reactor fd)
        (remove_connection_descends reactor fd)
  | completions answers =>
      apply drain_completions_invariant _ _ answers ends.2
      intro reactor answers ends
      exact pop_completion_ends ends answers
  | worker job response => exact finish_job_ends ends.2 job response

/-- No request is dispatched behind one that closes its connection, as long as no event
reads from a connection that is to be closed. The conditions of an event count one after
the other. -/
theorem no_request_behind_close (id : Int) (inputs : List Input)
    (calm : Throughout (step handle)
      (fun reactor input => reactor.readsBehindClose input = false)
      { id := id } (inputs.flatMap Input.split)) :
    let shared := (run (step handle) { id := id } inputs).shared
    ∀ closer ∈ shared.closing, ∀ entry ∈ shared.history.dispatched,
      entry.generation = closer.generation → entry.serial ≤ closer.serial := by
  have start : Keeps { id := id } ∧ Ends { id := id } :=
    ⟨Ledger.start 0, ⟨nofun, nofun, fun _ _ _ found => nofun⟩⟩
  have ends := run_simple_invariant handle (simple_ends handle) start inputs calm
  exact ends.2.last

def closingGet (target : String) : Bytes :=
  ascii "GET " ++ ascii target ++ ascii " HTTP/1.1\r\nHost: a\r\nConnection: close\r\n\r\n"

def closingClient (sends : List SendResult) (events : EventMask) : List Input :=
  [.accept [.client 7 true true true],
    .client 7 { input := true }
      { recvs := [.received (closingGet "/hello" ++ getTarget "/hello")],
        inline := { sends := sends } },
    .client 7 events { recvs := [.received (getTarget "/hello")] }]

theorem flushed_close_ends_requests :
    let shared := (run (step tasksPending) { id := 0 }
      (closingClient [.sent 1000] { input := true })).shared
    shared.closing.length = 1 ∧
      ∀ closer ∈ shared.closing, ∀ entry ∈ shared.history.dispatched,
        entry.generation = closer.generation → entry.serial ≤ closer.serial :=
  ⟨by decide, no_request_behind_close tasksPending 0
    (closingClient [.sent 1000] { input := true }) (by decide)⟩

/-- The closing response does not fit the socket buffer; the next bytes of the client
bring the requests behind it to the handler. -/
theorem stalled_close_dispatches_another_request :
    let shared := (run (step tasksPending) { id := 0 }
      (closingClient [.sent 10] { input := true })).shared
    ¬ ∀ closer ∈ shared.closing, ∀ entry ∈ shared.history.dispatched,
      entry.generation = closer.generation → entry.serial ≤ closer.serial := by
  decide

end Reactor

end Aorta.Server
