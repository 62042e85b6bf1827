import Aorta.Server.Gauge
import Aorta.Server.Reads
import Aorta.Server.Splitting
import Aorta.Server.Stranded

/-!
# Requests and responses in the metrics

A request is counted when it is dispatched, and a response when `write` has emptied the
output queue. In between a request is accounted for by the output that is left on its
connection or by the job that is outstanding there. A connection stands for one request
in either way, so the counts agree as long as no response is put behind output that has
not been flushed.
-/

namespace Aorta.Server

open Aorta.Library Aorta.Library.Ascii Aorta.Library.Run Aorta.Http Aorta.Net
open Aorta.Http.HttpParser (ParseResult)

set_option autoImplicit false

def due (value : Bool) : Nat := if value then 1 else 0

@[simp] theorem due_true : due true = 1 := rfl

@[simp] theorem due_false : due false = 0 := rfl

theorem due_flushed {connection : Connection} (empty : connection.outputQueue = []) :
    due connection.hasPendingOutput = 0 := by
  simp [due, Connection.hasPendingOutput, empty]

theorem due_filled {connection : Connection} (filled : connection.outputQueue ≠ []) :
    due connection.hasPendingOutput = 1 := by
  simp [due, Connection.hasPendingOutput, filled]

/-- The connection went with nothing owed to its client. -/
def Removal.Clean (removal : Removal) : Prop :=
  removal.unsent = [] ∧ removal.pending = false ∧ removal.unanswered = []

theorem History.unanswered_ne_nil {history : History} (entry : Entry)
    (dispatched : entry ∈ history.dispatched) (waiting : entry ∉ history.queued) :
    history.unanswered entry.generation ≠ [] := by
  have member : entry ∈ history.unanswered entry.generation := by
    apply List.mem_filter.mpr
    simp [dispatched, waiting]
  exact List.ne_nil_of_mem member

namespace Session

variable (handle : Nat → HttpRequest → HandleResult) (openFile : Bytes → Option Int)

/-- A request that is answered at once, behind output that has not been flushed. -/
def crowded (session : Session) : Bool :=
  session.connection.hasPendingOutput &&
    handle session.shared.serial session.connection.getRequest ≠ .pending

/-- There is such a request among those that the loops dispatch. -/
def crowds (fuel : Nat) (recvs : List RecvResult) (session : Session) : Bool :=
  ((session.reads handle openFile fuel recvs).flatMap (Read.dispatches handle openFile)).any
    (crowded handle)

/-- What the connection stands for: output to be flushed, a job to be done. -/
def owed (session : Session) : Nat :=
  due session.connection.hasPendingOutput + due session.state.redisPending

/-- Each request that was counted is owed, and nothing else is. -/
def Level (before session : Session) : Prop :=
  session.shared.metrics.requestsTotal + before.owed =
    before.shared.metrics.requestsTotal + session.owed

/-- A session without a job, on which the counts agree. -/
structure Even (before session : Session) : Prop where
  fd : session.fd = before.fd
  idle : session.state.redisPending = false
  responses : session.shared.metrics.responsesTotal = before.shared.metrics.responsesTotal
  level : Level before session
  numbered : ∀ entry ∈ session.shared.history.queued, entry.serial < session.shared.serial

/-- The counts agree when the loops are left, unless the connection is going to be removed
with a response unsent. -/
structure LeftEven (before : Session) (outcome : Served × Session) : Prop where
  fd : outcome.2.fd = before.fd
  responses : outcome.2.shared.metrics.responsesTotal = before.shared.metrics.responsesTotal
  level : (outcome.1 = .failed → outcome.2.connection.outputQueue = [] ∧
    outcome.2.shared.history.unanswered outcome.2.state.generation = []) → Level before outcome.2

variable {before session : Session}

theorem Even.left (even : Even before session) (served : Served) :
    LeftEven before (served, session) :=
  ⟨even.fd, even.responses, fun _ => even.level⟩

theorem Even.input (even : Even before session) {connection : Connection}
    (same : connection.SameOutput session.connection) :
    Even before { session with connection := connection } where
  fd := even.fd
  idle := even.idle
  responses := even.responses
  level := by
    have level := even.level
    unfold Level owed Connection.hasPendingOutput at level ⊢
    rw [same.1]
    exact level
  numbered := even.numbered

theorem Even.received (even : Even before session) : Even before session.received :=
  ⟨even.fd, even.idle, even.responses, even.level, even.numbered⟩

theorem Even.failed (even : Even before session) : LeftEven before session.fail :=
  ⟨even.fd, even.responses, fun _ => even.level⟩

theorem Even.disconnected (even : Even before session) : LeftEven before session.disconnect :=
  ⟨even.fd, even.responses, fun _ => even.level⟩

theorem dispatch_pending (session : Session) (pending : handle session.shared.serial
    session.connection.getRequest = .pending) :
    (session.dispatch handle openFile).1 = .pending := by
  unfold dispatch
  simp only [pending]

theorem Even.unanswered (even : Even before session) :
    session.dispatched.shared.history.unanswered session.state.generation ≠ [] := by
  apply History.unanswered_ne_nil ⟨session.shared.serial, session.fd, session.state.generation⟩
  · exact List.mem_append_right _ (List.mem_singleton_self _)
  · intro queued
    exact Nat.lt_irrefl _ (even.numbered _ queued)

theorem dispatch_even (even : Even before session) (calm : session.crowded handle = false) :
    Goes (Even before) (LeftEven before) (session.dispatch handle openFile) := by
  have dispatches := dispatch_dispatches openFile handle session
  have jobs := dispatch_pending handle openFile session
  have level := even.level
  unfold Level owed at level
  rw [even.idle] at level
  generalize session.dispatch handle openFile = outcome at dispatches jobs ⊢
  cases dispatches with
  | pending closeAfterWrite announced =>
      refine ⟨by simp, fun _ => ⟨even.fd, even.responses, fun _ => ?_⟩⟩
      have output : session.connection.consumeParsedBytes.resetParser.outputQueue =
          session.connection.outputQueue := session.connection.consume_parsed_bytes_output.1
      unfold Level owed
      unfold Connection.hasPendingOutput at level ⊢
      simp only [refresh_deadline_connection, refresh_deadline_shared,
        refresh_deadline_pending, output, dispatched, Shared.submit, Shared.note_metrics,
        Shared.announce, Shared.dispatch, due_true, due_false] at level ⊢
      omega
  | refused after =>
      refine ⟨fun waits => (by cases waits), fun _ => ⟨even.fd, even.responses, fun clean => ?_⟩⟩
      exact absurd (clean rfl).2 even.unanswered
  | fileRefused after filled =>
      refine ⟨fun waits => (by cases waits), fun _ => ⟨even.fd, even.responses, fun clean => ?_⟩⟩
      exact absurd (clean rfl).1 filled
  | answered after parser buffer kept filled marked =>
      have served : (session.responded after).finish.1 ≠ .pending := by
        rcases finish_served (session.responded after) with waits | closes
        · rw [waits]
          simp
        · rw [closes]
          simp
      have flushed : due session.connection.hasPendingOutput = 0 := by
        have direct : handle session.shared.serial session.connection.getRequest ≠ .pending :=
          fun pending => served (jobs pending)
        unfold crowded at calm
        simp only [direct, ne_eq, not_false_eq_true, decide_true, Bool.and_true] at calm
        simp [due, calm]
      have same := (finish_output (session.responded after)).1
      have full : due (session.responded after).finish.2.connection.hasPendingOutput = 1 := by
        apply due_filled
        rw [same]
        exact filled
      have answered : Level before (session.responded after).finish.2 := by
        unfold Level owed
        rw [full]
        simp only [finish, refresh_deadline_shared, refresh_deadline_pending, responded,
          dispatched, Shared.respond, Shared.note_metrics, Shared.announce, Shared.dispatch,
          even.idle]
        omega
      have numbered : ∀ entry ∈ (session.responded after).shared.history.queued,
          entry.serial < session.shared.serial + 1 := by
        intro entry member
        rcases List.mem_append.mp member with earlier | new
        · exact Nat.lt_succ_of_lt (even.numbered entry earlier)
        · rw [List.mem_singleton.mp new]
          exact Nat.lt_succ_self _
      constructor
      · intro _
        exact ⟨even.fd, even.idle, even.responses, answered, numbered⟩
      · intro _
        exact ⟨even.fd, even.responses, fun _ => answered⟩

theorem serve_even (fuel : Nat) (even : Even before session)
    (calm : (session.dispatches handle openFile fuel).any (crowded handle) = false) :
    Goes (Even before) (LeftEven before) (session.serve handle openFile fuel) := by
  have parses : ∀ session result connection, Even before session →
      session.connection.parseRequest = (result, connection) →
      Even before { session with connection := connection } := by
    intro session result connection even parsed
    have same := session.connection.parse_request_output
    rw [parsed] at same
    exact even.input same
  refine @serve_rounds handle openFile (fun session others outcome => Even before session →
    others.any (crowded handle) = false → Goes (Even before) (LeftEven before) outcome)
    ?_ ?_ ?_ ?_ ?_ fuel session even calm
  · exact fun session even _ => ⟨fun _ => even, fun stops => absurd rfl stops⟩
  · intro session connection parsed even _
    have consumed := (parses session _ connection even parsed).input
      connection.consume_parsed_bytes_output
    exact ⟨fun _ => consumed, fun stops => absurd rfl stops⟩
  · intro session result connection parsed _ _ even _
    exact ⟨nofun, fun _ => (parses session result connection even parsed).failed⟩
  · intro session connection served after parsed dispatched _ even calm
    rw [← dispatched]
    rw [List.any_cons, List.any_nil, Bool.or_false] at calm
    exact dispatch_even handle openFile (parses session _ connection even parsed) calm
  · intro session connection after others outcome parsed dispatched rest even calm
    obtain ⟨first, later⟩ := Bool.or_eq_false_iff.mp calm
    have goes := dispatch_even handle openFile (parses session _ connection even parsed) first
    rw [dispatched] at goes
    exact rest (goes.1 rfl) later

theorem read_loop_even (fuel : Nat) (recvs : List RecvResult) (even : Even before session)
    (calm : session.crowds handle openFile fuel recvs = false) :
    LeftEven before (session.readLoop handle openFile fuel recvs) := by
  have reads : ∀ session recvs result connection rest, Even before session →
      session.connection.read recvs = (result, connection, rest) →
      Even before { session with connection := connection } := by
    intro session recvs result connection rest even answered
    have same := session.connection.read_output recvs
    rw [answered] at same
    exact even.input same
  have serves : ∀ session recvs connection rest outcome, Even before session →
      session.connection.read recvs = (.dataReceived, connection, rest) →
      serveAll handle openFile (received { session with connection := connection }) = outcome →
      (Read.dispatches handle openFile
        ⟨session, .dataReceived, { session with connection := connection }⟩).any
          (crowded handle) = false →
      Goes (Even before) (LeftEven before) outcome := by
    intro session recvs connection rest outcome even answered served calm
    rw [← served]
    exact serve_even handle openFile _
      (reads session recvs _ connection rest even answered).received calm
  refine @read_loop_rounds handle openFile (fun session reads outcome => Even before session →
    (reads.flatMap (Read.dispatches handle openFile)).any (crowded handle) = false →
    LeftEven before outcome) ?_ ?_ ?_ ?_ ?_ ?_ fuel recvs session even calm
  · exact fun session even _ => even.left .waiting
  · intro session recvs connection rest answered even _
    exact (reads session recvs _ connection rest even answered).disconnected
  · intro session recvs result connection rest answered _ even _
    exact (reads session recvs result connection rest even answered).failed
  · intro session recvs connection rest answered even _
    exact (reads session recvs _ connection rest even answered).left .waiting
  · intro session recvs connection rest served after answered outcome stops even calm
    rw [List.flatMap_singleton] at calm
    have goes := serves session recvs connection rest _ even answered outcome calm
    by_cases waits : served = .waiting
    · rw [waits] at goes ⊢
      exact (goes.1 rfl).left .waiting
    · exact goes.2 waits
  · intro session recvs connection rest after others outcome answered served _ later even calm
    rw [List.flatMap_cons, List.any_append] at calm
    obtain ⟨first, behind⟩ := Bool.or_eq_false_iff.mp calm
    have goes := serves session recvs connection rest _ even answered served first
    exact later (goes.1 rfl) behind

end Session

namespace Reactor

variable (handle : Nat → HttpRequest → HandleResult) {reactor : Reactor} {fd : Int}

def Clean (reactor : Reactor) : Prop := ∀ removal ∈ reactor.removals, removal.Clean

def unflushed (reactor : Reactor) : Nat :=
  FiniteMap.count Connection.hasPendingOutput reactor.connections

def awaited (reactor : Reactor) : Nat :=
  FiniteMap.count ConnectionState.redisPending reactor.connectionStates

/-- Each request is counted as answered, or a connection stands for it. -/
def Agrees (reactor : Reactor) : Prop :=
  reactor.shared.metrics.requestsTotal =
    reactor.shared.metrics.responsesTotal + reactor.unflushed + reactor.awaited

def Tallied (reactor : Reactor) : Prop := reactor.Clean → reactor.Agrees

section Tables

variable {connection : Connection} {state : ConnectionState}

theorem unflushed_insert (found : reactor.connections.lookup fd = some connection)
    (after : Connection) :
    FiniteMap.count Connection.hasPendingOutput (reactor.connections.insert fd after) +
        due connection.hasPendingOutput =
      reactor.unflushed + due after.hasPendingOutput := by
  unfold unflushed due
  rw [FiniteMap.count_insert, FiniteMap.count_erase_found _ found]
  omega

theorem awaited_insert (found : reactor.connectionStates.lookup fd = some state)
    (after : ConnectionState) :
    FiniteMap.count ConnectionState.redisPending (reactor.connectionStates.insert fd after) +
        due state.redisPending =
      reactor.awaited + due after.redisPending := by
  unfold awaited due
  rw [FiniteMap.count_insert, FiniteMap.count_erase_found _ found]
  omega

end Tables

theorem remove_found_tallied {connection : Connection}
    (found : reactor.connections.lookup fd = some connection)
    (agrees : reactor.Clean → connection.outputQueue = [] →
      (reactor.removal fd connection).unanswered = [] → reactor.Agrees) :
    (reactor.removeConnection fd).Tallied := by
  unfold removeConnection
  rw [found]
  intro clean
  obtain ⟨unsent, pending, unanswered⟩ :=
    clean _ (List.mem_append_right _ (List.mem_singleton_self _))
  have level := agrees (fun removal member => clean removal (List.mem_append_left _ member))
    unsent unanswered
  have output := FiniteMap.count_erase_found Connection.hasPendingOutput found
  have jobs : FiniteMap.count ConnectionState.redisPending (reactor.connectionStates.erase fd) =
      reactor.awaited := by
    unfold removal at pending
    unfold awaited
    cases foundState : reactor.connectionStates.lookup fd with
    | none => exact FiniteMap.count_erase_missing _ foundState
    | some state =>
        have idle : state.redisPending = false := by simpa [foundState] using pending
        rw [FiniteMap.count_erase_found _ foundState, idle]
        simp
  have idle : connection.hasPendingOutput = false := by
    simp only [removal] at unsent
    simp [Connection.hasPendingOutput, unsent]
  rw [idle] at output
  unfold Agrees unflushed at level ⊢
  rw [output] at level
  unfold awaited at jobs ⊢
  simp only [Shared.decrementActiveConnections, jobs]
  simpa [awaited] using level

theorem Tallied.remove (tallied : reactor.Tallied) (fd : Int) :
    (reactor.removeConnection fd).Tallied := by
  cases found : reactor.connections.lookup fd with
  | none =>
      unfold removeConnection
      rw [found]
      exact tallied
  | some connection => exact remove_found_tallied found fun clean _ _ => tallied clean

theorem Tallied.error (tallied : reactor.Tallied) :
    Tallied { reactor with shared := reactor.shared.incrementErrors } := tallied

theorem Tallied.update (tallied : reactor.Tallied) (fd : Int) (events : EventMask)
    (modified : Bool) : (reactor.updateEvents fd events modified).Tallied := by
  unfold updateEvents
  cases found : reactor.connectionStates.lookup fd with
  | none => exact tallied
  | some state =>
      simp only
      split_ifs
      · exact tallied
      · exact tallied.error.remove fd
      · intro clean
        have level := tallied clean
        have jobs := awaited_insert found { state with currentEvents := events }
        unfold Agrees at level ⊢
        unfold awaited unflushed at *
        simp only at jobs ⊢
        omega

theorem Tallied.flush (tallied : reactor.Tallied) {connection after : Connection}
    (found : reactor.connections.lookup fd = some connection)
    (waiting : connection.outputQueue ≠ []) (drained : after.outputQueue = []) :
    Tallied { reactor with
      connections := reactor.connections.insert fd after
      shared := reactor.shared.incrementResponses } := by
  intro clean
  have level := tallied clean
  have output := unflushed_insert found after
  rw [due_filled waiting, due_flushed drained] at output
  unfold Agrees at level ⊢
  unfold awaited unflushed Shared.incrementResponses at *
  simp only at level ⊢
  omega

theorem Tallied.write (tallied : reactor.Tallied) (fd : Int) (answers : WriteAnswers) :
    (reactor.handleWrite fd answers).Tallied := by
  have writes := reactor.handle_write_writes fd answers
  generalize reactor.handleWrite fd answers = outcome at writes ⊢
  cases writes with
  | idle => exact tallied
  | failed connection after found input waiting unsent =>
      apply remove_found_tallied (AList.lookup_insert _)
      intro _ empty _
      exact absurd empty unsent
  | blocked connection after found input waiting stalled =>
      apply Tallied.update
      intro clean
      have level := tallied clean
      have output := unflushed_insert found after
      rw [due_filled waiting, due_filled stalled] at output
      unfold Agrees at level ⊢
      unfold awaited unflushed at *
      simp only at level ⊢
      omega
  | closed connection after found input waiting drained =>
      exact (tallied.flush found waiting drained).remove fd
  | flushed connection after found input waiting drained =>
      exact (tallied.flush found waiting drained).update fd _ _

theorem put_level {connection : Connection} {state : ConnectionState} {session : Session}
    (agrees : reactor.Agrees)
    (found : reactor.connections.lookup session.fd = some connection)
    (foundState : reactor.connectionStates.lookup session.fd = some state)
    (responses : session.shared.metrics.responsesTotal = reactor.shared.metrics.responsesTotal)
    (level : Session.Level ⟨session.fd, connection, state, reactor.shared⟩ session) :
    (reactor.put session).Agrees := by
  have output := unflushed_insert found session.connection
  have jobs := awaited_insert foundState session.state
  unfold Session.Level Session.owed at level
  unfold Agrees at agrees ⊢
  unfold put unflushed awaited at *
  simp only at level output jobs ⊢
  omega

theorem Tallied.put_left (tallied : reactor.Tallied) {connection : Connection}
    {state : ConnectionState} {served : Served} {session : Session}
    (found : reactor.connections.lookup fd = some connection)
    (foundState : reactor.connectionStates.lookup fd = some state)
    (left : Session.LeftEven ⟨fd, connection, state, reactor.shared⟩ (served, session))
    (goesOn : served ≠ .failed) : (reactor.put session).Tallied := by
  have sameFd : session.fd = fd := left.fd
  subst sameFd
  intro clean
  exact put_level (tallied clean) found foundState left.responses
    (left.level fun failed => absurd failed goesOn)

theorem Tallied.put_removed (tallied : reactor.Tallied) {connection : Connection}
    {state : ConnectionState} {session : Session}
    (found : reactor.connections.lookup fd = some connection)
    (foundState : reactor.connectionStates.lookup fd = some state)
    (left : Session.LeftEven ⟨fd, connection, state, reactor.shared⟩ (.failed, session)) :
    ((reactor.put session).removeConnection fd).Tallied := by
  have sameFd : session.fd = fd := left.fd
  subst sameFd
  apply remove_found_tallied (AList.lookup_insert _)
  intro clean empty answered
  have known : (reactor.put session).connectionStates.lookup session.fd = some session.state :=
    AList.lookup_insert _
  unfold removal at answered
  rw [known] at answered
  exact put_level (tallied clean) found foundState left.responses
    (left.level fun _ => ⟨empty, answered⟩)

theorem Tallied.read (tallied : reactor.Tallied) (keeps : reactor.Keeps) (fd : Int)
    (answers : ClientAnswers)
    (calm : ∀ connection state, reactor.connections.lookup fd = some connection →
      reactor.connectionStates.lookup fd = some state → state.redisPending = false →
        Session.crowds handle answers.openFile (answers.recvs.length + 1) answers.recvs
          ⟨fd, connection, state, reactor.shared⟩ = false) :
    (reactor.handleClient handle fd answers).Tallied := by
  have reads := handle_client_reads handle reactor fd answers
  generalize reactor.handleClient handle fd answers = outcome at reads ⊢
  cases reads with
  | idle => exact tallied
  | unknown => exact tallied.remove fd
  | served connection state served session after found foundState idle loops leaves =>
      have even : Session.Even ⟨fd, connection, state, reactor.shared⟩
          ⟨fd, connection, state, reactor.shared⟩ :=
        ⟨rfl, idle, rfl, rfl, fun entry queued => keeps.serial_lt (keeps.known entry queued)⟩
      have left := Session.read_loop_even handle answers.openFile _ answers.recvs even
        (calm connection state found foundState idle)
      rw [loops] at left
      cases leaves with
      | failed => exact tallied.put_removed found foundState left
      | paused => exact (tallied.put_left found foundState left nofun).update fd _ _
      | written served goesOn =>
          exact (tallied.put_left found foundState left goesOn.1).write fd _
      | stored served goesOn => exact tallied.put_left found foundState left goesOn.1

/-- The response at the head of the channel goes behind output that has not been
flushed. -/
def crowdsPop (reactor : Reactor) : Bool :=
  match reactor.shared.completions with
  | [] => false
  | (callback, _) :: _ =>
      match reactor.connections.lookup callback.fd,
        reactor.connectionStates.lookup callback.fd with
      | some connection, some state =>
          isGenerationCurrent state callback.generation && state.redisPending &&
            connection.hasPendingOutput
      | _, _ => false

def crowdsDraining : Nat → List WriteAnswers → Reactor → Bool
  | 0, _, _ => false
  | rounds + 1, answers, reactor =>
      reactor.crowdsPop ||
        crowdsDraining rounds answers.tail (reactor.popCompletion (answers.headD {}))

theorem Tallied.complete (tallied : reactor.Tallied) {callback : Callback}
    (ledger : Ledger reactor.nextConnectionGeneration (slots reactor.connectionStates)
      (callback :: reactor.shared.outstanding) reactor.shared.serial reactor.shared.history)
    (response : HttpResponse) (answers : WriteAnswers)
    (calm : ∀ connection state, reactor.connections.lookup callback.fd = some connection →
      reactor.connectionStates.lookup callback.fd = some state →
        state.generation = callback.generation → state.redisPending = true →
          connection.outputQueue = []) :
    (reactor.completeAsyncResponse callback response answers).Tallied := by
  have completes := reactor.complete_async_response_completes callback response answers
  generalize reactor.completeAsyncResponse callback response answers = outcome at completes ⊢
  cases completes with
  | dropped => exact tallied
  | refused connection state after found foundState current =>
      apply remove_found_tallied (AList.lookup_insert _)
      intro _ _ answered
      have known : (reactor.put ⟨callback.fd, after, state.completed,
          reactor.shared.incrementErrors⟩).connectionStates.lookup callback.fd =
            some state.completed := AList.lookup_insert _
      have waits : callback.entry ∉ reactor.shared.history.queued := fun queued =>
        Nat.lt_irrefl _ (ledger.last callback List.mem_cons_self callback.entry queued rfl)
      have owed := History.unanswered_ne_nil callback.entry
        (ledger.asked callback List.mem_cons_self) waits
      unfold removal at answered
      rw [known] at answered
      have none : reactor.shared.history.unanswered state.generation = [] := answered
      rw [current] at none
      exact absurd none owed
  | queued connection state after found foundState current pending input waiting =>
      apply Tallied.write
      intro clean
      apply put_level (tallied clean) found foundState
      · rfl
      · have flushed := calm connection state found foundState current pending
        unfold Session.Level Session.owed
        rw [due_flushed flushed, due_filled waiting, pending]
        rfl

theorem Tallied.pop (tallied : reactor.Tallied) (keeps : reactor.Keeps) (answers : WriteAnswers)
    (calm : reactor.crowdsPop = false) : (reactor.popCompletion answers).Tallied := by
  unfold popCompletion
  unfold crowdsPop at calm
  cases waiting : reactor.shared.completions with
  | nil => exact tallied
  | cons completion completions =>
      have ledger := keeps
      unfold Keeps Shared.outstanding at ledger
      rw [waiting] at ledger calm
      apply Tallied.complete _ ledger
      · intro connection state found foundState current pending
        simp only [found, foundState, isGenerationCurrent, current, pending, beq_self_eq_true,
          Bool.true_and] at calm
        simpa [Connection.hasPendingOutput] using calm
      · exact tallied

theorem Tallied.drain (rounds : Nat) (answers : List WriteAnswers) (tallied : reactor.Tallied)
    (keeps : reactor.Keeps) (calm : crowdsDraining rounds answers reactor = false) :
    (drainCompletions rounds answers reactor).Tallied := by
  induction rounds generalizing answers reactor with
  | zero => exact tallied
  | succ rounds ih =>
      obtain ⟨first, rest⟩ := Bool.or_eq_false_iff.mp calm
      exact ih _ (tallied.pop keeps _ first) (pop_completion_keeps keeps _) rest

theorem Tallied.accepts (tallied : reactor.Tallied) (gauged : reactor.Gauged 0)
    (fresh : reactor.connections.lookup fd = none) : (reactor.acceptClient fd).Tallied := by
  intro clean
  have level := tallied clean
  have unknown : reactor.connectionStates.lookup fd = none := by
    rw [AList.lookup_eq_none, ← gauged.keys fd]
    exact AList.lookup_eq_none.mp fresh
  unfold Agrees unflushed awaited at level ⊢
  unfold acceptClient
  simp only
  rw [FiniteMap.count_add _ fresh, FiniteMap.count_add _ unknown]
  exact level

/-- A response is put behind output that has not been flushed. -/
def crowds (reactor : Reactor) : Input → Bool
  | .client fd events answers =>
      match reactor.connections.lookup fd, reactor.connectionStates.lookup fd with
      | some connection, some state =>
          events.input && !state.redisPending &&
            Session.crowds handle answers.openFile (answers.recvs.length + 1)
              answers.recvs ⟨fd, connection, state, reactor.shared⟩
      | _, _ => false
  | .completions answers =>
      crowdsDraining reactor.shared.completions.length answers reactor
  | _ => false

/-- The counts agree, with what they rest on. -/
structure Counts (reactor : Reactor) : Prop where
  keeps : reactor.Keeps
  gauged : reactor.Gauged 0
  tallied : reactor.Tallied

theorem simple_tallied (reactor : Reactor) (input : Input) (simple : input.Simple)
    (counts : reactor.Counts) (fresh : reactor.fresh input = true)
    (calm : reactor.crowds handle input = false) : (reactor.step handle input).Tallied := by
  have tallied := counts.tallied
  cases simple with
  | error fd answers => exact tallied.error.remove fd
  | hangup fd answers => exact tallied.remove fd
  | input fd answers =>
      apply tallied.read handle counts.keeps fd answers
      intro connection state found foundState idle
      simpa [crowds, found, foundState, idle] using calm
  | output fd answers => exact tallied.write fd answers.write
  | readHangup fd answers =>
      change (reactor.handleReadHangup fd).Tallied
      apply handle_read_hangup_invariant fd _ tallied
      intro connection _ _
      unfold disconnect
      cases reactor.connectionStates.lookup fd with
      | none => exact tallied.remove fd
      | some state =>
          apply Tallied.remove
          exact tallied
  | accept answers =>
      have accepts : ∀ (reactor : Reactor) fd, reactor.connections.lookup fd = none →
          reactor.Gauged 0 ∧ reactor.Tallied →
            (reactor.acceptClient fd).Gauged 0 ∧ (reactor.acceptClient fd).Tallied := by
        intro reactor fd missing ⟨gauged, tallied⟩
        exact ⟨gauged.accept (AList.lookup_eq_none.mp missing), tallied.accepts gauged missing⟩
      exact (handle_accept_fresh_invariant accepts answers ⟨counts.gauged, tallied⟩ fresh).2
  | timer expired =>
      apply handle_timer_invariant _ expired tallied
      intro reactor fd tallied
      exact tallied.remove fd
  | completions answers => exact tallied.drain _ answers counts.keeps calm
  | worker job response =>
      change (reactor.finishJob job response).Tallied
      unfold finishJob
      cases reactor.shared.jobs[job]? with
      | none => exact tallied
      | some callback => exact tallied

theorem simple_counts (reactor : Reactor) (input : Input) (simple : input.Simple)
    (counts : reactor.Counts)
    (condition : reactor.fresh input = true ∧ reactor.crowds handle input = false) :
    (reactor.step handle input).Counts where
  keeps := step_keeps handle reactor input counts.keeps
  gauged := step_gauged handle counts.gauged input condition.1
  tallied := simple_tallied handle reactor input simple counts condition.1 condition.2

/-- As long as no response is put behind output that has not been flushed and no connection
is removed with something owed on it, each request has its response once all output is
flushed and all jobs are done. `accept` hands out only descriptors that are free. -/
theorem responses_match_requests (id : Int) (inputs : List Input)
    (calm : Throughout (step handle)
      (fun reactor input => reactor.fresh input = true ∧ reactor.crowds handle input = false)
      { id := id } (inputs.flatMap Input.split)) :
    let reactor := run (step handle) { id := id } inputs
    (∀ removal ∈ reactor.removals,
      removal.unsent = [] ∧ removal.pending = false ∧ removal.unanswered = []) →
    (∀ entry ∈ reactor.connections.entries, entry.2.outputQueue = []) →
    (∀ entry ∈ reactor.connectionStates.entries, entry.2.redisPending = false) →
    reactor.shared.metrics.responsesTotal = reactor.shared.metrics.requestsTotal := by
  intro reactor clean flushed idle
  have start : Counts { id := id } := by
    refine ⟨Ledger.start 0, ⟨fun _ => Iff.rfl, rfl, nofun⟩, fun _ => rfl⟩
  have counts : reactor.Counts :=
    run_simple_invariant handle (simple_counts handle) start inputs calm
  have output : reactor.unflushed = 0 := by
    apply FiniteMap.count_eq_zero
    intro entry member
    simp [Connection.hasPendingOutput, flushed entry member]
  have jobs : reactor.awaited = 0 := FiniteMap.count_eq_zero _ idle
  have agrees : reactor.Agrees := counts.tallied clean
  unfold Agrees at agrees
  omega

/-- One client, two requests: a page that goes out in two writes, then a task whose job is
done. -/
def countedClient : List Input :=
  [.accept [.client 7 true true true],
    .client 7 { input := true }
      { recvs := [.received (getTarget "/hello")], inline := { sends := [.sent 10] } },
    .client 7 { output := true } { write := { sends := [.sent 1000] } },
    .client 7 { input := true } { recvs := [.received (getTarget "/tasks")] },
    .worker 0 (some {}),
    .completions [{ sends := [.sent 1000] }]]

/-- Two requests in one read, and one write takes both responses. -/
def pipelinedPair : List Input :=
  [.accept [.client 7 true true true],
    .client 7 { input := true }
      { recvs := [.received (getTarget "/hello" ++ getTarget "/hello")],
        inline := { sends := [.sent 1000, .sent 1000] } }]

theorem counted_client_is_answered :
    let reactor := run (step tasksPending) { id := 0 } countedClient
    reactor.shared.metrics.requestsTotal = 2 ∧
      reactor.shared.metrics.responsesTotal = reactor.shared.metrics.requestsTotal :=
  ⟨by decide, responses_match_requests tasksPending 0 countedClient (by decide) (by decide)
    (by decide) (by decide)⟩

/-- All output is flushed, and the counts differ. -/
theorem pipelined_pair_counts_once :
    let reactor := run (step tasksPending) { id := 0 } pipelinedPair
    ¬ ((∀ removal ∈ reactor.removals,
        removal.unsent = [] ∧ removal.pending = false ∧ removal.unanswered = []) →
      (∀ entry ∈ reactor.connections.entries, entry.2.outputQueue = []) →
      (∀ entry ∈ reactor.connectionStates.entries, entry.2.redisPending = false) →
      reactor.shared.metrics.responsesTotal = reactor.shared.metrics.requestsTotal) := by
  decide

end Reactor

end Aorta.Server
