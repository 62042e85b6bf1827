import Aorta.Library.FiniteMap
import Aorta.Library.Run
import Aorta.Server.Transitions

/-!
# The gauge of open connections

All reactors count their connections in one gauge. A reactor changes it together with
its tables: an accepted connection is a new entry in both of them, and a removal finds
its entry before it counts down.
-/

namespace Aorta.Server

open Aorta.Library Aorta.Library.Ascii Aorta.Library.Run Aorta.Http Aorta.Net

set_option autoImplicit false

namespace Reactor

def openConnections (reactor : Reactor) : Nat := reactor.connections.keys.length

/-- The gauge counts the connections of this reactor and those of the others, and it never
said zero when a connection was removed. -/
structure Gauged (others : Nat) (reactor : Reactor) : Prop where
  keys : ∀ fd, fd ∈ reactor.connections ↔ fd ∈ reactor.connectionStates
  gauge : reactor.shared.metrics.activeConnections = others + reactor.openConnections
  counted : ∀ removal ∈ reactor.removals, 0 < removal.active

variable {others : Nat} {reactor : Reactor} {fd : Int}

section Sizes

variable {Value : Type} {table : Table Value} {key : Int}

theorem keys_length_eq_count (table : Table Value) :
    table.keys.length = FiniteMap.count (fun _ => true) table := by
  unfold AList.keys List.keys FiniteMap.count
  rw [List.length_map, List.countP_true]

theorem insert_present_length (found : key ∈ table) (value : Value) :
    (table.insert key value).keys.length = table.keys.length := by
  obtain ⟨old, isOld⟩ := Option.isSome_iff_exists.mp (AList.lookup_isSome.mpr found)
  rw [keys_length_eq_count, keys_length_eq_count,
    FiniteMap.count_replace (fun _ => true) isOld rfl]

theorem insert_absent_length (missing : key ∉ table) (value : Value) :
    (table.insert key value).keys.length = table.keys.length + 1 := by
  rw [keys_length_eq_count, keys_length_eq_count,
    FiniteMap.count_add (fun _ => true) (AList.lookup_eq_none.mpr missing), if_pos rfl]

theorem erase_present_length (found : key ∈ table) :
    table.keys.length = (table.erase key).keys.length + 1 := by
  obtain ⟨old, isOld⟩ := Option.isSome_iff_exists.mp (AList.lookup_isSome.mpr found)
  rw [keys_length_eq_count, keys_length_eq_count,
    FiniteMap.count_erase_found (fun _ => true) isOld, if_pos rfl]

theorem mem_insert_present (found : key ∈ table) (value : Value) (other : Int) :
    other ∈ table.insert key value ↔ other ∈ table := by
  rw [AList.mem_insert]
  constructor
  · rintro (rfl | member)
    · exact found
    · exact member
  · exact .inr

theorem mem_of_lookup {value : Value} (found : table.lookup key = some value) : key ∈ table :=
  AList.lookup_isSome.mp (by rw [found]; rfl)

end Sizes

theorem Gauged.replace (gauged : reactor.Gauged others) (found : fd ∈ reactor.connections)
    (connection : Connection) {shared : Shared}
    (same : shared.metrics.activeConnections = reactor.shared.metrics.activeConnections) :
    Gauged others { reactor with
      connections := reactor.connections.insert fd connection, shared := shared } := by
  constructor
  · intro other
    rw [← gauged.keys other]
    exact mem_insert_present found connection other
  · unfold openConnections
    simp only
    rw [insert_present_length found, same]
    exact gauged.gauge
  · exact gauged.counted

theorem Gauged.watch (gauged : reactor.Gauged others) (found : fd ∈ reactor.connectionStates)
    (state : ConnectionState) (epoll : Table EventMask) :
    Gauged others { reactor with
      connectionStates := reactor.connectionStates.insert fd state, epoll := epoll } := by
  constructor
  · intro other
    rw [gauged.keys other]
    exact (mem_insert_present found state other).symm
  · exact gauged.gauge
  · exact gauged.counted

theorem Gauged.remove (gauged : reactor.Gauged others) (fd : Int) :
    (reactor.removeConnection fd).Gauged others := by
  unfold removeConnection
  cases found : reactor.connections.lookup fd with
  | none => exact gauged
  | some connection =>
      have present := mem_of_lookup found
      have size := erase_present_length present
      have gauge := gauged.gauge
      unfold openConnections at gauge
      constructor
      · intro other
        simp only [AList.mem_erase]
        rw [gauged.keys other]
      · unfold openConnections Shared.decrementActiveConnections
        simp only
        omega
      · intro removal member
        rcases List.mem_append.mp member with earlier | last
        · exact gauged.counted removal earlier
        · rw [List.mem_singleton.mp last]
          unfold Reactor.removal
          simp only
          omega

theorem Gauged.accept (gauged : reactor.Gauged others) (fresh : fd ∉ reactor.connections) :
    (reactor.acceptClient fd).Gauged others := by
  constructor
  · intro other
    unfold acceptClient
    simp only [AList.mem_insert]
    rw [gauged.keys other]
  · unfold acceptClient openConnections Shared.incrementActiveConnections
    simp only
    rw [insert_absent_length fresh, ← Nat.add_assoc]
    exact congrArg (· + 1) gauged.gauge
  · exact gauged.counted

theorem Gauged.update (gauged : reactor.Gauged others) (fd : Int) (events : EventMask)
    (modified : Bool) : (reactor.updateEvents fd events modified).Gauged others := by
  unfold updateEvents
  cases found : reactor.connectionStates.lookup fd with
  | none => exact gauged
  | some state =>
      have counted : Gauged others { reactor with
          shared := reactor.shared.incrementErrors } :=
        ⟨gauged.keys, gauged.gauge, gauged.counted⟩
      simp only
      split_ifs
      · exact gauged
      · exact counted.remove fd
      · exact gauged.watch (mem_of_lookup found) _ _

theorem Gauged.write (gauged : reactor.Gauged others) (fd : Int) (answers : WriteAnswers) :
    (reactor.handleWrite fd answers).Gauged others := by
  have writes := reactor.handle_write_writes fd answers
  generalize reactor.handleWrite fd answers = outcome at writes ⊢
  cases writes with
  | idle => exact gauged
  | failed connection after found =>
      apply Gauged.remove
      exact gauged.replace (mem_of_lookup found) after rfl
  | blocked connection after found =>
      apply Gauged.update
      exact gauged.replace (mem_of_lookup found) after rfl
  | closed connection after found =>
      apply Gauged.remove
      exact gauged.replace (mem_of_lookup found) after rfl
  | flushed connection after found =>
      apply Gauged.update
      exact gauged.replace (mem_of_lookup found) after rfl

theorem Gauged.put (gauged : reactor.Gauged others) {session : Session}
    (found : session.fd ∈ reactor.connections)
    (same : session.shared.metrics.activeConnections =
      reactor.shared.metrics.activeConnections) : (reactor.put session).Gauged others := by
  have known : session.fd ∈ reactor.connectionStates := (gauged.keys session.fd).mp found
  exact (gauged.watch known session.state reactor.epoll).replace found session.connection same

end Reactor

namespace Session

variable (handle : Nat → HttpRequest → HandleResult) (openFile : Bytes → Option Int)

/-- The loops serve one descriptor and leave the gauge alone. -/
def Uncounted (before session : Session) : Prop :=
  session.fd = before.fd ∧
    session.shared.metrics.activeConnections = before.shared.metrics.activeConnections

def LeftUncounted (before : Session) (outcome : Served × Session) : Prop :=
  Uncounted before outcome.2

theorem dispatch_uncounted {before session : Session} (uncounted : Uncounted before session) :
    LeftUncounted before (session.dispatch handle openFile) := by
  have dispatches := dispatch_dispatches openFile handle session
  generalize session.dispatch handle openFile = outcome at dispatches ⊢
  cases dispatches with
  | pending => exact uncounted
  | refused => exact uncounted
  | fileRefused => exact uncounted
  | answered => exact uncounted

theorem read_loop_uncounted (fuel : Nat) (recvs : List RecvResult) (session : Session) :
    LeftUncounted session (session.readLoop handle openFile fuel recvs) := by
  have start : Uncounted session session := ⟨rfl, rfl⟩
  apply read_loop_rule openFile handle _ _ _ _ _ _ fuel recvs start
  · intro session connection uncounted _
    exact uncounted
  · intro session uncounted
    exact uncounted
  · intro session uncounted
    exact uncounted
  · intro session uncounted
    have kept := dispatch_uncounted handle openFile uncounted
    exact ⟨fun _ => kept, fun _ => kept⟩
  · intro session uncounted
    exact uncounted
  · intro session uncounted
    exact uncounted

end Session

namespace Reactor

variable (handle : Nat → HttpRequest → HandleResult) {others : Nat} {reactor : Reactor}

theorem Gauged.read (gauged : reactor.Gauged others) (fd : Int) (answers : ClientAnswers) :
    (reactor.handleClient handle fd answers).Gauged others := by
  have reads := handle_client_reads handle reactor fd answers
  generalize reactor.handleClient handle fd answers = outcome at reads ⊢
  cases reads with
  | idle => exact gauged
  | unknown => exact gauged.remove fd
  | served connection state served session after found foundState idle loops leaves =>
      have uncounted := Session.read_loop_uncounted handle answers.openFile
        (answers.recvs.length + 1) answers.recvs ⟨fd, connection, state, reactor.shared⟩
      rw [loops] at uncounted
      obtain ⟨sameFd, same⟩ := uncounted
      have here : session.fd ∈ reactor.connections := by
        rw [show session.fd = fd from sameFd]
        exact mem_of_lookup found
      have put := gauged.put here same
      cases leaves with
      | failed => exact put.remove fd
      | paused => exact put.update fd _ _
      | written => exact put.write fd _
      | stored => exact put

theorem Gauged.complete (gauged : reactor.Gauged others) (callback : Callback)
    (response : HttpResponse) (answers : WriteAnswers) :
    (reactor.completeAsyncResponse callback response answers).Gauged others := by
  have completes := reactor.complete_async_response_completes callback response answers
  generalize reactor.completeAsyncResponse callback response answers = outcome at completes ⊢
  cases completes with
  | dropped => exact gauged
  | refused connection state after found =>
      apply Gauged.remove
      apply gauged.put
      · exact mem_of_lookup found
      · rfl
  | queued connection state after found =>
      apply Gauged.write
      apply gauged.put
      · exact mem_of_lookup found
      · rfl

theorem Gauged.pop (gauged : reactor.Gauged others) (answers : WriteAnswers) :
    (reactor.popCompletion answers).Gauged others := by
  unfold popCompletion
  cases reactor.shared.completions with
  | nil => exact gauged
  | cons completion completions =>
      apply Gauged.complete
      exact ⟨gauged.keys, gauged.gauge, gauged.counted⟩

theorem Gauged.disconnected (gauged : reactor.Gauged others) (fd : Int)
    (connection : Connection) : (reactor.disconnect fd connection).Gauged others := by
  unfold disconnect
  cases reactor.connectionStates.lookup fd with
  | none => exact gauged.remove fd
  | some state =>
      apply Gauged.remove
      exact ⟨gauged.keys, gauged.gauge, gauged.counted⟩

/-- `accept` returns no descriptor of an open connection. -/
def acceptsFresh : List AcceptAnswer → Reactor → Bool
  | [], _ => true
  | .interrupted :: answers, reactor => acceptsFresh answers reactor
  | .client fd nonBlocking noDelay added :: answers, reactor =>
      (reactor.connections.lookup fd).isNone &&
        acceptsFresh answers (reactor.handleAccept [.client fd nonBlocking noDelay added])

/-- What accepting a connection on a free descriptor keeps, `handleAccept` keeps. -/
theorem handle_accept_fresh_invariant {invariant : Reactor → Prop}
    (accepts : ∀ reactor fd, reactor.connections.lookup fd = none → invariant reactor →
      invariant (reactor.acceptClient fd))
    (answers : List AcceptAnswer) {reactor : Reactor} (holds : invariant reactor)
    (fresh : acceptsFresh answers reactor = true) :
    invariant (reactor.handleAccept answers) := by
  induction answers generalizing reactor with
  | nil => exact holds
  | cons answer answers ih =>
      cases answer with
      | interrupted => exact ih holds fresh
      | client fd nonBlocking noDelay added =>
          obtain ⟨missing, rest⟩ := (Bool.and_eq_true _ _).mp fresh
          unfold handleAccept at rest ⊢
          split_ifs at rest ⊢
          · exact ih holds rest
          · exact ih holds rest
          · exact ih holds rest
          · apply ih _ rest
            exact accepts reactor fd (Option.isNone_iff_eq_none.mp missing) holds

def fresh (reactor : Reactor) : Input → Bool
  | .accept answers => acceptsFresh answers reactor
  | _ => true

theorem step_gauged (gauged : reactor.Gauged others) (input : Input)
    (fresh : reactor.fresh input = true) : (reactor.step handle input).Gauged others := by
  cases input with
  | accept answers =>
      apply handle_accept_fresh_invariant _ answers gauged fresh
      intro reactor fd missing gauged
      exact gauged.accept (AList.lookup_eq_none.mp missing)
  | timer expired =>
      apply handle_timer_invariant _ expired gauged
      intro reactor fd gauged
      exact gauged.remove fd
  | completions answers =>
      apply drain_completions_invariant _ _ answers gauged
      intro reactor answers gauged
      exact gauged.pop answers
  | client fd events answers =>
      apply handle_client_event_invariant handle fd events answers _ _ _ _ _ gauged
      · intro reactor gauged
        exact ⟨gauged.keys, gauged.gauge, gauged.counted⟩
      · intro reactor gauged
        exact gauged.remove fd
      · intro reactor gauged
        exact gauged.read handle fd answers
      · intro reactor gauged
        exact gauged.write fd answers.write
      · intro reactor connection gauged
        exact gauged.disconnected fd connection
  | worker job response =>
      change (reactor.finishJob job response).Gauged others
      unfold finishJob
      cases reactor.shared.jobs[job]? with
      | none => exact gauged
      | some callback => exact ⟨gauged.keys, gauged.gauge, gauged.counted⟩

end Reactor

/-- The reactors of a server, which count in the same metrics. -/
structure Cluster where
  reactors : List Reactor
  metrics : Metrics := {}

namespace Cluster

variable (handle : Nat → Nat → HttpRequest → HandleResult)

def seen (cluster : Cluster) (index : Nat) : Option Reactor :=
  cluster.reactors[index]?.map fun reactor =>
    { reactor with shared := { reactor.shared with metrics := cluster.metrics } }

/-- A handler of one reactor runs. -/
def step (cluster : Cluster) (input : Nat × Reactor.Input) : Cluster :=
  match cluster.seen input.1 with
  | none => cluster
  | some reactor =>
      let after := reactor.step (handle input.1) input.2
      { reactors := cluster.reactors.set input.1 after, metrics := after.shared.metrics }

def create (ids : List Int) : Cluster :=
  { reactors := ids.map fun id => { id := id } }

def openConnections (cluster : Cluster) : Nat :=
  (cluster.reactors.map Reactor.openConnections).sum

def fresh (cluster : Cluster) (input : Nat × Reactor.Input) : Bool :=
  (cluster.seen input.1).all fun reactor => reactor.fresh input.2

structure Gauged (cluster : Cluster) : Prop where
  keys : ∀ reactor ∈ cluster.reactors,
    ∀ fd, fd ∈ reactor.connections ↔ fd ∈ reactor.connectionStates
  gauge : cluster.metrics.activeConnections = cluster.openConnections
  counted : ∀ reactor ∈ cluster.reactors, ∀ removal ∈ reactor.removals, 0 < removal.active

theorem create_gauged (ids : List Int) : (create ids).Gauged := by
  have empty : ∀ reactor ∈ (create ids).reactors, ∃ id : Int, reactor = { id := id } := by
    intro reactor member
    obtain ⟨id, _, same⟩ := List.mem_map.mp member
    exact ⟨id, same.symm⟩
  constructor
  · intro reactor member fd
    obtain ⟨id, same⟩ := empty reactor member
    rw [same]
    exact Iff.rfl
  · have none : (create ids).openConnections = 0 := by
      apply List.sum_eq_zero
      intro size member
      obtain ⟨reactor, here, isSize⟩ := List.mem_map.mp member
      obtain ⟨id, same⟩ := empty reactor here
      rw [← isSize, same]
      rfl
    rw [none]
    rfl
  · intro reactor member removal removed
    obtain ⟨id, same⟩ := empty reactor member
    rw [same] at removed
    cases removed

theorem open_connections_split {reactors : List Reactor} {position : Nat}
    (bound : position < reactors.length) (reactor : Reactor) :
    ((reactors.set position reactor).map Reactor.openConnections).sum =
      ((reactors.take position).map Reactor.openConnections).sum +
        ((reactors.drop (position + 1)).map Reactor.openConnections).sum +
          reactor.openConnections := by
  rw [List.set_eq_take_append_cons_drop, if_pos bound, List.map_append, List.map_cons,
    List.sum_append, List.sum_cons]
  omega

theorem seen_gauged {cluster : Cluster} {index : Nat} {reactor : Reactor}
    (gauged : cluster.Gauged) (found : cluster.seen index = some reactor) :
    index < cluster.reactors.length ∧ Reactor.Gauged
      (((cluster.reactors.take index).map Reactor.openConnections).sum +
        ((cluster.reactors.drop (index + 1)).map Reactor.openConnections).sum) reactor := by
  obtain ⟨stored, isStored, isReactor⟩ := Option.map_eq_some_iff.mp found
  obtain ⟨bound, here⟩ := List.getElem?_eq_some_iff.mp isStored
  have member : stored ∈ cluster.reactors := List.mem_of_getElem? isStored
  have total := open_connections_split bound stored
  rw [← here, List.set_getElem_self, here] at total
  subst isReactor
  refine ⟨bound, gauged.keys stored member, ?_, gauged.counted stored member⟩
  exact gauged.gauge.trans total

theorem step_gauged (cluster : Cluster) (input : Nat × Reactor.Input) (gauged : cluster.Gauged)
    (fresh : cluster.fresh input = true) : (cluster.step handle input).Gauged := by
  unfold step
  unfold Cluster.fresh at fresh
  cases found : cluster.seen input.1 with
  | none => exact gauged
  | some reactor =>
      obtain ⟨bound, here⟩ := seen_gauged gauged found
      rw [found] at fresh
      have after := Reactor.step_gauged (handle input.1) here input.2 fresh
      constructor
      · intro other inList
        rcases List.mem_or_eq_of_mem_set inList with old | rfl
        · exact gauged.keys other old
        · exact after.keys
      · unfold openConnections
        rw [open_connections_split bound]
        exact after.gauge
      · intro other inList
        rcases List.mem_or_eq_of_mem_set inList with old | rfl
        · exact gauged.counted other old
        · exact after.counted

/-- Whatever handlers of whatever reactors run: in each reactor the two tables have the
same descriptors, the gauge counts the entries of all of them, and no removal ever found
it at zero. The kernel returns no descriptor that is still open. -/
theorem tables_and_gauge_agree (ids : List Int) (inputs : List (Nat × Reactor.Input))
    (fresh : Throughout (step handle) (fun cluster input => cluster.fresh input = true)
      (create ids) inputs) :
    let cluster := run (step handle) (create ids) inputs
    (∀ reactor ∈ cluster.reactors, ∀ fd,
      (reactor.connections.lookup fd).isSome = (reactor.connectionStates.lookup fd).isSome) ∧
      cluster.metrics.activeConnections =
        (cluster.reactors.map fun reactor => reactor.connections.keys.length).sum ∧
      ∀ reactor ∈ cluster.reactors, ∀ removal ∈ reactor.removals, 0 < removal.active := by
  intro cluster
  have gauged : cluster.Gauged :=
    run_invariant_throughout (step handle) (step_gauged handle) (create_gauged ids) inputs fresh
  refine ⟨?_, gauged.gauge, gauged.counted⟩
  intro reactor member fd
  rw [Bool.eq_iff_iff, AList.lookup_isSome, AList.lookup_isSome]
  exact gauged.keys reactor member fd

def twoReactors : List (Nat × Reactor.Input) :=
  [(0, .accept [.client 7 true true true]), (1, .accept [.client 8 true true true]),
    (0, .client 7 { hangup := true } {}), (1, .accept [.client 7 true true true])]

theorem two_reactors_agree :
    let cluster := run (step fun _ _ _ => .pending) (create [0, 1]) twoReactors
    cluster.metrics.activeConnections = 2 ∧
      ((∀ reactor ∈ cluster.reactors, ∀ fd,
        (reactor.connections.lookup fd).isSome = (reactor.connectionStates.lookup fd).isSome) ∧
        cluster.metrics.activeConnections =
          (cluster.reactors.map fun reactor => reactor.connections.keys.length).sum ∧
        ∀ reactor ∈ cluster.reactors, ∀ removal ∈ reactor.removals, 0 < removal.active) :=
  ⟨by decide, tables_and_gauge_agree (fun _ _ _ => .pending) [0, 1] twoReactors (by decide)⟩

end Cluster

end Aorta.Server
