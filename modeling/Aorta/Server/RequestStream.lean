import Aorta.Server.Delivery
import Aorta.Server.Reads
import Aorta.Server.Stranded
import Aorta.Server.Watching

/-!
# What a connection is asked

Beside the reactor, the bytes that every connection has received since it was accepted and
the requests that were dispatched on it. However the bytes come in, they are the encodings
of these requests and then what the parser still has to read: no request is lost, made up
or dispatched twice.
-/

namespace Aorta.Net.Connection

open Aorta.Library.Ascii Aorta.Library.Resume Aorta.Http Aorta.Http.HttpParser

set_option autoImplicit false

variable {connection after : Connection} {rest : Bytes}

theorem fresh_in_step (fresh : connection.parser = {}) :
    connection.InStep connection.receiveBuffer := by
  constructor
  · rw [fresh]
  · rw [fresh]
    refine ⟨0, Nat.zero_le _, rfl, fun more => .inl ?_⟩
    simp [Reading.delay]

/-- Bytes that arrive leave a connection in step with what was fed and them. -/
theorem InStep.append (inStep : connection.InStep rest) (bytes : Bytes) :
    { connection with receiveBuffer := connection.receiveBuffer ++ bytes }.InStep
      (rest ++ bytes) := by
  obtain ⟨start, used, within, unread, agree⟩ := inStep
  refine ⟨start, used, ?_, ?_, ?_⟩
  · rw [List.length_append]
    exact Nat.le_add_right_of_le within
  · change connection.receiveBuffer ++ bytes = _
    rw [unread, List.drop_append_of_le_length within]
  · intro more
    have later := agree (bytes ++ more)
    rwa [← List.append_assoc, ← List.append_assoc] at later

theorem InStep.same_input {other : Connection} (inStep : connection.InStep rest)
    (parser : other.parser = connection.parser)
    (buffer : other.receiveBuffer = connection.receiveBuffer) : other.InStep rest := by
  unfold InStep at inStep ⊢
  rwa [parser, buffer]

theorem feed_nothing (connection : Connection) :
    connection.feed [] =
      if connection.parseRequest.1 = .needMoreData then
        (connection.parseRequest.1, connection.parseRequest.2.consumeParsedBytes)
      else connection.parseRequest := by
  unfold feed
  rw [List.append_nil]

theorem InStep.parse_hungry (inStep : connection.InStep rest)
    (parsed : connection.parseRequest = (.needMoreData, after)) :
    after.consumeParsedBytes.InStep rest := by
  have fed := connection.feed_nothing
  rw [parsed, if_pos rfl] at fed
  have still := in_step_hungry [] inStep (by rw [fed])
  rwa [fed, List.append_nil] at still

theorem InStep.parse_complete (inStep : connection.InStep rest)
    (parsed : connection.parseRequest = (.complete, after)) :
    ∃ message : Message, message.Valid ∧ after.getRequest = message.request ∧
      rest = message.encode ++ after.receiveBuffer.drop after.parser.cursor := by
  have done : ParseResult.complete ≠ .needMoreData := by decide
  have fed := connection.feed_nothing
  rw [parsed] at fed
  dsimp only at fed
  rw [if_neg done] at fed
  have answer := in_step_answer [] inStep
  have complete := in_step_complete [] inStep (by rw [fed])
  rw [fed, List.append_nil] at answer complete
  obtain ⟨request, left⟩ := complete
  obtain ⟨message, tail, valid, split, means, consumed⟩ :=
    message_of_complete (Prod.ext answer.symm rfl)
  refine ⟨message, valid, request.symm.trans means, ?_⟩
  have behind : after.receiveBuffer.drop after.parser.cursor = tail := by
    rw [consumed, split, List.drop_left] at left
    exact left.symm
  rw [behind]
  exact split

end Aorta.Net.Connection

namespace Aorta.Server

open Aorta.Library.Ascii Aorta.Library.Run Aorta.Http Aorta.Net
open Aorta.Http.HttpParser (ParseResult)

set_option autoImplicit false

/-- What came in on a connection: the bytes received, and the requests dispatched with their
numbers. -/
structure Inbound where
  received : Bytes := []
  requests : List (Nat × HttpRequest) := []
deriving DecidableEq, Repr

namespace Inbound

def append (first second : Inbound) : Inbound :=
  ⟨first.received ++ second.received, first.requests ++ second.requests⟩

/-- The bytes are the encodings of the requests, and then the rest. -/
def Decodes (inbound : Inbound) (rest : Bytes) : Prop :=
  ∃ messages : List Message, (∀ message ∈ messages, message.Valid) ∧
    inbound.received = messages.flatMap Message.encode ++ rest ∧
    inbound.requests.map Prod.snd = messages.map Message.request

/-- A connection stands where a fresh one stands that was fed all but the requests. -/
def Reaches (inbound : Inbound) (connection : Connection) : Prop :=
  ∃ rest, inbound.Decodes rest ∧ connection.InStep rest

variable {inbound : Inbound} {rest : Bytes}

@[simp] theorem append_nothing (inbound : Inbound) : inbound.append {} = inbound := by
  unfold append
  rw [List.append_nil, List.append_nil]

theorem append_assoc (first second third : Inbound) :
    (first.append second).append third = first.append (second.append third) := by
  unfold append
  rw [List.append_assoc, List.append_assoc]

theorem decodes_nothing : Decodes {} [] := by
  refine ⟨[], ?_, rfl, rfl⟩
  intro message member
  cases member

theorem Decodes.receive (decodes : inbound.Decodes rest) (bytes : Bytes) :
    (inbound.append ⟨bytes, []⟩).Decodes (rest ++ bytes) := by
  obtain ⟨messages, valid, received, requests⟩ := decodes
  refine ⟨messages, valid, ?_, ?_⟩
  · change inbound.received ++ bytes = _
    rw [received, List.append_assoc]
  · change (inbound.requests ++ []).map Prod.snd = _
    rw [List.append_nil, requests]

theorem Decodes.dispatch {message : Message} {tail : Bytes} (valid : message.Valid)
    (decodes : inbound.Decodes (message.encode ++ tail)) (serial : Nat) :
    (inbound.append ⟨[], [(serial, message.request)]⟩).Decodes tail := by
  obtain ⟨messages, allValid, received, requests⟩ := decodes
  refine ⟨messages ++ [message], ?_, ?_, ?_⟩
  · intro other member
    rcases List.mem_append.mp member with earlier | last
    · exact allValid other earlier
    · rw [List.mem_singleton.mp last]
      exact valid
  · change inbound.received ++ [] = _
    simp [received]
  · change (inbound.requests ++ [(serial, message.request)]).map Prod.snd = _
    simp [requests]

end Inbound

/-- The requests dispatched on a connection generation, with their numbers. -/
def History.requestsOf (history : History) (generation : Nat) : List (Nat × HttpRequest) :=
  (history.requests.filter fun request => request.1.generation = generation).map fun request =>
    (request.1.serial, request.2)

namespace Session

variable (handle : Nat → HttpRequest → HandleResult) (openFile : Bytes → Option Int)

/-- The request that a session dispatches, with its number. -/
def numbered (session : Session) : Nat × HttpRequest :=
  (session.shared.serial, session.connection.getRequest)

def Read.inbound (read : Read) : Inbound where
  received := read.bytes
  requests := (read.dispatches handle openFile).map numbered

/-- What the outer loop receives and dispatches. -/
def inboundOf (reads : List Read) : Inbound :=
  reads.foldr (fun read inbound => (read.inbound handle openFile).append inbound) {}

theorem inbound_of_single (read : Read) :
    inboundOf handle openFile [read] = read.inbound handle openFile :=
  Inbound.append_nothing _

theorem inbound_of_silent (before after : Session) {result : Connection.ReadResult}
    (other : result ≠ .dataReceived) : inboundOf handle openFile [⟨before, result, after⟩] = {} := by
  rw [inbound_of_single]
  simp [Read.inbound, Read.bytes, Read.dispatches, other]

def readLoopInbound (fuel : Nat) (recvs : List RecvResult) (session : Session) : Inbound :=
  inboundOf handle openFile (session.reads handle openFile fuel recvs)

/-- How the loops leave a session of which this came in. -/
def Reached (fd : Int) (inbound : Inbound) (outcome : Served × Session) : Prop :=
  outcome.2.fd = fd ∧ (∃ rest, inbound.Decodes rest) ∧
    (outcome.1 ≠ .failed → inbound.Reaches outcome.2.connection)

variable {inbound : Inbound}

theorem reached_of_reaches {session : Session} (reaches : inbound.Reaches session.connection)
    (served : Served) : Reached session.fd inbound (served, session) := by
  obtain ⟨rest, decodes, inStep⟩ := reaches
  exact ⟨rfl, ⟨rest, decodes⟩, fun _ => ⟨rest, decodes, inStep⟩⟩

theorem fail_reached (session : Session) {rest : Bytes} (decodes : inbound.Decodes rest) :
    Reached session.fd inbound session.fail :=
  ⟨rfl, ⟨rest, decodes⟩, fun goesOn => absurd rfl goesOn⟩

theorem serve_reached (fuel : Nat) (session : Session)
    (reaches : inbound.Reaches session.connection) :
    Reached session.fd
      (inbound.append ⟨[], (session.dispatches handle openFile fuel).map numbered⟩)
      (session.serve handle openFile fuel) := by
  have nothing : ∀ inbound : Inbound, inbound.append ⟨[], []⟩ = inbound := Inbound.append_nothing
  have dispatched : ∀ (session : Session) connection after (inbound : Inbound) served,
      inbound.Reaches session.connection →
      session.connection.parseRequest = (.complete, connection) →
      dispatch handle openFile { session with connection := connection } = (served, after) →
      Reached session.fd
        (inbound.append ⟨[], [numbered { session with connection := connection }]⟩)
        (served, after) := by
    intro session connection after inbound served ⟨rest, decodes, inStep⟩ parsed outcome
    obtain ⟨message, valid, request, split⟩ := inStep.parse_complete parsed
    have decodes : (inbound.append
        ⟨[], [(session.shared.serial, connection.getRequest)]⟩).Decodes
        (connection.receiveBuffer.drop connection.parser.cursor) := by
      rw [request]
      exact Inbound.Decodes.dispatch valid (split ▸ decodes) _
    have took := dispatch_took handle openFile { session with connection := connection }
    rw [outcome] at took
    refine ⟨took.sameFd, ⟨_, decodes⟩, ?_⟩
    intro goesOn
    have fresh := Connection.fresh_in_step (took.fresh goesOn)
    rw [took.buffer goesOn] at fresh
    exact ⟨_, decodes, fresh⟩
  refine @serve_rounds handle openFile (fun session others outcome => ∀ inbound : Inbound,
    inbound.Reaches session.connection →
    Reached session.fd (inbound.append ⟨[], others.map numbered⟩) outcome) ?_ ?_ ?_ ?_ ?_ fuel
    session inbound reaches
  · intro session inbound reaches
    rw [List.map_nil, nothing]
    exact reached_of_reaches reaches .waiting
  · intro session connection parsed inbound ⟨rest, decodes, inStep⟩
    rw [List.map_nil, nothing]
    exact ⟨rfl, ⟨rest, decodes⟩, fun _ => ⟨rest, decodes, inStep.parse_hungry parsed⟩⟩
  · intro session result connection _ _ _ inbound ⟨rest, decodes, _⟩
    rw [List.map_nil, nothing]
    exact fail_reached { session with connection := connection } decodes
  · intro session connection served after parsed outcome _ inbound reaches
    exact dispatched session connection after inbound served reaches parsed outcome
  · intro session connection after others outcome parsed waiting ih inbound reaches
    have here := dispatched session connection after inbound .waiting reaches parsed waiting
    have rest := ih _ (here.2.2 (show Served.waiting ≠ .failed by decide))
    rw [Inbound.append_assoc, here.1] at rest
    exact rest

theorem read_appends (connection : Connection) (recvs : List RecvResult) :
    ∃ bytes, (connection.read recvs).2.1 =
      { connection with receiveBuffer := connection.receiveBuffer ++ bytes } := by
  unfold Connection.read
  split_ifs
  · exact ⟨[], by rw [List.append_nil]⟩
  · dsimp only
    induction recvs with
    | nil => exact ⟨[], by rw [List.append_nil]; rfl⟩
    | cons recv recvs ih =>
        cases recv with
        | interrupted => exact ih
        | wouldBlock => exact ⟨[], by rw [List.append_nil]; rfl⟩
        | failed => exact ⟨[], by rw [List.append_nil]; rfl⟩
        | received bytes =>
            unfold Connection.receive
            dsimp only
            split_ifs
            · exact ⟨_, rfl⟩
            · exact ⟨[], by rw [List.append_nil]⟩

theorem read_loop_reached (fuel : Nat) (recvs : List RecvResult) (session : Session)
    (reaches : inbound.Reaches session.connection) :
    Reached session.fd (inbound.append (session.readLoopInbound handle openFile fuel recvs))
      (session.readLoop handle openFile fuel recvs) := by
  have served : ∀ (session : Session) recvs connection rest served after (inbound : Inbound),
      inbound.Reaches session.connection →
      session.connection.read recvs = (.dataReceived, connection, rest) →
      serveAll handle openFile (received { session with connection := connection }) =
        (served, after) →
      Reached session.fd (inbound.append (Read.inbound handle openFile
        ⟨session, .dataReceived, { session with connection := connection }⟩)) (served, after) := by
    intro session recvs connection rest served after inbound ⟨left, decodes, inStep⟩ answered serves
    obtain ⟨bytes, appended⟩ := read_appends session.connection recvs
    rw [answered] at appended
    have arrived : connection.receiveBuffer.drop session.connection.receiveBuffer.length =
        bytes := by
      rw [show connection = _ from appended]
      exact List.drop_left
    have fed : (inbound.append ⟨bytes, []⟩).Reaches connection := by
      rw [show connection = _ from appended]
      exact ⟨_, decodes.receive bytes, inStep.append bytes⟩
    have reached := serve_reached handle openFile (connection.receiveBuffer.length + 2)
      (received { session with connection := connection }) fed
    change Reached _ _ (serveAll handle openFile _) at reached
    rw [Inbound.append_assoc, serves] at reached
    have joined : ∀ requests : List (Nat × HttpRequest),
        Inbound.append ⟨bytes, []⟩ ⟨[], requests⟩ = ⟨bytes, requests⟩ := by
      intro requests
      unfold Inbound.append
      rw [List.append_nil, List.nil_append]
    rw [joined] at reached
    unfold Read.inbound Read.bytes
    rw [if_pos rfl, arrived]
    exact reached
  refine @read_loop_rounds handle openFile (fun session reads outcome => ∀ inbound : Inbound,
    inbound.Reaches session.connection →
    Reached session.fd (inbound.append (inboundOf handle openFile reads)) outcome)
    ?_ ?_ ?_ ?_ ?_ ?_ fuel recvs session inbound reaches
  · intro session inbound reaches
    rw [show inboundOf handle openFile [] = {} from rfl, Inbound.append_nothing]
    exact reached_of_reaches reaches .waiting
  · intro session recvs connection rest _ inbound ⟨left, decodes, _⟩
    rw [inbound_of_silent _ _ _ _ (by decide), Inbound.append_nothing]
    exact ⟨rfl, ⟨left, decodes⟩, fun goesOn => absurd rfl goesOn⟩
  · intro session recvs result connection rest _ bad inbound ⟨left, decodes, _⟩
    rw [inbound_of_silent _ _ _ _ (by rcases bad with rfl | rfl <;> decide), Inbound.append_nothing]
    exact fail_reached { session with connection := connection } decodes
  · intro session recvs connection rest answered inbound reaches
    obtain ⟨-, same⟩ := read_input session.connection recvs
    rw [answered] at same
    rw [inbound_of_silent _ _ _ _ (by decide), Inbound.append_nothing, show connection = _ from same nofun]
    exact reached_of_reaches reaches .waiting
  · intro session recvs connection rest result after answered serves _ inbound reaches
    rw [inbound_of_single]
    exact served session recvs connection rest result after inbound reaches answered serves
  · intro session recvs connection rest after others outcome answered serves _ ih inbound reaches
    have here := served session recvs connection rest .waiting after inbound reaches answered serves
    have later := ih _ (here.2.2 (show Served.waiting ≠ .failed by decide))
    rw [Inbound.append_assoc, here.1] at later
    exact later

/-- The loops have recorded these requests on the connection. -/
structure Records (before : Session) (requests : List (Nat × HttpRequest)) (after : Session) :
    Prop where
  fd : after.fd = before.fd
  generation : after.state.generation = before.state.generation
  requests : after.shared.history.requests = before.shared.history.requests ++
    requests.map fun request => (⟨request.1, before.fd, before.state.generation⟩, request.2)

theorem Records.none {before after : Session} (fd : after.fd = before.fd)
    (generation : after.state.generation = before.state.generation)
    (same : after.shared.history.requests = before.shared.history.requests) :
    Records before [] after :=
  ⟨fd, generation, by rw [same, List.map_nil, List.append_nil]⟩

theorem Records.trans {before middle after : Session}
    {requests more : List (Nat × HttpRequest)} (first : Records before requests middle)
    (second : Records middle more after) : Records before (requests ++ more) after := by
  refine ⟨second.fd.trans first.fd, second.generation.trans first.generation, ?_⟩
  rw [second.requests, first.requests, first.fd, first.generation, List.map_append,
    List.append_assoc]

theorem dispatch_records (session : Session) :
    Records session [(session.shared.serial, session.connection.getRequest)]
      (session.dispatch handle openFile).2 := by
  have dispatches := dispatch_dispatches openFile handle session
  generalize session.dispatch handle openFile = outcome at dispatches ⊢
  cases dispatches with
  | pending closeAfterWrite announced => exact ⟨rfl, rfl, rfl⟩
  | refused after => exact ⟨rfl, rfl, rfl⟩
  | fileRefused after filled => exact ⟨rfl, rfl, rfl⟩
  | answered after parser buffer kept filled marked => exact ⟨rfl, rfl, rfl⟩

theorem serve_records (fuel : Nat) (session : Session) :
    Records session ((session.dispatches handle openFile fuel).map numbered)
      (session.serve handle openFile fuel).2 := by
  have here : ∀ (session : Session) connection served after,
      dispatch handle openFile { session with connection := connection } = (served, after) →
      Records session [numbered { session with connection := connection }] after := by
    intro session connection served after outcome
    have dispatches := dispatch_records handle openFile { session with connection := connection }
    rw [outcome] at dispatches
    exact ⟨dispatches.fd, dispatches.generation, dispatches.requests⟩
  refine @serve_rounds handle openFile
    (fun session others outcome => Records session (others.map numbered) outcome.2)
    ?_ ?_ ?_ ?_ ?_ fuel session
  · exact fun session => .none rfl rfl rfl
  · exact fun session connection _ => .none rfl rfl rfl
  · exact fun session result connection _ _ _ => .none rfl rfl rfl
  · intro session connection served after _ outcome _
    exact here session connection served after outcome
  · intro session connection after others outcome _ waiting rest
    exact (here session connection .waiting after waiting).trans rest

theorem read_loop_records (fuel : Nat) (recvs : List RecvResult) (session : Session) :
    Records session (session.readLoopInbound handle openFile fuel recvs).requests
      (session.readLoop handle openFile fuel recvs).2 := by
  have here : ∀ (session : Session) connection served after,
      serveAll handle openFile (received { session with connection := connection }) =
        (served, after) →
      Records session (Read.inbound handle openFile
        ⟨session, .dataReceived, { session with connection := connection }⟩).requests after := by
    intro session connection served after serves
    have records := serve_records handle openFile (connection.receiveBuffer.length + 2)
      (received { session with connection := connection })
    change Records _ _ (serveAll handle openFile _).2 at records
    rw [serves] at records
    exact ⟨records.fd, records.generation, records.requests⟩
  refine @read_loop_rounds handle openFile
    (fun session reads outcome =>
      Records session (inboundOf handle openFile reads).requests outcome.2)
    ?_ ?_ ?_ ?_ ?_ ?_ fuel recvs session
  · exact fun session => .none rfl rfl rfl
  · intro session recvs connection rest _
    rw [inbound_of_silent _ _ _ _ (by decide)]
    exact .none rfl rfl rfl
  · intro session recvs result connection rest _ bad
    rw [inbound_of_silent _ _ _ _ (by rcases bad with rfl | rfl <;> decide)]
    exact .none rfl rfl rfl
  · intro session recvs connection rest _
    rw [inbound_of_silent _ _ _ _ (by decide)]
    exact .none rfl rfl rfl
  · intro session recvs connection rest served after _ serves _
    rw [inbound_of_single]
    exact here session connection served after serves
  · intro session recvs connection rest after others outcome _ serves _ later
    exact (here session connection .waiting after serves).trans later

end Session

namespace Reactor

variable (handle : Nat → HttpRequest → HandleResult)

/-- The descriptors that `handleAccept` takes. -/
def acceptedFds : List AcceptAnswer → List Int
  | [] => []
  | .interrupted :: answers => acceptedFds answers
  | .client fd nonBlocking noDelay added :: answers =>
      if !nonBlocking then acceptedFds answers
      else if !noDelay then acceptedFds answers
      else if !added then acceptedFds answers
      else fd :: acceptedFds answers

/-- What `handleClient` receives and dispatches. -/
def clientInbound (reactor : Reactor) (fd : Int) (answers : ClientAnswers) : Inbound :=
  match reactor.connections.lookup fd, reactor.connectionStates.lookup fd with
  | some connection, some state =>
      if state.redisPending then {}
      else
        Session.readLoopInbound handle answers.openFile (answers.recvs.length + 1) answers.recvs
          ⟨fd, connection, state, reactor.shared⟩
  | _, _ => {}

/-- What comes in on a descriptor while an event is handled. -/
def inbound (reactor : Reactor) (input : Input) (fd : Int) : Inbound :=
  match input with
  | .client client events answers =>
      if fd ≠ client ∨ events.error ∨ events.hangup ∨ ¬ events.input then {}
      else reactor.clientInbound handle client answers
  | _ => {}

def Input.accepted : Input → List Int
  | .accept answers => acceptedFds answers
  | _ => []

/-- A connection that is still open has read nothing since. -/
def InheritsAt (before after : Reactor) (fd : Int) : Prop :=
  ∀ connection state, after.connections.lookup fd = some connection →
    after.connectionStates.lookup fd = some state →
    ∃ old oldState, before.connections.lookup fd = some old ∧
      before.connectionStates.lookup fd = some oldState ∧
      connection.parser = old.parser ∧ connection.receiveBuffer = old.receiveBuffer

def Inherits (before after : Reactor) : Prop := ∀ fd, InheritsAt before after fd

theorem InheritsAt.trans {before middle after : Reactor} {fd : Int}
    (first : InheritsAt before middle fd) (second : InheritsAt middle after fd) :
    InheritsAt before after fd := by
  intro connection state found foundState
  obtain ⟨between, stateBetween, foundBetween, foundStateBetween, parser, buffer⟩ :=
    second connection state found foundState
  obtain ⟨old, oldState, foundOld, foundOldState, oldParser, oldBuffer⟩ :=
    first between stateBetween foundBetween foundStateBetween
  exact ⟨old, oldState, foundOld, foundOldState, parser.trans oldParser,
    buffer.trans oldBuffer⟩

theorem Descends.inherits {before after : Reactor} (descends : Descends before after) :
    Inherits before after := by
  intro fd connection state found foundState
  obtain ⟨old, oldState, foundOld, foundOldState, input, -, -⟩ :=
    descends fd connection state found foundState
  exact ⟨old, oldState, foundOld, foundOldState, input.1, input.2.1⟩

theorem put_inherits (reactor : Reactor) (session : Session) {fd : Int}
    (other : fd ≠ session.fd) : InheritsAt reactor (reactor.put session) fd := by
  intro connection state found foundState
  unfold put at found foundState
  dsimp only at found foundState
  rw [AList.lookup_insert_ne other] at found foundState
  exact ⟨connection, state, found, foundState, rfl, rfl⟩

/-- Every open connection stands where what came in on it has led. -/
def Hears (heard : Int → Inbound) (reactor : Reactor) : Prop :=
  ∀ fd, (∃ rest, (heard fd).Decodes rest) ∧
    ∀ connection state, reactor.connections.lookup fd = some connection →
      reactor.connectionStates.lookup fd = some state → (heard fd).Reaches connection

variable {heard : Int → Inbound} {reactor : Reactor}

theorem Hears.inherits {after : Reactor} (hears : reactor.Hears heard)
    (inherits : Inherits reactor after) : after.Hears heard := by
  intro fd
  refine ⟨(hears fd).1, ?_⟩
  intro connection state found foundState
  obtain ⟨old, oldState, foundOld, foundOldState, parser, buffer⟩ :=
    inherits fd connection state found foundState
  obtain ⟨rest, decodes, inStep⟩ := (hears fd).2 old oldState foundOld foundOldState
  exact ⟨rest, decodes, inStep.same_input parser buffer⟩

theorem Hears.served (hears : reactor.Hears heard) {session : Session} {fd : Int}
    {inbound : Inbound} {served : Served} (reached : Session.Reached fd inbound (served, session))
    (goesOn : served ≠ .failed) :
    (reactor.put session).Hears fun other => if other = fd then inbound else heard other := by
  obtain ⟨sameFd, decodes, reaches⟩ := reached
  dsimp only at sameFd reaches
  intro other
  dsimp only
  by_cases same : other = fd
  · subst same
    rw [if_pos rfl]
    refine ⟨decodes, ?_⟩
    intro connection state found _
    unfold put at found
    dsimp only at found
    rw [sameFd, AList.lookup_insert] at found
    cases found
    exact reaches goesOn
  · rw [if_neg same]
    refine ⟨(hears other).1, ?_⟩
    intro connection state found foundState
    obtain ⟨old, oldState, foundOld, foundOldState, parser, buffer⟩ :=
      put_inherits reactor session (sameFd.symm ▸ same) connection state found foundState
    obtain ⟨rest, decodes, inStep⟩ := (hears other).2 old oldState foundOld foundOldState
    exact ⟨rest, decodes, inStep.same_input parser buffer⟩

theorem handle_client_hears (hears : reactor.Hears heard) (fd : Int) (answers : ClientAnswers) :
    (reactor.handleClient handle fd answers).Hears fun other =>
      if other = fd then (heard fd).append (reactor.clientInbound handle fd answers)
      else heard other := by
  have unread : (fun other => if other = fd then (heard fd).append {} else heard other) =
      heard := by
    funext other
    split_ifs with same
    · rw [Inbound.append_nothing, same]
    · rfl
  unfold clientInbound handleClient
  cases found : reactor.connections.lookup fd with
  | none =>
      dsimp only
      rw [unread]
      exact hears
  | some connection =>
      cases foundState : reactor.connectionStates.lookup fd with
      | none =>
          dsimp only
          rw [unread]
          exact hears.inherits (remove_connection_descends reactor fd).inherits
      | some state =>
          dsimp only
          by_cases waits : state.redisPending
          · rw [if_pos waits, if_pos waits, unread]
            exact hears
          · rw [if_neg waits, if_neg waits]
            have reached := Session.read_loop_reached handle answers.openFile
              (answers.recvs.length + 1) answers.recvs ⟨fd, connection, state, reactor.shared⟩
              ((hears fd).2 connection state found foundState)
            generalize (heard fd).append (Session.readLoopInbound handle answers.openFile
              (answers.recvs.length + 1) answers.recvs
              ⟨fd, connection, state, reactor.shared⟩) = inbound at reached ⊢
            generalize Session.readLoop handle answers.openFile (answers.recvs.length + 1)
              answers.recvs ⟨fd, connection, state, reactor.shared⟩ = outcome at reached ⊢
            obtain ⟨served, session⟩ := outcome
            have put := hears.served reached
            cases served with
            | failed =>
                dsimp only
                intro other
                dsimp only
                by_cases same : other = fd
                · rw [if_pos same]
                  refine ⟨reached.2.1, ?_⟩
                  intro left state here _
                  have sameFd : session.fd = fd := reached.1
                  rw [remove_connection_find, if_pos same] at here
                  cases here
                · rw [if_neg same]
                  have removed := put_removed_descends reactor session
                  rw [show session.fd = fd from reached.1] at removed
                  exact hears.inherits removed.inherits other
            | pending =>
                exact (put (by decide)).inherits (update_events_descends _ fd _ _).inherits
            | waiting =>
                dsimp only
                split_ifs
                · exact (put (by decide)).inherits (handle_write_descends _ fd _).inherits
                · exact put (by decide)
            | closing =>
                dsimp only
                split_ifs
                · exact (put (by decide)).inherits (handle_write_descends _ fd _).inherits
                · exact put (by decide)

theorem complete_async_response_inherits (reactor : Reactor) (callback : Callback)
    (response : HttpResponse) (answers : WriteAnswers) :
    Inherits reactor (reactor.completeAsyncResponse callback response answers) := by
  have completes := reactor.complete_async_response_completes callback response answers
  generalize reactor.completeAsyncResponse callback response answers = outcome at completes ⊢
  cases completes with
  | dropped => exact (Descends.refl reactor).inherits
  | refused connection state after =>
      exact (put_removed_descends reactor ⟨callback.fd, after, state.completed,
        reactor.shared.incrementErrors⟩).inherits
  | queued connection state after found foundState current pending input waiting =>
      intro fd
      have written := (handle_write_descends (reactor.put ⟨callback.fd, after,
        state.answered reactor.shared.clock, reactor.shared.respond callback.serial callback.fd
          state.generation⟩) callback.fd answers).inherits fd
      refine InheritsAt.trans ?_ written
      by_cases same : fd = callback.fd
      · intro left leftState here _
        unfold put at here
        dsimp only at here
        rw [same, AList.lookup_insert] at here
        cases here
        rw [same]
        refine ⟨connection, state, found, foundState, ?_, ?_⟩
        · rw [input.1]
          split_ifs <;> rfl
        · rw [input.2.1]
          split_ifs <;> rfl
      · exact put_inherits reactor _ same

theorem Hears.pop (hears : reactor.Hears heard) (answers : WriteAnswers) :
    (reactor.popCompletion answers).Hears heard := by
  unfold popCompletion
  cases reactor.shared.completions with
  | nil => exact hears
  | cons entry completions =>
      have popped : Hears heard { reactor with
          shared := { reactor.shared with completions := completions } } := hears
      exact popped.inherits (complete_async_response_inherits _ entry.1 entry.2 answers)

theorem handle_accept_find (answers : List AcceptAnswer) (reactor : Reactor) (fd : Int) :
    (reactor.handleAccept answers).connections.lookup fd =
      if fd ∈ acceptedFds answers then some { fd := fd, reactorId := reactor.id }
      else reactor.connections.lookup fd := by
  induction answers generalizing reactor with
  | nil => rfl
  | cons answer answers ih =>
      cases answer with
      | interrupted => exact ih reactor
      | client client nonBlocking noDelay added =>
          unfold handleAccept acceptedFds
          by_cases refused : (!nonBlocking) = true
          · rw [if_pos refused, if_pos refused]
            exact ih reactor
          rw [if_neg refused, if_neg refused]
          by_cases slow : (!noDelay) = true
          · rw [if_pos slow, if_pos slow]
            exact ih reactor
          rw [if_neg slow, if_neg slow]
          by_cases unwatched : (!added) = true
          · rw [if_pos unwatched, if_pos unwatched]
            exact ih reactor
          rw [if_neg unwatched, if_neg unwatched, ih]
          by_cases later : fd ∈ acceptedFds answers
          · rw [if_pos later, if_pos (List.mem_cons_of_mem _ later)]
            rfl
          · rw [if_neg later]
            unfold acceptClient
            dsimp only
            by_cases same : fd = client
            · rw [same, AList.lookup_insert, if_pos List.mem_cons_self]
            · rw [AList.lookup_insert_ne same, if_neg]
              intro member
              rcases List.mem_cons.mp member with equal | inside
              · exact same equal
              · exact later inside

theorem handle_accept_hears (hears : reactor.Hears heard) (stated : reactor.Stated)
    (answers : List AcceptAnswer) :
    (reactor.handleAccept answers).Hears fun fd =>
      if fd ∈ acceptedFds answers then {} else heard fd := by
  intro fd
  dsimp only
  have find := handle_accept_find answers reactor fd
  by_cases accepted : fd ∈ acceptedFds answers
  · rw [if_pos accepted] at find ⊢
    refine ⟨⟨[], Inbound.decodes_nothing⟩, ?_⟩
    intro connection state found _
    rw [find] at found
    cases found
    exact ⟨[], Inbound.decodes_nothing, Connection.accepted_in_step fd reactor.id⟩
  · rw [if_neg accepted] at find ⊢
    refine ⟨(hears fd).1, ?_⟩
    intro connection state found _
    rw [find] at found
    obtain ⟨old, foundState, -, -⟩ := stated fd connection found
    exact (hears fd).2 connection old found foundState

theorem disconnect_inherits (reactor : Reactor) (fd : Int) (connection : Connection) :
    Inherits reactor (reactor.disconnect fd connection) :=
  (disconnect_descends reactor fd connection).inherits

theorem handle_client_event_rule {keeps : (Int → Inbound) → Reactor → Prop} (fd : Int)
    (events : EventMask) (answers : ClientAnswers)
    (counts : ∀ heard reactor, keeps heard reactor →
      keeps heard { reactor with shared := reactor.shared.incrementErrors })
    (removes : ∀ heard reactor, keeps heard reactor → keeps heard (reactor.removeConnection fd))
    (writes : ∀ heard reactor, keeps heard reactor →
      keeps heard (reactor.handleWrite fd answers.write))
    (disconnects : ∀ heard reactor connection, keeps heard reactor →
      keeps heard (reactor.disconnect fd connection))
    (reads : ∀ heard reactor, keeps heard reactor →
      keeps (fun other => if other = fd then
        (heard fd).append (reactor.clientInbound handle fd answers) else heard other)
        (reactor.handleClient handle fd answers))
    (kept : keeps heard reactor) :
    keeps (fun other => (heard other).append
        (reactor.inbound handle (.client fd events answers) other))
      (reactor.handleClientEvent handle fd events answers) := by
  obtain ⟨input, output, readHangup, error, hangup⟩ := events
  have nothing : (error ∨ hangup ∨ ¬ input) → (fun other => (heard other).append
      (reactor.inbound handle (.client fd ⟨input, output, readHangup, error, hangup⟩ answers)
        other)) = heard := by
    intro unread
    funext other
    unfold inbound
    dsimp only
    rw [if_pos (Or.inr unread), Inbound.append_nothing]
  unfold handleClientEvent
  dsimp only
  by_cases failed : error = true
  · rw [if_pos failed, nothing (.inl failed)]
    exact removes _ _ (counts _ _ kept)
  · rw [if_neg failed]
    by_cases hung : hangup = true
    · rw [if_pos hung, nothing (.inr (.inl hung))]
      exact removes _ _ kept
    · rw [if_neg hung]
      have read : keeps (fun other => (heard other).append (reactor.inbound handle
            (.client fd ⟨input, output, readHangup, error, hangup⟩ answers) other))
          (if input = true then reactor.handleClient handle fd answers else reactor) := by
        by_cases inputs : input = true
        · rw [if_pos inputs]
          have heardNow := reads heard reactor kept
          have same : (fun other => if other = fd then
              (heard fd).append (reactor.clientInbound handle fd answers) else heard other) =
              fun other => (heard other).append (reactor.inbound handle
                (.client fd ⟨input, output, readHangup, error, hangup⟩ answers) other) := by
            funext other
            unfold inbound
            dsimp only
            by_cases here : other = fd
            · rw [if_pos here, if_neg (by simp [here, failed, hung, inputs]), here]
            · rw [if_neg here, if_pos (Or.inl here), Inbound.append_nothing]
          rwa [same] at heardNow
        · rw [if_neg inputs, nothing (.inr (.inr inputs))]
          exact kept
      generalize (if input = true then reactor.handleClient handle fd answers else reactor) =
        reading at read ⊢
      generalize (fun other => (heard other).append (reactor.inbound handle
        (.client fd ⟨input, output, readHangup, error, hangup⟩ answers) other)) = now at read ⊢
      have written : keeps now (if output = true then reading.handleWrite fd answers.write
          else reading) := by
        split_ifs
        · exact writes _ _ read
        · exact read
      generalize (if output = true then reading.handleWrite fd answers.write else reading) =
        writing at written ⊢
      split_ifs
      · apply handle_read_hangup_invariant fd _ written
        intro connection _ _
        exact disconnects _ _ connection written
      · exact written

theorem handle_client_event_hears (hears : reactor.Hears heard) (fd : Int) (events : EventMask)
    (answers : ClientAnswers) :
    (reactor.handleClientEvent handle fd events answers).Hears fun other =>
      (heard other).append (reactor.inbound handle (.client fd events answers) other) := by
  apply handle_client_event_rule handle fd events answers _ _ _ _ _ hears
  · intro heard reactor hears
    exact hears
  · intro heard reactor hears
    exact hears.inherits (remove_connection_descends reactor fd).inherits
  · intro heard reactor hears
    exact hears.inherits (handle_write_descends reactor fd _).inherits
  · intro heard reactor connection hears
    exact hears.inherits (disconnect_inherits reactor fd connection)
  · intro heard reactor hears
    exact handle_client_hears handle hears fd answers

theorem step_hears (hears : reactor.Hears heard) (stated : reactor.Stated) (input : Input) :
    (reactor.step handle input).Hears fun fd =>
      (if fd ∈ input.accepted then {} else heard fd).append (reactor.inbound handle input fd) := by
  have silent : ∀ {after : Reactor}, after.Hears heard →
      after.Hears fun fd => (if fd ∈ ([] : List Int) then {} else heard fd).append {} := by
    intro after still
    simpa only [List.not_mem_nil, if_false, Inbound.append_nothing] using still
  cases input with
  | accept answers =>
      change (reactor.handleAccept answers).Hears fun fd =>
        (if fd ∈ acceptedFds answers then {} else heard fd).append {}
      simpa only [Inbound.append_nothing] using handle_accept_hears hears stated answers
  | timer expired =>
      apply silent
      apply handle_timer_invariant _ expired hears
      intro reactor fd hears
      exact hears.inherits (remove_connection_descends reactor fd).inherits
  | completions answers =>
      apply silent
      apply drain_completions_invariant _ _ answers hears
      intro reactor answers hears
      exact hears.pop answers
  | client fd events answers =>
      change (reactor.handleClientEvent handle fd events answers).Hears fun other =>
        (if other ∈ ([] : List Int) then {} else heard other).append
          (reactor.inbound handle (.client fd events answers) other)
      simpa only [List.not_mem_nil, if_false] using
        handle_client_event_hears handle hears fd events answers
  | worker job response =>
      apply silent
      change (reactor.finishJob job response).Hears heard
      unfold finishJob
      cases reactor.shared.jobs[job]? with
      | none => exact hears
      | some callback => exact hears

/-- The requests that came in on a descriptor are those recorded under one generation, and
no other descriptor is open under it. -/
def AccountsAt (heard : Int → Inbound) (reactor : Reactor) (fd : Int) (generation : Nat) : Prop :=
  reactor.shared.history.requestsOf generation = (heard fd).requests ∧
    ∀ other state, reactor.connectionStates.lookup other = some state →
      (state.generation = generation ↔ other = fd)

/-- What came in is what the history has recorded. -/
structure Accounts (heard : Int → Inbound) (reactor : Reactor) : Prop where
  issued : ∀ request ∈ reactor.shared.history.requests,
    request.1.generation ≤ reactor.nextConnectionGeneration
  recorded : ∀ fd, ∃ generation ≤ reactor.nextConnectionGeneration,
    reactor.AccountsAt heard fd generation

theorem Accounts.narrow {after : Reactor} (accounts : reactor.Accounts heard)
    (next : after.nextConnectionGeneration = reactor.nextConnectionGeneration)
    (requests : after.shared.history.requests = reactor.shared.history.requests)
    (states : ∀ fd state, after.connectionStates.lookup fd = some state →
      ∃ old, reactor.connectionStates.lookup fd = some old ∧
        state.generation = old.generation) : after.Accounts heard := by
  constructor
  · rw [requests, next]
    exact accounts.issued
  · intro fd
    obtain ⟨generation, known, same, alone⟩ := accounts.recorded fd
    refine ⟨generation, next ▸ known, ?_, ?_⟩
    · unfold History.requestsOf at same ⊢
      rwa [requests]
    · intro other state found
      obtain ⟨old, foundOld, agrees⟩ := states other state found
      rw [agrees]
      exact alone other old foundOld

theorem Quiet.accounts {before after : Reactor} (quiet : Quiet before after)
    (accounts : before.Accounts heard) : after.Accounts heard := by
  apply accounts.narrow quiet.next (congrArg History.requests quiet.history)
  intro fd state found
  obtain ⟨old, events, foundOld, rfl⟩ := quiet.states fd state found
  exact ⟨old, foundOld, rfl⟩

theorem put_states {session : Session} {state : ConnectionState}
    (foundState : reactor.connectionStates.lookup session.fd = some state)
    (generation : session.state.generation = state.generation) (fd : Int)
    (other : ConnectionState)
    (found : (reactor.put session).connectionStates.lookup fd = some other) :
    ∃ old, reactor.connectionStates.lookup fd = some old ∧
      other.generation = old.generation := by
  unfold put at found
  dsimp only at found
  by_cases same : fd = session.fd
  · rw [same, AList.lookup_insert] at found
    cases found
    exact ⟨state, same ▸ foundState, generation⟩
  · rw [AList.lookup_insert_ne same] at found
    exact ⟨other, found, rfl⟩

theorem Accounts.served (accounts : reactor.Accounts heard) {fd : Int} {connection : Connection}
    {state : ConnectionState} {inbound : Inbound} {session : Session}
    (foundState : reactor.connectionStates.lookup fd = some state)
    (records : Session.Records ⟨fd, connection, state, reactor.shared⟩ inbound.requests
      session) :
    (reactor.put session).Accounts fun other =>
      if other = fd then (heard fd).append inbound else heard other := by
  obtain ⟨sameFd, sameGeneration, requests⟩ := records
  dsimp only at sameFd sameGeneration requests
  have states := put_states (sameFd.symm ▸ foundState) sameGeneration
  have more : ∀ generation, (reactor.put session).shared.history.requestsOf generation =
      reactor.shared.history.requestsOf generation ++
        if state.generation = generation then inbound.requests else [] := by
    intro generation
    unfold put History.requestsOf
    dsimp only
    rw [requests, List.filter_append, List.map_append]
    by_cases same : state.generation = generation
    · simp [same, List.filter_map, Function.comp_def]
    · simp [same, List.filter_map, Function.comp_def]
  constructor
  · intro request member
    unfold put at member
    dsimp only at member
    rw [requests] at member
    rcases List.mem_append.mp member with earlier | new
    · exact accounts.issued request earlier
    · obtain ⟨asked, -, rfl⟩ := List.mem_map.mp new
      obtain ⟨generation, below, -, alone⟩ := accounts.recorded fd
      rw [(alone fd state foundState).mpr rfl]
      exact below
  · intro other
    obtain ⟨generation, below, before, alone⟩ := accounts.recorded other
    refine ⟨generation, below, ?_, ?_⟩
    · rw [more, before]
      dsimp only
      by_cases same : other = fd
      · rw [if_pos same, if_pos ((alone fd state foundState).mpr same.symm), same]
        rfl
      · rw [if_neg same, if_neg, List.append_nil]
        intro equal
        exact same ((alone fd state foundState).mp equal).symm
    · intro another found isFound
      obtain ⟨old, foundOld, agrees⟩ := states another found isFound
      rw [agrees]
      exact alone another old foundOld

theorem accept_client_accounts (accounts : reactor.Accounts heard) (client : Int) :
    (reactor.acceptClient client).Accounts fun fd => if fd = client then {} else heard fd := by
  have known : ∀ fd state, reactor.connectionStates.lookup fd = some state →
      state.generation ≤ reactor.nextConnectionGeneration := by
    intro fd state found
    obtain ⟨generation, below, -, alone⟩ := accounts.recorded fd
    rw [(alone fd state found).mpr rfl]
    exact below
  have states : ∀ other state,
      (reactor.acceptClient client).connectionStates.lookup other = some state →
      other = client ∧ state.generation = reactor.nextConnectionGeneration + 1 ∨
        other ≠ client ∧ reactor.connectionStates.lookup other = some state := by
    intro other state found
    unfold acceptClient at found
    dsimp only at found
    by_cases same : other = client
    · rw [same, AList.lookup_insert] at found
      cases found
      exact .inl ⟨same, rfl⟩
    · rw [AList.lookup_insert_ne same] at found
      exact .inr ⟨same, found⟩
  constructor
  · intro request member
    exact Nat.le_succ_of_le (accounts.issued request member)
  · intro fd
    by_cases same : fd = client
    · refine ⟨reactor.nextConnectionGeneration + 1, Nat.le_refl _, ?_, ?_⟩
      · have fresh : reactor.shared.history.requests.filter (fun request =>
            request.1.generation = reactor.nextConnectionGeneration + 1) = [] := by
          apply List.filter_eq_nil_iff.mpr
          intro request member
          have below := accounts.issued request member
          simp only [decide_eq_true_eq]
          omega
        dsimp only
        rw [if_pos same]
        change List.map _ (List.filter _ reactor.shared.history.requests) = []
        rw [fresh, List.map_nil]
      · intro other state found
        rw [same]
        rcases states other state found with ⟨here, generation⟩ | ⟨differs, earlier⟩
        · exact iff_of_true generation here
        · apply iff_of_false _ differs
          have below := known other state earlier
          omega
    · obtain ⟨generation, below, requests, alone⟩ := accounts.recorded fd
      refine ⟨generation, Nat.le_succ_of_le below, ?_, ?_⟩
      · dsimp only
        rw [if_neg same]
        exact requests
      · intro other state found
        rcases states other state found with ⟨here, fresh⟩ | ⟨-, earlier⟩
        · rw [fresh, here]
          exact iff_of_false (by omega) (Ne.symm same)
        · exact alone other state earlier

theorem handle_accept_accounts (accounts : reactor.Accounts heard)
    (answers : List AcceptAnswer) :
    (reactor.handleAccept answers).Accounts fun fd =>
      if fd ∈ acceptedFds answers then {} else heard fd := by
  induction answers generalizing reactor heard with
  | nil =>
      simp only [acceptedFds, List.not_mem_nil, if_false]
      exact accounts
  | cons answer answers ih =>
      cases answer with
      | interrupted => exact ih accounts
      | client client nonBlocking noDelay added =>
          unfold handleAccept acceptedFds
          split_ifs
          · exact ih accounts
          · exact ih accounts
          · exact ih accounts
          · have rest := ih (accept_client_accounts accounts client)
            have same : (fun fd => if fd ∈ acceptedFds answers then {}
                else if fd = client then {} else heard fd) =
                fun fd => if fd ∈ client :: acceptedFds answers then {} else heard fd := by
              funext fd
              by_cases here : fd = client
              · simp [here]
              · simp [here]
            rwa [same] at rest

theorem handle_client_accounts (accounts : reactor.Accounts heard) (fd : Int)
    (answers : ClientAnswers) :
    (reactor.handleClient handle fd answers).Accounts fun other =>
      if other = fd then (heard fd).append (reactor.clientInbound handle fd answers)
      else heard other := by
  have unread : (fun other => if other = fd then (heard fd).append {} else heard other) =
      heard := by
    funext other
    split_ifs with same
    · rw [Inbound.append_nothing, same]
    · rfl
  unfold clientInbound handleClient
  cases found : reactor.connections.lookup fd with
  | none =>
      dsimp only
      rw [unread]
      exact accounts
  | some connection =>
      cases foundState : reactor.connectionStates.lookup fd with
      | none =>
          dsimp only
          rw [unread]
          exact (remove_connection_quiet reactor fd).accounts accounts
      | some state =>
          dsimp only
          by_cases waits : state.redisPending
          · rw [if_pos waits, if_pos waits, unread]
            exact accounts
          · rw [if_neg waits, if_neg waits]
            have records := Session.read_loop_records handle answers.openFile
              (answers.recvs.length + 1) answers.recvs ⟨fd, connection, state, reactor.shared⟩
            generalize Session.readLoopInbound handle answers.openFile
              (answers.recvs.length + 1) answers.recvs
              ⟨fd, connection, state, reactor.shared⟩ = inbound at records ⊢
            generalize Session.readLoop handle answers.openFile (answers.recvs.length + 1)
              answers.recvs ⟨fd, connection, state, reactor.shared⟩ = outcome at records ⊢
            obtain ⟨served, session⟩ := outcome
            have put := accounts.served foundState records
            cases served with
            | failed => exact (remove_connection_quiet _ fd).accounts put
            | pending => exact (update_events_quiet _ fd _ _).accounts put
            | waiting =>
                dsimp only
                split_ifs
                · exact (handle_write_quiet _ fd _).accounts put
                · exact put
            | closing =>
                dsimp only
                split_ifs
                · exact (handle_write_quiet _ fd _).accounts put
                · exact put

theorem complete_async_response_accounts (accounts : reactor.Accounts heard)
    (callback : Callback) (response : HttpResponse) (answers : WriteAnswers) :
    (reactor.completeAsyncResponse callback response answers).Accounts heard := by
  have completes := reactor.complete_async_response_completes callback response answers
  generalize reactor.completeAsyncResponse callback response answers = outcome at completes ⊢
  cases completes with
  | dropped => exact accounts
  | refused connection state after found foundState =>
      apply (remove_connection_quiet _ callback.fd).accounts
      exact accounts.narrow rfl rfl (put_states foundState rfl)
  | queued connection state after found foundState =>
      apply (handle_write_quiet _ callback.fd answers).accounts
      exact accounts.narrow rfl rfl (put_states foundState rfl)

theorem step_accounts (accounts : reactor.Accounts heard) (input : Input) :
    (reactor.step handle input).Accounts fun fd =>
      (if fd ∈ input.accepted then {} else heard fd).append (reactor.inbound handle input fd) := by
  have silent : ∀ {after : Reactor}, after.Accounts heard →
      after.Accounts fun fd => (if fd ∈ ([] : List Int) then {} else heard fd).append {} := by
    intro after still
    simpa only [List.not_mem_nil, if_false, Inbound.append_nothing] using still
  cases input with
  | accept answers =>
      change (reactor.handleAccept answers).Accounts fun fd =>
        (if fd ∈ acceptedFds answers then {} else heard fd).append {}
      simpa only [Inbound.append_nothing] using handle_accept_accounts accounts answers
  | timer expired =>
      apply silent
      apply handle_timer_invariant _ expired accounts
      intro reactor fd accounts
      exact (remove_connection_quiet reactor fd).accounts accounts
  | completions answers =>
      apply silent
      apply drain_completions_invariant _ _ answers accounts
      intro reactor answers accounts
      unfold popCompletion
      cases reactor.shared.completions with
      | nil => exact accounts
      | cons completion completions =>
          apply complete_async_response_accounts
          exact accounts.narrow rfl rfl fun fd state found => ⟨state, found, rfl⟩
  | client fd events answers =>
      change (reactor.handleClientEvent handle fd events answers).Accounts fun other =>
        (if other ∈ ([] : List Int) then {} else heard other).append
          (reactor.inbound handle (.client fd events answers) other)
      simp only [List.not_mem_nil, if_false]
      apply handle_client_event_rule handle fd events answers _ _ _ _ _ accounts
      · intro heard reactor accounts
        exact accounts.narrow rfl rfl fun fd state found => ⟨state, found, rfl⟩
      · intro heard reactor accounts
        exact (remove_connection_quiet reactor fd).accounts accounts
      · intro heard reactor accounts
        exact (handle_write_quiet reactor fd _).accounts accounts
      · intro heard reactor connection accounts
        unfold disconnect
        cases reactor.connectionStates.lookup fd with
        | none => exact (remove_connection_quiet reactor fd).accounts accounts
        | some state =>
            apply (remove_connection_quiet _ fd).accounts
            exact accounts.narrow rfl rfl fun fd state found => ⟨state, found, rfl⟩
      · intro heard reactor accounts
        exact handle_client_accounts handle accounts fd answers
  | worker job response =>
      apply silent
      change (reactor.finishJob job response).Accounts heard
      unfold finishJob
      cases reactor.shared.jobs[job]? with
      | none => exact accounts
      | some callback =>
          exact accounts.narrow rfl rfl fun fd state found => ⟨state, found, rfl⟩

end Reactor

/-- A reactor with what came in on each descriptor since it was accepted last. -/
structure HeardReactor where
  reactor : Reactor
  heard : Int → Inbound := fun _ => {}

namespace HeardReactor

variable (handle : Nat → HttpRequest → HandleResult)

def step (traced : HeardReactor) (input : Reactor.Input) : HeardReactor where
  reactor := traced.reactor.step handle input
  heard := fun fd => (if fd ∈ input.accepted then {} else traced.heard fd).append
    (traced.reactor.inbound handle input fd)

def start (id : Int) : HeardReactor := { reactor := { id := id } }

theorem run_reactor (traced : HeardReactor) (inputs : List Reactor.Input) :
    (run (step handle) traced inputs).reactor =
      run (Reactor.step handle) traced.reactor inputs := by
  induction inputs generalizing traced with
  | nil => rfl
  | cons input inputs ih => exact ih (traced.step handle input)

theorem run_hears (id : Int) (inputs : List Reactor.Input) :
    let traced := run (step handle) (start id) inputs
    traced.reactor.Hears traced.heard ∧ traced.reactor.Stated := by
  refine @run_invariant _ _ (step handle)
    (fun traced => traced.reactor.Hears traced.heard ∧ traced.reactor.Stated) ?_ _ ?_ inputs
  · intro traced input hears
    exact ⟨Reactor.step_hears handle hears.1 hears.2 input,
      Reactor.run_simple_always handle (Reactor.simple_stated handle) hears.2 [input]⟩
  · constructor
    · intro fd
      refine ⟨⟨[], Inbound.decodes_nothing⟩, ?_⟩
      intro connection state found
      cases found
    · intro fd connection found
      cases found

theorem run_accounts (id : Int) (inputs : List Reactor.Input) :
    let traced := run (step handle) (start id) inputs
    traced.reactor.Accounts traced.heard := by
  refine @run_invariant _ _ (step handle)
    (fun traced => traced.reactor.Accounts traced.heard) ?_ _ ?_ inputs
  · intro traced input accounts
    exact Reactor.step_accounts handle accounts input
  · constructor
    · intro request member
      cases member
    · intro fd
      refine ⟨0, Nat.le_refl 0, rfl, ?_⟩
      intro other state found
      cases found

/-- In every run the bytes received on a connection are the encodings of the requests
dispatched on it, in their order, and a rest. While the connection is open, whatever arrives
next is answered as a fresh parser answers on the rest and what arrives. The requests are
those that the reactor has recorded for the connection. -/
theorem requests_are_what_was_received (id : Int) (inputs : List Reactor.Input) (fd : Int) :
    let traced := run (step handle) (start id) inputs
    ∃ (messages : List Message) (rest : Bytes), (∀ message ∈ messages, message.Valid) ∧
      (traced.heard fd).received = messages.flatMap Message.encode ++ rest ∧
      (traced.heard fd).requests.map Prod.snd = messages.map Message.request ∧
      (∃ generation,
        traced.reactor.shared.history.requestsOf generation = (traced.heard fd).requests ∧
        ∀ other state, traced.reactor.connectionStates.lookup other = some state →
          (state.generation = generation ↔ other = fd)) ∧
      ∀ connection, traced.reactor.connections.lookup fd = some connection → ∀ more,
        (connection.feed more).1 = (({} : HttpParser).parse (rest ++ more)).1 := by
  intro traced
  obtain ⟨hears, stated⟩ := run_hears handle id inputs
  obtain ⟨generation, -, recorded, alone⟩ := (run_accounts handle id inputs).recorded fd
  cases found : traced.reactor.connections.lookup fd with
  | none =>
      obtain ⟨⟨rest, messages, valid, received, requests⟩, -⟩ := hears fd
      refine ⟨messages, rest, valid, received, requests,
        ⟨generation, recorded, alone⟩, ?_⟩
      intro connection here
      cases here
  | some connection =>
      obtain ⟨state, foundState, -, -⟩ := stated fd connection found
      obtain ⟨rest, ⟨messages, valid, received, requests⟩, inStep⟩ :=
        (hears fd).2 connection state found foundState
      refine ⟨messages, rest, valid, received, requests,
        ⟨generation, recorded, alone⟩, ?_⟩
      intro other here more
      cases here
      exact Connection.in_step_answer more inStep

end HeardReactor

end Aorta.Server
