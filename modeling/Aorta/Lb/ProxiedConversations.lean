import Aorta.Lb.RelayExactness
import Aorta.Server.ReadResponses

/-!
# Conversations through the load balancer

A client, the load balancer and the servers behind it. TCP delivers to either end of a
socket a prefix of what the other end has sent, at every moment. The requests that the last
server dispatches are then the first ones of the client, no earlier server has dispatched
any, and the client reads the answers to them.
-/

namespace Aorta.Http.Message

open Aorta.Library.Ascii Aorta.Library.Decoding HttpParser

set_option autoImplicit false

/-- One request, as a fresh parser reads it. -/
def readRequest (_ : Unit) (bytes : Bytes) : Option (HttpRequest × Bytes) :=
  match ({} : HttpParser).parse bytes with
  | (.complete, final) => some (final.getRequest, bytes.drop final.getConsumedBytes)
  | _ => none

def coded (message : Message) : Piece Unit Byte HttpRequest := ⟨(), message.encode, message.request⟩

theorem coded_undone {message : Message} (valid : message.Valid) :
    message.coded.Undone readRequest := by
  intro later
  obtain ⟨final, parsed, request, consumed⟩ := parse_message valid later
  unfold coded readRequest
  dsimp only
  rw [parsed]
  dsimp only
  rw [request, consumed, List.drop_left]

/-- Where a stream of messages goes on as another one, so do their requests. -/
theorem requests_begin {messages sent : List Message}
    (valid : ∀ message ∈ messages, message.Valid) (sentValid : ∀ message ∈ sent, message.Valid)
    {rest : Bytes} (inside : messages.flatMap encode ++ rest <+: sent.flatMap encode) :
    messages.map request <+: sent.map request := by
  have undone : ∀ messages : List Message, (∀ message ∈ messages, message.Valid) →
      ∀ piece ∈ messages.map coded, piece.key = () ∧ piece.Undone readRequest := by
    intro messages valid piece member
    obtain ⟨message, known, same⟩ := List.mem_map.mp member
    rw [← same]
    exact ⟨rfl, coded_undone (valid message known)⟩
  have texts : ∀ messages : List Message,
      texts (messages.map coded) = messages.flatMap encode := by
    intro messages
    exact List.flatMap_map coded Piece.text messages
  have values : ∀ messages : List Message,
      (messages.map coded).map Piece.value = messages.map request := by
    intro messages
    exact List.map_map
  have waits : ∀ key, readRequest key [] = none := by decide
  rw [← texts, ← texts] at inside
  rw [← values, ← values]
  exact values_begin waits (undone messages valid) (undone sent sentValid) inside

end Aorta.Http.Message

namespace Aorta.Server

open Aorta.Library.Ascii Aorta.Library.Decoding Aorta.Library.Run Aorta.Http Aorta.Net
open Aorta.Http.HttpHandler (HeadsNoFile)
open Aorta.Http.ResponseReader (readResponse)
open Aorta.Tasks (Outcome)

set_option autoImplicit false

/-- A server at some moment of a run in which no file ends short, one of its connections,
what the job of each request may come to, and what the files hold at every position of what is
sent there. -/
structure Endpoint where
  handlers : Nat → HttpHandler
  id : Int
  inputs : List Reactor.Input
  fd : Int
  files : Nat → Byte
  outcomes : Nat → Outcome → Prop
  may : TalkingReactor.MayPublish (Session.answering handlers) (Responds outcomes) id inputs
  whole : ∀ input ∈ inputs, .sent 0 ∉ input.sends

namespace Endpoint

variable (endpoint : Endpoint)

def talking : TalkingReactor :=
  run (TalkingReactor.step (Session.answering endpoint.handlers))
    (TalkingReactor.start endpoint.id) endpoint.inputs

def heard : Inbound := endpoint.talking.heard endpoint.fd

def said : Outbound := endpoint.talking.said endpoint.fd

def sentBytes : Bytes := spelled endpoint.files endpoint.said.sentBytes

/-- The bytes of the responses that were queued. -/
def announcedBytes : Bytes := spelled endpoint.files endpoint.said.announcedBytes

theorem decodes : ∃ (messages : List Message) (rest : Bytes),
    (∀ message ∈ messages, message.Valid) ∧
      endpoint.heard.received = messages.flatMap Message.encode ++ rest ∧
      endpoint.heard.requests.map Prod.snd = messages.map Message.request := by
  have hears :=
    (HeardReactor.run_hears (Session.answering endpoint.handlers) endpoint.id endpoint.inputs).1
  rw [show HeardReactor.start endpoint.id = (TalkingReactor.start endpoint.id).toHeardReactor
    from rfl, ← TalkingReactor.run_heard] at hears
  obtain ⟨rest, messages, valid, received, requests⟩ := (hears endpoint.fd).1
  exact ⟨messages, rest, valid, received, requests⟩

theorem requests_begin {messages : List Message} (valid : ∀ message ∈ messages, message.Valid)
    (inside : endpoint.heard.received <+: messages.flatMap Message.encode) :
    endpoint.heard.requests.map Prod.snd <+: messages.map Message.request := by
  obtain ⟨decoded, rest, decodedValid, received, requests⟩ := endpoint.decodes
  rw [requests]
  rw [received] at inside
  exact Message.requests_begin decodedValid valid inside

theorem replied :
    Replied (Session.answering endpoint.handlers) (Responds endpoint.outcomes) endpoint.heard.requests
      endpoint.said.replies :=
  (TalkingReactor.run_follows (Session.answering endpoint.handlers) endpoint.id
    endpoint.inputs endpoint.may endpoint.fd).1

theorem owes : endpoint.sentBytes <+: endpoint.announcedBytes :=
  spelled_begins endpoint.files (TalkingReactor.run_owes (Session.answering endpoint.handlers)
    endpoint.id endpoint.inputs endpoint.whole endpoint.fd).1

/-- A server that has received nothing has dispatched and sent nothing. -/
theorem silent (unheard : endpoint.heard.received = []) :
    endpoint.heard.requests = [] ∧ endpoint.sentBytes = [] := by
  have noMessages : ∀ message ∈ ([] : List Message), message.Valid := by
    intro message member
    cases member
  have none := endpoint.requests_begin noMessages (by rw [unheard]; exact List.nil_prefix)
  have requests : endpoint.heard.requests = [] := List.map_eq_nil_iff.mp (List.prefix_nil.mp none)
  refine ⟨requests, ?_⟩
  have serials := endpoint.replied.serials
  rw [requests] at serials
  have replies : endpoint.said.replies = [] :=
    List.map_eq_nil_iff.mp (List.prefix_nil.mp serials)
  have owes := endpoint.owes
  rw [announcedBytes, Outbound.announcedBytes, replies] at owes
  exact List.prefix_nil.mp owes

/-- A client that has sent messages reads the answers to the first of them. -/
theorem read {messages : List Message} (valid : ∀ message ∈ messages, message.Valid)
    (inside : endpoint.heard.received <+: messages.flatMap Message.encode)
    (noFiles : ∀ message ∈ messages, HeadsNoFile message.request) {text : Bytes}
    (part : text <+: endpoint.announcedBytes) :
    let read := readAll readResponse (bareness (messages.map Message.request)) text
    List.Forall₂ (Got (Settles endpoint.handlers (Responds endpoint.outcomes)))
      (endpoint.heard.requests.take read.length) read := by
  obtain ⟨more, same⟩ := endpoint.requests_begin valid inside
  have dispatched : ∀ request ∈ endpoint.heard.requests, HeadsNoFile request.2 := by
    intro request member
    have known : request.2 ∈ messages.map Message.request := by
      rw [← same]
      exact List.mem_append_left _ (List.mem_map_of_mem member)
    obtain ⟨message, sent, isRequest⟩ := List.mem_map.mp known
    rw [← isRequest]
    exact noFiles message sent
  rw [← same]
  exact endpoint.replied.read dispatched endpoint.files more part

end Endpoint

end Aorta.Server

namespace Aorta.Lb

open Aorta.Library.Ascii Aorta.Library.Decoding Aorta.Library.Run Aorta.Library.Trace
open Aorta.Http Aorta.Net Aorta.Server
open Aorta.Http.HttpHandler (HeadsNoFile)
open Aorta.Http.ResponseReader (readResponse)
open Aorta.Tasks (Outcome)

set_option autoImplicit false

/-- A server at the other end of a backend socket: it has received the first bytes that were
sent to the socket, and what was read from the socket are the first bytes it has sent. -/
structure Attends (endpoint : Endpoint) (socket : List Wire) : Prop where
  hears : endpoint.heard.received <+: sentTo .backend socket
  tells : readFrom .backend socket <+: endpoint.sentBytes

/-- Whatever is at the other end has dispatched nothing. -/
def Undisturbed (before : List Wire) : Prop :=
  ∀ endpoint : Endpoint, Attends endpoint (current before) → endpoint.heard.requests = []

/-- Some server is at the other end. -/
def Served (before : List Wire) : Prop := ∃ endpoint : Endpoint, Attends endpoint (current before)

theorem attends_silently {endpoint : Endpoint} {socket : List Wire}
    (attends : Attends endpoint socket) (nothing : sentTo .backend socket = []) :
    endpoint.heard.requests = [] ∧ readFrom .backend socket = [] := by
  have hears := attends.hears
  rw [nothing] at hears
  obtain ⟨requests, sent⟩ := endpoint.silent (List.prefix_nil.mp hears)
  have tells := attends.tells
  rw [sent] at tells
  exact ⟨requests, List.prefix_nil.mp tells⟩

theorem read_from_last {trace : List Wire}
    (quiet : Preceded (fun wire => wire.opens = true)
      (fun before => readFrom .backend (current before) = []) trace) :
    readFrom .backend trace = readFrom .backend (current trace) := by
  induction trace using List.reverseRecOn with
  | nil => rfl
  | append_singleton trace last ih =>
      have earlier : Preceded (fun wire => wire.opens = true)
          (fun before => readFrom .backend (current before) = []) trace := by
        intro before wire after split
        exact quiet before wire (after ++ [last]) (by rw [split]; simp)
      rw [read_from_snoc, ih earlier]
      cases last with
      | opened fd index =>
          rw [quiet trace (.opened fd index) [] rfl rfl, current_opened]
          rfl
      | read side bytes => rw [current_snoc _ _ rfl, read_from_snoc]
      | ended side => rw [current_snoc _ _ rfl, read_from_snoc]
      | sent side bytes => rw [current_snoc _ _ rfl, read_from_snoc]
      | shutdown side => rw [current_snoc _ _ rfl, read_from_snoc]

namespace LoadBalancer

/-- A client that sends valid messages through the load balancer, to servers none of whose
files ends short: whatever sockets were tried, only the server at the last one has
dispatched any request, namely the first ones of the client. What the client has got are the
first bytes of the responses to them, and unless it asks for a static file with `HEAD`, it
reads what the handler answers to its first request, to its second, and so on: at once, or what
the callback makes of an outcome of this request's own job. -/
theorem client_talks_to_one_server (routingMode : RoutingMode)
    (configured : List (Bytes × Nat)) (listenFd healthTimerFd : Int) (inputs : List Input) :
    let lb := run step (create routingMode configured listenFd healthTimerFd) inputs
    ∀ pair, ((∃ clientFd, lb.connections.lookup clientFd = some pair) ∨
        ∃ reason, (pair, reason) ∈ lb.closed) →
      pair.metricsConnection = false →
      Preceded (fun wire => wire.opens = true) Served pair.trace →
      ∀ messages : List Message, (∀ message ∈ messages, message.Valid) →
        readFrom .client pair.trace <+: messages.flatMap Message.encode →
      ∀ endpoint : Endpoint, Attends endpoint (current pair.trace) →
        let read := readAll readResponse (bareness (messages.map Message.request))
          (sentTo .client pair.trace)
        endpoint.heard.requests.map Prod.snd <+: messages.map Message.request ∧
        sentTo .client pair.trace <+: endpoint.announcedBytes ∧
        ((∀ message ∈ messages, HeadsNoFile message.request) →
          List.Forall₂ (Got (Settles endpoint.handlers (Responds endpoint.outcomes)))
            (endpoint.heard.requests.take read.length) read) ∧
        Preceded (fun wire => wire.opens = true) Undisturbed pair.trace := by
  intro lb pair known plain served messages valid asked endpoint attends read
  have all : AllPairs Exact lb :=
    run_kept exact_kept routingMode configured listenFd healthTimerFd inputs
  have exact : Exact pair := by
    rcases known with ⟨clientFd, found⟩ | ⟨reason, member⟩
    · exact all.opened clientFd pair found
    · exact all.closed pair reason member
  have relays := exact.relays plain
  have hears : endpoint.heard.received <+: messages.flatMap Message.encode := by
    refine attends.hears.trans (List.IsPrefix.trans ?_ asked)
    rw [← relays.toBackend.exact]
    exact List.prefix_append _ _
  have tells : sentTo .client pair.trace <+: endpoint.announcedBytes := by
    have quiet : Preceded (fun wire => wire.opens = true)
        (fun before => readFrom .backend (current before) = []) pair.trace := by
      intro before wire after split opens
      obtain ⟨other, attended⟩ := served before wire after split opens
      exact (attends_silently attended (relays.untouched before wire after split opens)).2
    refine List.IsPrefix.trans ?_ (attends.tells.trans endpoint.owes)
    rw [← read_from_last quiet, ← relays.toClient.exact]
    exact List.prefix_append _ _
  refine ⟨endpoint.requests_begin valid hears, tells,
    fun noFiles => endpoint.read valid hears noFiles tells, ?_⟩
  intro before wire after split opens other attended
  exact (attends_silently attended (relays.untouched before wire after split opens)).1

section Example

/-- A handler with no files and no task manager. -/
def plainHandler (_ : Nat) : HttpHandler := HttpHandler.create (fun _ => none) none []

/-- Without a task manager there are no jobs. -/
def noOutcomes (_ : Nat) (_ : Outcome) : Prop := False

def freshServer : Endpoint where
  handlers := plainHandler
  id := 0
  inputs := []
  fd := 9
  files := fun _ => 0
  outcomes := noOutcomes
  may := trivial
  whole := by
    intro input member
    cases member

def helloMessage : Message where
  method := ascii "GET"
  target := ascii "/hello"
  fields := [⟨ascii "Host", ascii " ", ascii "a"⟩]
  framing := .empty

def helloServerInputs : List Reactor.Input :=
  [.accept [.client 9 true true true],
    .client 9 { input := true }
      { recvs := [.received helloMessage.encode], inline := { sends := [.sent 1000] } }]

/-- The same server when it has answered a request. -/
def helloServer : Endpoint where
  handlers := plainHandler
  id := 0
  inputs := helloServerInputs
  fd := 9
  files := fun _ => 0
  outcomes := noOutcomes
  may := ⟨trivial, trivial, trivial⟩
  whole := by decide

def helloReply : Bytes :=
  ascii ("HTTP/1.1 200 OK\r\nContent-Type: text/plain\r\nConnection: keep-alive\r\n" ++
    "Content-Length: 16\r\n\r\nHello from AORTA")

/-- A request through the load balancer: the first connect fails, and the answer of the second
server is passed on. -/
def proxiedHello : List Input :=
  [.event 3 { input := true } { accepts := [.client 5 (ascii "127.0.0.1") true] },
    .event 5 { input := true }
      { peek := .received helloMessage.encode, dials := [{ sockets := [.inProgress 6] }]
        recvs := [.received helloMessage.encode] },
    .event 6 { output := true }
      { socketError := true, dials := [{ sockets := [.inProgress 7] }] },
    .event 7 { output := true } { backendSends := [.sent 1000] },
    .event 7 { input := true }
      { recvs := [.received helloReply], clientSends := [.sent 1000] }]

def proxiedTrace : List Wire :=
  [.opened 6 0, .read .client helloMessage.encode, .opened 7 1,
    .sent .backend helloMessage.encode, .read .backend helloReply,
    .sent .client helloReply]

set_option maxRecDepth 20000 in
theorem proxied_hello_goes_over :
    ((run step (create .roundRobin [(ascii "127.0.0.1", 8081), (ascii "127.0.0.1", 8082)] 3 4)
      proxiedHello).connections.lookup 5).map
        (fun pair => (pair.metricsConnection, pair.trace)) = some (false, proxiedTrace) := by
  decide

theorem proxied_trace_served : Preceded (fun wire => wire.opens = true) Served proxiedTrace := by
  have fresh : ∀ before, readFrom .backend (current before) = [] → Served before := by
    intro before unread
    refine ⟨freshServer, List.nil_prefix, ?_⟩
    rw [unread]
    exact List.nil_prefix
  have first : Preceded (fun wire => wire.opens = true) Served [.opened 6 0] :=
    preceded_snoc preceded_nil fun _ => fresh [] (by decide)
  have second : Preceded (fun wire => wire.opens = true) Served
      [.opened 6 0, .read .client helloMessage.encode] :=
    preceded_snoc first fun opens => by cases opens
  have third : Preceded (fun wire => wire.opens = true) Served
      [.opened 6 0, .read .client helloMessage.encode, .opened 7 1] :=
    preceded_snoc second fun _ => fresh _ (by decide)
  refine preceded_snoc (preceded_snoc (preceded_snoc third ?_) ?_) ?_
  · intro opens
    cases opens
  · intro opens
    cases opens
  · intro opens
    cases opens

set_option maxRecDepth 20000 in
theorem hello_is_answered_by_the_second_server :
    ∃ pair, (run step
        (create .roundRobin [(ascii "127.0.0.1", 8081), (ascii "127.0.0.1", 8082)] 3 4)
        proxiedHello).connections.lookup 5 = some pair ∧
      let read := readAll readResponse [false] (sentTo .client pair.trace)
      read.map ReceivedResponse.content = [ascii "Hello from AORTA"] ∧
        helloServer.heard.requests.map Prod.snd <+: [helloMessage.request] ∧
        List.Forall₂ (Got (Settles plainHandler (Responds noOutcomes)))
          (helloServer.heard.requests.take read.length) read := by
  obtain ⟨pair, found, same⟩ := Option.map_eq_some_iff.mp proxied_hello_goes_over
  obtain ⟨plain, trace⟩ := Prod.mk.inj same
  have served := proxied_trace_served
  rw [← trace] at served
  have talks := client_talks_to_one_server .roundRobin
    [(ascii "127.0.0.1", 8081), (ascii "127.0.0.1", 8082)] 3 4 proxiedHello pair (.inl ⟨5, found⟩)
    plain served [helloMessage] (by decide) (by rw [trace]; decide) helloServer
    (by rw [trace]; exact ⟨by decide, by decide⟩)
  exact ⟨pair, found, by rw [trace]; decide, talks.1, talks.2.2.1 (by decide)⟩

end Example

end LoadBalancer

end Aorta.Lb
