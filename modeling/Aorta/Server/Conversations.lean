import Aorta.Http.ResponseFraming
import Aorta.Server.ResponseStream

/-!
# Request and response

The responses queued on a connection are those to the requests dispatched on it, one for
each and in their order: what the handler has answered at once, or what a worker has published
for the job of the request. Only the last request may still wait, and it waits for its own job.
-/

namespace Aorta.Server

open Aorta.Library.Ascii Aorta.Library.Run Aorta.Http Aorta.Net
open Aorta.Http.HttpParser (ParseResult)

set_option autoImplicit false

/-- A file that is to be sent is in the queue. -/
def Reply.Whole (reply : Reply) : Prop :=
  reply.file.isSome = Session.sendsFile reply.response

section Replied

variable (handle : Nat → HttpRequest → HandleResult) (published : Nat → HttpResponse → Prop)

/-- What is queued for a request. -/
inductive Answered : Nat × HttpRequest → Reply → Prop
  | atOnce {serial : Nat} {request : HttpRequest} {response : HttpResponse}
      (completed : handle serial request = .completed response) (file : Option Int) :
      Answered (serial, request) ⟨serial, HttpHandler.finished request response, file⟩
  | later {serial : Nat} {request : HttpRequest} {response : HttpResponse}
      (pending : handle serial request = .pending) (byWorker : published serial response) :
      Answered (serial, request) ⟨serial, HttpHandler.finished request response, none⟩

/-- One reply to each request. -/
def AllReplied (requests : List (Nat × HttpRequest)) (replies : List Reply) : Prop :=
  List.Forall₂ (fun request reply => Answered handle published request reply ∧ reply.Whole)
    requests replies

/-- Replies to the first requests. The last one may lack its file; the connection is then
given up. -/
inductive Replied : List (Nat × HttpRequest) → List Reply → Prop
  | nothing (requests : List (Nat × HttpRequest)) : Replied requests []
  | broken {request : Nat × HttpRequest} {reply : Reply}
      (answered : Answered handle published request reply) (unopened : reply.file = none)
      (requests : List (Nat × HttpRequest)) : Replied (request :: requests) [reply]
  | next {request : Nat × HttpRequest} {reply : Reply} {requests : List (Nat × HttpRequest)}
      {replies : List Reply} (answered : Answered handle published request reply)
      (whole : reply.Whole) (rest : Replied requests replies) :
      Replied (request :: requests) (reply :: replies)

variable {handle : Nat → HttpRequest → HandleResult} {published : Nat → HttpResponse → Prop}
  {requests more : List (Nat × HttpRequest)} {replies others : List Reply}

theorem Answered.serial {request : Nat × HttpRequest} {reply : Reply}
    (answered : Answered handle published request reply) : reply.serial = request.1 := by
  cases answered with
  | atOnce completed file => rfl
  | later pending byWorker => rfl

theorem AllReplied.serials (all : AllReplied handle published requests replies) :
    replies.map Reply.serial = requests.map Prod.fst := by
  induction all with
  | nil => rfl
  | cons first rest ih => rw [List.map_cons, List.map_cons, first.1.serial, ih]

theorem Replied.serials (replied : Replied handle published requests replies) :
    replies.map Reply.serial <+: requests.map Prod.fst := by
  induction replied with
  | nothing requests => exact List.nil_prefix
  | broken answered unopened requests =>
      rw [List.map_cons, List.map_cons, answered.serial]
      exact (List.prefix_cons_inj _).mpr List.nil_prefix
  | next answered whole rest ih =>
      rw [List.map_cons, List.map_cons, answered.serial]
      exact (List.prefix_cons_inj _).mpr ih

theorem AllReplied.andThen (all : AllReplied handle published requests replies)
    (replied : Replied handle published more others) :
    Replied handle published (requests ++ more) (replies ++ others) := by
  induction all with
  | nil => exact replied
  | cons first rest ih => exact .next first.1 first.2 ih

theorem AllReplied.replied (all : AllReplied handle published requests replies) :
    Replied handle published requests replies := by
  simpa using all.andThen (.nothing [])

/-- The replies to requests of which the last may wait. -/
theorem AllReplied.before (all : AllReplied handle published requests replies)
    (more : List (Nat × HttpRequest)) :
    Replied handle published (requests ++ more) replies := by
  simpa using all.andThen (.nothing more)

theorem AllReplied.append (all : AllReplied handle published requests replies)
    (rest : AllReplied handle published more others) :
    AllReplied handle published (requests ++ more) (replies ++ others) :=
  List.rel_append all rest

end Replied

/-- The job of a request. -/
structure AskedFor (handle : Nat → HttpRequest → HandleResult) (request : HttpRequest)
    (callback : Callback) : Prop where
  pending : handle callback.serial request = .pending
  closes : callback.closeAfterWrite =
    request.hasHeaderToken (ascii "Connection") (ascii "close")

namespace Session

variable (handle : Nat → HttpRequest → HandleResult) (published : Nat → HttpResponse → Prop)
  (openFile : Bytes → Option Int)

/-- How the loops leave a session on which these requests were dispatched and these
responses were queued. -/
structure Turns (session : Session) (requests : List (Nat × HttpRequest)) (replies : List Reply)
    (outcome : Served × Session) : Prop where
  generation : outcome.2.state.generation = session.state.generation
  completions : outcome.2.shared.completions = session.shared.completions
  order : Replied handle published requests replies
  jobs : outcome.1 ≠ .pending → outcome.2.shared.jobs = session.shared.jobs
  answered : outcome.1 ≠ .pending → outcome.1 ≠ .failed →
    AllReplied handle published requests replies
  behind : outcome.1 = .pending → ∃ callback front request,
    outcome.2.shared.jobs = session.shared.jobs ++ [callback] ∧
      callback.generation = session.state.generation ∧ AskedFor handle request callback ∧
      requests = front ++ [(callback.serial, request)] ∧
      AllReplied handle published front replies

variable {handle published} {session : Session} {requests more : List (Nat × HttpRequest)}
  {replies others : List Reply} {outcome : Served × Session}

theorem Turns.none {served : Served} {after : Session} (goesOn : served ≠ .pending)
    (generation : after.state.generation = session.state.generation)
    (completions : after.shared.completions = session.shared.completions)
    (jobs : after.shared.jobs = session.shared.jobs) :
    Turns handle published session [] [] (served, after) where
  generation := generation
  completions := completions
  order := .nothing []
  jobs := fun _ => jobs
  answered := fun _ _ => .nil
  behind := fun pending => absurd pending goesOn

/-- The loops go on behind requests that are all answered. -/
theorem Turns.andThen {after : Session}
    (first : Turns handle published session requests replies (.waiting, after))
    (second : Turns handle published after more others outcome) :
    Turns handle published session (requests ++ more) (replies ++ others) outcome := by
  have all := first.answered (show Served.waiting ≠ .pending by decide)
    (show Served.waiting ≠ .failed by decide)
  have jobs := first.jobs (show Served.waiting ≠ .pending by decide)
  constructor
  · exact second.generation.trans first.generation
  · exact second.completions.trans first.completions
  · exact all.andThen second.order
  · intro goesOn
    exact (second.jobs goesOn).trans jobs
  · intro goesOn stays
    exact all.append (second.answered goesOn stays)
  · intro pending
    obtain ⟨callback, front, request, left, sameGeneration, asked, behind, before⟩ :=
      second.behind pending
    refine ⟨callback, requests ++ front, request, left.trans (congrArg (· ++ [callback]) jobs),
      sameGeneration.trans first.generation, asked, ?_, all.append before⟩
    rw [behind, List.append_assoc]

theorem Turns.rebase {before : Session}
    (turns : Turns handle published session requests replies outcome)
    (generation : session.state.generation = before.state.generation)
    (completions : session.shared.completions = before.shared.completions)
    (jobs : session.shared.jobs = before.shared.jobs) :
    Turns handle published before requests replies outcome where
  generation := turns.generation.trans generation
  completions := turns.completions.trans completions
  order := turns.order
  jobs := fun goesOn => (turns.jobs goesOn).trans jobs
  answered := turns.answered
  behind := by
    intro pending
    obtain ⟨callback, front, request, left, same, rest⟩ := turns.behind pending
    exact ⟨callback, front, request, left.trans (congrArg (· ++ [callback]) jobs),
      same.trans generation, rest⟩

theorem answer_turns (connection : Connection) {serial : Nat} {request : HttpRequest}
    {response : HttpResponse}
    (answered : ∀ file, Answered handle published (serial, request) ⟨serial, response, file⟩) :
    Turns handle published session [(serial, request)]
      (answerReplies openFile serial connection response)
      (session.answer openFile serial connection response) := by
  have refused : ∀ after : Session, after.state.generation = session.state.generation →
      after.shared.completions = session.shared.completions →
      after.shared.jobs = session.shared.jobs → ∀ replies : List Reply,
      Replied handle published [(serial, request)] replies →
      Turns handle published session [(serial, request)] replies after.fail := by
    intro after generation completions jobs replies order
    exact ⟨generation, completions, order, fun _ => jobs, fun _ stays => absurd rfl stays,
      fun pending => absurd pending failed_not_pending⟩
  have finished : ∀ after : Session, after.state.generation = session.state.generation →
      after.shared.completions = session.shared.completions →
      after.shared.jobs = session.shared.jobs → ∀ file,
      Reply.Whole ⟨serial, response, file⟩ →
      Turns handle published session [(serial, request)] [⟨serial, response, file⟩]
        after.finish := by
    intro after generation completions jobs file whole
    have all : AllReplied handle published [(serial, request)] [⟨serial, response, file⟩] :=
      .cons ⟨answered file, whole⟩ .nil
    exact ⟨generation, completions, all.replied, fun _ => jobs, fun _ _ => all,
      fun pending => absurd pending after.finish_not_pending⟩
  unfold answer answerReplies
  cases connection.queueResponse response.serialize with
  | mk accepted afterResponse =>
      cases accepted with
      | false =>
          simp only [Bool.not_false, if_true]
          apply refused
          · rfl
          · rfl
          · rfl
          · exact .nothing _
      | true =>
          cases sends : sendsFile response with
          | false =>
              simp only [Bool.not_true, Bool.false_eq_true, if_false]
              apply finished
              · rfl
              · rfl
              · rfl
              · exact sends.symm
          | true =>
              have opens := afterResponse.queue_file_accepts openFile response.filePath
                response.fileSize
              cases queuedFile : afterResponse.queueFile openFile response.filePath
                  response.fileSize with
              | mk accepted afterFile =>
                  rw [queuedFile] at opens
                  cases accepted with
                  | false =>
                      simp only [Bool.not_true, Bool.false_eq_true, if_false, if_true,
                        queuedFile, Bool.not_false]
                      apply refused
                      · rfl
                      · rfl
                      · rfl
                      · exact .broken (answered none) rfl []
                  | true =>
                      simp only [Bool.not_true, Bool.false_eq_true, if_false, if_true, queuedFile]
                      apply finished
                      · rfl
                      · rfl
                      · rfl
                      · exact (opens.mp rfl).2.trans sends.symm

theorem dispatch_turns (session : Session) :
    Turns handle published session [(session.shared.serial, session.connection.getRequest)]
      (session.dispatchReplies handle openFile) (session.dispatch handle openFile) := by
  unfold dispatch dispatchReplies
  dsimp only
  cases answers : handle session.shared.serial session.connection.getRequest with
  | pending =>
      refine ⟨rfl, rfl, .nothing _, fun goesOn => absurd rfl goesOn,
        fun goesOn => absurd rfl goesOn, fun _ => ?_⟩
      exact ⟨_, [], _, rfl, rfl, ⟨answers, rfl⟩, rfl, .nil⟩
  | completed response =>
      dsimp only
      unfold respond
      exact (answer_turns openFile _ fun file => .atOnce answers file).rebase rfl rfl rfl

theorem serve_turns (fuel : Nat) (session : Session) :
    Turns handle published session ((session.dispatches handle openFile fuel).map numbered)
      ((session.dispatches handle openFile fuel).flatMap (dispatchReplies handle openFile))
      (session.serve handle openFile fuel) := by
  have here : ∀ (session : Session) connection outcome,
      dispatch handle openFile { session with connection := connection } = outcome →
      Turns handle published session [numbered { session with connection := connection }]
        (dispatchReplies handle openFile { session with connection := connection }) outcome := by
    intro session connection outcome dispatched
    have turns : Turns handle published _ _ _ _ :=
      dispatch_turns openFile { session with connection := connection }
    rw [dispatched] at turns
    exact turns.rebase rfl rfl rfl
  refine @serve_rounds handle openFile (fun session others outcome =>
    Turns handle published session (others.map numbered)
      (others.flatMap (dispatchReplies handle openFile)) outcome) ?_ ?_ ?_ ?_ ?_ fuel session
  · exact fun session => .none waiting_not_pending rfl rfl rfl
  · exact fun session connection _ => .none waiting_not_pending rfl rfl rfl
  · exact fun session result connection _ _ _ => .none failed_not_pending rfl rfl rfl
  · intro session connection served after _ dispatched _
    rw [List.flatMap_singleton]
    exact here session connection _ dispatched
  · intro session connection after others outcome _ dispatched rest
    exact (here session connection _ dispatched).andThen rest

theorem read_loop_turns (fuel : Nat) (recvs : List RecvResult) (session : Session) :
    Turns handle published session (session.readLoopInbound handle openFile fuel recvs).requests
      (session.readLoopReplies handle openFile fuel recvs)
      (session.readLoop handle openFile fuel recvs) := by
  have unserved : ∀ (session after : Session) result served,
      result ≠ Connection.ReadResult.dataReceived → served ≠ Served.pending →
      after.state.generation = session.state.generation →
      after.shared.completions = session.shared.completions →
      after.shared.jobs = session.shared.jobs → ∀ next,
      Turns handle published session (inboundOf handle openFile [⟨session, result, next⟩]).requests
        (List.flatMap (Read.replies handle openFile) [⟨session, result, next⟩])
        (served, after) := by
    intro session after result served other goesOn generation completions jobs next
    rw [inbound_of_silent handle openFile session next other, List.flatMap_singleton,
      Read.replies_nothing handle openFile session next other]
    exact .none goesOn generation completions jobs
  have here : ∀ (session : Session) connection outcome,
      serveAll handle openFile (received { session with connection := connection }) = outcome →
      Turns handle published session
        (Read.inbound handle openFile
          ⟨session, .dataReceived, { session with connection := connection }⟩).requests
        (Read.replies handle openFile
          ⟨session, .dataReceived, { session with connection := connection }⟩) outcome := by
    intro session connection outcome serves
    have turns : Turns handle published _ _ _ _ := serve_turns openFile
      (connection.receiveBuffer.length + 2) (received { session with connection := connection })
    change Turns handle published _ _ _ (serveAll handle openFile _) at turns
    rw [serves] at turns
    exact turns.rebase rfl rfl rfl
  refine @read_loop_rounds handle openFile (fun session reads outcome =>
    Turns handle published session (inboundOf handle openFile reads).requests
      (reads.flatMap (Read.replies handle openFile)) outcome) ?_ ?_ ?_ ?_ ?_ ?_ fuel recvs session
  · exact fun session => .none waiting_not_pending rfl rfl rfl
  · intro session recvs connection rest _
    refine unserved session _ .disconnected .failed (by decide) failed_not_pending ?_ ?_ ?_ _
    all_goals rfl
  · intro session recvs result connection rest _ bad
    have other : result ≠ .dataReceived := by rcases bad with rfl | rfl <;> decide
    refine unserved session _ result .failed other failed_not_pending ?_ ?_ ?_ _
    all_goals rfl
  · intro session recvs connection rest _
    refine unserved session _ .wouldBlock .waiting (by decide) waiting_not_pending ?_ ?_ ?_ _
    all_goals rfl
  · intro session recvs connection rest served after _ serves _
    rw [inbound_of_single, List.flatMap_singleton]
    exact here session connection _ serves
  · intro session recvs connection rest after others outcome _ serves _ later
    exact (here session connection _ serves).andThen later

/-- A callback that is new belongs to the last request. -/
theorem Turns.outstanding (turns : Turns handle published session requests replies outcome) :
    ∀ callback ∈ outcome.2.shared.outstanding, callback ∈ session.shared.outstanding ∨
      (callback.generation = session.state.generation ∧ ∃ front request,
        AskedFor handle request callback ∧ requests = front ++ [(callback.serial, request)]) := by
  intro callback member
  unfold Shared.outstanding at member ⊢
  rw [turns.completions] at member
  rcases List.mem_append.mp member with completed | unfinished
  · exact .inl (List.mem_append_left _ completed)
  · by_cases pending : outcome.1 = .pending
    · obtain ⟨last, front, request, jobs, generation, asked, behind, -⟩ := turns.behind pending
      rw [jobs] at unfinished
      rcases List.mem_append.mp unfinished with old | new
      · exact .inl (List.mem_append_right _ old)
      · rw [List.mem_singleton.mp new]
        exact .inr ⟨generation, front, request, asked, behind⟩
    · rw [turns.jobs pending] at unfinished
      exact .inl (List.mem_append_right _ unfinished)

end Session

namespace Reactor

/-- Whether a job is outstanding on a descriptor that is open. -/
def mark (reactor : Reactor) (fd : Int) : Option Bool :=
  (reactor.connectionStates.lookup fd).map ConnectionState.redisPending

theorem mark_slots (reactor : Reactor) (fd : Int) :
    reactor.mark fd = (slots reactor.connectionStates fd).map Prod.snd := by
  unfold mark slots
  cases reactor.connectionStates.lookup fd with
  | none => rfl
  | some state => rfl

theorem Quiet.mark {before after : Reactor} (quiet : Quiet before after) {fd : Int}
    {pending : Bool} (found : after.mark fd = some pending) : before.mark fd = some pending := by
  rw [mark_slots] at found ⊢
  obtain ⟨slot, here, same⟩ := Option.map_eq_some_iff.mp found
  rw [quiet.slots fd slot here]
  exact congrArg some same

theorem remove_connection_mark {reactor : Reactor} {fd other : Int} {pending : Bool}
    (open_ : (reactor.connections.lookup fd).isSome = true)
    (found : (reactor.removeConnection fd).mark other = some pending) :
    other ≠ fd ∧ reactor.mark other = some pending := by
  unfold removeConnection at found
  obtain ⟨connection, here⟩ := Option.isSome_iff_exists.mp open_
  rw [here] at found
  unfold mark at found ⊢
  dsimp only at found
  by_cases same : other = fd
  · rw [same, AList.lookup_erase] at found
    cases found
  · rw [AList.lookup_erase_ne same] at found
    exact ⟨same, found⟩

theorem put_open (reactor : Reactor) (session : Session) :
    ((reactor.put session).connections.lookup session.fd).isSome = true := by
  unfold put
  rw [AList.lookup_insert]
  rfl

theorem accept_client_mark (reactor : Reactor) (fd other : Int) :
    (reactor.acceptClient fd).mark other = if other = fd then some false else reactor.mark other := by
  unfold mark acceptClient
  split_ifs with same
  · subst same
    rw [AList.lookup_insert]
    rfl
  · rw [AList.lookup_insert_ne same]

theorem handle_accept_mark (answers : List AcceptAnswer) (reactor : Reactor) {fd : Int}
    {pending : Bool} (found : (reactor.handleAccept answers).mark fd = some pending) :
    (fd ∈ acceptedFds answers → pending = false) ∧
      (fd ∉ acceptedFds answers → reactor.mark fd = some pending) := by
  induction answers generalizing reactor with
  | nil =>
      refine ⟨?_, fun _ => found⟩
      intro member
      cases member
  | cons answer answers ih =>
      cases answer with
      | interrupted => exact ih reactor found
      | client client nonBlocking noDelay added =>
          unfold handleAccept at found
          unfold acceptedFds
          split_ifs at found ⊢
          · exact ih reactor found
          · exact ih reactor found
          · exact ih reactor found
          · have rest := ih _ found
            rw [accept_client_mark] at rest
            by_cases later : fd ∈ acceptedFds answers
            · refine ⟨fun _ => rest.1 later, ?_⟩
              intro absent
              exact absurd (List.mem_cons_of_mem _ later) absent
            · have here := rest.2 later
              by_cases same : fd = client
              · rw [if_pos same] at here
                refine ⟨fun _ => (Option.some.inj here).symm, ?_⟩
                intro absent
                exact absurd (same ▸ List.mem_cons_self) absent
              · rw [if_neg same] at here
                refine ⟨?_, fun _ => here⟩
                intro member
                rcases List.mem_cons.mp member with equal | inside
                · exact absurd equal same
                · exact absurd inside later

variable (handle : Nat → HttpRequest → HandleResult) (published : Nat → HttpResponse → Prop)

/-- Descriptors may have been closed, and callbacks may be gone. -/
structure Narrows (before after : Reactor) : Prop where
  slots : ∀ fd slot, slots after.connectionStates fd = some slot →
    slots before.connectionStates fd = some slot
  outstanding : ∀ callback ∈ after.shared.outstanding, callback ∈ before.shared.outstanding

theorem Quiet.narrows {before after : Reactor} (quiet : Quiet before after) :
    Narrows before after where
  slots := quiet.slots
  outstanding := by
    intro callback member
    unfold Shared.outstanding at member ⊢
    rwa [quiet.jobs, quiet.completions] at member

theorem disconnect_narrows (reactor : Reactor) (fd : Int) (connection : Connection) :
    Narrows reactor (reactor.disconnect fd connection) := by
  unfold disconnect
  cases reactor.connectionStates.lookup fd with
  | none => exact (remove_connection_quiet reactor fd).narrows
  | some state =>
      have removed := (remove_connection_quiet { reactor with
        shared := reactor.shared.endStream fd state.generation connection.outputQueue } fd).narrows
      exact ⟨removed.slots, removed.outstanding⟩

theorem finish_job_narrows (reactor : Reactor) (job : Nat) (response : Option HttpResponse) :
    Narrows reactor (reactor.finishJob job response) := by
  unfold finishJob
  cases found : reactor.shared.jobs[job]? with
  | none => exact (Quiet.refl reactor).narrows
  | some callback =>
      refine ⟨fun fd slot here => here, ?_⟩
      intro other member
      unfold Shared.outstanding at member ⊢
      dsimp only at member
      rw [List.map_append, List.append_assoc] at member
      rcases List.mem_append.mp member with completed | rest
      · exact List.mem_append_left _ completed
      · apply List.mem_append_right
        rcases List.mem_append.mp rest with published | left
        · cases response with
          | none => cases published
          | some response =>
              rw [List.mem_singleton.mp published]
              exact List.mem_of_getElem? found
        · exact List.mem_of_mem_eraseIdx left

/-- Whose turn it is on an open connection: no request waits, or the last does, for its own
job. -/
def Turn (outstanding : List Callback) (inbound : Inbound) (outbound : Outbound)
    (slot : Nat × Bool) : Prop :=
  (slot.2 = false → AllReplied handle published inbound.requests outbound.replies) ∧
    (slot.2 = true → ∃ front serial request, inbound.requests = front ++ [(serial, request)] ∧
      AllReplied handle published front outbound.replies ∧
        ∀ callback ∈ outstanding, callback.generation = slot.1 →
          callback.serial = serial ∧ AskedFor handle request callback)

/-- On every descriptor the responses follow the requests. -/
def Follows (heard : Int → Inbound) (said : Int → Outbound) (reactor : Reactor) : Prop :=
  ∀ fd, Replied handle published (heard fd).requests (said fd).replies ∧
    ∀ slot, slots reactor.connectionStates fd = some slot →
      Turn handle published reactor.shared.outstanding (heard fd) (said fd) slot

/-- The workers have published what they may. -/
def Publishes (reactor : Reactor) : Prop :=
  ∀ completion ∈ reactor.shared.completions, published completion.1.serial completion.2

/-- A worker publishes only what it may for its job. -/
def MayPublish (reactor : Reactor) : Input → Prop
  | .worker job (some response) =>
      ∀ callback ∈ reactor.shared.jobs[job]?, published callback.serial response
  | _ => True

instance [∀ serial response, Decidable (published serial response)] (reactor : Reactor)
    (input : Input) : Decidable (reactor.MayPublish published input) :=
  match input with
  | .worker job (some response) =>
      inferInstanceAs (Decidable
        (∀ callback ∈ reactor.shared.jobs[job]?, published callback.serial response))
  | .worker _ none => isTrue trivial
  | .accept _ => isTrue trivial
  | .timer _ => isTrue trivial
  | .completions _ => isTrue trivial
  | .client _ _ _ => isTrue trivial

section Publishes

variable {published} {reactor : Reactor}

theorem MayPublish.imp {others : Nat → HttpResponse → Prop} {input : Input}
    (may : reactor.MayPublish published input)
    (also : ∀ serial response, published serial response → others serial response) :
    reactor.MayPublish others input := by
  cases input with
  | accept answers => trivial
  | timer expired => trivial
  | completions answers => trivial
  | client fd events answers => trivial
  | worker job response =>
      cases response with
      | none => trivial
      | some response =>
          intro callback member
          exact also callback.serial response (may callback member)

theorem Publishes.same {after : Reactor} (publishes : reactor.Publishes published)
    (same : after.shared.completions = reactor.shared.completions) :
    after.Publishes published := by
  intro completion member
  rw [same] at member
  exact publishes completion member

theorem disconnect_completions (reactor : Reactor) (fd : Int) (connection : Connection) :
    (reactor.disconnect fd connection).shared.completions = reactor.shared.completions := by
  unfold disconnect
  cases reactor.connectionStates.lookup fd with
  | none => exact (remove_connection_quiet reactor fd).completions
  | some state =>
      exact (remove_connection_quiet { reactor with
        shared := reactor.shared.endStream fd state.generation connection.outputQueue }
        fd).completions

theorem handle_client_completions (reactor : Reactor) (fd : Int) (answers : ClientAnswers) :
    (reactor.handleClient handle fd answers).shared.completions =
      reactor.shared.completions := by
  unfold handleClient
  cases reactor.connections.lookup fd with
  | none => rfl
  | some connection =>
      cases reactor.connectionStates.lookup fd with
      | none => exact (remove_connection_quiet reactor fd).completions
      | some state =>
          dsimp only
          by_cases waits : state.redisPending
          · rw [if_pos waits]
          · rw [if_neg waits]
            have turns : Session.Turns handle (fun _ _ => True) _ _ _ _ :=
              Session.read_loop_turns answers.openFile (answers.recvs.length + 1) answers.recvs
                ⟨fd, connection, state, reactor.shared⟩
            have same := turns.completions
            generalize Session.readLoop handle answers.openFile (answers.recvs.length + 1)
              answers.recvs ⟨fd, connection, state, reactor.shared⟩ = outcome at same ⊢
            obtain ⟨served, session⟩ := outcome
            dsimp only at same ⊢
            cases served with
            | failed => exact (remove_connection_quiet _ fd).completions.trans same
            | pending => exact (update_events_quiet _ fd _ _).completions.trans same
            | waiting =>
                dsimp only
                split_ifs
                · exact (handle_write_quiet _ fd _).completions.trans same
                · exact same
            | closing =>
                dsimp only
                split_ifs
                · exact (handle_write_quiet _ fd _).completions.trans same
                · exact same

theorem complete_async_response_completions (reactor : Reactor) (callback : Callback)
    (response : HttpResponse) (answers : WriteAnswers) :
    (reactor.completeAsyncResponse callback response answers).shared.completions =
      reactor.shared.completions := by
  cases queued : reactor.completionQueued callback response with
  | false =>
      rcases unqueued_completes answers queued with same | ⟨session, -, shared, gone⟩
      · rw [same]
      · rw [gone]
        refine (remove_connection_quiet (reactor.put session) callback.fd).completions.trans ?_
        unfold put
        rw [shared]
        rfl
  | true =>
      obtain ⟨connection, state, -, -, -, -, -, completes⟩ := queued_completes answers queued
      rw [completes]
      exact (handle_write_quiet _ callback.fd answers).completions

theorem pop_completion_publishes (publishes : reactor.Publishes published)
    (answers : WriteAnswers) : (reactor.popCompletion answers).Publishes published := by
  unfold popCompletion
  cases waiting : reactor.shared.completions with
  | nil => exact publishes
  | cons entry completions =>
      obtain ⟨callback, response⟩ := entry
      intro completion member
      rw [complete_async_response_completions] at member
      exact publishes completion (waiting ▸ List.mem_cons_of_mem _ member)

theorem step_publishes (publishes : reactor.Publishes published) (input : Input)
    (may : reactor.MayPublish published input) :
    (reactor.step handle input).Publishes published := by
  cases input with
  | accept answers =>
      refine handle_accept_invariant ?_ answers publishes
      exact fun _ _ publishes => publishes
  | timer expired =>
      refine handle_timer_invariant ?_ expired publishes
      intro reactor fd publishes
      exact publishes.same (remove_connection_quiet reactor fd).completions
  | completions answers =>
      refine drain_completions_invariant ?_ _ answers publishes
      intro reactor answers publishes
      exact pop_completion_publishes publishes answers
  | client fd events answers =>
      apply handle_client_event_invariant handle fd events answers
      · exact fun _ publishes => publishes
      · intro reactor publishes
        exact publishes.same (remove_connection_quiet reactor fd).completions
      · intro reactor publishes
        exact publishes.same (handle_client_completions handle reactor fd answers)
      · intro reactor publishes
        exact publishes.same (handle_write_quiet reactor fd answers.write).completions
      · intro reactor connection publishes
        exact publishes.same (disconnect_completions reactor fd connection)
      · exact publishes
  | worker job response =>
      change (reactor.finishJob job response).Publishes published
      unfold finishJob
      cases found : reactor.shared.jobs[job]? with
      | none => exact publishes
      | some callback =>
          intro completion member
          rcases List.mem_append.mp member with old | new
          · exact publishes completion old
          · cases response with
            | none => cases new
            | some response =>
                rw [List.mem_singleton.mp new]
                exact may callback found

end Publishes

section Follows

variable {handle published} {heard : Int → Inbound} {said : Int → Outbound}
  {reactor after : Reactor}

theorem Turn.fewer {outstanding others : List Callback} {inbound : Inbound}
    {outbound : Outbound} {slot : Nat × Bool}
    (turn : Turn handle published outstanding inbound outbound slot)
    (subset : ∀ callback ∈ others, callback.generation = slot.1 → callback ∈ outstanding) :
    Turn handle published others inbound outbound slot := by
  refine ⟨turn.1, ?_⟩
  intro waits
  obtain ⟨front, serial, request, behind, before, own⟩ := turn.2 waits
  refine ⟨front, serial, request, behind, before, ?_⟩
  intro callback member same
  exact own callback (subset callback member same) same

/-- Whose turn it is when the loops have left a connection on which nothing waited. -/
theorem Turn.after_loops {session : Session} {requests : List (Nat × HttpRequest)}
    {replies : List Reply} {outcome : Served × Session} {inbound : Inbound} {outbound : Outbound}
    (turns : Session.Turns handle published session requests replies outcome)
    (all : AllReplied handle published inbound.requests outbound.replies)
    (free : ∀ callback ∈ session.shared.outstanding,
      callback.generation ≠ session.state.generation)
    (flag : outcome.2.state.redisPending = decide (outcome.1 = .pending))
    (goesOn : outcome.1 ≠ .failed) (received : Bytes) (sent : List Sent) :
    Turn handle published outcome.2.shared.outstanding (inbound.append ⟨received, requests⟩)
      (outbound.append ⟨replies, sent⟩)
      (outcome.2.state.generation, outcome.2.state.redisPending) := by
  unfold Turn Outbound.append Inbound.append
  dsimp only
  rw [flag]
  constructor
  · intro answered
    exact all.append (turns.answered (of_decide_eq_false answered) goesOn)
  · intro waits
    obtain ⟨last, front, request, -, -, -, behind, before⟩ :=
      turns.behind (of_decide_eq_true waits)
    refine ⟨inbound.requests ++ front, last.serial, request, ?_, all.append before, ?_⟩
    · rw [behind, List.append_assoc]
    · intro callback member same
      rcases turns.outstanding callback member with old | ⟨-, other, again, asked, split⟩
      · exact absurd (same.trans turns.generation) (free callback old)
      · rw [behind] at split
        obtain ⟨-, last⟩ := List.append_inj' split rfl
        obtain ⟨serial, request⟩ := Prod.mk.inj (List.singleton_inj.mp last)
        exact ⟨serial.symm, request ▸ asked⟩

theorem Follows.narrows (follows : reactor.Follows handle published heard said)
    (narrows : Narrows reactor after) : after.Follows handle published heard said := by
  intro fd
  refine ⟨(follows fd).1, ?_⟩
  intro slot here
  exact ((follows fd).2 slot (narrows.slots fd slot here)).fewer
    fun callback member _ => narrows.outstanding callback member

theorem Follows.congr {heard' : Int → Inbound} {said' : Int → Outbound}
    (follows : reactor.Follows handle published heard said)
    (sameHeard : ∀ fd, heard' fd = heard fd) (sameSaid : ∀ fd, said' fd = said fd) :
    reactor.Follows handle published heard' said' := by
  rwa [show heard' = heard from funext sameHeard, show said' = said from funext sameSaid]

theorem Follows.nothing (follows : reactor.Follows handle published heard said) (fd : Int) :
    reactor.Follows handle published
      (fun other => if other = fd then (heard fd).append {} else heard other)
      (fun other => if other = fd then (said fd).append {} else said other) := by
  apply follows.congr
  · intro other
    split_ifs with same
    · rw [Inbound.append_nothing, same]
    · rfl
  · intro other
    split_ifs with same
    · rw [Outbound.append_nothing, same]
    · rfl

theorem put_slots (reactor : Reactor) (session : Session) (fd : Int) :
    slots (reactor.put session).connectionStates fd =
      if fd = session.fd then some (session.state.generation, session.state.redisPending)
      else slots reactor.connectionStates fd := by
  unfold put
  dsimp only
  rw [slots_insert]
  split_ifs with same
  · rw [same, Function.update_self]
  · exact Function.update_of_ne same _ _

theorem handle_client_follows (follows : reactor.Follows handle published heard said)
    (keeps : reactor.Keeps) (fd : Int) (answers : ClientAnswers) :
    (reactor.handleClient handle fd answers).Follows handle published
      (fun other => if other = fd then
        (heard fd).append (reactor.clientInbound handle fd answers) else heard other)
      (fun other => if other = fd then
        (said fd).append (reactor.clientOutbound handle fd answers) else said other) := by
  unfold clientInbound clientOutbound handleClient
  cases found : reactor.connections.lookup fd with
  | none => exact follows.nothing fd
  | some connection =>
      cases foundState : reactor.connectionStates.lookup fd with
      | none => exact (follows.nothing fd).narrows (remove_connection_quiet reactor fd).narrows
      | some state =>
          dsimp only
          by_cases waits : state.redisPending
          · rw [if_pos waits, if_pos waits, if_pos waits]
            exact follows.nothing fd
          · rw [if_neg waits, if_neg waits, if_neg waits]
            have idle : state.redisPending = false := Bool.eq_false_iff.mpr waits
            have slot : slots reactor.connectionStates fd = some (state.generation, false) := by
              unfold slots
              rw [foundState, Option.map_some, idle]
            have all := ((follows fd).2 _ slot).1 rfl
            have turns : Session.Turns handle published _ _ _ _ :=
              Session.read_loop_turns answers.openFile (answers.recvs.length + 1) answers.recvs
                ⟨fd, connection, state, reactor.shared⟩
            have fetched := Session.read_loop_fetched handle answers.openFile
              (answers.recvs.length + 1) answers.recvs
              (show (Session.mk fd connection state reactor.shared).state.redisPending = false
                from idle)
            generalize Session.readLoopInbound handle answers.openFile
              (answers.recvs.length + 1) answers.recvs
              ⟨fd, connection, state, reactor.shared⟩ = inbound at turns ⊢
            generalize Session.readLoopReplies handle answers.openFile
              (answers.recvs.length + 1) answers.recvs
              ⟨fd, connection, state, reactor.shared⟩ = replies at turns ⊢
            generalize Session.readLoop handle answers.openFile (answers.recvs.length + 1)
              answers.recvs ⟨fd, connection, state, reactor.shared⟩ = outcome at turns fetched ⊢
            obtain ⟨served, session⟩ := outcome
            obtain ⟨sameFd, fetches⟩ := fetched
            dsimp only at sameFd fetches ⊢
            have order : ∀ sent, Replied handle published
                ((heard fd).append inbound).requests
                ((said fd).append ⟨replies, sent⟩).replies := by
              intro sent
              exact all.andThen turns.order
            have others : ∀ other, other ≠ fd → ∀ slot,
                slots reactor.connectionStates other = some slot →
                Turn handle published session.shared.outstanding (heard other) (said other)
                  slot := by
              intro other differs slot' here
              apply ((follows other).2 slot' here).fewer
              intro callback member same
              rcases turns.outstanding callback member with old | ⟨generation, -⟩
              · exact old
              · obtain ⟨other_generation, pending⟩ := slot'
                have twice : other_generation = state.generation := same.symm.trans generation
                subst twice
                exact absurd (keeps.distinct other fd _ _ _ here slot) differs
            have free : ∀ callback ∈ reactor.shared.outstanding,
                callback.generation ≠ state.generation := by
              intro callback member same
              exact absurd (keeps.marked fd _ _ slot callback member same) Bool.false_ne_true
            have stored : ∀ sent, served ≠ .failed → (reactor.put session).Follows handle published
                (fun other => if other = fd then (heard fd).append inbound else heard other)
                (fun other => if other = fd then (said fd).append ⟨replies, sent⟩
                  else said other) := by
              intro sent goesOn other
              dsimp only
              rw [put_slots, sameFd]
              by_cases same : other = fd
              · rw [if_pos same, if_pos same, if_pos same]
                refine ⟨order sent, ?_⟩
                intro slot' here
                rw [← Option.some.inj here]
                exact Turn.after_loops turns all free (fetches goesOn).2 goesOn _ sent
              · rw [if_neg same, if_neg same, if_neg same]
                exact ⟨(follows other).1, others other same⟩
            cases served with
            | failed =>
                have isOpen := reactor.put_open session
                rw [sameFd] at isOpen
                intro other
                dsimp only
                by_cases same : other = fd
                · rw [if_pos same, if_pos same]
                  refine ⟨order [], ?_⟩
                  intro slot' here
                  have marked : ((reactor.put session).removeConnection fd).mark other =
                      some slot'.2 := by
                    rw [mark_slots, here]
                    rfl
                  exact absurd same (remove_connection_mark isOpen marked).1
                · rw [if_neg same, if_neg same]
                  refine ⟨(follows other).1, ?_⟩
                  intro slot' here
                  have narrows := (remove_connection_quiet (reactor.put session) fd).narrows
                  have before := narrows.slots other slot' here
                  rw [put_slots, sameFd, if_neg same] at before
                  exact (others other same slot' before).fewer
                    fun callback member _ => narrows.outstanding callback member
            | pending =>
                exact (stored _ (by decide)).narrows (update_events_quiet _ fd _ _).narrows
            | waiting =>
                dsimp only
                split_ifs
                · exact (stored _ (by decide)).narrows (handle_write_quiet _ fd _).narrows
                · exact stored _ (by decide)
            | closing =>
                dsimp only
                split_ifs
                · exact (stored _ (by decide)).narrows (handle_write_quiet _ fd _).narrows
                · exact stored _ (by decide)

theorem queued_bare {callback : Callback} {response : HttpResponse}
    (queued : reactor.completionQueued callback response = true) :
    Session.sendsFile (if callback.closeAfterWrite then
      response.setConnection (ascii "close") else response) = false := by
  unfold completionQueued at queued
  cases here : reactor.connections.lookup callback.fd with
  | none =>
      rw [here] at queued
      cases queued
  | some connection =>
      cases hereState : reactor.connectionStates.lookup callback.fd with
      | none =>
          rw [here, hereState] at queued
          cases queued
      | some state =>
          rw [here, hereState] at queued
          simp only [Bool.and_eq_true, Bool.not_eq_true'] at queued
          unfold Session.sendsFile
          rw [queued.1.2]
          rfl

theorem complete_async_response_follows (follows : reactor.Follows handle published heard said)
    (callback : Callback) (response : HttpResponse) (answers : WriteAnswers)
    (byWorker : published callback.serial response)
    (own : slots reactor.connectionStates callback.fd = some (callback.generation, true) →
      ∃ front request, (heard callback.fd).requests = front ++ [(callback.serial, request)] ∧
        AllReplied handle published front (said callback.fd).replies ∧
        AskedFor handle request callback) :
    (reactor.completeAsyncResponse callback response answers).Follows handle published heard
      fun other =>
        if other = callback.fd then
          (said callback.fd).append (reactor.completionOutbound callback response answers)
        else said other := by
  unfold completionOutbound
  cases queued : reactor.completionQueued callback response with
  | false =>
      have narrows : Narrows reactor
          (reactor.completeAsyncResponse callback response answers) := by
        rcases unqueued_completes answers queued with same | ⟨session, sameFd, shared, gone⟩
        · rw [same]
          exact (Quiet.refl reactor).narrows
        · rw [gone]
          have removed := (remove_connection_quiet (reactor.put session) callback.fd).narrows
          constructor
          · intro other slot here
            have before := removed.slots other slot here
            rw [put_slots, sameFd] at before
            by_cases same : other = callback.fd
            · have isOpen := reactor.put_open session
              rw [sameFd] at isOpen
              have marked : ((reactor.put session).removeConnection callback.fd).mark other =
                  some slot.2 := by
                rw [mark_slots, here]
                rfl
              exact absurd same (remove_connection_mark isOpen marked).1
            · rwa [if_neg same] at before
          · intro other member
            have before := removed.outstanding other member
            unfold put at before
            rw [shared] at before
            exact before
      have silent := follows.narrows narrows
      apply (silent.nothing callback.fd).congr
      · intro other
        split_ifs with same
        · rw [Inbound.append_nothing, same]
        · rfl
      · intro other
        cases reactor.connections.lookup callback.fd with
        | none => rfl
        | some connection => rfl
  | true =>
      obtain ⟨connection, state, found, foundState, current, pending, -, completes⟩ :=
        queued_completes answers queued
      rw [found, completes]
      dsimp only
      rw [if_pos rfl]
      have slot : slots reactor.connectionStates callback.fd =
          some (callback.generation, true) := by
        unfold slots
        rw [foundState, Option.map_some, current, pending]
      have written := (handle_write_quiet (reactor.put ⟨callback.fd,
        (Connection.queueResponse (if callback.closeAfterWrite then
          connection.setCloseAfterWrite true else connection)
          (if callback.closeAfterWrite then response.setConnection (ascii "close")
            else response).serialize).2, state.answered reactor.shared.clock,
        reactor.shared.respond callback.serial callback.fd state.generation⟩) callback.fd
        answers).narrows
      intro other
      dsimp only
      by_cases same : other = callback.fd
      · rw [if_pos same, same]
        obtain ⟨front, request, behind, before, asked⟩ := own slot
        have bare := queued_bare queued
        have all : AllReplied handle published (heard callback.fd).requests
            ((said callback.fd).replies ++ [⟨callback.serial, if callback.closeAfterWrite then
              response.setConnection (ascii "close") else response, none⟩]) := by
          rw [behind]
          rw [asked.closes] at bare ⊢
          exact before.append (.cons ⟨.later asked.pending byWorker, bare.symm⟩ .nil)
        unfold Outbound.append
        dsimp only
        refine ⟨all.replied, ?_⟩
        intro slot' here
        have after := written.slots callback.fd slot' here
        rw [put_slots, if_pos rfl, Option.some.injEq] at after
        rw [← after]
        constructor
        · exact fun _ => all
        · intro waits
          exact absurd waits Bool.false_ne_true
      · rw [if_neg same]
        refine ⟨(follows other).1, ?_⟩
        intro slot' here
        have after := written.slots other slot' here
        rw [put_slots, if_neg same] at after
        exact ((follows other).2 slot' after).fewer
          fun callback member _ => written.outstanding callback member

theorem drain_follows (rounds : Nat) (answers : List WriteAnswers)
    (follows : reactor.Follows handle published heard said)
    (publishes : reactor.Publishes published) :
    (drainCompletions rounds answers reactor).Follows handle published heard fun fd =>
      (said fd).append (drainOutbound rounds answers reactor fd) := by
  induction rounds generalizing answers reactor said with
  | zero =>
      apply follows.congr
      · exact fun _ => rfl
      · intro fd
        exact Outbound.append_nothing _
  | succ rounds ih =>
      unfold drainCompletions drainOutbound popCompletion
      cases waiting : reactor.shared.completions with
      | nil => exact ih answers.tail follows publishes
      | cons entry completions =>
          obtain ⟨callback, response⟩ := entry
          dsimp only
          have popped : Follows handle published heard said { reactor with
              shared := { reactor.shared with completions := completions } } := by
            apply follows.narrows
            refine ⟨fun fd slot here => here, ?_⟩
            intro other member
            unfold Shared.outstanding at member ⊢
            rw [waiting]
            exact List.mem_cons_of_mem _ member
          have byWorker : published callback.serial response :=
            publishes (callback, response) (waiting ▸ List.mem_cons_self)
          have own : slots reactor.connectionStates callback.fd =
              some (callback.generation, true) →
              ∃ front request,
                (heard callback.fd).requests = front ++ [(callback.serial, request)] ∧
                AllReplied handle published front (said callback.fd).replies ∧
                AskedFor handle request callback := by
            intro slot
            obtain ⟨front, serial, request, behind, before, mine⟩ :=
              ((follows callback.fd).2 _ slot).2 rfl
            have known : callback ∈ reactor.shared.outstanding := by
              unfold Shared.outstanding
              rw [waiting]
              exact List.mem_append_left _ List.mem_cons_self
            obtain ⟨same, asked⟩ := mine callback known rfl
            exact ⟨front, request, same ▸ behind, before, asked⟩
          have completed := complete_async_response_follows popped callback response
            (answers.headD {}) byWorker own
          have still : Publishes published (completeAsyncResponse { reactor with
              shared := { reactor.shared with completions := completions } } callback response
              (answers.headD {})) := by
            intro completion member
            rw [complete_async_response_completions] at member
            exact publishes completion (waiting ▸ List.mem_cons_of_mem _ member)
          apply (ih answers.tail completed still).congr
          · exact fun _ => rfl
          · intro fd
            by_cases same : callback.fd = fd
            · rw [if_pos same, if_pos same.symm, Outbound.append_assoc, same]
              rfl
            · rw [if_neg same, if_neg (Ne.symm same)]

theorem handle_client_event_follows (follows : reactor.Follows handle published heard said)
    (keeps : reactor.Keeps) (fd : Int) (events : EventMask) (answers : ClientAnswers) :
    (reactor.handleClientEvent handle fd events answers).Follows handle published
      (fun other => (heard other).append
        (reactor.inbound handle (.client fd events answers) other))
      (fun other => (said other).append
        (reactor.outbound handle (.client fd events answers) other)) := by
  obtain ⟨input, output, readHangup, error, hangup⟩ := events
  have ended : ∀ {after : Reactor}, (error = true ∨ hangup = true) →
      after.Follows handle published heard said → after.Follows handle published
        (fun other => (heard other).append (reactor.inbound handle
          (.client fd ⟨input, output, readHangup, error, hangup⟩ answers) other))
        (fun other => (said other).append (reactor.outbound handle
          (.client fd ⟨input, output, readHangup, error, hangup⟩ answers) other)) := by
    intro after unspoken still
    apply still.congr
    · intro other
      have unread : error = true ∨ hangup = true ∨ ¬ input = true := by
        rcases unspoken with failed | hung
        · exact .inl failed
        · exact .inr (.inl hung)
      unfold inbound
      dsimp only
      rw [if_pos (Or.inr unread), Inbound.append_nothing]
    · intro other
      unfold outbound
      dsimp only
      rw [if_pos (Or.inr unspoken), Outbound.append_nothing]
  unfold handleClientEvent
  dsimp only
  by_cases failed : error = true
  · rw [if_pos failed]
    have unchanged : Follows handle published heard said { reactor with
        shared := reactor.shared.incrementErrors } := follows
    exact ended (.inl failed) (unchanged.narrows (remove_connection_quiet _ fd).narrows)
  · rw [if_neg failed]
    by_cases hung : hangup = true
    · rw [if_pos hung]
      exact ended (.inr hung) (follows.narrows (remove_connection_quiet _ fd).narrows)
    · rw [if_neg hung]
      have read : (if input = true then reactor.handleClient handle fd answers
          else reactor).Follows handle published
          (fun other => if other = fd then (heard fd).append
            (if input = true then reactor.clientInbound handle fd answers else {})
            else heard other)
          (fun other => if other = fd then (said fd).append
            (if input = true then reactor.clientOutbound handle fd answers else {})
            else said other) := by
        by_cases reads : input = true
        · rw [if_pos reads, if_pos reads, if_pos reads]
          exact handle_client_follows follows keeps fd answers
        · rw [if_neg reads, if_neg reads, if_neg reads]
          exact follows.nothing fd
      have spoken : ∀ {after : Reactor} {sent : List Sent},
          after.Follows handle published
            (fun other => if other = fd then (heard fd).append
              (if input = true then reactor.clientInbound handle fd answers else {})
              else heard other)
            (fun other => if other = fd then (said fd).append
              (if input = true then reactor.clientOutbound handle fd answers else {})
              else said other) →
          after.Follows handle published
            (fun other => if other = fd then (heard fd).append
              (if input = true then reactor.clientInbound handle fd answers else {})
              else heard other)
            (fun other => if other = fd then (said fd).append
              ((if input = true then reactor.clientOutbound handle fd answers else {}).append
                ⟨[], sent⟩)
              else said other) := by
        intro after sent still other
        have here := still other
        dsimp only at here ⊢
        by_cases same : other = fd
        · rw [if_pos same] at here ⊢
          rw [if_pos same] at here ⊢
          unfold Turn Outbound.append at here ⊢
          simpa only [List.append_nil] using here
        · rw [if_neg same] at here ⊢
          rw [if_neg same] at here ⊢
          exact here
      have now : ∀ {after : Reactor}, Narrows (if input = true then
          reactor.handleClient handle fd answers else reactor) after →
          after.Follows handle published
          (fun other => (heard other).append (reactor.inbound handle
            (.client fd ⟨input, output, readHangup, error, hangup⟩ answers) other))
          (fun other => (said other).append (reactor.outbound handle
            (.client fd ⟨input, output, readHangup, error, hangup⟩ answers) other)) := by
        intro after narrows
        apply (spoken (read.narrows narrows)).congr
        · intro other
          unfold inbound
          dsimp only
          by_cases same : other = fd
          · rw [if_pos same, same]
            by_cases reads : input = true
            · rw [if_pos reads, if_neg (by simp [failed, hung, reads])]
            · rw [if_neg reads, if_pos (by simp [reads])]
          · rw [if_neg same, if_pos (Or.inl same), Inbound.append_nothing]
        · intro other
          unfold outbound
          dsimp only
          by_cases same : other = fd
          · rw [if_pos same, if_neg (by simp [same, failed, hung]), same]
          · rw [if_neg same, if_pos (Or.inl same), Outbound.append_nothing]
      apply now
      generalize (if input = true then reactor.handleClient handle fd answers else reactor) =
        reading
      have written : Narrows reading
          (if output = true then reading.handleWrite fd answers.write else reading) := by
        split_ifs
        · exact (handle_write_quiet reading fd _).narrows
        · exact (Quiet.refl reading).narrows
      generalize (if output = true then reading.handleWrite fd answers.write else reading) =
        writing at written ⊢
      split_ifs
      · apply handle_read_hangup_invariant fd _ written
        intro connection _ _
        have left := disconnect_narrows writing fd connection
        exact ⟨fun fd slot here => written.slots fd slot (left.slots fd slot here),
          fun callback member => written.outstanding callback (left.outstanding callback member)⟩
      · exact written

theorem handle_accept_slots (answers : List AcceptAnswer) (reactor : Reactor) {fd : Int}
    (absent : fd ∉ acceptedFds answers) :
    slots (reactor.handleAccept answers).connectionStates fd =
      slots reactor.connectionStates fd := by
  induction answers generalizing reactor with
  | nil => rfl
  | cons answer answers ih =>
      cases answer with
      | interrupted => exact ih reactor absent
      | client client nonBlocking noDelay added =>
          unfold handleAccept
          unfold acceptedFds at absent
          by_cases refused : (!nonBlocking) = true
          · rw [if_pos refused] at absent ⊢
            exact ih reactor absent
          rw [if_neg refused] at absent ⊢
          by_cases slow : (!noDelay) = true
          · rw [if_pos slow] at absent ⊢
            exact ih reactor absent
          rw [if_neg slow] at absent ⊢
          by_cases unwatched : (!added) = true
          · rw [if_pos unwatched] at absent ⊢
            exact ih reactor absent
          rw [if_neg unwatched] at absent ⊢
          obtain ⟨differs, later⟩ := not_or.mp (mt List.mem_cons.mpr absent)
          rw [ih _ later]
          unfold acceptClient
          dsimp only
          rw [slots_insert, Function.update_of_ne differs]

theorem handle_accept_follows (follows : reactor.Follows handle published heard said)
    (answers : List AcceptAnswer) :
    (reactor.handleAccept answers).Follows handle published
      (fun fd => if fd ∈ acceptedFds answers then {} else heard fd)
      (fun fd => if fd ∈ acceptedFds answers then {} else said fd) := by
  have outstanding : (reactor.handleAccept answers).shared.outstanding =
      reactor.shared.outstanding := by
    refine @handle_accept_invariant (fun other =>
      other.shared.outstanding = reactor.shared.outstanding) ?_ answers reactor rfl
    intro other fd same
    exact same
  intro fd
  dsimp only
  rw [outstanding]
  by_cases accepted : fd ∈ acceptedFds answers
  · rw [if_pos accepted, if_pos accepted]
    refine ⟨.nothing [], ?_⟩
    intro slot here
    have marked : (reactor.handleAccept answers).mark fd = some slot.2 := by
      rw [mark_slots, here]
      rfl
    have free := (handle_accept_mark answers reactor marked).1 accepted
    refine ⟨fun _ => .nil, ?_⟩
    intro waits
    rw [free] at waits
    cases waits
  · rw [if_neg accepted, if_neg accepted, handle_accept_slots answers reactor accepted]
    exact follows fd

theorem step_follows (follows : reactor.Follows handle published heard said)
    (keeps : reactor.Keeps) (publishes : reactor.Publishes published) (input : Input) :
    (reactor.step handle input).Follows handle published
      (fun fd => (if fd ∈ input.accepted then {} else heard fd).append
        (reactor.inbound handle input fd))
      (fun fd => (if fd ∈ input.accepted then {} else said fd).append
        (reactor.outbound handle input fd)) := by
  have silent : ∀ {after : Reactor}, after.Follows handle published heard said →
      after.Follows handle published
      (fun fd => (if fd ∈ ([] : List Int) then {} else heard fd).append {})
      (fun fd => (if fd ∈ ([] : List Int) then {} else said fd).append {}) := by
    intro after still
    simpa only [List.not_mem_nil, if_false, Inbound.append_nothing, Outbound.append_nothing]
      using still
  cases input with
  | accept answers =>
      change (reactor.handleAccept answers).Follows handle published
        (fun fd => (if fd ∈ acceptedFds answers then {} else heard fd).append {})
        (fun fd => (if fd ∈ acceptedFds answers then {} else said fd).append {})
      simpa only [Inbound.append_nothing, Outbound.append_nothing] using
        handle_accept_follows follows answers
  | timer expired =>
      apply silent
      apply handle_timer_invariant _ expired follows
      intro reactor fd follows
      exact follows.narrows (remove_connection_quiet reactor fd).narrows
  | completions answers =>
      change (drainCompletions reactor.shared.completions.length answers reactor).Follows handle
        published
        (fun fd => (if fd ∈ ([] : List Int) then {} else heard fd).append {})
        (fun fd => (if fd ∈ ([] : List Int) then {} else said fd).append
          (drainOutbound reactor.shared.completions.length answers reactor fd))
      simpa only [List.not_mem_nil, if_false, Inbound.append_nothing] using
        drain_follows _ answers follows publishes
  | client fd events answers =>
      change (reactor.handleClientEvent handle fd events answers).Follows handle published
        (fun other => (if other ∈ ([] : List Int) then {} else heard other).append
          (reactor.inbound handle (.client fd events answers) other))
        (fun other => (if other ∈ ([] : List Int) then {} else said other).append
          (reactor.outbound handle (.client fd events answers) other))
      simpa only [List.not_mem_nil, if_false] using
        handle_client_event_follows follows keeps fd events answers
  | worker job response =>
      apply silent
      exact follows.narrows (finish_job_narrows reactor job response)

end Follows

end Reactor

namespace TalkingReactor

variable (handle : Nat → HttpRequest → HandleResult) (published : Nat → HttpResponse → Prop)

/-- Throughout a run the workers publish what they may. -/
def MayPublish (id : Int) (inputs : List Reactor.Input) : Prop :=
  Throughout (step handle) (fun talking => talking.reactor.MayPublish published) (start id) inputs

instance [∀ serial response, Decidable (published serial response)] (id : Int)
    (inputs : List Reactor.Input) : Decidable (MayPublish handle published id inputs) :=
  inferInstanceAs (Decidable (Throughout _ _ _ _))

variable {published}

theorem run_follows (id : Int) (inputs : List Reactor.Input)
    (may : MayPublish handle published id inputs) :
    let talking := run (step handle) (start id) inputs
    talking.reactor.Follows handle published talking.heard talking.said := by
  have start : (start id).reactor.Follows handle published (start id).heard (start id).said := by
    intro fd
    refine ⟨.nothing [], ?_⟩
    intro slot here
    cases here
  have nothing : (TalkingReactor.start id).reactor.Publishes published := by
    intro completion member
    cases member
  refine (@run_invariant_throughout _ _ (step handle) (fun talking =>
    talking.reactor.Follows handle published talking.heard talking.said ∧
      talking.reactor.Keeps ∧ talking.reactor.Publishes published) _ ?_ _
    ⟨start, Ledger.start 0, nothing⟩ inputs may).1
  intro talking input holds allowed
  obtain ⟨follows, keeps, publishes⟩ := holds
  exact ⟨Reactor.step_follows follows keeps publishes input,
    Reactor.step_keeps handle talking.reactor input keeps,
    Reactor.step_publishes handle publishes input allowed⟩

theorem run_settled (id : Int) (inputs : List Reactor.Input)
    (may : MayPublish handle published id inputs)
    (never : ∀ input ∈ inputs, .sent 0 ∉ input.sends) {fd : Int} {connection : Connection}
    {state : ConnectionState} :
    let talking := run (step handle) (start id) inputs
    talking.reactor.connections.lookup fd = some connection →
      talking.reactor.connectionStates.lookup fd = some state →
      (talking.said fd).sentBytes ++ connection.unsent = (talking.said fd).announcedBytes ∧
      (state.redisPending = false → AllReplied handle published (talking.heard fd).requests
        (talking.said fd).replies) := by
  intro talking found foundState
  refine ⟨(run_owes handle id inputs never fd).2 connection found, ?_⟩
  intro idle
  have slot : slots talking.reactor.connectionStates fd = some (state.generation, false) := by
    unfold slots
    rw [foundState, Option.map_some, idle]
  exact ((run_follows handle id inputs may fd).2 _ slot).1 rfl

/-- In every run in which no file ends short, the bytes sent on a connection are those of
the responses queued on it, and these are the responses to the first requests dispatched on
it, one for each and in their order: what was answered to the request at once, or what a
worker has published for its job. While it is open, what is not sent is in its queue, and
without an outstanding job every request has its response. -/
theorem responses_answer_the_requests (id : Int) (inputs : List Reactor.Input)
    (may : MayPublish handle published id inputs)
    (never : ∀ input ∈ inputs, .sent 0 ∉ input.sends) (fd : Int) :
    let talking := run (step handle) (start id) inputs
    (talking.said fd).sentBytes <+: (talking.said fd).announcedBytes ∧
    Replied handle published (talking.heard fd).requests (talking.said fd).replies ∧
    ∀ connection, talking.reactor.connections.lookup fd = some connection →
      ∃ state, talking.reactor.connectionStates.lookup fd = some state ∧
        (talking.said fd).sentBytes ++ connection.unsent = (talking.said fd).announcedBytes ∧
        (state.redisPending = false → AllReplied handle published (talking.heard fd).requests
          (talking.said fd).replies) := by
  intro talking
  refine ⟨(run_owes handle id inputs never fd).1, (run_follows handle id inputs may fd).1, ?_⟩
  intro connection found
  have heard := HeardReactor.run_hears handle id inputs
  rw [show HeardReactor.start id = (start id).toHeardReactor from rfl, ← run_heard] at heard
  obtain ⟨state, foundState, -, -⟩ := heard.2 fd connection found
  exact ⟨state, foundState, run_settled handle id inputs may never found foundState⟩

/-- Requests for tasks leave a job behind. -/
def tasksLater (_ : Nat) (request : HttpRequest) : HandleResult :=
  if request.target = ascii "/tasks" then .pending else .completed {}

/-- The only job is answered with an empty list. -/
def noTasks (serial : Nat) (response : HttpResponse) : Prop :=
  serial = 1 ∧ response = { body := ascii "[]" }

instance (serial : Nat) (response : HttpResponse) : Decidable (noTasks serial response) :=
  inferInstanceAs (Decidable (_ ∧ _))

/-- Two requests in one segment; the second is answered by a worker. -/
def helloThenTasks : List Reactor.Input :=
  [.accept [.client 7 true true true],
    .client 7 { input := true } { recvs := [.received
      (ascii "GET /hello HTTP/1.1\r\nHost: a\r\n\r\nGET /tasks HTTP/1.1\r\nHost: a\r\n\r\n")] },
    .worker 0 (some { body := ascii "[]" }),
    .completions [{ sends := [.sent 10, .interrupted, .sent 5] }]]

theorem hello_then_tasks_are_answered :
    let talking := run (step tasksLater) (start 0) helloThenTasks
    (talking.heard 7).requests.map Prod.fst = [0, 1] ∧
      (talking.said 7).sentBytes.length = 15 ∧
      (talking.said 7).sentBytes <+: (talking.said 7).announcedBytes ∧
      Replied tasksLater noTasks (talking.heard 7).requests (talking.said 7).replies := by
  obtain ⟨sent, replied, -⟩ := responses_answer_the_requests tasksLater 0 helloThenTasks
    (show MayPublish tasksLater noTasks 0 helloThenTasks by decide) (by decide) 7
  exact ⟨by decide, by decide, sent, replied⟩

end TalkingReactor

end Aorta.Server
