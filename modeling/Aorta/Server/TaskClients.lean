import Aorta.Server.ReadResponses
import Aorta.Server.TaskOrder

/-!
# The clients of the task service

What one reactor of the service does is a run of that reactor alone, in which the workers
publish what the service has them publish. So the clients of all reactors read answers that
one order of the operations explains.
-/

namespace Aorta.Server

open Aorta.Library.Ascii Aorta.Library.Decoding Aorta.Library.Linearization Aorta.Library.Run
  Aorta.Http Aorta.Net Aorta.Redis Aorta.Tasks
open Aorta.Http.HttpHandler (HeadsNoFile)
open Aorta.Http.ResponseReader (readResponse)

set_option autoImplicit false

namespace Session

variable {handle : Nat → HttpRequest → HandleResult} (openFile : Bytes → Option Int)
  {serial : Nat} {request : HttpRequest}

theorem not_asked (pending : handle serial request = .pending)
    {requests : List (Nat × HttpRequest)} (none : asked handle requests = none) :
    (serial, request) ∉ requests := by
  intro member
  exact List.find?_eq_none.mp none _ member (decide_eq_true pending)

theorem dispatched_is_asked (pending : handle serial request = .pending) (fuel : Nat)
    (session : Session)
    (member : (serial, request) ∈ (session.dispatches handle openFile fuel).map numbered) :
    asked handle ((session.dispatches handle openFile fuel).map numbered) =
      some (serial, request) := by
  refine @serve_rounds handle openFile (fun session others outcome =>
    (serial, request) ∈ others.map numbered →
    asked handle (others.map numbered) = some (serial, request)) ?_ ?_ ?_ ?_ ?_ fuel session member
  · exact fun session member => nomatch member
  · exact fun session connection _ member => nomatch member
  · exact fun session result connection _ _ _ member => nomatch member
  · intro session connection served after _ _ _ member
    have same := List.mem_singleton.mp member
    unfold asked
    rw [List.map_singleton, ← same]
    exact List.find?_cons_of_pos (decide_eq_true pending)
  · intro session connection after others outcome _ dispatched rest member
    have asks := dispatch_asks handle openFile
      (Alongside.refl { session with connection := connection })
    rw [dispatched] at asks
    obtain ⟨answered, -⟩ := asks.goes_on
    rw [List.map_cons, ← List.singleton_append] at member ⊢
    rw [asked_append, answered, Option.none_or]
    exact rest ((List.mem_append.mp member).resolve_left (not_asked pending answered))

/-- At most one request of an event is not answered at once. -/
theorem read_is_asked (pending : handle serial request = .pending) (fuel : Nat)
    (recvs : List RecvResult) (session : Session)
    (member : (serial, request) ∈ (session.readLoopInbound handle openFile fuel recvs).requests) :
    asked handle (session.readLoopInbound handle openFile fuel recvs).requests =
      some (serial, request) := by
  have unserved : ∀ (session next : Session) result,
      result ≠ Connection.ReadResult.dataReceived →
      (serial, request) ∉ (inboundOf handle openFile [⟨session, result, next⟩]).requests := by
    intro session next result other member
    rw [inbound_of_silent handle openFile session next other] at member
    cases member
  refine @read_loop_rounds handle openFile (fun session reads outcome =>
    (serial, request) ∈ (inboundOf handle openFile reads).requests →
    asked handle (inboundOf handle openFile reads).requests = some (serial, request))
    ?_ ?_ ?_ ?_ ?_ ?_ fuel recvs session member
  · exact fun session member => nomatch member
  · intro session recvs connection rest _ member
    exact absurd member (unserved session _ _ (by decide))
  · intro session recvs result connection rest _ bad member
    exact absurd member (unserved session _ _ (by rcases bad with rfl | rfl <;> decide))
  · intro session recvs connection rest _ member
    exact absurd member (unserved session _ _ (by decide))
  · intro session recvs connection rest served after _ _ _ member
    rw [inbound_of_single] at member ⊢
    exact dispatched_is_asked openFile pending _ _ member
  · intro session recvs connection rest after others outcome _ serves _ later member
    have asks := serve_asks handle openFile (connection.receiveBuffer.length + 2)
      (Alongside.refl (received { session with connection := connection }))
    change Asks handle _ _ (serveAll handle openFile _) at asks
    rw [serves] at asks
    obtain ⟨answered, -⟩ := asks.goes_on
    have none : asked handle (Read.inbound handle openFile
        ⟨session, .dataReceived, { session with connection := connection }⟩).requests = none :=
      answered
    change asked handle (_ ++ _) = _
    rw [asked_append, none, Option.none_or]
    exact later ((List.mem_append.mp member).resolve_left (not_asked pending none))

end Session

/-- An event of the reactor itself. -/
def Reactor.Input.own : Reactor.Input → Option Reactor.Input
  | .worker _ _ => none
  | input => some input

namespace Reactor

variable {handlers : Nat → HttpHandler} {serial : Nat} {request : HttpRequest}
  {operation : Operation}

theorem inbound_submits (reactor : Reactor) (input : Input) (fd : Int)
    (pending : (handlers serial).handle request {} = .pending operation)
    (member : (serial, request) ∈
      (reactor.inbound (Session.answering handlers) input fd).requests) :
    reactor.submits handlers input = some (serial, operation) := by
  have answering : Session.answering handlers serial request = .pending := by
    unfold Session.answering
    rw [pending]
  have left : operationOf handlers (serial, request) = some (serial, operation) := by
    unfold operationOf
    rw [pending]
  cases input with
  | accept answers => cases member
  | timer expired => cases member
  | completions answers => cases member
  | worker job response => cases member
  | client client events answers =>
      unfold inbound at member
      dsimp only at member
      by_cases unread : fd ≠ client ∨ events.error = true ∨ events.hangup = true ∨
          ¬ events.input = true
      · rw [if_pos unread] at member
        cases member
      · rw [if_neg unread] at member
        rw [not_or, not_or, not_or, not_not, not_not] at unread
        obtain ⟨-, noError, noHangup, reads⟩ := unread
        unfold submits
        dsimp only
        rw [if_neg noError, if_neg noHangup, if_pos reads]
        have only : asked (Session.answering handlers)
            (reactor.clientInbound (Session.answering handlers) client answers).requests =
              some (serial, request) := by
          unfold clientInbound at member ⊢
          cases found : reactor.connections.lookup client with
          | none =>
              rw [found] at member
              cases member
          | some connection =>
              cases foundState : reactor.connectionStates.lookup client with
              | none =>
                  rw [found, foundState] at member
                  cases member
              | some state =>
                  rw [found, foundState] at member
                  dsimp only at member ⊢
                  by_cases waits : state.redisPending = true
                  · rw [if_pos waits] at member
                    cases member
                  · rw [if_neg waits] at member ⊢
                    exact Session.read_is_asked _ answering _ _ _ member
        unfold clientSubmits
        rw [only, Option.bind_some, left]

end Reactor

namespace TaskService

variable {State : Type} (server : RedisServer State) (handlers : Nat → Nat → HttpHandler)

/-- The input that a step is for one of the reactors. -/
def inputOf (service : TaskService State) : Step → Option (Nat × Reactor.Input)
  | .react index input => input.own.map fun input => (index, input)
  | .publish index job =>
      (service.outstanding index job).bind fun callback =>
        (service.finished.find? fun entry => entry.1 = ⟨index, callback.serial⟩).map
          fun entry => (index, .worker job (HttpHandler.respond entry.2))
  | .throw index job => some (index, .worker job none)
  | .execute _ _ _ => none
  | .executeLate _ => none

def inputFor (service : TaskService State) (index : Nat) (next : Step) : Option Reactor.Input :=
  (service.inputOf next).bind fun entry => if entry.1 = index then some entry.2 else none

/-- What a run of the service is for one reactor. -/
def inputsFor (index : Nat) : TaskService State → List Step → List Reactor.Input
  | _, [] => []
  | service, next :: steps =>
      (service.inputFor index next).toList ++
        inputsFor index (service.step server handlers next) steps

def Step.sends : Step → List SendResult
  | .react _ input => input.sends
  | _ => []

section Projection

variable {service : TaskService State} {index : Nat} {reactor : Reactor}

theorem set_modifies {reactors : List Reactor} (here : reactors[index]? = some reactor)
    (next : Reactor → Reactor) :
    reactors.set index (next reactor) = reactors.modify index next := by
  rw [List.modify_eq_set_getElem?, here]
  rfl

theorem missing_modifies {reactors : List Reactor} (missing : reactors[index]? = none)
    (next : Reactor → Reactor) : reactors.modify index next = reactors :=
  List.modify_eq_self (List.getElem?_eq_none_iff.mp missing)

/-- What a step does to the reactors. -/
def Moves (server : RedisServer State) (handlers : Nat → Nat → HttpHandler)
    (service : TaskService State) (next : Step) : Prop :=
  (service.step server handlers next).reactors =
    (service.inputOf next).elim service.reactors fun entry =>
      service.reactors.modify entry.1 fun reactor =>
        reactor.step (Session.answering (handlers entry.1)) entry.2

theorem react_moves (service : TaskService State) (index : Nat) (input : Reactor.Input) :
    Moves server handlers service (.react index input) := by
  unfold Moves step react inputOf
  dsimp only
  cases here : service.reactors[index]? with
  | none =>
      cases input with
      | worker job response => rfl
      | accept answers => exact (missing_modifies here _).symm
      | timer expired => exact (missing_modifies here _).symm
      | completions answers => exact (missing_modifies here _).symm
      | client fd events answers => exact (missing_modifies here _).symm
  | some reactor =>
      have moved := set_modifies here fun reactor =>
        reactor.step (Session.answering (handlers index)) input
      cases input with
      | worker job response => rfl
      | accept answers => exact moved
      | timer expired => exact moved
      | completions answers => exact moved
      | client fd events answers => exact moved

theorem publish_moves (service : TaskService State) (index job : Nat) :
    Moves server handlers service (.publish index job) := by
  unfold Moves step publish inputOf outstanding
  dsimp only
  cases here : service.reactors[index]? with
  | none => rfl
  | some reactor =>
      dsimp only [Option.bind_some]
      cases reactor.shared.jobs[job]? with
      | none => rfl
      | some callback =>
          dsimp only [Option.bind_some]
          cases service.finished.find? fun entry => entry.1 = ⟨index, callback.serial⟩ with
          | none => rfl
          | some entry =>
              exact set_modifies here fun reactor =>
                reactor.finishJob job (HttpHandler.respond entry.2)

theorem throw_moves (service : TaskService State) (index job : Nat) :
    Moves server handlers service (.throw index job) := by
  unfold Moves step throw inputOf
  dsimp only
  cases here : service.reactors[index]? with
  | none => exact (missing_modifies here _).symm
  | some reactor => exact set_modifies here fun reactor => reactor.finishJob job none

theorem execute_reactors (service : TaskService State) (other job : Nat) (reached : Bool) :
    (service.execute server other job reached).reactors = service.reactors ∧
      (service.execute server other job reached).history = service.history := by
  unfold execute
  cases service.outstanding other job with
  | none => exact ⟨rfl, rfl⟩
  | some callback =>
      dsimp only
      by_cases once : (⟨other, callback.serial⟩ : Ticket) ∈ service.finished.map Prod.fst
      · rw [if_pos once]
        exact ⟨rfl, rfl⟩
      · rw [if_neg once]
        cases askedFor service.history ⟨other, callback.serial⟩ with
        | none => exact ⟨rfl, rfl⟩
        | some operation => exact ⟨rfl, rfl⟩

theorem execute_late_reactors (service : TaskService State) (other : Nat) :
    (service.executeLate server other).reactors = service.reactors ∧
      (service.executeLate server other).history = service.history := by
  unfold executeLate
  cases service.abandoned[other]? with
  | none => exact ⟨rfl, rfl⟩
  | some operation => exact ⟨rfl, rfl⟩

theorem step_moves (service : TaskService State) (next : Step) :
    Moves server handlers service next := by
  cases next with
  | react index input => exact react_moves server handlers service index input
  | publish index job => exact publish_moves server handlers service index job
  | throw index job => exact throw_moves server handlers service index job
  | execute index job reached => exact (execute_reactors server service index job reached).1
  | executeLate index => exact (execute_late_reactors server service index).1

theorem step_projects (here : service.reactors[index]? = some reactor) (next : Step) :
    (service.step server handlers next).reactors[index]? =
      some (run (Reactor.step (Session.answering (handlers index))) reactor
        (service.inputFor index next).toList) := by
  rw [show (service.step server handlers next).reactors = _ from
    step_moves server handlers service next]
  unfold inputFor
  cases service.inputOf next with
  | none => exact here
  | some entry =>
      dsimp only [Option.elim_some, Option.bind_some]
      rw [List.getElem?_modify, here]
      by_cases same : entry.1 = index
      · rw [if_pos same]
        subst same
        exact congrArg some (if_pos rfl)
      · rw [if_neg same]
        exact congrArg some (if_neg same)

theorem run_projects (here : service.reactors[index]? = some reactor) (steps : List Step) :
    (run (step server handlers) service steps).reactors[index]? =
      some (run (Reactor.step (Session.answering (handlers index))) reactor
        (inputsFor server handlers index service steps)) := by
  induction steps generalizing service reactor with
  | nil => exact here
  | cons next steps ih =>
      rw [run_cons, ih (step_projects server handlers here next), inputsFor, run_append]

end Projection

section History

variable {service : TaskService State} {index : Nat}

theorem step_history (service : TaskService State) (next : Step) :
    service.history <+: (service.step server handlers next).history := by
  cases next with
  | execute index job reached =>
      rewrite [show (service.step server handlers (.execute index job reached)).history = _ from
        (execute_reactors server service index job reached).2]
      exact List.prefix_rfl
  | executeLate index =>
      rewrite [show (service.step server handlers (.executeLate index)).history = _ from
        (execute_late_reactors server service index).2]
      exact List.prefix_rfl
  | throw index job =>
      unfold step throw
      dsimp only
      cases service.reactors[index]? with
      | none => exact List.prefix_rfl
      | some reactor => exact List.prefix_rfl
  | publish index job =>
      unfold step publish
      dsimp only
      cases service.reactors[index]? with
      | none => exact List.prefix_rfl
      | some reactor =>
          cases service.outstanding index job with
          | none => exact List.prefix_rfl
          | some callback =>
              dsimp only
              cases service.finished.find? fun entry => entry.1 = ⟨index, callback.serial⟩ with
              | none => exact List.prefix_rfl
              | some entry => exact List.prefix_append _ _
  | react index input =>
      unfold step react
      dsimp only
      cases service.reactors[index]? with
      | none => exact List.prefix_rfl
      | some reactor =>
          cases input with
          | worker job response => exact List.prefix_rfl
          | accept answers => exact List.prefix_append _ _
          | timer expired => exact List.prefix_append _ _
          | completions answers => exact List.prefix_append _ _
          | client fd events answers => exact List.prefix_append _ _

theorem run_history (service : TaskService State) (steps : List Step) :
    service.history <+: (run (step server handlers) service steps).history := by
  induction steps generalizing service with
  | nil => exact List.prefix_rfl
  | cons next steps ih => exact (step_history server handlers service next).trans (ih _)

/-- Where the input of a reactor comes from. -/
inductive Brings (service : TaskService State) (index : Nat) : Step → Reactor.Input → Prop
  | own {input : Reactor.Input} (itself : input.own = some input) :
      Brings service index (.react index input) input
  | published (job : Nat) {callback : Callback} {entry : Ticket × Outcome}
      (outstanding : service.outstanding index job = some callback)
      (found : (service.finished.find? fun entry => entry.1 = ⟨index, callback.serial⟩) =
        some entry) :
      Brings service index (.publish index job) (.worker job (HttpHandler.respond entry.2))
  | thrown (job : Nat) : Brings service index (.throw index job) (.worker job none)

theorem input_brings {next : Step} {input : Reactor.Input}
    (given : service.inputFor index next = some input) : Brings service index next input := by
  obtain ⟨entry, brought, here⟩ := Option.bind_eq_some_iff.mp given
  obtain ⟨isIndex, isInput⟩ := Option.ite_none_right_eq_some.mp here
  cases isInput
  subst isIndex
  cases next with
  | react other input =>
      obtain ⟨kept, itself, same⟩ := Option.map_eq_some_iff.mp brought
      subst same
      have equal : input = kept := by
        cases input with
        | worker job response => cases itself
        | accept answers => exact Option.some.inj itself
        | timer expired => exact Option.some.inj itself
        | completions answers => exact Option.some.inj itself
        | client fd events answers => exact Option.some.inj itself
      subst equal
      exact .own itself
  | publish other job =>
      obtain ⟨callback, outstanding, found⟩ := Option.bind_eq_some_iff.mp brought
      obtain ⟨finished, isFound, same⟩ := Option.map_eq_some_iff.mp found
      subst same
      exact .published job outstanding isFound
  | throw other job =>
      cases brought
      exact .thrown job
  | execute other job reached => cases brought
  | executeLate other => cases brought

/-- The outcomes that were answered to the requests of a reactor, as responses. -/
def Answers (history : List (Event Ticket Operation Outcome)) (index serial : Nat)
    (response : HttpResponse) : Prop :=
  ∃ outcome, Event.answered ⟨index, serial⟩ outcome ∈ history ∧
    HttpHandler.respond outcome = some response

theorem Answers.later {history later : List (Event Ticket Operation Outcome)} {serial : Nat}
    {response : HttpResponse} (answers : Answers history index serial response)
    (goesOn : history <+: later) : Answers later index serial response := by
  obtain ⟨outcome, member, responds⟩ := answers
  exact ⟨outcome, goesOn.subset member, responds⟩

theorem Brings.answered {next : Step} {input : Reactor.Input} {reactor : Reactor}
    (brings : Brings service index next input) (here : service.reactors[index]? = some reactor) :
    reactor.MayPublish (Answers (service.step server handlers next).history index) input := by
  cases brings with
  | own itself =>
      cases input with
      | worker job response => cases itself
      | accept answers => trivial
      | timer expired => trivial
      | completions answers => trivial
      | client fd events answers => trivial
  | thrown job => trivial
  | @published job callback entry outstanding found =>
      have same : entry.1 = ⟨index, callback.serial⟩ := by
        have is_found := List.find?_some found
        exact of_decide_eq_true is_found
      have listed : reactor.shared.jobs[job]? = some callback := by
        unfold TaskService.outstanding at outstanding
        rwa [here] at outstanding
      have recorded : (service.step server handlers (.publish index job)).history =
          service.history ++ [.answered entry.1 entry.2] := by
        unfold step publish
        dsimp only
        rw [here, outstanding]
        dsimp only
        rw [found]
      rw [recorded]
      cases responds : HttpHandler.respond entry.2 with
      | none => trivial
      | some response =>
          intro other isOther
          rw [listed] at isOther
          cases isOther
          exact ⟨entry.2, List.mem_append_right _ (by rw [same]; exact List.mem_cons_self),
            responds⟩

theorem Brings.asked {next : Step} {input : Reactor.Input} {reactor : Reactor} {serial : Nat}
    {operation : Operation} (brings : Brings service index next input)
    (here : service.reactors[index]? = some reactor)
    (submits : reactor.submits (handlers index) input = some (serial, operation)) :
    Event.asked ⟨index, serial⟩ operation ∈ (service.step server handlers next).history := by
  cases brings with
  | published job outstanding found => cases submits
  | thrown job => cases submits
  | own itself =>
      have recorded : (service.step server handlers (.react index input)).history =
          service.history ++ [.asked ⟨index, serial⟩ operation] := by
        unfold step react
        dsimp only
        rw [here]
        cases input with
        | worker job response => cases itself
        | accept answers => cases submits
        | timer expired => cases submits
        | completions answers => cases submits
        | client fd events answers =>
            dsimp only
            rw [submits]
            rfl
      rw [recorded]
      exact List.mem_append_right _ List.mem_cons_self

theorem Brings.whole {next : Step} {input : Reactor.Input}
    (brings : Brings service index next input) (never : .sent 0 ∉ next.sends) :
    .sent 0 ∉ input.sends := by
  cases brings with
  | own itself => exact never
  | published job outstanding found => exact List.not_mem_nil
  | thrown job => exact List.not_mem_nil

theorem inputs_whole (index : Nat) {steps : List Step}
    (never : ∀ next ∈ steps, .sent 0 ∉ next.sends)
    (service : TaskService State) :
    ∀ input ∈ inputsFor server handlers index service steps, .sent 0 ∉ input.sends := by
  induction steps generalizing service with
  | nil =>
      intro input member
      cases member
  | cons next steps ih =>
      obtain ⟨here, later⟩ := List.forall_mem_cons.mp never
      intro input member
      rw [inputsFor] at member
      rcases List.mem_append.mp member with now | rest
      · exact (input_brings (Option.mem_toList.mp now)).whole here
      · exact ih later _ input rest

/-- In its own run a reactor is given what the run of the service has answered. -/
theorem inputs_may_publish {final : List (Event Ticket Operation Outcome)} (steps : List Step)
    (service : TaskService State) (talking : TalkingReactor)
    (here : service.reactors[index]? = some talking.reactor)
    (goesOn : (run (step server handlers) service steps).history <+: final) :
    Throughout (TalkingReactor.step (Session.answering (handlers index)))
      (fun talking => talking.reactor.MayPublish (Answers final index))
      talking (inputsFor server handlers index service steps) := by
  induction steps generalizing service talking with
  | nil => trivial
  | cons next steps ih =>
      have moved := step_projects server handlers here next
      rw [inputsFor]
      cases given : service.inputFor index next with
      | none =>
          rw [given] at moved
          exact ih _ talking moved goesOn
      | some input =>
          rw [given] at moved
          refine ⟨?_, ih _ (talking.step _ input) moved goesOn⟩
          apply ((input_brings given).answered server handlers here).imp
          intro serial response answers
          exact answers.later ((run_history server handlers _ steps).trans goesOn)

/-- The operation of every request that came in is asked for. -/
def Known (handlers : Nat → HttpHandler) (history : List (Event Ticket Operation Outcome))
    (index : Nat) (heard : Int → Inbound) : Prop :=
  ∀ fd serial request operation, (serial, request) ∈ (heard fd).requests →
    (handlers serial).handle request {} = .pending operation →
    Event.asked ⟨index, serial⟩ operation ∈ history

theorem run_knows (steps : List Step) (service : TaskService State) (talking : TalkingReactor)
    (here : service.reactors[index]? = some talking.reactor)
    (known : Known (handlers index) service.history index talking.heard) :
    Known (handlers index) (run (step server handlers) service steps).history index
      (run (TalkingReactor.step (Session.answering (handlers index))) talking
        (inputsFor server handlers index service steps)).heard := by
  induction steps generalizing service talking with
  | nil => exact known
  | cons next steps ih =>
      have moved := step_projects server handlers here next
      have goesOn := step_history server handlers service next
      rw [inputsFor, run_append, run_cons]
      cases given : service.inputFor index next with
      | none =>
          rw [given] at moved
          refine ih _ talking moved ?_
          intro fd serial request operation member pending
          exact goesOn.subset (known fd serial request operation member pending)
      | some input =>
          rw [given] at moved
          refine ih _ (talking.step _ input) moved ?_
          intro fd serial request operation member pending
          have split : (serial, request) ∈
              (if fd ∈ input.accepted then ({} : Inbound) else talking.heard fd).requests ++
                (talking.reactor.inbound (Session.answering (handlers index)) input fd).requests :=
            member
          rcases List.mem_append.mp split with earlier | new
          · split_ifs at earlier
            · cases earlier
            · exact goesOn.subset (known fd serial request operation earlier pending)
          · exact (input_brings given).asked server handlers here
              (Reactor.inbound_submits talking.reactor input fd pending new)

end History

variable (start : State)

def talkingAt (reactorCount index : Nat) (steps : List Step) : TalkingReactor :=
  run (TalkingReactor.step (Session.answering (handlers index))) (TalkingReactor.start index)
    (inputsFor server handlers index (create reactorCount start) steps)

/-- A request is answered at once, or from the outcome its operation has in the log. -/
def SettledBy (handlers : Nat → HttpHandler) (index : Nat)
    (log : List (Execution Ticket Operation Outcome)) (serial : Nat) (request : HttpRequest)
    (response : HttpResponse) : Prop :=
  (handlers serial).handle request {} = .completed response ∨
    ∃ operation outcome, (handlers serial).handle request {} = .pending operation ∧
      ⟨⟨index, serial⟩, operation, outcome⟩ ∈ log ∧ HttpHandler.respond outcome = some response

/-- What was answered to a request that came in is the outcome of its own operation. -/
theorem Known.settled {index : Nat} {handlers : Nat → HttpHandler}
    {legal : List (Operation × Outcome) → Prop}
    {history : List (Event Ticket Operation Outcome)}
    {log : List (Execution Ticket Operation Outcome)} {heard : Int → Inbound}
    (known : Known handlers history index heard) (recorded : Recorded history log)
    (linearizes : Linearizes legal history log) {fd : Int} {request : Nat × HttpRequest}
    (member : request ∈ (heard fd).requests) {response : HttpResponse}
    (settles : Settles handlers (Answers history index) request.1 request.2 response) :
    SettledBy handlers index log request.1 request.2 response := by
  rcases settles with completed | ⟨⟨operation, pending⟩, outcome, answered, same⟩
  · exact .inl completed
  · obtain ⟨call, executed⟩ := linearizes.answered _ _ answered
    have asked := known fd request.1 request.2 operation member pending
    have equal := recorded.asked_once (linearizes.asked _ executed) asked
    subst equal
    exact .inr ⟨call, outcome, pending, executed, same⟩

/-- Whatever the order of the threads and whatever calls fail, there is one order of the
operations on the tasks, and every client of every reactor reads, for its first request, what
the handler answers at once or what the outcome of its operation in this order comes to, and
so for its second. -/
theorem clients_read_from_one_store (reactorCount : Nat)
    (empty : ∀ key, server.keys start key = none) (steps : List Step)
    (never : ∀ next ∈ steps, .sent 0 ∉ next.sends) :
    let service := run (step server handlers) (create reactorCount start) steps
    Linearizes (fun entries => ∃ store, Store.Explains entries service.abandoned store ∧
        Represents (server.keys service.redis) store) service.history service.log ∧
      ∀ index, index < reactorCount → ∀ fd files,
        let talking := talkingAt server handlers start reactorCount index steps
        let requests := (talking.heard fd).requests
        let read := readAll readResponse (bareness (requests.map Prod.snd))
          (spelled files (talking.said fd).sentBytes)
        service.reactors[index]? = some talking.reactor ∧
        ((∀ request ∈ requests, HeadsNoFile request.2) →
          List.Forall₂ (Got (SettledBy (handlers index) index service.log))
            (requests.take read.length) read ∧
          ∀ connection state, talking.reactor.connections.lookup fd = some connection →
            talking.reactor.connectionStates.lookup fd = some state →
            connection.outputQueue = [] → state.redisPending = false →
            read.length = requests.length) := by
  intro service
  have sound : Sound server service :=
    run_invariant (step server handlers) (fun _ next sound => step_sound handlers next sound)
      (create_sound reactorCount empty) steps
  have linearizes : Linearizes (fun entries => ∃ store,
      Store.Explains entries service.abandoned store ∧
        Represents (server.keys service.redis) store) service.history service.log :=
    sound.recorded.linearizes sound.explained
  refine ⟨linearizes, ?_⟩
  intro index inside fd files talking requests read
  have created : (create reactorCount start).reactors[index]? =
      some (TalkingReactor.start index).reactor := by
    unfold create
    rw [List.getElem?_map, List.getElem?_range inside]
    rfl
  have may : TalkingReactor.MayPublish (Session.answering (handlers index))
      (Responds fun serial outcome => Event.answered ⟨index, serial⟩ outcome ∈ service.history)
      index (inputsFor server handlers index (create reactorCount start) steps) :=
    inputs_may_publish server handlers steps _ _ created List.prefix_rfl
  have whole := inputs_whole server handlers index never (create reactorCount start)
  have known : Known (handlers index) service.history index talking.heard := by
    apply run_knows server handlers steps _ _ created
    intro fd serial request operation member
    cases member
  constructor
  · have projected := run_projects server handlers created steps
    rw [projected]
    congr 1
    have alone := HeardReactor.run_reactor (Session.answering (handlers index))
      (HeardReactor.start index)
      (inputsFor server handlers index (create reactorCount start) steps)
    have heard := TalkingReactor.run_heard (Session.answering (handlers index))
      (TalkingReactor.start index)
      (inputsFor server handlers index (create reactorCount start) steps)
    exact alone.symm.trans (congrArg HeardReactor.reactor heard.symm)
  intro noFiles
  constructor
  · have reads := TalkingReactor.sent_is_read may whole fd files noFiles
    have inside : ∀ request ∈ requests.take read.length, request ∈ requests :=
      fun request member => List.mem_of_mem_take member
    refine ((List.forall₂_and_left (p := fun request => request ∈ requests) _ _).mpr
      ⟨inside, reads⟩).imp ?_
    intro request received got
    apply got.2.imp
    intro response settles
    exact known.settled sound.recorded linearizes got.1 settles
  · intro connection state found foundState sent idle
    exact TalkingReactor.all_is_read may whole fd files noFiles found foundState sent idle

/-- One client creates a task, another lists the tasks and reads the answer. -/
def postThenList : List Step :=
  [.react 0 (.accept [.client 5 true true true, .client 6 true true true]),
    .react 0 (.client 5 { input := true } { recvs := [.received (ascii
      "POST /tasks HTTP/1.1\r\nHost: a\r\nContent-Length: 10\r\n\r\ntitle=milk")] }),
    .react 0 (.client 6 { input := true } { recvs := [.received (ascii
      "GET /tasks HTTP/1.1\r\nHost: a\r\n\r\n")] }),
    .execute 0 0 true, .execute 0 1 true, .publish 0 1,
    .react 0 (.completions [{ sends := [.sent 1000] }])]

set_option maxRecDepth 20000 in
theorem listing_reads_the_posted_task :
    let server := MemoryServer.memoryServer
    let service := run (step server taskHandlers) (create 1 fun _ => none) postThenList
    let talking := talkingAt server taskHandlers (fun _ => none) 1 0 postThenList
    let requests := (talking.heard 6).requests
    let read := readAll readResponse (bareness (requests.map Prod.snd))
      (spelled (fun _ => 0) (talking.said 6).sentBytes)
    read.map ReceivedResponse.content =
        [ascii "[\x7b\"id\":1,\"title\":\"milk\",\"completed\":false\x7d]"] ∧
      List.Forall₂ (Got (SettledBy (taskHandlers 0) 0 service.log))
        (requests.take read.length) read := by
  have reads := clients_read_from_one_store MemoryServer.memoryServer taskHandlers
    (fun _ => none) 1 (fun _ => rfl) postThenList (by decide)
  exact ⟨by decide, ((reads.2 0 (by decide) 6 (fun _ => 0)).2 (by decide)).1⟩

end TaskService

end Aorta.Server
