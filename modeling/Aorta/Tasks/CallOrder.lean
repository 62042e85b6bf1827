import Mathlib.Logic.Equiv.Basic
import Aorta.Library.Run
import Aorta.Tasks.RedisCalls

/-!
# Every call gets its own reply

A connection that failed is not read again, so the reply a worker reads is that of the call it
waits in. A command is executed at most once, also when its call has failed.
-/

namespace Aorta.Tasks

open Aorta.Library.Ascii Aorta.Library.Linearization Aorta.Library.Run Aorta.Redis

set_option autoImplicit false

def Link.Holds (link : Link) (number : Nat) : Prop := number ∈ link.commands.map Prod.fst

def Worker.Concerns (worker : Worker) (number : Nat) : Prop :=
  (∃ operation, worker.call = some (number, operation)) ∨
    ∃ context, worker.client.context = some context ∧ context.link.Holds number

section Concerned

variable {number other : Nat} {operation : Operation} {replies : List (Nat × Reply)}
  {err : Bool} {link : Link}

@[simp] theorem Link.holds_nil : ¬ (Link.mk [] replies).Holds number := List.not_mem_nil

@[simp] theorem Link.holds_single :
    (Link.mk [(other, operation)] replies).Holds number ↔ number = other :=
  List.mem_singleton

@[simp] theorem Worker.concerns_off : ¬ (Worker.mk ⟨none⟩ none).Concerns number := by
  rintro (⟨operation, calling⟩ | ⟨context, same, held⟩)
  · cases calling
  · cases same

@[simp] theorem Worker.concerns_free :
    (Worker.mk ⟨some ⟨err, link⟩⟩ none).Concerns number ↔ link.Holds number := by
  constructor
  · rintro (⟨operation, calling⟩ | ⟨context, same, held⟩)
    · cases calling
    · cases same
      exact held
  · exact fun held => .inr ⟨_, rfl, held⟩

@[simp] theorem Worker.concerns_in_call :
    (Worker.mk ⟨some ⟨err, link⟩⟩ (some (other, operation))).Concerns number ↔
      number = other ∨ link.Holds number := by
  constructor
  · rintro (⟨operation, calling⟩ | ⟨context, same, held⟩)
    · cases calling
      exact .inl rfl
    · cases same
      exact .inr held
  · rintro (rfl | held)
    · exact .inl ⟨operation, rfl⟩
    · exact .inr ⟨_, rfl, held⟩

end Concerned

namespace RedisCalls

variable {State : Type} {server : RedisServer State}

def Concerns (calls : RedisCalls State) (number : Nat) : Place → Prop
  | .worker index => (calls.workers index).Concerns number
  | .given index => ∃ link, calls.given[index]? = some link ∧ link.Holds number

/-- A call that waits for its reply. -/
structure Open (calls : RedisCalls State) (number : Nat) (operation : Operation) : Prop where
  asked : Event.asked number operation ∈ calls.history
  titled : operation ≠ .create []
  kept : number ∉ calls.left.map Prod.fst
  unread : number ∉ calls.received
  pending : number ∉ calls.failed

/-- The connection of a call that waits. -/
inductive Serves (calls : RedisCalls State) (number : Nat) (operation : Operation) : Link → Prop
  | sent (fresh : number ∉ calls.log.map Execution.ticket) :
      Serves calls number operation ⟨[(number, operation)], []⟩
  | lost (fresh : number ∉ calls.log.map Execution.ticket) : Serves calls number operation ⟨[], []⟩
  | executed (reply : Reply) (logged : ⟨number, operation, some reply⟩ ∈ calls.log) :
      Serves calls number operation ⟨[], [(number, reply)]⟩

/-- A connection that no one reads any more. -/
inductive Dead (calls : RedisCalls State) : Link → Prop
  | silent (replies : List (Nat × Reply)) : Dead calls ⟨[], replies⟩
  | sent (number : Nat) (operation : Operation) (replies : List (Nat × Reply))
      (member : (number, operation) ∈ calls.left) : Dead calls ⟨[(number, operation)], replies⟩

inductive Stands (calls : RedisCalls State) : Worker → Prop
  | off : Stands calls ⟨⟨none⟩, none⟩
  | idle : Stands calls ⟨⟨some ⟨false, {}⟩⟩, none⟩
  | broken {link : Link} (dead : Dead calls link) : Stands calls ⟨⟨some ⟨true, link⟩⟩, none⟩
  | waits {number : Nat} {operation : Operation} {link : Link}
      (serves : Serves calls number operation link) (opened : calls.Open number operation) :
      Stands calls ⟨⟨some ⟨false, link⟩⟩, some (number, operation)⟩

/-- Every call is the concern of one place at most. -/
structure Tidy (calls : RedisCalls State) : Prop where
  stands : ∀ index, Stands calls (calls.workers index)
  given : ∀ link ∈ calls.given, Dead calls link
  apart : ∀ number place other, calls.Concerns number place → calls.Concerns number other →
    place = other
  left : ∀ entry ∈ calls.left, Event.asked entry.1 entry.2 ∈ calls.history ∧
    entry.2 ≠ .create []
  below : ∀ number operation, Event.asked number operation ∈ calls.history → number < calls.next
  ended : ∀ number, number ∈ calls.received ∨ number ∈ calls.failed → number < calls.next
  settled : ∀ number ∈ calls.failed, number ∉ calls.received

/-- A step in the call of this number. -/
structure Beside (calls after : RedisCalls State) (number : Nat) : Prop where
  history : ∀ event ∈ calls.history, event ∈ after.history
  log : ∀ execution ∈ calls.log, execution ∈ after.log
  logged : ∀ other, other ≠ number → other ∈ after.log.map Execution.ticket →
    other ∈ calls.log.map Execution.ticket
  left : ∀ entry ∈ calls.left, entry.1 ≠ number → entry ∈ after.left
  abandoned : ∀ other, other ≠ number → other ∈ after.left.map Prod.fst →
    other ∈ calls.left.map Prod.fst
  received : ∀ other, other ≠ number → other ∈ after.received → other ∈ calls.received
  failed : ∀ other, other ≠ number → other ∈ after.failed → other ∈ calls.failed

section Besides

variable {calls after : RedisCalls State} {number : Nat}

theorem Beside.moved (workers : Nat → Worker) (given : List Link) :
    Beside calls { calls with
      workers := workers
      given := given } number :=
  ⟨fun _ known => known, fun _ known => known, fun _ _ known => known, fun _ known _ => known,
    fun _ _ known => known, fun _ _ known => known, fun _ _ known => known⟩

theorem Dead.beside {link : Link} (dead : Dead calls link) (beside : Beside calls after number)
    (apart : ¬ link.Holds number) : Dead after link := by
  cases dead with
  | silent replies => exact .silent replies
  | sent other operation replies member =>
      refine .sent other operation replies (beside.left _ member ?_)
      intro same
      exact apart (same ▸ List.mem_cons_self)

theorem Open.beside {other : Nat} {operation : Operation} (opened : calls.Open other operation)
    (beside : Beside calls after number) (apart : other ≠ number) :
    after.Open other operation where
  asked := beside.history _ opened.asked
  titled := opened.titled
  kept := fun member => opened.kept (beside.abandoned _ apart member)
  unread := fun member => opened.unread (beside.received _ apart member)
  pending := fun member => opened.pending (beside.failed _ apart member)

theorem Stands.beside {worker : Worker} (stands : Stands calls worker)
    (beside : Beside calls after number) (apart : ¬ worker.Concerns number) :
    Stands after worker := by
  cases stands with
  | off => exact .off
  | idle => exact .idle
  | broken dead => exact .broken (dead.beside beside fun held => apart (.inr ⟨_, rfl, held⟩))
  | @waits other operation link serves opened =>
      have differs : other ≠ number := by
        rintro rfl
        exact apart (.inl ⟨operation, rfl⟩)
      refine .waits ?_ (opened.beside beside differs)
      cases serves with
      | sent fresh => exact .sent fun member => fresh (beside.logged _ differs member)
      | lost fresh => exact .lost fun member => fresh (beside.logged _ differs member)
      | executed reply logged => exact .executed reply (beside.log _ logged)

end Besides

namespace Tidy

variable {calls after : RedisCalls State}

theorem asked_of_concerns (tidy : calls.Tidy) {number : Nat} {place : Place}
    (concerns : calls.Concerns number place) :
    ∃ operation, Event.asked number operation ∈ calls.history := by
  have ofDead : ∀ {link : Link}, Dead calls link → link.Holds number →
      ∃ operation, Event.asked number operation ∈ calls.history := by
    intro link dead held
    cases dead with
    | silent replies => cases held
    | sent other operation replies member =>
        obtain rfl := List.mem_singleton.mp held
        exact ⟨operation, (tidy.left _ member).1⟩
  cases place with
  | given index =>
      obtain ⟨link, found, held⟩ := concerns
      exact ofDead (tidy.given link (List.mem_of_getElem? found)) held
  | worker index =>
      have stands := tidy.stands index
      unfold Concerns at concerns
      simp only at concerns
      generalize calls.workers index = worker at stands concerns
      cases stands with
      | off => exact absurd concerns Worker.concerns_off
      | idle => exact absurd (Worker.concerns_free.mp concerns) Link.holds_nil
      | broken dead => exact ofDead dead (Worker.concerns_free.mp concerns)
      | @waits other operation link serves opened =>
          have same : number = other := by
            rcases Worker.concerns_in_call.mp concerns with same | held
            · exact same
            · cases serves with
              | sent fresh => exact Link.holds_single.mp held
              | lost fresh => exact absurd held Link.holds_nil
              | executed reply logged => exact absurd held Link.holds_nil
          rw [same]
          exact ⟨operation, opened.asked⟩

theorem fresh (tidy : calls.Tidy) (place : Place) : ¬ calls.Concerns calls.next place := by
  intro concerns
  obtain ⟨operation, asked⟩ := tidy.asked_of_concerns concerns
  exact Nat.lt_irrefl _ (tidy.below _ _ asked)

theorem elsewhere (tidy : calls.Tidy) {number : Nat} {place : Place}
    (concerns : calls.Concerns number place) :
    ∀ other, other ≠ place → ¬ calls.Concerns number other :=
  fun other differs also => differs (tidy.apart number other place also concerns)

theorem at_worker (tidy : calls.Tidy) {index number : Nat} {worker : Worker}
    (workers : after.workers = Function.update calls.workers index worker)
    (given : after.given = calls.given) (beside : Beside calls after number)
    (others : ∀ place, place ≠ .worker index → ¬ calls.Concerns number place)
    (fewer : ∀ other, worker.Concerns other →
      (calls.workers index).Concerns other ∨ other = number)
    (stands : Stands after worker)
    (left : ∀ entry ∈ after.left, Event.asked entry.1 entry.2 ∈ after.history ∧
      entry.2 ≠ .create [])
    (below : ∀ number operation, Event.asked number operation ∈ after.history →
      number < after.next)
    (ended : ∀ number, number ∈ after.received ∨ number ∈ after.failed → number < after.next)
    (settled : ∀ number ∈ after.failed, number ∉ after.received) : after.Tidy := by
  have back : ∀ other place, after.Concerns other place →
      calls.Concerns other place ∨ other = number ∧ place = .worker index := by
    intro other place concerns
    cases place with
    | given slot =>
        left
        unfold Concerns at concerns ⊢
        rwa [given] at concerns
    | worker here =>
        unfold Concerns at concerns ⊢
        simp only [workers] at concerns ⊢
        by_cases same : here = index
        · subst same
          rw [Function.update_self] at concerns
          exact (fewer other concerns).imp_right fun isNumber => ⟨isNumber, rfl⟩
        · rw [Function.update_of_ne same] at concerns
          exact .inl concerns
  refine ⟨?_, ?_, ?_, left, below, ended, settled⟩
  · intro here
    rw [workers]
    by_cases same : here = index
    · rw [same, Function.update_self]
      exact stands
    · rw [Function.update_of_ne same]
      refine (tidy.stands here).beside beside (others (.worker here) ?_)
      intro isIndex
      cases isIndex
      exact same rfl
  · intro link member
    rw [given] at member
    obtain ⟨slot, found⟩ := List.mem_iff_getElem?.mp member
    refine (tidy.given link member).beside beside ?_
    intro held
    exact others (.given slot) (by simp) ⟨link, found, held⟩
  · intro other place second concerns also
    rcases back other place concerns with first | ⟨isNumber, here⟩
    · rcases back other second also with also | ⟨isNumber, here⟩
      · exact tidy.apart other place second first also
      · rw [here]
        by_contra differs
        exact others place differs (isNumber ▸ first)
    · rcases back other second also with also | ⟨-, there⟩
      · rw [here]
        by_contra differs
        exact others second (fun same => differs same.symm) (isNumber ▸ also)
      · rw [here, there]

theorem at_given (tidy : calls.Tidy) {index number : Nat} {link old : Link}
    (found : calls.given[index]? = some old) (workers : after.workers = calls.workers)
    (given : after.given = calls.given.set index link) (beside : Beside calls after number)
    (others : ∀ place, place ≠ .given index → ¬ calls.Concerns number place)
    (fewer : ∀ other, link.Holds other → old.Holds other) (dead : Dead after link)
    (left : ∀ entry ∈ after.left, Event.asked entry.1 entry.2 ∈ after.history ∧
      entry.2 ≠ .create [])
    (below : ∀ number operation, Event.asked number operation ∈ after.history →
      number < after.next)
    (ended : ∀ number, number ∈ after.received ∨ number ∈ after.failed → number < after.next)
    (settled : ∀ number ∈ after.failed, number ∉ after.received) : after.Tidy := by
  have places : ∀ slot held, after.given[slot]? = some held →
      slot = index ∧ held = link ∨ slot ≠ index ∧ calls.given[slot]? = some held := by
    intro slot held here
    rw [given] at here
    by_cases same : slot = index
    · subst same
      rw [List.getElem?_set_self (List.getElem?_eq_some_iff.mp found).1] at here
      exact .inl ⟨rfl, (Option.some.inj here).symm⟩
    · rw [List.getElem?_set_ne (Ne.symm same)] at here
      exact .inr ⟨same, here⟩
  have back : ∀ other place, after.Concerns other place → calls.Concerns other place := by
    intro other place concerns
    cases place with
    | worker here =>
        unfold Concerns at concerns ⊢
        rwa [workers] at concerns
    | given slot =>
        obtain ⟨held, here, holds⟩ := concerns
        rcases places slot held here with ⟨rfl, rfl⟩ | ⟨-, still⟩
        · exact ⟨old, found, fewer other holds⟩
        · exact ⟨held, still, holds⟩
  refine ⟨?_, ?_, ?_, left, below, ended, settled⟩
  · intro here
    rw [workers]
    exact (tidy.stands here).beside beside (others (.worker here) (by simp))
  · intro held member
    obtain ⟨slot, here⟩ := List.mem_iff_getElem?.mp member
    rcases places slot held here with ⟨-, rfl⟩ | ⟨differs, still⟩
    · exact dead
    · refine (tidy.given held (List.mem_of_getElem? still)).beside beside ?_
      intro holds
      exact others (.given slot) (by simpa using differs) ⟨held, still, holds⟩
  · intro other place second concerns also
    exact tidy.apart other place second (back other place concerns) (back other second also)

end Tidy

/-- What is recorded of an executed call, whether it fails after all or not. -/
def resolve (fails : Nat → Bool) (execution : Execution Nat Operation (Option Reply)) :
    Execution Nat Operation Outcome :=
  ⟨execution.ticket, execution.call,
    outcomeOf execution.call (if fails execution.ticket then none else execution.result)⟩

/-- Which calls may still fail. -/
structure Possible (calls : RedisCalls State) (fails : Nat → Bool) : Prop where
  failed : ∀ number ∈ calls.failed, fails number = true
  received : ∀ number ∈ calls.received, fails number = false

variable (server) in
/-- However the calls that wait end, the log explains what has happened. -/
structure Justified (calls : RedisCalls State) (fails : Nat → Bool) : Prop where
  recorded : Recorded calls.history (calls.log.map (resolve fails))
  explained : ∃ store, Store.Explains
      ((calls.log.map (resolve fails)).map fun execution => (execution.call, execution.result))
      (calls.left.map Prod.snd) store ∧
    Represents (server.keys calls.redis) store

variable (server) in
structure Sound (calls : RedisCalls State) : Prop where
  tidy : calls.Tidy
  justified : ∀ fails, calls.Possible fails → calls.Justified server fails

section Records

variable {calls : RedisCalls State} {fails : Nat → Bool} {number : Nat} {operation : Operation}

theorem none_performs (server : RedisServer State) (state : State)
    (titled : operation ≠ .create []) (store : Store) :
    store.Performs false operation (outcomeOf operation none) store := by
  have same := (outcome_of_none titled state).symm.trans
    (unreached_performs server state operation titled)
  rw [(Prod.mk.inj same).1]
  exact .unreached operation titled

theorem tickets_resolved (log : List (Execution Nat Operation (Option Reply))) :
    (log.map (resolve fails)).map Execution.ticket = log.map Execution.ticket := by
  rw [List.map_map]
  rfl

theorem Justified.begun (justified : calls.Justified server fails)
    (below : ∀ other, Event.asked calls.next other ∉ calls.history) (operation : Operation) :
    (calls.begin operation).Justified server fails where
  recorded := justified.recorded.asked calls.next operation below
  explained := justified.explained

theorem Justified.abandoned (justified : calls.Justified server fails)
    (asked : Event.asked number operation ∈ calls.history) (titled : operation ≠ .create [])
    (fresh : number ∉ calls.log.map Execution.ticket) :
    (calls.abandon number operation).Justified server fails := by
  have entry : List.map (resolve fails) (calls.log ++ [⟨number, operation, none⟩]) =
      calls.log.map (resolve fails) ++ [⟨number, operation, outcomeOf operation none⟩] := by
    rw [List.map_append]
    simp [resolve]
  obtain ⟨store, explains, represents⟩ := justified.explained
  constructor
  · change Recorded (calls.history ++ [.answered number (outcomeOf operation none)])
      (List.map (resolve fails) (calls.log ++ [⟨number, operation, none⟩]))
    rw [entry]
    have executed := justified.recorded.executed number operation (outcomeOf operation none) asked
      (by rwa [tickets_resolved])
    exact executed.answered ⟨number, operation, outcomeOf operation none⟩ (by simp)
  · refine ⟨store, ?_, represents⟩
    change Store.Explains
      (List.map _ (List.map (resolve fails) (calls.log ++ [⟨number, operation, none⟩])))
      ((calls.left ++ [(number, operation)]).map Prod.snd) store
    rw [entry, List.map_append, List.map_append]
    exact explains.failed operation _ (none_performs server calls.redis titled store)

/-- If the call fails after all, its command was left and has been executed at once. -/
theorem Justified.executed (justified : calls.Justified server fails)
    (asked : Event.asked number operation ∈ calls.history) (titled : operation ≠ .create [])
    (fresh : number ∉ calls.log.map Execution.ticket) :
    Justified server { calls with
      redis := (answer server operation calls.redis).2
      log := calls.log ++ [⟨number, operation, some (answer server operation calls.redis).1⟩] }
      fails := by
  obtain ⟨store, explains, represents⟩ := justified.explained
  obtain ⟨outcome, after, next, performed, still, performs⟩ :=
    perform_performs server represents true operation
  rw [perform_answer titled] at performed
  cases performed
  generalize (answer server operation calls.redis).2 = after at still ⊢
  generalize (answer server operation calls.redis).1 = reply at performs ⊢
  have entry : List.map (resolve fails) (calls.log ++ [⟨number, operation, some reply⟩]) =
      calls.log.map (resolve fails) ++ [⟨number, operation,
        outcomeOf operation (if fails number then none else some reply)⟩] := by
    rw [List.map_append]
    rfl
  constructor
  · change Recorded calls.history
      (List.map (resolve fails) (calls.log ++ [⟨number, operation, some reply⟩]))
    rw [entry]
    exact justified.recorded.executed number operation _ asked (by rwa [tickets_resolved])
  · refine ⟨next, ?_, still⟩
    change Store.Explains
      (List.map _ (List.map (resolve fails) (calls.log ++ [⟨number, operation, some reply⟩])))
      (calls.left.map Prod.snd) next
    rw [entry, List.map_append]
    cases failing : fails number with
    | false => exact explains.executed operation _ performs
    | true =>
        have givenUp := explains.failed operation _
          (none_performs server calls.redis titled store)
        have left := givenUp.late (calls.left.map Prod.snd).length operation (by simp) _ performs
        rwa [List.eraseIdx_append_of_length_le (Nat.le_refl _), Nat.sub_self,
          List.eraseIdx_zero, List.tail_cons, List.append_nil] at left

theorem Justified.late (justified : calls.Justified server fails)
    (titled : operation ≠ .create []) (member : (number, operation) ∈ calls.left) :
    Justified server { calls with
      redis := (answer server operation calls.redis).2
      left := calls.left.erase (number, operation) } fails := by
  obtain ⟨store, explains, represents⟩ := justified.explained
  obtain ⟨outcome, after, next, performed, still, performs⟩ :=
    perform_performs server represents true operation
  rw [perform_answer titled] at performed
  cases performed
  refine ⟨justified.recorded, next, ?_, still⟩
  have found : (calls.left.map Prod.snd)[calls.left.idxOf (number, operation)]? =
      some operation := by
    rw [List.getElem?_map, List.getElem?_idxOf member]
    rfl
  have late := explains.late _ operation found _ performs
  rwa [List.eraseIdx_map, List.eraseIdx_idxOf_eq_erase] at late

end Records

section Steps

variable {calls : RedisCalls State} {number : Nat} {operation : Operation}

theorem asked_of_append {history : List (Event Nat Operation Outcome)} {other : Nat}
    {outcome : Outcome}
    (asked : Event.asked number operation ∈ history ++ [.answered other outcome]) :
    Event.asked number operation ∈ history := by
  rcases List.mem_append.mp asked with earlier | new
  · exact earlier
  · cases List.mem_singleton.mp new

theorem Tidy.left_known (tidy : calls.Tidy) (event : Event Nat Operation Outcome) :
    ∀ entry ∈ calls.left, Event.asked entry.1 entry.2 ∈ calls.history ++ [event] ∧
      entry.2 ≠ .create [] := by
  intro entry member
  obtain ⟨asked, titled⟩ := tidy.left entry member
  exact ⟨List.mem_append_left _ asked, titled⟩

theorem concerns_of_link {place : Place} {link : Link}
    (found : calls.linkAt place = some link) (held : link.Holds number) :
    calls.Concerns number place := by
  cases place with
  | given index => exact ⟨link, found, held⟩
  | worker index =>
      obtain ⟨context, isContext, isLink⟩ := Option.map_eq_some_iff.mp found
      exact .inr ⟨context, isContext, isLink ▸ held⟩

theorem place_of_call {index : Nat} {client : RedisClient Link}
    (here : calls.workers index = ⟨client, some (number, operation)⟩) :
    calls.Concerns number (.worker index) := by
  unfold Concerns
  simp only [here]
  exact .inl ⟨operation, rfl⟩

/-- A command that is on its way is left, or that of the call its worker waits in. -/
theorem Tidy.head (tidy : calls.Tidy) {place : Place} {commands : List (Nat × Operation)}
    {replies : List (Nat × Reply)}
    (found : calls.linkAt place = some ⟨(number, operation) :: commands, replies⟩) :
    commands = [] ∧ ((number, operation) ∈ calls.left ∨
      ∃ index, place = .worker index ∧ replies = [] ∧
        number ∉ calls.log.map Execution.ticket ∧ calls.Open number operation ∧
        calls.workers index =
          ⟨⟨some ⟨false, ⟨[(number, operation)], []⟩⟩⟩, some (number, operation)⟩) := by
  cases place with
  | given index =>
      have dead := tidy.given _ (List.mem_of_getElem? found)
      cases dead with
      | sent _ _ _ member => exact ⟨rfl, .inl member⟩
  | worker index =>
      have stands := tidy.stands index
      unfold linkAt at found
      simp only at found
      generalize here : calls.workers index = worker at stands found
      cases stands with
      | off => cases found
      | idle => cases found
      | broken dead =>
          cases found
          cases dead with
          | sent _ _ _ member => exact ⟨rfl, .inl member⟩
      | waits serves opened =>
          cases found
          cases serves with
          | sent fresh => exact ⟨rfl, .inr ⟨index, rfl, rfl, fresh, opened, here⟩⟩

theorem Tidy.late (tidy : calls.Tidy) {place : Place} {replies : List (Nat × Reply)}
    (found : calls.linkAt place = some ⟨[(number, operation)], replies⟩)
    (member : (number, operation) ∈ calls.left) (redis : State) (reply : Reply) :
    Tidy { calls.setLink place ⟨[], replies ++ [(number, reply)]⟩ with
      redis := redis
      left := calls.left.erase (number, operation) } := by
  have beside : Beside calls { calls.setLink place ⟨[], replies ++ [(number, reply)]⟩ with
      redis := redis
      left := calls.left.erase (number, operation) } number := by
    refine ⟨fun _ known => known, fun _ known => known, fun _ _ known => known, ?_, ?_,
      fun _ _ known => known, fun _ _ known => known⟩
    · intro entry known differs
      apply (List.mem_erase_of_ne _).mpr known
      rintro rfl
      exact differs rfl
    · intro other _ known
      exact List.map_subset Prod.fst List.erase_subset known
  have others := tidy.elsewhere (concerns_of_link found (Link.holds_single.mpr rfl))
  have left : ∀ entry ∈ calls.left.erase (number, operation),
      Event.asked entry.1 entry.2 ∈ calls.history ∧ entry.2 ≠ .create [] :=
    fun entry known => tidy.left entry (List.mem_of_mem_erase known)
  cases place with
  | given index =>
      exact tidy.at_given found rfl rfl beside others
        (fun other held => absurd held Link.holds_nil) (.silent _) left tidy.below tidy.ended
        tidy.settled
  | worker index =>
      have broken : calls.workers index =
          ⟨⟨some ⟨true, ⟨[(number, operation)], replies⟩⟩⟩, none⟩ := by
        have stands := tidy.stands index
        unfold linkAt at found
        simp only at found
        generalize calls.workers index = worker at stands found
        cases stands with
        | off => cases found
        | idle => cases found
        | broken dead =>
            cases found
            rfl
        | waits serves opened =>
            cases found
            cases serves with
            | sent fresh => exact absurd (List.mem_map_of_mem member) opened.kept
      refine tidy.at_worker rfl rfl beside others ?_ ?_ left tidy.below tidy.ended tidy.settled
      · intro other concerns
        rw [broken] at concerns
        exact absurd (Worker.concerns_free.mp concerns) Link.holds_nil
      · rw [broken]
        exact .broken (.silent _)

theorem Tidy.current (tidy : calls.Tidy) {index : Nat}
    (here : calls.workers index =
      ⟨⟨some ⟨false, ⟨[(number, operation)], []⟩⟩⟩, some (number, operation)⟩)
    (opened : calls.Open number operation) (redis : State) (reply : Reply) :
    Tidy { calls.setLink (.worker index) ⟨[], [(number, reply)]⟩ with
      redis := redis
      log := calls.log ++ [⟨number, operation, some reply⟩] } := by
  have others := tidy.elsewhere (place_of_call here)
  refine Tidy.at_worker tidy rfl rfl ?_ others ?_ ?_ tidy.left tidy.below tidy.ended tidy.settled
  · refine ⟨fun _ known => known, fun _ known => List.mem_append_left _ known, ?_,
      fun _ known _ => known, fun _ _ known => known, fun _ _ known => known,
      fun _ _ known => known⟩
    intro other differs known
    simpa [differs] using known
  · intro other concerns
    rw [here] at concerns
    rcases Worker.concerns_in_call.mp concerns with same | held
    · exact .inr same
    · exact absurd held Link.holds_nil
  · rw [here]
    exact .waits (.executed reply (List.mem_append_right _ List.mem_cons_self))
      ⟨opened.asked, opened.titled, opened.kept, opened.unread, opened.pending⟩

theorem Tidy.discarded (tidy : calls.Tidy) {place : Place} {link : Link}
    (found : calls.linkAt place = some link) :
    Tidy (calls.setLink place { link with commands := [] }) := by
  have beside : Beside calls (calls.setLink place { link with commands := [] }) calls.next :=
    .moved _ _
  cases place with
  | given index =>
      exact tidy.at_given found rfl rfl beside (fun other _ => tidy.fresh other)
        (fun other held => absurd held Link.holds_nil) (.silent _) tidy.left tidy.below
        tidy.ended tidy.settled
  | worker index =>
      refine tidy.at_worker rfl rfl beside (fun other _ => tidy.fresh other) ?_ ?_ tidy.left
        tidy.below tidy.ended tidy.settled
      · intro other concerns
        rcases concerns with ⟨operation, calling⟩ | ⟨context, same, held⟩
        · exact .inl (.inl ⟨operation, calling⟩)
        · obtain ⟨old, -, rfl⟩ := Option.map_eq_some_iff.mp same
          cases held
      · have stands := tidy.stands index
        unfold linkAt at found
        simp only at found
        generalize calls.workers index = worker at stands found
        cases stands with
        | off => exact .off
        | idle =>
            cases found
            exact .idle
        | broken dead => exact .broken (.silent _)
        | waits serves opened =>
            cases found
            refine .waits ?_
              ⟨opened.asked, opened.titled, opened.kept, opened.unread, opened.pending⟩
            cases serves with
            | sent fresh => exact .lost fresh
            | lost fresh => exact .lost fresh
            | executed reply logged => exact .executed reply logged

theorem Sound.execute (sound : Sound server calls) (place : Place) :
    Sound server (calls.execute server place) := by
  unfold RedisCalls.execute
  cases found : calls.linkAt place with
  | none => exact sound
  | some link =>
      obtain ⟨commands, replies⟩ := link
      cases commands with
      | nil => exact sound
      | cons command commands =>
          obtain ⟨number, operation⟩ := command
          obtain ⟨rfl, member | ⟨index, rfl, rfl, fresh, opened, here⟩⟩ := sound.tidy.head found
          · simp only [if_pos member]
            refine ⟨sound.tidy.late found member _ _, ?_⟩
            intro fails possible
            have justified := (sound.justified fails ⟨possible.failed, possible.received⟩).late
              (sound.tidy.left _ member).2 member
            exact ⟨justified.recorded, justified.explained⟩
          · have current : (number, operation) ∉ calls.left :=
              fun member => opened.kept (List.mem_map_of_mem member)
            simp only [if_neg current, List.erase_of_not_mem current, List.nil_append]
            refine ⟨sound.tidy.current here opened _ _, ?_⟩
            intro fails possible
            have justified := (sound.justified fails ⟨possible.failed, possible.received⟩).executed
              opened.asked opened.titled fresh
            exact ⟨justified.recorded, justified.explained⟩

theorem Sound.discard (sound : Sound server calls) (place : Place) :
    Sound server (calls.discard place) := by
  unfold RedisCalls.discard
  cases found : calls.linkAt place with
  | none => exact sound
  | some link =>
      refine ⟨sound.tidy.discarded found, ?_⟩
      intro fails possible
      have justified := sound.justified fails ⟨possible.failed, possible.received⟩
      exact ⟨justified.recorded, justified.explained⟩

theorem Tidy.received (tidy : calls.Tidy) {index : Nat} {reply : Reply}
    (here : calls.workers index =
      ⟨⟨some ⟨false, ⟨[], [(number, reply)]⟩⟩⟩, some (number, operation)⟩)
    (opened : calls.Open number operation) (outcome : Outcome) :
    Tidy { calls.setWorker index { client := ⟨some ⟨false, ⟨[], []⟩⟩⟩ } with
      history := calls.history ++ [.answered number outcome]
      received := calls.received ++ [number] } := by
  have others := tidy.elsewhere (place_of_call here)
  refine Tidy.at_worker tidy rfl rfl ?_ others ?_ .idle ?_ ?_ ?_ ?_
  · refine ⟨fun _ known => List.mem_append_left _ known, fun _ known => known,
      fun _ _ known => known, fun _ known _ => known, fun _ _ known => known, ?_,
      fun _ _ known => known⟩
    intro other differs known
    simpa [differs] using known
  · exact fun other concerns => absurd (Worker.concerns_free.mp concerns) Link.holds_nil
  · exact tidy.left_known _
  · exact fun other call asked => tidy.below other call (asked_of_append asked)
  · intro other ended
    rcases ended with received | failed
    · rcases List.mem_append.mp received with earlier | new
      · exact tidy.ended other (.inl earlier)
      · rw [List.mem_singleton.mp new]
        exact tidy.below _ _ opened.asked
    · exact tidy.ended other (.inr failed)
  · intro other failed received
    rcases List.mem_append.mp received with earlier | new
    · exact tidy.settled other failed earlier
    · rw [List.mem_singleton.mp new] at failed
      exact opened.pending failed

theorem Sound.receive (sound : Sound server calls) (index : Nat) :
    Sound server (calls.receive index) := by
  have stands := sound.tidy.stands index
  unfold RedisCalls.receive
  generalize here : calls.workers index = worker at stands ⊢
  cases stands with
  | off => exact sound
  | idle => exact sound
  | broken dead => exact sound
  | @waits number operation link serves opened =>
      cases serves with
      | sent fresh => exact sound
      | lost fresh => exact sound
      | executed reply logged =>
          refine ⟨sound.tidy.received here opened _, ?_⟩
          intro fails possible
          have justified := sound.justified fails ⟨possible.failed,
            fun other received => possible.received other (List.mem_append_left _ received)⟩
          have succeeds : fails number = false :=
            possible.received number (List.mem_append_right _ List.mem_cons_self)
          have answered := justified.recorded.answered
            (resolve fails ⟨number, operation, some reply⟩) (List.mem_map_of_mem logged)
          unfold resolve at answered
          simp only [succeeds, Bool.false_eq_true, if_false] at answered
          exact ⟨answered, justified.explained⟩

theorem Tidy.failed (tidy : calls.Tidy) {index : Nat} {replies : List (Nat × Reply)}
    (here : calls.workers index = ⟨⟨some ⟨false, ⟨[], replies⟩⟩⟩, some (number, operation)⟩)
    (opened : calls.Open number operation) (outcome : Outcome) :
    Tidy { calls.setWorker index { client := ⟨some ⟨true, ⟨[], replies⟩⟩⟩ } with
      history := calls.history ++ [.answered number outcome]
      failed := calls.failed ++ [number] } := by
  have others := tidy.elsewhere (place_of_call here)
  refine Tidy.at_worker tidy rfl rfl ?_ others ?_ (.broken (.silent _)) ?_ ?_ ?_ ?_
  · refine ⟨fun _ known => List.mem_append_left _ known, fun _ known => known,
      fun _ _ known => known, fun _ known _ => known, fun _ _ known => known,
      fun _ _ known => known, ?_⟩
    intro other differs known
    simpa [differs] using known
  · exact fun other concerns => absurd (Worker.concerns_free.mp concerns) Link.holds_nil
  · exact tidy.left_known _
  · exact fun other call asked => tidy.below other call (asked_of_append asked)
  · intro other ended
    rcases ended with received | failed
    · exact tidy.ended other (.inl received)
    · rcases List.mem_append.mp failed with earlier | new
      · exact tidy.ended other (.inr earlier)
      · rw [List.mem_singleton.mp new]
        exact tidy.below _ _ opened.asked
  · intro other failed received
    rcases List.mem_append.mp failed with earlier | new
    · exact tidy.settled other earlier received
    · rw [List.mem_singleton.mp new] at received
      exact opened.unread received

theorem Tidy.abandoned (tidy : calls.Tidy) {index : Nat} {commands : List (Nat × Operation)}
    (here : calls.workers index = ⟨⟨some ⟨false, ⟨commands, []⟩⟩⟩, some (number, operation)⟩)
    (sent : commands = [(number, operation)] ∨ commands = [])
    (opened : calls.Open number operation) :
    Tidy ((calls.setWorker index { client := ⟨some ⟨true, ⟨commands, []⟩⟩⟩ }).abandon number
      operation) := by
  have others := tidy.elsewhere (place_of_call here)
  refine Tidy.at_worker tidy rfl rfl ?_ others ?_ ?_ ?_ ?_ tidy.ended tidy.settled
  · refine ⟨fun _ known => List.mem_append_left _ known,
      fun _ known => List.mem_append_left _ known, ?_,
      fun _ known _ => List.mem_append_left _ known, ?_, fun _ _ known => known,
      fun _ _ known => known⟩
    · intro other differs known
      simpa [abandon, setWorker, differs] using known
    · intro other differs known
      simpa [abandon, setWorker, differs] using known
  · intro other concerns
    rw [here]
    exact .inl (Worker.concerns_in_call.mpr (.inr (Worker.concerns_free.mp concerns)))
  · rcases sent with rfl | rfl
    · exact .broken (.sent number operation [] (List.mem_append_right _ List.mem_cons_self))
    · exact .broken (.silent _)
  · intro entry member
    rcases List.mem_append.mp member with earlier | new
    · exact tidy.left_known _ entry earlier
    · rw [List.mem_singleton.mp new]
      exact ⟨List.mem_append_left _ opened.asked, opened.titled⟩
  · exact fun other call asked => tidy.below other call (asked_of_append asked)

theorem Sound.fail (sound : Sound server calls) (index : Nat) :
    Sound server (calls.fail index) := by
  have stands := sound.tidy.stands index
  unfold RedisCalls.fail
  generalize here : calls.workers index = worker at stands ⊢
  cases stands with
  | off => exact sound
  | idle => exact sound
  | broken dead => exact sound
  | @waits number operation link serves opened =>
      have gives : ∀ commands, link = ⟨commands, []⟩ →
          commands = [(number, operation)] ∨ commands = [] →
          number ∉ calls.log.map Execution.ticket →
          Sound server ((calls.setWorker index
            { client := ⟨some ⟨true, ⟨commands, []⟩⟩⟩ }).abandon number operation) := by
        rintro commands rfl sent fresh
        refine ⟨sound.tidy.abandoned here sent opened, ?_⟩
        intro fails possible
        have justified := (sound.justified fails ⟨possible.failed, possible.received⟩).abandoned
          opened.asked opened.titled fresh
        exact ⟨justified.recorded, justified.explained⟩
      cases serves with
      | sent fresh =>
          simp only [if_neg fresh]
          exact gives _ rfl (.inl rfl) fresh
      | lost fresh =>
          simp only [if_neg fresh]
          exact gives _ rfl (.inr rfl) fresh
      | executed reply logged =>
          simp only [if_pos (List.mem_map_of_mem logged : number ∈ calls.log.map Execution.ticket)]
          refine ⟨sound.tidy.failed here opened _, ?_⟩
          intro fails possible
          have justified := sound.justified fails
            ⟨fun other failed => possible.failed other (List.mem_append_left _ failed),
              possible.received⟩
          have fails' : fails number = true :=
            possible.failed number (List.mem_append_right _ List.mem_cons_self)
          have answered := justified.recorded.answered
            (resolve fails ⟨number, operation, some reply⟩) (List.mem_map_of_mem logged)
          unfold resolve at answered
          simp only [fails', if_true] at answered
          exact ⟨answered, justified.explained⟩

/-- A worker without a connection, or with one that is not in use. -/
inductive Rested : Worker → Prop
  | off : Rested ⟨⟨none⟩, none⟩
  | idle : Rested ⟨⟨some ⟨false, {}⟩⟩, none⟩

theorem Rested.stands {worker : Worker} (rested : Rested worker) : Stands calls worker := by
  cases rested with
  | off => exact .off
  | idle => exact .idle

theorem Rested.silent {worker : Worker} (rested : Rested worker) : ¬ worker.Concerns number := by
  cases rested with
  | off => exact Worker.concerns_off
  | idle => exact fun concerns => Link.holds_nil (Worker.concerns_free.mp concerns)

theorem Tidy.rested (tidy : calls.Tidy) (index : Nat) {worker : Worker} (rested : Rested worker) :
    Tidy (calls.setWorker index worker) :=
  tidy.at_worker rfl rfl (.moved _ _)
    (fun other _ => tidy.fresh other) (fun _ concerns => absurd concerns rested.silent)
    rested.stands tidy.left tidy.below tidy.ended tidy.settled

theorem Tidy.freed (tidy : calls.Tidy) {index : Nat} {link : Link}
    (here : calls.workers index = ⟨⟨some ⟨true, link⟩⟩, none⟩) {worker : Worker}
    (rested : Rested worker) :
    Tidy { calls.setWorker index worker with given := calls.given ++ [link] } := by
  have beside : Beside calls { calls.setWorker index worker with given := calls.given ++ [link] }
      calls.next := .moved _ _
  have dead : Dead calls link := by
    have stands := tidy.stands index
    rw [here] at stands
    cases stands with
    | broken dead => exact dead
  have holds : ∀ number, link.Holds number → calls.Concerns number (.worker index) := by
    intro number held
    refine concerns_of_link ?_ held
    unfold linkAt
    simp only [here]
    rfl
  have back : ∀ number place,
      Concerns { calls.setWorker index worker with given := calls.given ++ [link] } number place →
      calls.Concerns number
        (Equiv.swap (Place.worker index) (Place.given calls.given.length) place) := by
    intro number place concerns
    cases place with
    | worker other =>
        unfold Concerns setWorker at concerns
        simp only at concerns
        by_cases same : other = index
        · rw [same, Function.update_self] at concerns
          exact absurd concerns rested.silent
        · rw [Function.update_of_ne same] at concerns
          rw [Equiv.swap_apply_of_ne_of_ne (by simpa using same) (by simp)]
          exact concerns
    | given slot =>
        obtain ⟨held, found, isHeld⟩ := concerns
        simp only at found
        rcases Nat.lt_trichotomy slot calls.given.length with below | rfl | above
        · rw [List.getElem?_append_left below] at found
          rw [Equiv.swap_apply_of_ne_of_ne (by simp) (by simpa using Nat.ne_of_lt below)]
          exact ⟨held, found, isHeld⟩
        · rw [List.getElem?_concat_length] at found
          cases found
          rw [Equiv.swap_apply_right]
          exact holds number isHeld
        · have none : (calls.given ++ [link])[slot]? = none := by
            rw [List.getElem?_eq_none_iff, List.length_append, List.length_singleton]
            exact above
          rw [none] at found
          cases found
  refine ⟨?_, ?_, ?_, tidy.left, tidy.below, tidy.ended, tidy.settled⟩
  · intro other
    unfold setWorker
    simp only
    by_cases same : other = index
    · rw [same, Function.update_self]
      exact rested.stands
    · rw [Function.update_of_ne same]
      exact (tidy.stands other).beside beside (tidy.fresh (.worker other))
  · intro held member
    rcases List.mem_append.mp member with earlier | new
    · obtain ⟨slot, found⟩ := List.mem_iff_getElem?.mp earlier
      refine (tidy.given held earlier).beside beside ?_
      intro isHeld
      exact tidy.fresh (.given slot) ⟨held, found, isHeld⟩
    · rw [List.mem_singleton.mp new]
      exact dead.beside beside fun isHeld => tidy.fresh (.worker index) (holds _ isHeld)
  · intro number place other concerns also
    exact (Equiv.swap (Place.worker index) (Place.given calls.given.length)).injective
      (tidy.apart number _ _ (back number place concerns) (back number other also))

theorem Tidy.reconnected (tidy : calls.Tidy) {index : Nat}
    (free : (calls.workers index).call = none) (connects : ConnectAnswer) :
    ∃ workers given,
      Tidy { calls with
        workers := workers
        given := given } ∧
      (calls.reconnect index connects = (false, { calls with
          workers := workers
          given := given }) ∧ workers index = ⟨⟨none⟩, none⟩ ∨
        calls.reconnect index connects = (true, { calls with
          workers := workers
          given := given }) ∧ workers index = ⟨⟨some ⟨false, {}⟩⟩, none⟩) := by
  have stands := tidy.stands index
  unfold reconnect
  generalize here : calls.workers index = worker at stands free ⊢
  cases stands with
  | off =>
      rcases RedisClient.connect_none ({} : Link) connects with opened | refused
      · exact ⟨_, _, tidy.rested index .idle, .inr ⟨by simp [RedisClient.ensureConnected, opened,
          setWorker], Function.update_self _ _ _⟩⟩
      · exact ⟨_, _, tidy.rested index .off, .inl ⟨by simp [RedisClient.ensureConnected, refused,
          setWorker], Function.update_self _ _ _⟩⟩
  | idle =>
      exact ⟨_, _, tidy.rested index .idle, .inr ⟨by simp [RedisClient.ensureConnected,
        setWorker], Function.update_self _ _ _⟩⟩
  | broken dead =>
      rcases RedisClient.connect_none ({} : Link) connects with opened | refused
      · exact ⟨_, _, tidy.freed here .idle, .inr ⟨by simp [RedisClient.ensureConnected, opened,
          setWorker], Function.update_self _ _ _⟩⟩
      · exact ⟨_, _, tidy.freed here .off, .inl ⟨by simp [RedisClient.ensureConnected, refused,
          setWorker], Function.update_self _ _ _⟩⟩
  | waits serves opened => cases free

theorem Tidy.begun_below (tidy : calls.Tidy) {call : Operation}
    (asked : Event.asked number call ∈ calls.history ++ [.asked calls.next operation]) :
    number < calls.next + 1 := by
  rcases List.mem_append.mp asked with earlier | new
  · exact Nat.lt_succ_of_lt (tidy.below number call earlier)
  · cases List.mem_singleton.mp new
    exact Nat.lt_succ_self _

theorem Tidy.called_off (tidy : calls.Tidy) (index : Nat) (worker : Worker)
    (stands : ∀ later : RedisCalls State, Stands later worker)
    (silent : ∀ number, ¬ worker.Concerns number) (titled : operation ≠ .create []) :
    Tidy { (calls.begin operation).abandon calls.next operation with
      workers := Function.update calls.workers index worker } := by
  refine tidy.at_worker rfl rfl ?_ (fun other _ => tidy.fresh other)
    (fun _ concerns => absurd concerns (silent _)) (stands _) ?_ ?_ ?_ tidy.settled
  · refine ⟨fun _ known => List.mem_append_left _ (List.mem_append_left _ known),
      fun _ known => List.mem_append_left _ known, ?_,
      fun _ known _ => List.mem_append_left _ known, ?_, fun _ _ known => known,
      fun _ _ known => known⟩
    · intro other differs known
      simpa [abandon, RedisCalls.begin, differs] using known
    · intro other differs known
      simpa [abandon, RedisCalls.begin, differs] using known
  · intro entry member
    rcases List.mem_append.mp member with earlier | new
    · exact ⟨List.mem_append_left _ (List.mem_append_left _ (tidy.left entry earlier).1),
        (tidy.left entry earlier).2⟩
    · rw [List.mem_singleton.mp new]
      exact ⟨List.mem_append_left _ (List.mem_append_right _ List.mem_cons_self), titled⟩
  · exact fun other call asked => tidy.begun_below (asked_of_append asked)
  · exact fun other ended => Nat.lt_succ_of_lt (tidy.ended other ended)

theorem Tidy.called (tidy : calls.Tidy) (index : Nat)
    (fresh : calls.next ∉ calls.log.map Execution.ticket) (titled : operation ≠ .create []) :
    Tidy ((calls.begin operation).setWorker index
      { client := ⟨some ⟨false, ⟨[(calls.next, operation)], []⟩⟩⟩
        call := some (calls.next, operation) }) := by
  refine tidy.at_worker rfl rfl ?_ (fun other _ => tidy.fresh other) ?_ (.waits (.sent fresh) ?_)
    ?_ ?_ ?_ tidy.settled
  · exact ⟨fun _ known => List.mem_append_left _ known, fun _ known => known,
      fun _ _ known => known, fun _ known _ => known, fun _ _ known => known,
      fun _ _ known => known, fun _ _ known => known⟩
  · intro other concerns
    rcases Worker.concerns_in_call.mp concerns with same | held
    · exact .inr same
    · exact .inr (Link.holds_single.mp held)
  · refine ⟨List.mem_append_right _ List.mem_cons_self, titled, ?_, ?_, ?_⟩
    · intro member
      obtain ⟨entry, listed, isNext⟩ := List.mem_map.mp member
      have below := tidy.below _ _ (tidy.left entry listed).1
      rw [isNext] at below
      exact Nat.lt_irrefl _ below
    · exact fun received => Nat.lt_irrefl _ (tidy.ended _ (.inl received))
    · exact fun failed => Nat.lt_irrefl _ (tidy.ended _ (.inr failed))
  · exact tidy.left_known _
  · exact fun other call asked => tidy.begun_below asked
  · exact fun other ended => Nat.lt_succ_of_lt (tidy.ended other ended)

theorem Tidy.possible (tidy : calls.Tidy) :
    calls.Possible fun number => decide (number ∈ calls.failed) where
  failed := fun _ failed => decide_eq_true failed
  received := fun number received =>
    decide_eq_false fun failed => tidy.settled number failed received

theorem Sound.call (sound : Sound server calls) (index : Nat) (operation : Operation)
    (connects : ConnectAnswer) (sends : Bool) :
    Sound server (calls.call index operation connects sends) := by
  unfold RedisCalls.call
  cases free : (calls.workers index).call with
  | some current => exact sound
  | none =>
      simp only
      by_cases untitled : operation = .create []
      · rw [if_pos untitled]
        exact sound
      · rw [if_neg untitled]
        have unasked : ∀ other, Event.asked calls.next other ∉ calls.history :=
          fun other asked => Nat.lt_irrefl _ (sound.tidy.below _ _ asked)
        have fresh : calls.next ∉ calls.log.map Execution.ticket := by
          intro member
          have recorded := (sound.justified _ sound.tidy.possible).recorded
          rw [← tickets_resolved] at member
          obtain ⟨execution, listed, isNext⟩ := List.mem_map.mp member
          have asked := recorded.asked_of_log execution listed
          rw [isNext] at asked
          exact unasked _ asked
        have begun : ∀ fails, calls.Possible fails →
            (calls.begin operation).Justified server fails :=
          fun fails possible => (sound.justified fails possible).begun unasked operation
        have calledOff : ∀ fails, calls.Possible fails →
            ((calls.begin operation).abandon calls.next operation).Justified server fails :=
          fun fails possible => (begun fails possible).abandoned
            (List.mem_append_right _ List.mem_cons_self) untitled fresh
        obtain ⟨workers, given, tidy, ⟨same, off⟩ | ⟨same, idle⟩⟩ :=
          sound.tidy.reconnected free connects
        · rw [same]
          simp only
          have after := tidy.called_off index (workers index)
            (fun _ => off ▸ .off) (fun _ => off ▸ Rested.off.silent) untitled
          rw [Function.update_eq_self] at after
          refine ⟨after, ?_⟩
          intro fails possible
          have justified := calledOff fails ⟨possible.failed, possible.received⟩
          exact ⟨justified.recorded, justified.explained⟩
        · rw [same]
          simp only [idle]
          cases sends with
          | true =>
              refine ⟨tidy.called index fresh untitled, ?_⟩
              intro fails possible
              have justified := begun fails ⟨possible.failed, possible.received⟩
              exact ⟨justified.recorded, justified.explained⟩
          | false =>
              refine ⟨tidy.called_off index _ (fun _ => .broken (.silent _)) ?_ untitled, ?_⟩
              · exact fun number concerns =>
                  Link.holds_nil (Worker.concerns_free.mp concerns)
              · intro fails possible
                have justified := calledOff fails ⟨possible.failed, possible.received⟩
                exact ⟨justified.recorded, justified.explained⟩

theorem Sound.step (sound : Sound server calls) (next : Step) :
    Sound server (calls.step server next) := by
  cases next with
  | call index operation connects sends => exact sound.call index operation connects sends
  | execute place => exact sound.execute place
  | discard place => exact sound.discard place
  | receive index => exact sound.receive index
  | fail index => exact sound.fail index

theorem start_sound {start : State} (empty : ∀ key, server.keys start key = none) :
    Sound server { redis := start } := by
  constructor
  · refine ⟨fun _ => .off, ?_, ?_, ?_, ?_, ?_, ?_⟩
    · exact fun link member => absurd member List.not_mem_nil
    · intro number place other concerns
      cases place with
      | worker index => exact absurd concerns Rested.off.silent
      | given index =>
          obtain ⟨link, found, -⟩ := concerns
          cases found
    · exact fun entry member => absurd member List.not_mem_nil
    · exact fun number operation member => absurd member List.not_mem_nil
    · exact fun number ended => absurd ended (by simp)
    · exact fun number member => absurd member List.not_mem_nil
  · intro fails possible
    refine ⟨.nil, {}, .nil, ?_⟩
    rw [funext empty]
    exact empty_represents

end Steps

variable (server) in
/-- From an empty Redis, workers over connections that may fail at any time: there is an order
of the calls that fits all their answers. A call that succeeded has had its effect once, with
the reply to its own command; one that failed has had it once, sooner or later, or never. -/
theorem calls_explain_the_store (start : State) (empty : ∀ key, server.keys start key = none)
    (steps : List Step) :
    let calls := run (step server) { redis := start } steps
    ∃ log, Linearizes
      (fun entries => ∃ abandoned store, Store.Explains entries abandoned store ∧
        Represents (server.keys calls.redis) store) calls.history log := by
  intro calls
  have sound : Sound server calls :=
    run_invariant (step server) (fun _ next sound => sound.step next) (start_sound empty) steps
  obtain ⟨recorded, store, explains, represents⟩ := sound.justified _ sound.tidy.possible
  exact ⟨_, recorded.linearizes ⟨_, store, explains, represents⟩⟩

/-- A task is created after its call has failed, and before the next. -/
def lateSteps : List Step :=
  [.call 0 (.create (ascii "milk")) .connected true, .fail 0, .call 0 .getAll .connected true,
    .execute (.given 0), .execute (.worker 0), .receive 0]

theorem late_task_is_listed :
    let calls := run (step MemoryServer.memoryServer) { redis := fun _ => none } lateSteps
    calls.history = [.asked 0 (.create (ascii "milk")), .answered 0 (.created false {}),
      .asked 1 .getAll, .answered 1 (.listed true [⟨1, ascii "milk", false⟩])] ∧
    ∃ log, Linearizes
      (fun entries => ∃ abandoned store, Store.Explains entries abandoned store ∧
        Represents (MemoryServer.memoryServer.keys calls.redis) store) calls.history log :=
  ⟨by decide, calls_explain_the_store MemoryServer.memoryServer (fun _ => none) (fun _ => rfl)
    lateSteps⟩

end RedisCalls

end Aorta.Tasks
