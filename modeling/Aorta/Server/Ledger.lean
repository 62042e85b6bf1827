import Aorta.Server.Reactor

/-!
# Outstanding jobs and delivered responses

What the reactor has to keep straight about asynchronous responses, without the
connections themselves: for each descriptor in use the generation it stands for
and whether a job is outstanding on it, the callbacks on their way, and the
history. `Ledger` is the invariant; each thing the reactor does to this data
keeps it.
-/

namespace Aorta.Server

open Aorta.Http (HttpRequest)

set_option autoImplicit false

def Callback.entry (callback : Callback) : Entry :=
  ⟨callback.serial, callback.fd, callback.generation⟩

/-- Responses queued on one generation were dispatched in that order. -/
def InOrder (queued : List Entry) : Prop :=
  queued.Pairwise fun earlier later =>
    earlier.generation = later.generation → earlier.serial < later.serial

/-- `slots` gives the generation and the `redis_pending` flag of each open
descriptor, `outstanding` the callbacks of all unfinished or undelivered jobs. -/
structure Ledger (next : Nat) (slots : Int → Option (Nat × Bool))
    (outstanding : List Callback) (serial : Nat) (history : History) : Prop where
  numbered : history.dispatched.map Entry.serial = List.range serial
  known : ∀ entry ∈ history.queued, entry ∈ history.dispatched
  inOrder : InOrder history.queued
  asked : ∀ callback ∈ outstanding, callback.entry ∈ history.dispatched
  single : (outstanding.map Callback.generation).Nodup
  last : ∀ callback ∈ outstanding, ∀ entry ∈ history.queued,
    entry.generation = callback.generation → entry.serial < callback.serial
  issued : ∀ callback ∈ outstanding, callback.generation ≤ next
  current : ∀ fd generation pending, slots fd = some (generation, pending) → generation ≤ next
  distinct : ∀ first second generation firstPending secondPending,
    slots first = some (generation, firstPending) →
    slots second = some (generation, secondPending) → first = second
  marked : ∀ fd generation pending, slots fd = some (generation, pending) →
    ∀ callback ∈ outstanding, callback.generation = generation → pending = true

namespace Ledger

variable {next : Nat} {slots : Int → Option (Nat × Bool)} {outstanding : List Callback}
  {serial : Nat} {history : History}

theorem start (next : Nat) : Ledger next (fun _ => none) [] 0 {} := by
  constructor <;> simp [InOrder]

section Keeps

variable (ledger : Ledger next slots outstanding serial history)

include ledger

theorem serial_lt {entry : Entry} (dispatched : entry ∈ history.dispatched) :
    entry.serial < serial := by
  have member : entry.serial ∈ history.dispatched.map Entry.serial :=
    List.mem_map_of_mem dispatched
  rw [ledger.numbered] at member
  exact List.mem_range.mp member

/-- A number belongs to one request only. -/
theorem entry_unique {first second : Entry} (inFirst : first ∈ history.dispatched)
    (inSecond : second ∈ history.dispatched) (same : first.serial = second.serial) :
    first = second := by
  have nodup : (history.dispatched.map Entry.serial).Nodup := by
    rw [ledger.numbered]
    exact List.nodup_range
  exact List.inj_on_of_nodup_map nodup inFirst inSecond same

/-- No response is queued twice. -/
theorem queued_once : (history.queued.map Entry.serial).Nodup := by
  rw [List.Nodup, List.pairwise_map]
  apply List.Pairwise.imp_of_mem _ ledger.inOrder
  intro earlier later inEarlier inLater ordered same
  have equal := ledger.entry_unique (ledger.known _ inEarlier) (ledger.known _ inLater) same
  have smaller := ordered (by rw [equal])
  omega

theorem narrow {fewer : Int → Option (Nat × Bool)}
    (still : ∀ fd slot, fewer fd = some slot → slots fd = some slot) :
    Ledger next fewer outstanding serial history := by
  refine { ledger with current := ?_, distinct := ?_, marked := ?_ }
  · intro other generation pending found
    exact ledger.current other generation pending (still other _ found)
  · intro first second generation firstPending secondPending inFirst inSecond
    exact ledger.distinct first second generation firstPending secondPending
      (still first _ inFirst) (still second _ inSecond)
  · intro other generation pending found
    exact ledger.marked other generation pending (still other _ found)

theorem accept (fd : Int) :
    Ledger (next + 1) (Function.update slots fd (some (next + 1, false))) outstanding serial
      history := by
  have old : ∀ other generation pending, other ≠ fd →
      Function.update slots fd (some (next + 1, false)) other = some (generation, pending) →
      slots other = some (generation, pending) := by
    intro other generation pending differs found
    rwa [Function.update_of_ne differs] at found
  have new : ∀ generation pending,
      Function.update slots fd (some (next + 1, false)) fd = some (generation, pending) →
      generation = next + 1 ∧ pending = false := by
    intro generation pending found
    rw [Function.update_self] at found
    cases found
    exact ⟨rfl, rfl⟩
  refine { ledger with issued := ?_, current := ?_, distinct := ?_, marked := ?_ }
  · intro callback member
    have bound := ledger.issued callback member
    omega
  · intro other generation pending found
    by_cases same : other = fd
    · subst same
      rw [(new generation pending found).1]
    · have bound := ledger.current other generation pending (old other _ _ same found)
      omega
  · intro first second generation firstPending secondPending inFirst inSecond
    by_cases sameFirst : first = fd
    · subst sameFirst
      by_contra differs
      have young := (new _ _ inFirst).1
      have bound := ledger.current second _ _ (old second _ _ (Ne.symm differs) inSecond)
      omega
    · by_cases sameSecond : second = fd
      · subst sameSecond
        have young := (new _ _ inSecond).1
        have bound := ledger.current first _ _ (old first _ _ sameFirst inFirst)
        omega
      · exact ledger.distinct first second generation firstPending secondPending
          (old first _ _ sameFirst inFirst) (old second _ _ sameSecond inSecond)
  · intro other generation pending found callback member same
    by_cases here : other = fd
    · subst here
      have young := (new _ _ found).1
      have bound := ledger.issued callback member
      omega
    · exact ledger.marked other generation pending (old other _ _ here found) callback member same

theorem fewer {others : List Callback} (subset : ∀ callback ∈ others, callback ∈ outstanding)
    (single : (others.map Callback.generation).Nodup) :
    Ledger next slots others serial history where
  numbered := ledger.numbered
  known := ledger.known
  inOrder := ledger.inOrder
  asked := fun callback member => ledger.asked callback (subset callback member)
  single := single
  last := fun callback member => ledger.last callback (subset callback member)
  issued := fun callback member => ledger.issued callback (subset callback member)
  current := ledger.current
  distinct := ledger.distinct
  marked := fun fd generation pending found callback member =>
    ledger.marked fd generation pending found callback (subset callback member)

theorem dispatch (fd : Int) (generation : Nat) (request : HttpRequest) :
    Ledger next slots outstanding (serial + 1)
      (history.dispatch ⟨serial, fd, generation⟩ request) := by
  refine { ledger with numbered := ?_, known := ?_, asked := ?_ }
  · rw [History.dispatch, List.map_append, ledger.numbered, List.range_succ]
    rfl
  · intro entry member
    exact List.mem_append_left _ (ledger.known entry member)
  · intro callback member
    exact List.mem_append_left _ (ledger.asked callback member)

theorem respond {entry : Entry} (dispatched : entry ∈ history.dispatched)
    (newest : ∀ earlier ∈ history.queued, earlier.generation = entry.generation →
      earlier.serial < entry.serial)
    (free : ∀ callback ∈ outstanding, callback.generation ≠ entry.generation) :
    Ledger next slots outstanding serial
      { history with queued := history.queued ++ [entry] } := by
  refine { ledger with known := ?_, inOrder := ?_, last := ?_ }
  · intro other member
    simp only [List.mem_append, List.mem_singleton] at member
    rcases member with earlier | rfl
    · exact ledger.known other earlier
    · exact dispatched
  · unfold InOrder
    rw [List.pairwise_append]
    refine ⟨ledger.inOrder, List.pairwise_singleton _ _, ?_⟩
    intro earlier member later atEnd
    rw [List.mem_singleton] at atEnd
    subst atEnd
    exact newest earlier member
  · intro callback member other inQueue same
    simp only [List.mem_append, List.mem_singleton] at inQueue
    rcases inQueue with earlier | rfl
    · exact ledger.last callback member other earlier same
    · exact absurd same.symm (free callback member)

theorem ended (endings : List Ending) :
    Ledger next slots outstanding serial { history with endings := endings } :=
  { ledger with }

/-- No callback is on its way to a descriptor that is not marked. -/
theorem unmarked_free {fd : Int} {generation : Nat}
    (slot : slots fd = some (generation, false)) :
    ∀ callback ∈ outstanding, callback.generation ≠ generation := by
  intro callback member same
  have pending := ledger.marked fd generation false slot callback member same
  cases pending

theorem serve {fd : Int} {generation : Nat} (slot : slots fd = some (generation, false))
    (request : HttpRequest) :
    Ledger next slots outstanding (serial + 1)
      { history.dispatch ⟨serial, fd, generation⟩ request with
        queued := history.queued ++ [⟨serial, fd, generation⟩] } := by
  apply respond (ledger.dispatch fd generation request)
  · exact List.mem_append_right _ (List.mem_singleton.mpr rfl)
  · intro earlier member _
    exact ledger.serial_lt (ledger.known earlier member)
  · exact ledger.unmarked_free slot

theorem submit {fd : Int} {generation : Nat} (slot : slots fd = some (generation, false))
    (close : Bool) (request : HttpRequest) :
    Ledger next (Function.update slots fd (some (generation, true)))
      (outstanding ++ [⟨fd, generation, close, serial⟩]) (serial + 1)
      (history.dispatch ⟨serial, fd, generation⟩ request) := by
  have old : ∀ other otherGeneration pending,
      Function.update slots fd (some (generation, true)) other =
        some (otherGeneration, pending) →
      pending = true ∨ slots other = some (otherGeneration, pending) := by
    intro other otherGeneration pending found
    by_cases same : other = fd
    · rw [same, Function.update_self] at found
      cases found
      exact .inl rfl
    · rw [Function.update_of_ne same] at found
      exact .inr found
  have sameGeneration : ∀ other otherGeneration pending,
      Function.update slots fd (some (generation, true)) other =
        some (otherGeneration, pending) →
      ∃ wasPending, slots other = some (otherGeneration, wasPending) := by
    intro other otherGeneration pending found
    by_cases same : other = fd
    · subst same
      rw [Function.update_self] at found
      cases found
      exact ⟨false, slot⟩
    · rw [Function.update_of_ne same] at found
      exact ⟨pending, found⟩
  have dispatched := ledger.dispatch fd generation request
  have inAppend : ∀ {motive : Callback → Prop}, (∀ callback ∈ outstanding, motive callback) →
      motive ⟨fd, generation, close, serial⟩ →
      ∀ callback ∈ outstanding ++ [⟨fd, generation, close, serial⟩], motive callback := by
    intro motive earlier newest callback member
    simp only [List.mem_append, List.mem_singleton] at member
    rcases member with inOld | rfl
    · exact earlier callback inOld
    · exact newest
  refine ⟨dispatched.numbered, dispatched.known, ledger.inOrder, ?_, ?_, ?_, ?_, ?_, ?_, ?_⟩
  · apply inAppend dispatched.asked
    exact List.mem_append_right _ (List.mem_singleton.mpr rfl)
  · rw [List.map_append, List.nodup_append]
    refine ⟨ledger.single, List.nodup_singleton _, ?_⟩
    intro first inFirst second inSecond
    obtain ⟨callback, member, rfl⟩ := List.mem_map.mp inFirst
    rw [List.map_singleton, List.mem_singleton] at inSecond
    subst inSecond
    exact ledger.unmarked_free slot callback member
  · apply inAppend ledger.last
    intro entry member _
    exact ledger.serial_lt (ledger.known entry member)
  · exact inAppend ledger.issued (ledger.current fd generation false slot)
  · intro other otherGeneration pending found
    obtain ⟨wasPending, before⟩ := sameGeneration other _ _ found
    exact ledger.current other otherGeneration wasPending before
  · intro first second otherGeneration firstPending secondPending inFirst inSecond
    obtain ⟨wasFirst, beforeFirst⟩ := sameGeneration first _ _ inFirst
    obtain ⟨wasSecond, beforeSecond⟩ := sameGeneration second _ _ inSecond
    exact ledger.distinct first second otherGeneration wasFirst wasSecond beforeFirst beforeSecond
  · intro other otherGeneration pending found
    rcases old other otherGeneration pending found with marked | before
    · intro _ _ _
      exact marked
    · apply inAppend (ledger.marked other otherGeneration pending before)
      intro same
      have here : other = fd := ledger.distinct other fd generation pending false
        (by rw [before, ← same]) slot
      subst here
      rw [Function.update_self] at found
      cases found
      rfl

end Keeps

/-- The mark is taken off a descriptor to which no callback is on its way. -/
theorem unmark (ledger : Ledger next slots outstanding serial history) {fd : Int}
    {generation : Nat} {pending : Bool} (slot : slots fd = some (generation, pending))
    (free : ∀ callback ∈ outstanding, callback.generation ≠ generation) :
    Ledger next (Function.update slots fd (some (generation, false))) outstanding serial
      history := by
  have before : ∀ other otherGeneration otherPending,
      Function.update slots fd (some (generation, false)) other =
        some (otherGeneration, otherPending) →
      (other = fd ∧ otherGeneration = generation) ∨
        slots other = some (otherGeneration, otherPending) := by
    intro other otherGeneration otherPending found
    by_cases same : other = fd
    · rw [same, Function.update_self] at found
      cases found
      exact .inl ⟨same, rfl⟩
    · rw [Function.update_of_ne same] at found
      exact .inr found
  have sameGeneration : ∀ other otherGeneration otherPending,
      Function.update slots fd (some (generation, false)) other =
        some (otherGeneration, otherPending) →
      ∃ wasPending, slots other = some (otherGeneration, wasPending) := by
    intro other otherGeneration otherPending found
    rcases before other otherGeneration otherPending found with ⟨rfl, rfl⟩ | old
    · exact ⟨pending, slot⟩
    · exact ⟨otherPending, old⟩
  refine { ledger with current := ?_, distinct := ?_, marked := ?_ }
  · intro other otherGeneration otherPending found
    obtain ⟨wasPending, old⟩ := sameGeneration other _ _ found
    exact ledger.current other otherGeneration wasPending old
  · intro first second otherGeneration firstPending secondPending inFirst inSecond
    obtain ⟨wasFirst, oldFirst⟩ := sameGeneration first _ _ inFirst
    obtain ⟨wasSecond, oldSecond⟩ := sameGeneration second _ _ inSecond
    exact ledger.distinct first second otherGeneration wasFirst wasSecond oldFirst oldSecond
  · intro other otherGeneration otherPending found callback member same
    rcases before other otherGeneration otherPending found with ⟨rfl, rfl⟩ | old
    · exact absurd same (free callback member)
    · exact ledger.marked other otherGeneration otherPending old callback member same

section Complete

variable {callback : Callback}
  (ledger : Ledger next slots (callback :: outstanding) serial history)

include ledger

theorem take : Ledger next slots outstanding serial history := by
  apply ledger.fewer
  · intro other member
    exact List.mem_cons_of_mem _ member
  · have single := ledger.single
    rw [List.map_cons, List.nodup_cons] at single
    exact single.2

theorem taken_free : ∀ other ∈ outstanding, other.generation ≠ callback.generation := by
  intro other member same
  have single := ledger.single
  rw [List.map_cons, List.nodup_cons] at single
  exact single.1 (same ▸ List.mem_map_of_mem member)

theorem complete {pending : Bool}
    (slot : slots callback.fd = some (callback.generation, pending)) :
    Ledger next (Function.update slots callback.fd (some (callback.generation, false)))
      outstanding serial { history with queued := history.queued ++ [callback.entry] } := by
  apply respond (ledger.take.unmark slot ledger.taken_free)
  · exact ledger.asked callback (by simp)
  · exact ledger.last callback (by simp)
  · exact ledger.taken_free

end Complete

end Ledger

end Aorta.Server
