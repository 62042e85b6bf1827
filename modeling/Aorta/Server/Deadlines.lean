import Aorta.Server.Delivery
import Aorta.Server.Watching

/-!
# Deadlines

A connection has ten seconds from when it was accepted, has sent bytes or has left a job
to the workers, and thirty from when a response was queued for it. The notes say what has
happened on which connection generation and when; the deadline in the state of a connection
is what follows from its last note. The timer removes the connections whose deadline has
passed, whatever they still wait for.
-/

namespace Aorta.Server

open Aorta.Library.Ascii Aorta.Library.FiniteMap Aorta.Library.Run Aorta.Http Aorta.Net

set_option autoImplicit false

def Activity.timeout : Activity → Int
  | .accepted => requestTimeoutSeconds * second
  | .received => requestTimeoutSeconds * second
  | .submitted => requestTimeoutSeconds * second
  | .answered => keepAliveTimeoutSeconds * second

def lastNote (notes : List Note) (generation : Nat) : Option Note :=
  (notes.filter fun note => note.generation = generation).getLast?

/-- The generations on which something has happened, as often as it has. -/
def notedFor (activity : Activity) (notes : List Note) : List Nat :=
  (notes.filter fun note => note.activity = activity).map Note.generation

/-- The deadline follows from the last note of the generation, and a job is outstanding if
and only if that note is about it. -/
def ConnectionState.Timed (notes : List Note) (state : ConnectionState) : Prop :=
  ∃ note, lastNote notes state.generation = some note ∧
    state.deadline = note.reading + note.activity.timeout ∧
    (state.redisPending = true ↔ note.activity = .submitted)

theorem last_note_same (notes : List Note) (note : Note) :
    lastNote (notes ++ [note]) note.generation = some note := by
  unfold lastNote
  rw [List.filter_append, List.filter_singleton]
  simp

theorem last_note_other (notes : List Note) {note : Note} {generation : Nat}
    (differs : note.generation ≠ generation) :
    lastNote (notes ++ [note]) generation = lastNote notes generation := by
  unfold lastNote
  rw [List.filter_append, List.filter_singleton]
  simp [differs]

theorem noted_for_append (activity : Activity) (notes : List Note) (note : Note) :
    notedFor activity (notes ++ [note]) =
      notedFor activity notes ++ if note.activity = activity then [note.generation] else [] := by
  unfold notedFor
  rw [List.filter_append, List.map_append, List.filter_singleton]
  by_cases same : note.activity = activity
  · simp [same]
  · simp [same]

/-- What holds of the notes and of the states of the open descriptors. -/
structure Noted (next : Nat) (states : Int → Option ConnectionState) (queued : List Entry)
    (notes : List Note) : Prop where
  issued : ∀ note ∈ notes, note.generation ≤ next
  current : ∀ fd state, states fd = some state → state.generation ≤ next
  distinct : ∀ first second state other, states first = some state →
    states second = some other → state.generation = other.generation → first = second
  timed : ∀ fd state, states fd = some state → state.Timed notes
  accepts : notedFor .accepted notes = List.range' 1 next
  answers : notedFor .answered notes = queued.map Entry.generation

namespace Noted

variable {next : Nat} {states : Int → Option ConnectionState} {queued : List Entry}
  {notes : List Note}

theorem start : Noted 0 (fun _ => none) [] [] := by
  constructor <;> simp [notedFor]

/-- Descriptors may be closed and watched for other events. -/
theorem narrow (noted : Noted next states queued notes) {fewer : Int → Option ConnectionState}
    (earlier : ∀ fd state, fewer fd = some state →
      ∃ old events, states fd = some old ∧ state = { old with currentEvents := events }) :
    Noted next fewer queued notes := by
  refine ⟨noted.issued, ?_, ?_, ?_, noted.accepts, noted.answers⟩
  · intro fd state found
    obtain ⟨old, events, foundOld, rfl⟩ := earlier fd state found
    exact noted.current fd old foundOld
  · intro first second state other found foundOther same
    obtain ⟨old, events, foundOld, rfl⟩ := earlier first state found
    obtain ⟨older, others, foundOlder, rfl⟩ := earlier second other foundOther
    exact noted.distinct first second old older foundOld foundOlder same
  · intro fd state found
    obtain ⟨old, events, foundOld, rfl⟩ := earlier fd state found
    exact noted.timed fd old foundOld

theorem close {fd : Int} {state : Option ConnectionState}
    (noted : Noted next (Function.update states fd state) queued notes) :
    Noted next (Function.update states fd none) queued notes := by
  apply noted.narrow
  intro other found isFound
  by_cases same : other = fd
  · rw [same, Function.update_self] at isFound
    cases isFound
  · rw [Function.update_of_ne same] at isFound ⊢
    exact ⟨found, found.currentEvents, isFound, rfl⟩

theorem accept (noted : Noted next states queued notes) (fd : Int) (clock : Int) :
    Noted (next + 1) (Function.update states fd (some (.accepted clock (next + 1)))) queued
      (notes ++ [⟨next + 1, .accepted, clock⟩]) := by
  have older : ∀ other state, other ≠ fd →
      Function.update states fd (some (.accepted clock (next + 1))) other = some state →
      states other = some state ∧ state.generation ≤ next := by
    intro other state differs found
    rw [Function.update_of_ne differs] at found
    exact ⟨found, noted.current other state found⟩
  constructor
  · intro note member
    rcases List.mem_append.mp member with earlier | new
    · exact Nat.le_succ_of_le (noted.issued note earlier)
    · rw [List.mem_singleton.mp new]
  · intro other state found
    by_cases same : other = fd
    · rw [same, Function.update_self] at found
      cases found
      exact Nat.le_refl _
    · exact Nat.le_succ_of_le (older other state same found).2
  · intro first last state other found foundOther same
    by_cases isFirst : first = fd
    · by_cases isLast : last = fd
      · rw [isFirst, isLast]
      · rw [isFirst, Function.update_self] at found
        cases found
        have below := (older last other isLast foundOther).2
        rw [← same] at below
        exact absurd below (Nat.not_succ_le_self next)
    · obtain ⟨here, below⟩ := older first state isFirst found
      by_cases isLast : last = fd
      · rw [isLast, Function.update_self] at foundOther
        cases foundOther
        rw [same] at below
        exact absurd below (Nat.not_succ_le_self next)
      · exact noted.distinct first last state other here (older last other isLast foundOther).1 same
  · intro other state found
    by_cases same : other = fd
    · rw [same, Function.update_self] at found
      cases found
      exact ⟨_, last_note_same notes _, rfl, nofun, nofun⟩
    · obtain ⟨here, below⟩ := older other state same found
      obtain ⟨note, last, deadline, pending⟩ := noted.timed other state here
      refine ⟨note, ?_, deadline, pending⟩
      rw [last_note_other notes (show next + 1 ≠ state.generation by omega)]
      exact last
  · rw [noted_for_append, noted.accepts, if_pos rfl, List.range'_1_concat, Nat.add_comm 1 next]
  · rw [noted_for_append, noted.answers,
      if_neg (show Activity.accepted ≠ .answered by decide), List.append_nil]

/-- Something happens on an open descriptor, and its deadline is set for it. -/
theorem happen {fd : Int} {state : ConnectionState}
    (noted : Noted next (Function.update states fd (some state)) queued notes)
    {activity : Activity} (later : activity ≠ .accepted) (clock : Int)
    (after : ConnectionState) (more : List Entry)
    (generation : after.generation = state.generation)
    (deadline : after.deadline = clock + activity.timeout)
    (pending : after.redisPending = true ↔ activity = .submitted)
    (told : more.map Entry.generation =
      if activity = .answered then [state.generation] else []) :
    Noted next (Function.update states fd (some after)) (queued ++ more)
      (notes ++ [⟨state.generation, activity, clock⟩]) := by
  have here : Function.update states fd (some state) fd = some state := Function.update_self ..
  have others : ∀ other found, other ≠ fd →
      Function.update states fd (some after) other = some found →
      Function.update states fd (some state) other = some found := by
    intro other found differs isFound
    rw [Function.update_of_ne differs] at isFound ⊢
    exact isFound
  constructor
  · intro note member
    rcases List.mem_append.mp member with earlier | new
    · exact noted.issued note earlier
    · rw [List.mem_singleton.mp new]
      exact noted.current fd state here
  · intro other found isFound
    by_cases same : other = fd
    · rw [same, Function.update_self] at isFound
      cases isFound
      rw [generation]
      exact noted.current fd state here
    · exact noted.current other found (others other found same isFound)
  · intro first last found other isFound isOther same
    by_cases isFirst : first = fd
    · by_cases isLast : last = fd
      · rw [isFirst, isLast]
      · rw [isFirst, Function.update_self] at isFound
        cases isFound
        rw [generation] at same
        rw [isFirst]
        exact noted.distinct fd last state other here (others last other isLast isOther) same
    · have earlier := others first found isFirst isFound
      by_cases isLast : last = fd
      · rw [isLast, Function.update_self] at isOther
        cases isOther
        rw [generation] at same
        rw [isLast]
        exact noted.distinct first fd found state earlier here same
      · exact noted.distinct first last found other earlier (others last other isLast isOther) same
  · intro other found isFound
    by_cases same : other = fd
    · rw [same, Function.update_self] at isFound
      cases isFound
      refine ⟨⟨state.generation, activity, clock⟩, ?_, deadline, pending⟩
      rw [generation]
      exact last_note_same notes _
    · have earlier := others other found same isFound
      obtain ⟨note, last, deadline, pending⟩ := noted.timed other found earlier
      refine ⟨note, ?_, deadline, pending⟩
      have apart : state.generation ≠ found.generation := by
        intro equal
        exact same (noted.distinct fd other state found here earlier equal).symm
      rw [last_note_other notes apart]
      exact last
  · rw [noted_for_append, noted.accepts, if_neg later, List.append_nil]
  · rw [noted_for_append, noted.answers, List.map_append, told]

end Noted

namespace Session

variable (handle : Nat → HttpRequest → HandleResult) (openFile : Bytes → Option Int)

/-- With its state put back, the session would leave the notes in step with the states. -/
def OnTime (next : Nat) (others : Int → Option ConnectionState) (fd : Int) (session : Session) :
    Prop :=
  session.fd = fd ∧ session.state.redisPending = false ∧
    Noted next (Function.update others fd (some session.state)) session.shared.history.queued
      session.shared.notes

variable {next : Nat} {others : Int → Option ConnectionState} {fd : Int} {session : Session}

theorem OnTime.received (onTime : session.OnTime next others fd) :
    session.received.OnTime next others fd := by
  obtain ⟨sameFd, idle, noted⟩ := onTime
  refine ⟨sameFd, idle, ?_⟩
  have free : session.received.state.redisPending = false := idle
  have happened := noted.happen (show Activity.received ≠ .accepted by decide)
    session.shared.clock session.received.state [] rfl rfl (by rw [free]; decide) rfl
  rw [List.append_nil] at happened
  exact happened

end Session

namespace Reactor

variable (handle : Nat → HttpRequest → HandleResult) {reactor : Reactor}

def Dated (reactor : Reactor) : Prop :=
  Noted reactor.nextConnectionGeneration (find reactor.connectionStates)
    reactor.shared.history.queued reactor.shared.notes

theorem Quiet.dated {before after : Reactor} (quiet : Quiet before after)
    (dated : before.Dated) : after.Dated := by
  unfold Dated
  rw [quiet.next, quiet.history, quiet.notes]
  exact dated.narrow quiet.states

/-- The descriptors that `removeExpiredConnections` finds, in some order. -/
def expiredFds (reactor : Reactor) : List Int :=
  reactor.connectionStates.keys.filter fun fd =>
    (reactor.connectionStates.lookup fd).any fun state => state.deadline ≤ reactor.shared.clock

/-- The event as the reactor sees it: when the timer fires, the deadlines say who has
expired. -/
def event (reactor : Reactor) : Input → Input
  | .timer _ => .timer reactor.expiredFds
  | input => input

end Reactor

end Aorta.Server
