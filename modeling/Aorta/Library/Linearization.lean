import Mathlib.Data.List.Nodup

/-!
# Linearization

Calls are asked for, executed one after the other, and answered. What was executed is kept
in a log that only grows. Where a call is executed after it was asked for, at most once, and
answered only after that, the log is an order in which all answered calls can have happened,
one at a time, each between its asking and its answer.
-/

namespace Aorta.Library.Linearization

set_option autoImplicit false

variable {Ticket Call Result : Type*}

inductive Event (Ticket Call Result : Type*) where
  | asked (ticket : Ticket) (call : Call)
  | answered (ticket : Ticket) (result : Result)
deriving DecidableEq, Repr

/-- A call as it was executed. -/
structure Execution (Ticket Call Result : Type*) where
  ticket : Ticket
  call : Call
  result : Result
deriving DecidableEq, Repr

/-- A history and the log of its executions. -/
inductive Recorded : List (Event Ticket Call Result) → List (Execution Ticket Call Result) → Prop
  | nil : Recorded [] []
  | asked {history : List (Event Ticket Call Result)} {log : List (Execution Ticket Call Result)}
      (recorded : Recorded history log) (ticket : Ticket) (call : Call)
      (fresh : ∀ other, Event.asked ticket other ∉ history) :
      Recorded (history ++ [.asked ticket call]) log
  | executed {history : List (Event Ticket Call Result)}
      {log : List (Execution Ticket Call Result)} (recorded : Recorded history log)
      (ticket : Ticket) (call : Call) (result : Result)
      (known : Event.asked ticket call ∈ history) (once : ticket ∉ log.map Execution.ticket) :
      Recorded history (log ++ [⟨ticket, call, result⟩])
  | answered {history : List (Event Ticket Call Result)}
      {log : List (Execution Ticket Call Result)} (recorded : Recorded history log)
      (execution : Execution Ticket Call Result) (done : execution ∈ log) :
      Recorded (history ++ [.answered execution.ticket execution.result]) log

/-- The log is a legal order of calls that explains the history: every answer is that of an
execution, and a call that was answered before another was asked for comes before it. -/
structure Linearizes (legal : List (Call × Result) → Prop)
    (history : List (Event Ticket Call Result)) (log : List (Execution Ticket Call Result)) :
    Prop where
  legal : legal (log.map fun execution => (execution.call, execution.result))
  once : (log.map Execution.ticket).Nodup
  asked : ∀ execution ∈ log, Event.asked execution.ticket execution.call ∈ history
  answered : ∀ ticket result, Event.answered ticket result ∈ history →
    ∃ call, ⟨ticket, call, result⟩ ∈ log
  ordered : ∀ before after, history = before ++ after →
    ∃ earlier later, log = earlier ++ later ∧
      (∀ ticket result, Event.answered ticket result ∈ before →
        ticket ∈ earlier.map Execution.ticket) ∧
      ∀ ticket call, Event.asked ticket call ∈ after → ticket ∉ earlier.map Execution.ticket

namespace Recorded

variable {history : List (Event Ticket Call Result)} {log : List (Execution Ticket Call Result)}

theorem asked_of_log (recorded : Recorded history log) :
    ∀ execution ∈ log, Event.asked execution.ticket execution.call ∈ history := by
  induction recorded with
  | nil =>
      intro execution member
      cases member
  | asked recorded ticket call fresh ih =>
      intro execution member
      exact List.mem_append_left _ (ih execution member)
  | executed recorded ticket call result known once ih =>
      intro execution member
      rcases List.mem_append.mp member with earlier | new
      · exact ih execution earlier
      · rw [List.mem_singleton.mp new]
        exact known
  | answered recorded execution done ih =>
      intro other member
      exact List.mem_append_left _ (ih other member)

theorem asked_once (recorded : Recorded history log) {ticket : Ticket} {first second : Call}
    (asked : Event.asked ticket first ∈ history) (again : Event.asked ticket second ∈ history) :
    first = second := by
  induction recorded with
  | nil => cases asked
  | asked recorded other call fresh ih =>
      rcases List.mem_append.mp asked with earlier | new
      · rcases List.mem_append.mp again with alsoEarlier | alsoNew
        · exact ih earlier alsoEarlier
        · cases List.mem_singleton.mp alsoNew
          exact absurd earlier (fresh first)
      · cases List.mem_singleton.mp new
        rcases List.mem_append.mp again with alsoEarlier | alsoNew
        · exact absurd alsoEarlier (fresh second)
        · cases List.mem_singleton.mp alsoNew
          rfl
  | executed recorded other call result known once ih => exact ih asked again
  | answered recorded execution done ih =>
      rcases List.mem_append.mp asked with earlier | new
      · rcases List.mem_append.mp again with alsoEarlier | alsoNew
        · exact ih earlier alsoEarlier
        · cases List.mem_singleton.mp alsoNew
      · cases List.mem_singleton.mp new

theorem executed_once (recorded : Recorded history log) :
    (log.map Execution.ticket).Nodup := by
  induction recorded with
  | nil => exact List.nodup_nil
  | asked recorded ticket call fresh ih => exact ih
  | executed recorded ticket call result known once ih =>
      rw [List.map_append]
      apply List.Nodup.append ih (List.nodup_singleton ticket)
      intro other earlier new
      rw [List.mem_singleton.mp new] at earlier
      exact once earlier
  | answered recorded execution done ih => exact ih

theorem answered_of_log (recorded : Recorded history log) :
    ∀ ticket result, Event.answered ticket result ∈ history →
      ∃ call, ⟨ticket, call, result⟩ ∈ log := by
  induction recorded with
  | nil =>
      intro ticket result member
      cases member
  | asked recorded asked call fresh ih =>
      intro ticket result member
      rcases List.mem_append.mp member with earlier | new
      · exact ih ticket result earlier
      · cases List.mem_singleton.mp new
  | executed recorded executed call given known once ih =>
      intro ticket result member
      obtain ⟨other, earlier⟩ := ih ticket result member
      exact ⟨other, List.mem_append_left _ earlier⟩
  | answered recorded execution done ih =>
      intro ticket result member
      rcases List.mem_append.mp member with earlier | new
      · exact ih ticket result earlier
      · cases List.mem_singleton.mp new
        exact ⟨execution.call, done⟩

/-- What was executed when the history was shorter comes first. -/
theorem ordered (recorded : Recorded history log) :
    ∀ before after, history = before ++ after →
      ∃ earlier later, log = earlier ++ later ∧
        (∀ ticket result, Event.answered ticket result ∈ before →
          ticket ∈ earlier.map Execution.ticket) ∧
        ∀ ticket call, Event.asked ticket call ∈ after →
          ticket ∉ earlier.map Execution.ticket := by
  have answered_in_log : ∀ {history : List (Event Ticket Call Result)}
      {log : List (Execution Ticket Call Result)}, Recorded history log →
      ∀ ticket result, Event.answered ticket result ∈ history →
        ticket ∈ log.map Execution.ticket := by
    intro history log recorded ticket result member
    obtain ⟨call, done⟩ := recorded.answered_of_log ticket result member
    exact List.mem_map_of_mem done
  induction recorded with
  | nil =>
      intro before after split
      obtain ⟨rfl, rfl⟩ := List.append_eq_nil_iff.mp split.symm
      refine ⟨[], [], rfl, ?_, ?_⟩
      · intro ticket result member
        cases member
      · intro ticket call member
        cases member
  | @asked history log recorded ticket call fresh ih =>
      intro before after split
      rcases List.eq_nil_or_concat' after with rfl | ⟨rest, last, rfl⟩
      · refine ⟨log, [], (List.append_nil log).symm, ?_, ?_⟩
        · rw [List.append_nil] at split
          rw [← split]
          exact answered_in_log (recorded.asked ticket call fresh)
        · intro other otherCall member
          cases member
      · rw [← List.append_assoc] at split
        obtain ⟨same, isLast⟩ := List.append_inj' split rfl
        obtain ⟨earlier, later, whole, answers, asks⟩ := ih before rest same
        refine ⟨earlier, later, whole, answers, ?_⟩
        intro other otherCall member
        rcases List.mem_append.mp member with inside | new
        · exact asks other otherCall inside
        · rw [← isLast] at new
          cases List.mem_singleton.mp new
          intro executed
          obtain ⟨execution, listed, is_ticket⟩ := List.mem_map.mp executed
          have member : execution ∈ log := by
            rw [whole]
            exact List.mem_append_left _ listed
          have known := recorded.asked_of_log execution member
          rw [is_ticket] at known
          exact fresh execution.call known
  | executed recorded ticket call result known once ih =>
      intro before after split
      obtain ⟨earlier, later, whole, answers, asks⟩ := ih before after split
      exact ⟨earlier, later ++ [⟨ticket, call, result⟩], by rw [whole, List.append_assoc],
        answers, asks⟩
  | @answered history log recorded execution done ih =>
      intro before after split
      rcases List.eq_nil_or_concat' after with rfl | ⟨rest, last, rfl⟩
      · refine ⟨log, [], (List.append_nil log).symm, ?_, ?_⟩
        · rw [List.append_nil] at split
          rw [← split]
          exact answered_in_log (recorded.answered execution done)
        · intro other otherCall member
          cases member
      · rw [← List.append_assoc] at split
        obtain ⟨same, isLast⟩ := List.append_inj' split rfl
        obtain ⟨earlier, later, whole, answers, asks⟩ := ih before rest same
        refine ⟨earlier, later, whole, answers, ?_⟩
        intro other otherCall member
        rcases List.mem_append.mp member with inside | new
        · exact asks other otherCall inside
        · rw [← isLast] at new
          cases List.mem_singleton.mp new

theorem linearizes (recorded : Recorded history log) {legal : List (Call × Result) → Prop}
    (isLegal : legal (log.map fun execution => (execution.call, execution.result))) :
    Linearizes legal history log where
  legal := isLegal
  once := recorded.executed_once
  asked := recorded.asked_of_log
  answered := recorded.answered_of_log
  ordered := recorded.ordered

end Recorded

end Aorta.Library.Linearization
