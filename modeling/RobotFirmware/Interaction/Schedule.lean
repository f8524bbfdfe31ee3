import RobotFirmware.Interaction.Monitor

/-!
# Schedules

A schedule is a list of steps to be done in their order. An operation shows which step it attempts,
and its answer whether the step is done, so that a step may be attempted until it succeeds. Under
the monitor of a schedule the steps done so far are always the first of the list.
-/

namespace Interaction

variable {Op Step : Type} {Ans : Op → Type}

/-- The steps to be done, and the operations that do them. -/
structure Schedule (Ans : Op → Type) (Step : Type) where
  /-- All steps, in their order. -/
  plan : List Step
  /-- The step that an operation attempts. -/
  attempts : Op → Option Step
  /-- The step that an answered operation has done. -/
  performs : (op : Op) → Ans op → Option Step
  /-- Only a step that was attempted is done. -/
  attempted : ∀ op answer, ∀ step ∈ performs op answer, step ∈ attempts op

namespace Schedule

variable (schedule : Schedule Ans Step)

/-- The steps done in a trace. -/
def steps (trace : List (Event Ans)) : List Step :=
  trace.filterMap fun event => schedule.performs event.op event.answer

/-- Allow a step only when it is the next one, and other operations where a condition on the steps
done allows them. -/
abbrev monitor (permits : List Step → Op → Prop) : Monitor Ans :=
  .noting schedule.performs fun done op =>
    (∀ step ∈ schedule.attempts op, done ++ [step] <+: schedule.plan) ∧ permits done op

variable {schedule} {permits : List Step → Op → Prop} {done : List Step}

/-- The first event of a trace does at most one step. -/
theorem steps_cons (event : Event Ans) (trace : List (Event Ans)) :
    schedule.steps (event :: trace) =
      (schedule.performs event.op event.answer).toList ++ schedule.steps trace := by
  rw [steps, List.filterMap_cons]
  cases schedule.performs event.op event.answer <;> rfl

/-- The monitor has seen the steps of the trace. -/
theorem after_eq (trace : List (Event Ans)) :
    (schedule.monitor permits).after done trace = done ++ schedule.steps trace :=
  Monitor.noting_after done trace

/-- An allowed operation goes on with the plan, or does nothing. -/
theorem next_planned {op : Op} (allowed : (schedule.monitor permits).allows done op)
    (early : done <+: schedule.plan) (answer : Ans op) :
    done ++ (schedule.performs op answer).toList <+: schedule.plan := by
  cases performed : schedule.performs op answer with
  | none => simpa using early
  | some step => exact allowed.1 step (schedule.attempted op answer step performed)

/-- The steps of an accepted trace are the first of the plan. -/
theorem steps_planned {trace : List (Event Ans)}
    (accepted : (schedule.monitor permits).Accepts done trace) (early : done <+: schedule.plan) :
    done ++ schedule.steps trace <+: schedule.plan := by
  induction trace generalizing done with
  | nil => simpa [steps] using early
  | cons event trace ih =>
    obtain ⟨allowed, later⟩ := accepted
    rw [steps_cons, ← List.append_assoc]
    exact ih later (next_planned allowed early event.answer)

/-- Once an event has been accepted that is permitted only after the whole plan, all its steps are
done. -/
theorem steps_complete {trace : List (Event Ans)} {event : Event Ans}
    (accepted : (schedule.monitor permits).Accepts done trace) (early : done <+: schedule.plan)
    (member : event ∈ trace) (last : ∀ done, permits done event.op → done = schedule.plan) :
    done ++ schedule.steps trace = schedule.plan := by
  induction trace generalizing done with
  | nil => cases member
  | cons first trace ih =>
    have whole := steps_planned accepted early
    obtain ⟨allowed, later⟩ := accepted
    obtain rfl | after := List.mem_cons.mp member
    · obtain rfl := last done allowed.2
      have nothing : schedule.steps (event :: trace) = [] := by
        have short := whole.length_le
        rw [List.length_append] at short
        exact List.eq_nil_of_length_eq_zero (by omega)
      rw [nothing, List.append_nil]
    · rw [steps_cons, ← List.append_assoc]
      exact ih later (next_planned allowed early first.answer) after

/-- An operation that attempts no step does none. -/
theorem performs_none {op : Op} (idle : schedule.attempts op = none) (answer : Ans op) :
    schedule.performs op answer = none :=
  Option.eq_none_iff_forall_not_mem.mpr fun step performed => by
    have attempted := schedule.attempted op answer step performed
    rw [idle] at attempted
    cases attempted

/-- Such an operation is allowed where the condition holds, and changes nothing. -/
theorem idle {op : Op} (idle : schedule.attempts op = none) (permitted : permits done op) :
    (schedule.monitor permits).allows done op ∧
      ∀ answer, (schedule.monitor permits).next done op answer = done := by
  refine ⟨⟨fun step attempted => ?_, permitted⟩, fun answer => ?_⟩
  · rw [idle] at attempted
    cases attempted
  · change done ++ (schedule.performs op answer).toList = done
    rw [performs_none idle]
    exact List.append_nil done

end Schedule

end Interaction
