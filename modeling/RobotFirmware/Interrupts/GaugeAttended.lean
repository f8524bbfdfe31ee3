import RobotFirmware.Interrupts.GaugeLine
import Mathlib.Data.List.Basic

/-!
# Who attends to the fuel gauge

Core 0 is to expect the falling edge of the line, or the rising edge while a parse call is queued or
the line is low. What each thread relies on is given by where it stands: one predicate for
`bq27742_g1_init` on core 0, one for the handler that interrupts it. Every step keeps them as long
as the threads do not cross: core 1 clears the pending flag only when core 0 re-arms its own edge,
a refused call finds the line released, and no edge falls that nobody hears.
-/

namespace RobotFirmware

open Interaction
open TypeC (Thread callQueueCapacity)

namespace GaugeLine

/-! ## Moves -/

/-- A deed that is no move of any thread. -/
def Deed.Foreign : Deed → Prop
  | .other => True
  | .queue entry _ => entry.func ≠ .bq27742G1ParseInterruptVals
  | _ => False

/-- The deeds that move a thread on. -/
inductive Stage.Move : Stage → Deed → Stage → Prop where
  | enable : Move .enabling (.enable ⟨false, true⟩ true) .looking
  | look (high : Bool) : Move .looking (.level high) (if high then .idle else .checking)
  | acknowledge : Move .acknowledging (.acknowledge ⟨false, true⟩) .checking
  | check (pending : Bool) :
      Move .checking (.seePending pending) (if pending then .idle else .claiming)
  | claim : Move .claiming (.setPending true) .muting
  | mute : Move .muting (.enable ⟨false, true⟩ false) .listening
  | listen : Move .listening (.enable ⟨true, false⟩ true) .offering
  | offer {entry : QueueEntry} (parse : entry.func = .bq27742G1ParseInterruptVals) (added : Bool) :
      Move .offering (.queue entry added) (if added then .idle else .refused)
  | refuse (high : Bool) : Move .refused (.level high) (if high then .clearing else .idle)
  | deassert : Move .deasserted (.acknowledge ⟨true, false⟩) .released
  | release (high : Bool) : Move .released (.level high) (if high then .clearing else .idle)
  | report (high : Bool) : Move .reporting (.level high) .finishing
  | finish (high : Bool) : Move .finishing (.level high) (if high then .clearing else .idle)
  | clear : Move .clearing (.setPending false) .deafening
  | deafen : Move .deafening (.enable ⟨true, false⟩ false) .arming
  | arm : Move .arming (.enable ⟨false, true⟩ true) .idle

/-- A thread stays where it is at a foreign deed, and moves at any other. -/
theorem Stage.step_cases {stage next : Stage} {what : Deed}
    (stepped : stage.step what = some next) :
    what.Foreign ∧ next = stage ∨ stage.Move what next := by
  revert stepped
  fun_cases Stage.step stage what
  all_goals
    intro stepped
    cases stepped <;> first
      | exact .inl ⟨trivial, rfl⟩
      | exact .inl ⟨‹_›, rfl⟩
      | exact .inr (.offer ‹_› _)
      | exact .inr (by constructor)

/-- A thread that is not to answer another edge goes where its stage goes. -/
theorem Progress.after_of_step {stage next : Stage} {what : Deed}
    (stepped : stage.step what = some next) :
    (⟨stage, false⟩ : Progress).after what = ⟨next, false⟩ := by
  rw [Progress.after, stepped]
  cases next <;> rfl

namespace Line

/-- The falling edge is expected. -/
def Armed (line : Line) : Prop := line.pending = false ∧ line.enabled.fall = true

/-- The rising edge is expected, or has come. -/
def Listening (line : Line) : Prop :=
  line.enabled.fall = false ∧ line.enabled.rise = true ∧
    (line.pending = true ∨ line.latched.rise = true)

/-- The rising edge has come, or is expected after the parse call for the last falling edge. -/
def Waiting (line : Line) : Prop :=
  line.Listening ∧ (line.latched.rise = true ∨
    line.queuedSince = true ∧ (line.low = true ∨ line.Queued))

/-- Neither deaf nor dropped. -/
def Settled (line : Line) : Prop := line.Armed ∨ line.Waiting

/-- Where core 0 stands in `bq27742_g1_init` while no handler runs. -/
def Main (line : Line) : Stage → Prop
  | .idle | .looking | .checking => line.Settled
  | .enabling | .arming =>
    line.pending = false ∧ line.enabled.fall = false ∧ line.enabled.rise = false
  | .claiming | .offering | .refused | .clearing => line.Armed ∨ line.Listening
  | .muting | .deafening => True
  | .listening =>
    line.pending = true ∧ line.enabled.fall = false ∧ line.enabled.rise = false
  | _ => False

/-- Where the interrupt handler stands. -/
def Handler (line : Line) : Stage → Prop
  | .idle => line.Main (line.stage .core0)
  | .acknowledging | .checking => line.enabled.fall = true ∧ line.Main (line.stage .core0)
  | .claiming => line.enabled.fall = true ∧ line.pending = false
  | .muting => line.enabled.fall = true ∧ line.pending = true
  | .listening =>
    line.pending = true ∧ line.enabled.fall = false ∧ line.enabled.rise = false
  | .offering | .refused => line.Listening
  | .deasserted | .released | .clearing => line.enabled.fall = false ∧ line.enabled.rise = true
  | .deafening => line.enabled.fall = false ∧ line.pending = false
  | .arming => line.enabled.fall = false ∧ line.enabled.rise = false ∧ line.pending = false
  | _ => False

/-- Stages of `bq27742_g1_init` in which it can be interrupted. -/
def resumable : List Stage :=
  [.idle, .looking, .checking, .claiming, .muting, .offering, .refused, .clearing, .deafening]

/-- Stages of core 1. -/
def working : List Stage := [.idle, .reporting, .finishing, .clearing, .deafening, .arming]

/-! ## The condition -/

/-- A low line has been answered, or will be. -/
def Answered (line : Line) : Prop :=
  line.low = false ∨ line.enabled.fall = true ∨ line.waiting.rise = true ∨
    line.pending = true ∧ line.queuedSince = true

/-- Core 0 re-arms the falling edge, or has. -/
def Rearmed (line : Line) : Prop :=
  line.pending = false ∨ line.waiting.rise = true ∨
    line.stage .interrupt ∈ [.deasserted, .released, .clearing]

/-- A falling edge would be noticed on core 0. -/
def Heard (line : Line) : Prop :=
  line.enabled.fall = true ∨ line.waiting.rise = true ∨ line.stage .interrupt ≠ .idle ∨
    line.stage .core0 ∉ [.idle, .looking, .checking]

/-- What a change of the level needs. -/
def Changes (line : Line) : Prop := line.low = false → line.Heard

/-- Core 1 may take a parse call from the queue: the line is low, core 0 would hear a falling edge,
or another parse call is queued. -/
def Taken (line : Line) : Prop :=
  line.callQueue.head?.map QueueEntry.func = some .bq27742G1ParseInterruptVals →
    line.low = true ∨ line.Heard ∨ Queued { line with callQueue := line.callQueue.tail }

/-- What a launch needs. -/
def Starts (line : Line) (thread : Thread) : Prop := thread = .core1 → line.Taken

/-- What a deed needs. -/
def Permits (line : Line) (thread : Thread) : Deed → Prop
  | .level _ => thread ≠ .core1 → line.stage thread ∈ [.refused, .released] → line.Answered
  | .setPending _ => thread = .core1 → line.Rearmed
  | .enable edges false => thread = .core0 →
    if edges.fall then line.pending = true ∧ line.enabled.fall = true
    else line.pending = false ∧ line.enabled.fall = false ∧ line.enabled.rise = true
  | _ => True

/-- A rising edge waits when it is enabled and latched. -/
theorem waiting_rise {line : Line} :
    line.waiting.rise = true ↔ line.enabled.rise = true ∧ line.latched.rise = true :=
  Bool.and_eq_true_iff

/-- A low line that has been answered will be waited for when the rising edge is enabled. -/
theorem Answered.waits {line : Line} (answered : line.Answered) (low : line.low = true)
    (muted : line.enabled.fall = false) (rise : line.enabled.rise = true) : line.Waiting := by
  obtain high | fall | rising | ⟨pending, since⟩ := answered
  · rw [low] at high
    cases high
  · rw [muted] at fall
    cases fall
  · have latched := (waiting_rise.mp rising).2
    exact ⟨⟨muted, rise, .inr latched⟩, .inl latched⟩
  · exact ⟨⟨muted, rise, .inl pending⟩, .inr ⟨since, .inl low⟩⟩

/-! ## What a deed keeps -/

/-- Core 0 may stand anywhere when the line is settled. -/
theorem Settled.main {line : Line} (settled : line.Settled) {stage : Stage}
    (resumes : stage ∈ resumable) : line.Main stage := by
  have expects : line.Armed ∨ line.Listening := settled.imp_right And.left
  cases stage <;> first | exact settled | exact expects | trivial

/-- What is expected stays expected. -/
structure Alike (line after : Line) : Prop where
  /-- A rising edge stays latched, and none comes. -/
  rising : after.latched.rise = line.latched.rise
  /-- The enables stay. -/
  enabled : after.enabled = line.enabled
  /-- The flag stays. -/
  pending : after.pending = line.pending

/-- Alike lines listen alike. -/
theorem Alike.listening {line after : Line} (alike : line.Alike after)
    (listening : line.Listening) : after.Listening := by
  simp only [Listening, alike.enabled, alike.pending, alike.rising]
  exact listening

/-- Core 0 relies on more only in the stages in which the line is settled. -/
theorem Alike.main {line after : Line} (alike : line.Alike after) {stage : Stage}
    (settled : stage ∈ [.idle, .looking, .checking] → line.Settled → after.Settled)
    (main : line.Main stage) : after.Main stage := by
  have expects : line.Armed ∨ line.Listening → after.Armed ∨ after.Listening := by
    simp only [Armed, Listening, alike.enabled, alike.pending, alike.rising]
    exact id
  cases stage <;> first
    | exact settled (by decide) main
    | exact expects main
    | exact trivial
    | exact False.elim main
    | simpa only [Main, alike.enabled, alike.pending] using main

/-- Where core 0 stands as before, so does the interrupt handler. -/
theorem Alike.handler {line after : Line} (alike : line.Alike after) {stage : Stage}
    (main : stage = .idle ∨ line.enabled.fall = true → line.Main (line.stage .core0) →
      after.Main (after.stage .core0))
    (handler : line.Handler stage) : after.Handler stage := by
  have fall : line.enabled.fall = true → after.enabled.fall = true := by
    rw [alike.enabled]
    exact id
  cases stage <;> first
    | exact main (.inl rfl) handler
    | exact ⟨fall handler.1, main (.inr handler.1) handler.2⟩
    | exact alike.listening handler
    | exact False.elim handler
    | simpa only [Handler, alike.enabled, alike.pending] using handler

/-- A falling edge, or a parse call that is taken, disturbs no thread if core 0 would hear it. -/
theorem Alike.heard {line after : Line} (alike : line.Alike after)
    (same : after.stage .core0 = line.stage .core0) (heard : line.Heard)
    (handler : line.Handler (line.stage .interrupt)) :
    after.Handler (line.stage .interrupt) := by
  have settles (seen : line.enabled.fall = true ∨ line.waiting.rise = true)
      (settled : line.Settled) : after.Settled := by
    obtain armed | ⟨listening, _⟩ := settled
    · left
      simp only [Armed, alike.enabled, alike.pending]
      exact armed
    · have rise := seen.resolve_left (Bool.eq_false_iff.mp listening.1)
      exact .inr ⟨alike.listening listening, .inl (alike.rising.trans (waiting_rise.mp rise).2)⟩
  refine alike.handler (fun idle main => ?_) handler
  rw [same]
  refine alike.main (fun stands => ?_) main
  obtain fall | rise | busy | engaged := heard
  · exact settles (.inl fall)
  · exact settles (.inr rise)
  · exact settles (.inl (idle.resolve_left busy))
  · exact absurd stands engaged

/-- Nothing that the stages rely on is lost. -/
structure Keeps (line after : Line) : Prop extends Alike line after where
  /-- A low line stays low. -/
  low : line.low = true → after.low = true
  /-- That a parse call was queued is remembered. -/
  since : line.queuedSince = true → after.queuedSince = true
  /-- A queued parse call stays queued, or is taken while the line is low. -/
  queued : line.Queued → after.Queued ∨ after.low = true

/-- It does not matter where the threads stand. -/
theorem Keeps.moved {line after : Line} (keeps : line.Keeps after) (progress : Thread → Progress) :
    line.Keeps { after with progress := progress } :=
  ⟨⟨keeps.rising, keeps.enabled, keeps.pending⟩, keeps.low, keeps.since, keeps.queued⟩

/-- A line that keeps everything stays settled. -/
theorem Keeps.settled {line after : Line} (keeps : line.Keeps after) (settled : line.Settled) :
    after.Settled := by
  obtain armed | ⟨listening, rest⟩ := settled
  · left
    simp only [Armed, keeps.enabled, keeps.pending]
    exact armed
  · refine .inr ⟨keeps.listening listening, ?_⟩
    rw [keeps.rising]
    refine rest.imp_right fun ⟨since, waits⟩ => ⟨keeps.since since, ?_⟩
    obtain low | queued := waits
    · exact .inl (keeps.low low)
    · exact (keeps.queued queued).symm

/-- Core 0 stands where it stood. -/
theorem Keeps.main {line after : Line} (keeps : line.Keeps after) {stage : Stage}
    (main : line.Main stage) : after.Main stage :=
  keeps.toAlike.main (fun _ => keeps.settled) main

/-- The interrupt handler stands where it stood. -/
theorem Keeps.handler {line after : Line} (keeps : line.Keeps after)
    (same : after.stage .core0 = line.stage .core0) {stage : Stage}
    (handler : line.Handler stage) : after.Handler stage := by
  refine keeps.toAlike.handler (fun _ main => ?_) handler
  rw [same]
  exact keeps.main main

/-- At most one of the edges is enabled. -/
def Single (line : Line) : Prop := ¬(line.enabled.fall = true ∧ line.enabled.rise = true)

/-- A parse call that is queued while the rising edge is expected will be waited for. -/
theorem Listening.queue {line : Line} (listening : line.Listening) {entry : QueueEntry}
    (parse : entry.func = .bq27742G1ParseInterruptVals) :
    Waiting { line with
      callQueue := if true then line.callQueue ++ [entry] else line.callQueue
      queuedSince := line.queuedSince || (true && entry.func = .bq27742G1ParseInterruptVals) } := by
  refine ⟨listening, .inr ⟨by simp [parse], .inr ⟨entry, ?_, parse⟩⟩⟩
  exact List.mem_append_right line.callQueue (List.mem_singleton_self entry)

/-- A move of core 0 leads to the next stage. -/
theorem Main.move {line after : Line} {stage next : Stage} {what : Deed} (single : line.Single)
    (main : line.Main stage) (at' : line.stage .core0 = stage) (move : stage.Move what next)
    (met : line.Permits .core0 what) (acted : line.act .core0 what = some after) :
    after.Single ∧ after.Main next := by
  cases move with
  | enable =>
    obtain rfl := Option.some.inj acted
    exact ⟨fun both => by simp_all [Main, Edges.union], .inl ⟨main.1, by simp [Edges.union]⟩⟩
  | look high =>
    obtain ⟨_, same⟩ := Option.ite_none_right_eq_some.mp acted
    obtain rfl := Option.some.inj same
    cases high <;> exact ⟨single, main⟩
  | acknowledge => exact main.elim
  | check pending =>
    obtain ⟨_, same⟩ := Option.ite_none_right_eq_some.mp acted
    obtain rfl := Option.some.inj same
    cases pending with
    | true => exact ⟨single, main⟩
    | false => exact ⟨single, main.imp_right And.left⟩
  | claim =>
    obtain rfl := Option.some.inj acted
    exact ⟨single, trivial⟩
  | mute =>
    obtain rfl := Option.some.inj acted
    have found := met rfl
    simp_all [Single, Main, Edges.minus]
  | listen =>
    obtain rfl := Option.some.inj acted
    simp_all [Single, Main, Listening, Edges.union]
  | offer parse added =>
    obtain ⟨_, same⟩ := Option.ite_none_right_eq_some.mp acted
    obtain rfl := Option.some.inj same
    cases added with
    | true => exact ⟨single, main.imp_right fun listening => listening.queue parse⟩
    | false =>
      simp only [Bool.false_eq_true, if_false, Bool.false_and, Bool.or_false]
      exact ⟨single, main⟩
  | refuse high =>
    obtain ⟨level, same⟩ := Option.ite_none_right_eq_some.mp acted
    obtain rfl := Option.some.inj same
    cases high with
    | true => exact ⟨single, main⟩
    | false =>
      have answered := met (by decide) (by simp [at'])
      have low : line.low = true := by simpa using level
      exact ⟨single, main.imp_right fun listening => answered.waits low listening.1 listening.2.1⟩
  | deassert => exact main.elim
  | release high => exact main.elim
  | report high => exact main.elim
  | finish high => exact main.elim
  | clear =>
    obtain rfl := Option.some.inj acted
    exact ⟨single, trivial⟩
  | deafen =>
    obtain rfl := Option.some.inj acted
    have found := met rfl
    simp_all [Single, Main, Edges.minus]
  | arm =>
    obtain rfl := Option.some.inj acted
    simp_all [Single, Main, Settled, Armed, Edges.union]

/-- A move of the interrupt handler leads to the next stage. -/
theorem Handler.move {line after : Line} {stage next : Stage} {what : Deed} (single : line.Single)
    (handler : line.Handler stage) (at' : line.stage .interrupt = stage)
    (resumes : line.stage .core0 ∈ resumable) (move : stage.Move what next)
    (met : line.Permits .interrupt what) (acted : line.act .interrupt what = some after) :
    after.Single ∧ after.Handler next := by
  cases move with
  | enable => exact handler.elim
  | look high => exact handler.elim
  | acknowledge =>
    obtain rfl := Option.some.inj acted
    have keeps : line.Keeps { line with latched := line.latched.minus ⟨false, true⟩ } :=
      ⟨⟨by simp [Edges.minus], rfl, rfl⟩, id, id, .inl⟩
    exact ⟨single, handler.1, keeps.main handler.2⟩
  | check pending =>
    obtain ⟨level, same⟩ := Option.ite_none_right_eq_some.mp acted
    obtain rfl := Option.some.inj same
    obtain ⟨fall, main⟩ := handler
    cases pending with
    | true => exact ⟨single, main⟩
    | false => exact ⟨single, fall, level.symm⟩
  | claim =>
    obtain rfl := Option.some.inj acted
    exact ⟨single, handler.1, rfl⟩
  | mute =>
    obtain rfl := Option.some.inj acted
    simp_all [Single, Handler, Edges.minus]
  | listen =>
    obtain rfl := Option.some.inj acted
    simp_all [Single, Handler, Listening, Edges.union]
  | offer parse added =>
    obtain ⟨_, same⟩ := Option.ite_none_right_eq_some.mp acted
    obtain rfl := Option.some.inj same
    cases added with
    | true => exact ⟨single, Settled.main (.inr (handler.queue parse)) resumes⟩
    | false =>
      simp only [Bool.false_eq_true, if_false, Bool.false_and, Bool.or_false]
      exact ⟨single, handler⟩
  | refuse high =>
    obtain ⟨level, same⟩ := Option.ite_none_right_eq_some.mp acted
    obtain rfl := Option.some.inj same
    cases high with
    | true => exact ⟨single, handler.1, handler.2.1⟩
    | false =>
      have answered := met (by decide) (by simp [at'])
      have low : line.low = true := by simpa using level
      exact ⟨single, Settled.main (.inr (answered.waits low handler.1 handler.2.1)) resumes⟩
  | deassert =>
    obtain rfl := Option.some.inj acted
    exact ⟨single, handler⟩
  | release high =>
    obtain ⟨level, same⟩ := Option.ite_none_right_eq_some.mp acted
    obtain rfl := Option.some.inj same
    cases high with
    | true => exact ⟨single, handler⟩
    | false =>
      have answered := met (by decide) (by simp [at'])
      have low : line.low = true := by simpa using level
      exact ⟨single, Settled.main (.inr (answered.waits low handler.1 handler.2)) resumes⟩
  | report high => exact handler.elim
  | finish high => exact handler.elim
  | clear =>
    obtain rfl := Option.some.inj acted
    exact ⟨single, handler.1, rfl⟩
  | deafen =>
    obtain rfl := Option.some.inj acted
    simp_all [Single, Handler, Edges.minus]
  | arm =>
    obtain rfl := Option.some.inj acted
    refine ⟨?_, Settled.main (.inl ?_) resumes⟩ <;>
      simp_all [Single, Handler, Armed, Edges.union]

/-- Core 1 clears the flag. -/
def clear (line : Line) : Line :=
  { line with
    pending := false
    progress := Function.update line.progress .core1 ⟨.deafening, false⟩ }

/-- When core 0 re-arms the falling edge itself, core 1 may clear the flag. -/
theorem Rearmed.clear {line : Line} (rearmed : line.Rearmed) (single : line.Single)
    (handler : line.Handler (line.stage .interrupt)) :
    line.clear.Handler (line.stage .interrupt) := by
  have core0 : line.clear.stage .core0 = line.stage .core0 := rfl
  obtain lowered | rising | later := rearmed
  · have keeps : line.Keeps line.clear := ⟨⟨rfl, rfl, lowered.symm⟩, id, id, .inl⟩
    exact keeps.handler core0 handler
  · -- The rising edge is enabled and latched, so the falling edge is not enabled.
    obtain ⟨rise, latched⟩ := waiting_rise.mp rising
    have muted : line.enabled.fall = false := by simpa [Single, rise] using single
    have deaf : ¬ line.enabled.fall = true := Bool.eq_false_iff.mp muted
    have alert : ¬ line.enabled.rise = false := by rw [rise]; exact Bool.noConfusion
    have listens : line.clear.Listening := ⟨muted, rise, .inr latched⟩
    have main {stage : Stage} (main : line.Main stage) : line.clear.Main stage := by
      cases stage <;> first
        | exact .inr ⟨listens, .inl latched⟩
        | exact .inr listens
        | exact trivial
        | exact False.elim main
        | exact absurd main.2.2 alert
    generalize line.stage .interrupt = stage at handler
    cases stage <;> first
      | exact main handler
      | exact listens
      | exact handler
      | exact ⟨muted, rfl⟩
      | exact absurd handler.1 deaf
      | exact absurd handler.2.1 alert
      | exact absurd handler.2.2 alert
  · simp only [List.mem_cons, List.not_mem_nil, or_false] at later
    obtain at' | at' | at' := later <;> rw [at'] at handler ⊢ <;> exact handler

/-- The line rises. -/
def risen (line : Line) : Line := { line with low := false, latched := ⟨true, line.latched.fall⟩ }

/-- A rising edge disturbs no thread. -/
theorem Handler.rise {line : Line} {stage : Stage} (handler : line.Handler stage) :
    line.risen.Handler stage := by
  have listens (listening : line.Listening) : line.risen.Listening :=
    ⟨listening.1, listening.2.1, .inr rfl⟩
  have main {stage : Stage} (main : line.Main stage) : line.risen.Main stage := by
    cases stage <;> first
      | exact main
      | exact main.imp_right fun waiting => ⟨listens waiting.1, .inl rfl⟩
      | exact main.imp_right listens
  cases stage <;> first
    | exact handler
    | exact main handler
    | exact ⟨handler.1, main handler.2⟩
    | exact listens handler

/-- A stage of core 0 in which an edge is enabled can be interrupted. -/
theorem Main.resumable {line : Line} {stage : Stage} (main : line.Main stage)
    (enabled : line.enabled.fall = true ∨ line.enabled.rise = true) : stage ∈ resumable := by
  cases stage <;> first
    | exact False.elim main
    | decide
    | simp_all [Main]

/-- What holds in every state that is reached. -/
structure Sound (line : Line) : Prop where
  /-- At most one of the edges is enabled. -/
  single : line.Single
  /-- No callback has to answer both edges. -/
  alone : ∀ thread, (line.progress thread).also = false
  /-- Core 1 stands in the parse call or is idle. -/
  works : line.stage .core1 ∈ working
  /-- A handler interrupts only stages that can be interrupted. -/
  resumes : line.stage .interrupt ≠ .idle → line.stage .core0 ∈ resumable
  /-- The handler and what it has interrupted stand where they may. -/
  handler : line.Handler (line.stage .interrupt)

/-- A deed leaves the threads where they are. -/
theorem act_progress {line after : Line} {thread : Thread} {what : Deed}
    (acted : line.act thread what = some after) : after.progress = line.progress := by
  cases what with
  | queue entry added =>
    obtain ⟨_, same⟩ := Option.ite_none_right_eq_some.mp acted
    obtain rfl := Option.some.inj same
    rfl
  | seePending value =>
    obtain ⟨_, same⟩ := Option.ite_none_right_eq_some.mp acted
    obtain rfl := Option.some.inj same
    rfl
  | level high =>
    obtain ⟨_, same⟩ := Option.ite_none_right_eq_some.mp acted
    obtain rfl := Option.some.inj same
    rfl
  | enable edges enabled =>
    cases enabled with
    | true =>
      obtain rfl := Option.some.inj acted
      rfl
    | false =>
      obtain rfl := Option.some.inj acted
      rfl
  | _ =>
    obtain rfl := Option.some.inj acted
    rfl

/-- A foreign deed loses nothing. -/
theorem act_foreign {line after : Line} {thread : Thread} {what : Deed} (foreign : what.Foreign)
    (acted : line.act thread what = some after) : line.Keeps after := by
  cases what with
  | other =>
    obtain rfl := Option.some.inj acted
    exact ⟨⟨rfl, rfl, rfl⟩, id, id, .inl⟩
  | queue entry added =>
    obtain ⟨_, same⟩ := Option.ite_none_right_eq_some.mp acted
    obtain rfl := Option.some.inj same
    refine ⟨⟨rfl, rfl, rfl⟩, id, fun since => by simp [since],
      fun ⟨parse, queued, called⟩ => .inl ⟨parse, ?_, called⟩⟩
    cases added with
    | true => exact List.mem_append_left _ queued
    | false => exact queued
  | _ => exact foreign.elim

/-- A thread that moves stands in the next stage, and the others where they stood. -/
def goTo (line : Line) (thread : Thread) (stage : Stage) : Line :=
  { line with progress := Function.update line.progress thread ⟨stage, false⟩ }

/-- A move of core 1 disturbs no thread. -/
theorem move_core1 {line after : Line} {next : Stage} {what : Deed} (single : line.Single)
    (handler : line.Handler (line.stage .interrupt)) (works : line.stage .core1 ∈ working)
    (move : (line.stage .core1).Move what next) (met : line.Permits .core1 what)
    (acted : line.act .core1 what = some after) :
    after.Single ∧ next ∈ working ∧
      (after.goTo .core1 next).Handler (line.stage .interrupt) := by
  have keeps (keeps : line.Keeps after) : (after.goTo .core1 next).Handler
      (line.stage .interrupt) := by
    refine (keeps.moved _).handler ?_ handler
    simp [stage, act_progress acted]
  generalize line.stage .core1 = stage at works move
  cases move with
  | report high =>
    obtain ⟨_, same⟩ := Option.ite_none_right_eq_some.mp acted
    obtain rfl := Option.some.inj same
    exact ⟨single, by decide, keeps ⟨⟨rfl, rfl, rfl⟩, id, id, .inl⟩⟩
  | finish high =>
    obtain ⟨_, same⟩ := Option.ite_none_right_eq_some.mp acted
    obtain rfl := Option.some.inj same
    refine ⟨single, ?_, keeps ⟨⟨rfl, rfl, rfl⟩, id, id, .inl⟩⟩
    split <;> decide
  | clear =>
    obtain rfl := Option.some.inj acted
    exact ⟨single, by decide, (met rfl).clear single handler⟩
  | deafen =>
    obtain rfl := Option.some.inj acted
    exact ⟨single, by decide, keeps ⟨⟨rfl, rfl, rfl⟩, id, id, .inl⟩⟩
  | arm =>
    obtain rfl := Option.some.inj acted
    exact ⟨single, by decide, keeps ⟨⟨by simp [Edges.minus], rfl, rfl⟩, id, id, .inl⟩⟩
  | _ => exact absurd works (by decide)

/-- A permitted move keeps the line sound. Core 0 moves while no handler runs. -/
theorem Sound.move {line after : Line} {thread : Thread} {next : Stage} {what : Deed}
    (sound : line.Sound) (resting : thread = .core0 → line.stage .interrupt = .idle)
    (move : (line.stage thread).Move what next) (met : line.Permits thread what)
    (acted : line.act thread what = some after) : (after.goTo thread next).Sound := by
  obtain ⟨single, alone, works, resumes, handler⟩ := sound
  have same := act_progress acted
  have alone' (bystander : Thread) :
      ((after.goTo thread next).progress bystander).also = false := by
    by_cases own : bystander = thread
    · subst own
      simp [goTo]
    · simpa [goTo, own, same] using alone bystander
  have other (bystander : Thread) (apart : bystander ≠ thread) :
      (after.goTo thread next).stage bystander = line.stage bystander := by
    simp [goTo, stage, apart, same]
  have own : (after.goTo thread next).stage thread = next := by simp [goTo, stage]
  cases thread with
  | core0 =>
    have idle := resting rfl
    rw [idle] at handler
    obtain ⟨single', main⟩ := Main.move single handler rfl move met acted
    refine ⟨single', alone', ?_, fun busy => ?_, ?_⟩
    · rw [other .core1 (by decide)]
      exact works
    · rw [other .interrupt (by decide)] at busy
      exact absurd idle busy
    · rw [other .interrupt (by decide), idle]
      change (after.goTo .core0 next).Main ((after.goTo .core0 next).stage .core0)
      rw [own]
      exact Keeps.main ⟨⟨rfl, rfl, rfl⟩, id, id, .inl⟩ main
  | interrupt =>
    have busy : line.stage .interrupt ≠ .idle := by
      intro idle
      rw [idle] at move
      cases move
    obtain ⟨single', handler'⟩ := Handler.move single handler rfl (resumes busy) move met acted
    refine ⟨single', alone', ?_, fun _ => ?_, ?_⟩
    · rw [other .core1 (by decide)]
      exact works
    · rw [other .core0 (by decide)]
      exact resumes busy
    · rw [own]
      have keeps : after.Keeps (after.goTo .interrupt next) := ⟨⟨rfl, rfl, rfl⟩, id, id, .inl⟩
      exact keeps.handler rfl handler'
  | core1 =>
    obtain ⟨single', works', handler'⟩ := move_core1 single handler works move met acted
    refine ⟨single', alone', ?_, fun busy => ?_, ?_⟩
    · rwa [own]
    · rw [other .interrupt (by decide)] at busy
      rw [other .core0 (by decide)]
      exact resumes busy
    · rw [other .interrupt (by decide)]
      exact handler'

/-- A foreign deed keeps the line sound. -/
theorem Sound.keeps {line after : Line} (sound : line.Sound) (keeps : line.Keeps after)
    (same : after.progress = line.progress) : after.Sound := by
  have stages (thread : Thread) : after.stage thread = line.stage thread := by
    simp only [stage, same]
  refine ⟨?_, fun thread => ?_, ?_, fun busy => ?_, ?_⟩
  · rw [Single, keeps.enabled]
    exact sound.single
  · rw [same]
    exact sound.alone thread
  · rw [stages]
    exact sound.works
  · rw [stages] at busy ⊢
    exact sound.resumes busy
  · rw [stages]
    exact keeps.handler (stages .core0) sound.handler

/-- What a thread may do keeps the line sound. -/
theorem Sound.exec {line after : Line} {thread : Thread} {op : Op} {answer : Ans op}
    (sound : line.Sound) (resting : thread = .core0 → line.stage .interrupt = .idle)
    (allowed : ((line.stage thread).step (deed op answer)).isSome)
    (met : line.Permits thread (deed op answer))
    (executed : line.exec thread op answer = some after) : after.Sound := by
  obtain ⟨acted, did, rfl⟩ := Option.map_eq_some_iff.mp executed
  obtain ⟨next, stepped⟩ := Option.isSome_iff_exists.mp allowed
  have stands : line.progress thread = ⟨line.stage thread, false⟩ := by
    rw [← sound.alone thread]
    rfl
  have goes : (line.progress thread).after (deed op answer) = ⟨next, false⟩ := by
    rw [stands]
    exact Progress.after_of_step stepped
  have same := act_progress did
  obtain ⟨foreign, stays⟩ | move := Stage.step_cases stepped
  · rw [goes, stays, ← stands, Function.update_eq_self]
    have keeps := act_foreign foreign did
    exact sound.keeps (keeps.moved _) rfl
  · have moved := sound.move resting move met did
    rw [goTo, same] at moved
    rwa [goes]

/-- A callback first acknowledges what it is called for. -/
theorem service_interrupt (line : Line) : line.service.progress .interrupt =
    if line.waiting.fall then ⟨.acknowledging, line.waiting.rise⟩ else ⟨.deasserted, false⟩ := by
  simp only [Line.service, Function.update_self]

/-- Core 1 stands at the start of a parse call, or has nothing to do with the line. -/
theorem dequeue_core1 (line : Line) (entry : QueueEntry) (rest : List QueueEntry) :
    (line.dequeue entry rest).progress .core1 =
      if entry.func = .bq27742G1ParseInterruptVals then ⟨.reporting, false⟩ else .idle := by
  simp only [Line.dequeue, Function.update_self]

/-- A callback for the waiting edges keeps the line sound. -/
theorem Sound.service {line : Line} (sound : line.Sound)
    (resting : line.stage .interrupt = .idle) (some' : line.waiting ≠ .none) :
    line.service.Sound := by
  obtain ⟨single, alone, works, _, handler⟩ := sound
  rw [resting] at handler
  have own := service_interrupt line
  have resumes (enabled : line.enabled.fall = true ∨ line.enabled.rise = true) :
      line.stage .core0 ∈ resumable := Main.resumable handler enabled
  cases falls : line.waiting.fall with
  | true =>
    have fall : line.enabled.fall = true := (Bool.and_eq_true_iff.mp falls).1
    have deaf : line.enabled.rise = false := Bool.eq_false_iff.mpr fun rise => single ⟨fall, rise⟩
    have rises : line.waiting.rise = false := by simp [waiting, Edges.inter, deaf]
    have stands : line.service.progress .interrupt = ⟨.acknowledging, false⟩ := by
      rw [own, falls, rises]
      rfl
    have keeps : line.Keeps line.service :=
      ⟨⟨by simp [Line.service, Edges.minus, rises], rfl, rfl⟩, id, id, .inl⟩
    refine ⟨single, fun thread => ?_, works, fun _ => resumes (.inl fall), ?_⟩
    · cases thread with
      | interrupt => rw [stands]
      | core0 => exact alone .core0
      | core1 => exact alone .core1
    · rw [stage, stands]
      exact ⟨fall, keeps.main handler⟩
  | false =>
    have rise : line.enabled.rise = true := by
      cases rises : line.waiting.rise with
      | true => exact (Bool.and_eq_true_iff.mp rises).1
      | false => exact absurd (congr (congrArg Edges.mk rises) falls) some'
    have deaf : line.enabled.fall = false := Bool.eq_false_iff.mpr fun fall => single ⟨fall, rise⟩
    have stands : line.service.progress .interrupt = ⟨.deasserted, false⟩ := by
      rw [own, falls]
      rfl
    refine ⟨single, fun thread => ?_, works, fun _ => resumes (.inr rise), ?_⟩
    · cases thread with
      | interrupt => rw [stands]
      | core0 => exact alone .core0
      | core1 => exact alone .core1
    · rw [stage, stands]
      exact ⟨deaf, rise⟩

/-- Taking an entry from the queue keeps the line sound. -/
theorem Sound.dequeue {line : Line} {entry : QueueEntry} {rest : List QueueEntry}
    (sound : line.Sound) (queued : line.callQueue = entry :: rest) (taken : line.Taken) :
    (line.dequeue entry rest).Sound := by
  obtain ⟨single, alone, works, resumes, handler⟩ := sound
  have own := dequeue_core1 line entry rest
  have alike : line.Alike (line.dequeue entry rest) := ⟨rfl, rfl, rfl⟩
  have stands : (line.dequeue entry rest).Handler (line.stage .interrupt) := by
    by_cases heard : line.Heard
    · exact alike.heard rfl heard handler
    · refine Keeps.handler ⟨alike, id, id, fun ⟨parse, member, called⟩ => ?_⟩ rfl handler
      rw [queued] at member
      obtain rfl | later := List.mem_cons.mp member
      · rw [Taken, queued] at taken
        obtain low | hears | another := taken (congrArg some called)
        · exact .inr low
        · exact absurd hears heard
        · exact .inl another
      · exact .inl ⟨parse, later, called⟩
  refine ⟨single, fun thread => ?_, ?_, resumes, stands⟩
  · cases thread with
    | core1 =>
      rw [own]
      split <;> rfl
    | core0 => exact alone .core0
    | interrupt => exact alone .interrupt
  · rw [stage, own]
    split <;> decide

/-- The line is sound when `bq27742_g1_init` enables the falling edge. -/
theorem start_sound (low : Bool) (latched : Edges) (callQueue : List QueueEntry) :
    (start low latched callQueue).Sound := by
  refine ⟨fun both => Bool.noConfusion both.1, fun thread => ?_,
    List.mem_cons_self, fun busy => ?_, rfl, rfl, rfl⟩
  · cases thread <;> rfl
  · exact absurd rfl busy

/-- A change of the level keeps the line sound, if a falling edge is heard. -/
theorem Drift.sound {line after : Line} (drifted : Drift line after) (sound : line.Sound)
    (heard : line.Changes) : after.Sound := by
  obtain ⟨single, alone, works, resumes, handler⟩ := sound
  cases drifted with
  | rise low => exact ⟨single, alone, works, resumes, handler.rise⟩
  | fall high =>
    have stands {after : Line} (alike : line.Alike after)
        (same : after.stage .core0 = line.stage .core0) :
        after.Handler (line.stage .interrupt) := alike.heard same (heard high) handler
    exact ⟨single, alone, works, resumes, stands ⟨rfl, rfl, rfl⟩ rfl⟩

/-- A sound line is attended to while no handler runs and no enabled edge waits. -/
theorem Sound.attended {line : Line} (sound : line.Sound) (finished : line.stage .core0 = .idle)
    (returned : line.stage .interrupt = .idle) (serviced : line.waiting = .none) :
    line.Attended := by
  have settled : line.Settled := by
    have handler := sound.handler
    rw [returned] at handler
    have main : line.Main (line.stage .core0) := handler
    rwa [finished] at main
  obtain armed | ⟨⟨_, rise, expects⟩, waits⟩ := settled
  · exact .inl armed
  · have unlatched : line.latched.rise = false := by
      have none := congrArg Edges.rise serviced
      simpa [waiting, Edges.inter, rise, Edges.none] using none
    have pending := expects.resolve_right (by simp [unlatched])
    obtain ⟨since, waits⟩ := waits.resolve_left (by simp [unlatched])
    exact .inr ⟨pending, rise, since, waits.symm⟩

end Line

/-! ## Runs -/

/-- A callback answers the edges it is called for. -/
theorem Line.guards_service {line : Line} (some' : line.waiting ≠ .none) :
    follower.Guards (line.service.progress .interrupt)
      (robotInterruptHandler Bq27742G1.gpioInterrupt line.waiting.mask)
      fun progress _ => progress = .idle := by
  rw [Line.service_interrupt]
  exact guards_handler some'

/-- Core 1 runs another function. -/
theorem Line.guards_dequeue_other (line : Line) (entry : QueueEntry) (rest : List QueueEntry)
    (other : entry.func ≠ .bq27742G1ParseInterruptVals) {program : Firmware Unit}
    (inside : program.Within Elsewhere) :
    follower.Guards ((line.dequeue entry rest).progress .core1) program
      fun progress _ => progress = .idle := by
  rw [Line.dequeue_core1, if_neg other]
  exact guards_elsewhere inside

section Discipline

variable [Max77958.DriverHeader]

/-- Core 1 runs a parse call that it has taken from the queue. -/
theorem Line.guards_dequeue_parse (line : Line) (entry : QueueEntry) (rest : List QueueEntry)
    (parse : entry.func = .bq27742G1ParseInterruptVals) (buffers : Max77958.Buffers) :
    follower.Guards ((line.dequeue entry rest).progress .core1)
      (entry.call buffers >>= fun _ => .done ()) fun progress _ => progress = .idle := by
  rw [Line.dequeue_core1, if_pos parse, QueueEntry.call, parse]
  exact Monitor.guards_bind.mpr (guards_parseInterruptVals.mono fun _ _ left => left)

/-- The threads keep to their monitors. -/
def discipline : System.Discipline (system : System Ans) where
  monitor _ := follower
  view thread line := Line.progress line thread
  rest _ progress := progress = Progress.idle
  own := by
    intro thread line op answer after executed
    obtain ⟨acted, did, rfl⟩ := Option.map_eq_some_iff.mp executed
    exact Function.update_self ..
  other := by
    intro thread line op answer after executed bystander apart
    obtain ⟨acted, did, rfl⟩ := Option.map_eq_some_iff.mp executed
    exact Function.update_of_ne apart ..
  launched := by
    intro thread line program after launched resting
    cases thread with
    | core0 =>
      obtain ⟨rfl, inside⟩ := launched
      rw [resting]
      exact guards_elsewhere inside
    | interrupt =>
      obtain ⟨rfl, gpio, eventMask, other, rfl⟩ | ⟨some', rfl, rfl⟩ := launched
      · rw [resting]
        exact guards_elsewhere (otherInterrupt_elsewhere other eventMask)
      · exact Line.guards_service some'
    | core1 =>
      obtain ⟨entry, rest, queued, rfl, runs⟩ := launched
      split at runs
      · obtain ⟨buffers, rfl⟩ := runs
        exact Line.guards_dequeue_parse line entry rest ‹_› buffers
      · exact Line.guards_dequeue_other line entry rest ‹_› runs
  aside := by
    intro thread line program after launched bystander apart
    cases thread with
    | core0 => rw [launched.1]
    | interrupt =>
      obtain ⟨rfl, _⟩ | ⟨_, rfl, _⟩ := launched
      · rfl
      · exact Function.update_of_ne apart ..
    | core1 =>
      obtain ⟨entry, rest, queued, rfl, _⟩ := launched
      exact Function.update_of_ne apart ..
  drifted := by
    intro line after drifted thread
    cases drifted <;> rfl

/-- The threads and the line do at each step what the others rely on. -/
def Orderly (line : Line) : System.Action (system : System Ans) → Prop
  | .perform thread op answer => line.Permits thread (deed op answer)
  | .launch thread _ => line.Starts thread
  | .drift => line.Changes

/-- Every state reached in order is sound. -/
theorem reaches_sound {low : Bool} {latched : Edges} {callQueue : List QueueEntry}
    {config : (system : System Ans).Config}
    (reached : System.Reaches Orderly (started low latched callQueue) config) :
    discipline.Holds config ∧ Line.Sound config.shared := by
  refine discipline.preemptive_invariant
    (fun {thread line op answer after} sound free allowed met executed => ?_)
    (fun {thread line program after} sound free resting met launched => ?_)
    (fun sound heard drifted => Line.Drift.sound drifted sound heard) ?_
    (Line.start_sound low latched callQueue) reached
  · have resting (core0 : thread = .core0) : Line.stage line .interrupt = .idle := by
      have rests : Line.progress line .interrupt = .idle := free Thread.interrupt ⟨rfl, core0⟩
      exact congrArg Progress.stage rests
    exact sound.exec resting (allowed answer) met executed
  · cases thread with
    | core0 => exact launched.1 ▸ sound
    | interrupt =>
      obtain ⟨rfl, _⟩ | ⟨some', rfl, _⟩ := launched
      · exact sound
      · exact sound.service (congrArg Progress.stage resting) some'
    | core1 =>
      obtain ⟨entry, rest, queued, rfl, _⟩ := launched
      exact sound.dequeue queued (met rfl)
  · intro thread
    cases thread with
    | core0 => exact guards_initEnd
    | interrupt => rfl
    | core1 => rfl

/-- In an orderly run the line is attended to whenever it is quiet. -/
theorem attended_of_orderly {low : Bool} {latched : Edges} {callQueue : List QueueEntry}
    {config : (system : System Ans).Config}
    (reached : System.Reaches Orderly (started low latched callQueue) config)
    (quiet : Quiet config) : Line.Attended config.shared := by
  obtain ⟨holds, sound⟩ := reaches_sound reached
  have returned : Line.progress config.shared .interrupt = .idle := by
    have resting := holds Thread.interrupt
    rw [Program.eq_done_valueD quiet.returned ()] at resting
    exact resting
  exact sound.attended quiet.finished (congrArg Progress.stage returned) quiet.serviced

end Discipline

/-! ## Playing runs -/

namespace Line

/-- The answer to an operation when the fuel gauge has nothing to report. -/
def answer (line : Line) : (op : Op) → Option (Ans op)
  | .callQueueTryAdd _ => some (decide (line.callQueue.length < callQueueCapacity))
  | .load .bq27742G1InterruptPending => some line.pending
  | .store .. => some ()
  | .gpioGet _ => some !line.low
  | .gpioSetIrqEnabled .. => some ()
  | .gpioAcknowledgeIrq .. => some ()
  | .rp2040Log .. => some ()
  | .cexceptionTry => some ()
  | .i2cWriteTimeoutUs .. => some 0
  | .i2cReadTimeoutUs _ _ len _ => some (0, .replicate len 0)
  | _ => none

/-- The program of a thread that is launched, with the line after it. -/
def launchNext [Max77958.DriverHeader] (line : Line) : Thread → Option (Firmware Unit × Line)
  | .core0 => none
  | .interrupt =>
    if line.waiting ≠ .none then
      some (robotInterruptHandler Bq27742G1.gpioInterrupt line.waiting.mask, line.service)
    else none
  | .core1 =>
    line.callQueue.head?.bind fun entry =>
      if entry.func = .bq27742G1ParseInterruptVals then
        some (entry.call .zero >>= fun _ => .done (), line.dequeue entry line.callQueue.tail)
      else none

/-- The line after it has changed its level. -/
def edge (line : Line) : Line :=
  if line.low then { line with low := false, latched := ⟨true, line.latched.fall⟩ }
  else { line with low := true, latched := ⟨line.latched.rise, true⟩, queuedSince := false }

end Line

/-- Callbacks, entries of the queue and edges. -/
def player [Max77958.DriverHeader] : System.Player (system : System Ans) where
  Choice := PinChoice
  above
    | .core0 => [Thread.interrupt]
    | _ => []
  covers := by
    rintro _ _ ⟨rfl, rfl⟩
    exact List.mem_singleton.mpr rfl
  answer _ _ := Line.answer
  launch _ thread line := Line.launchNext line thread
  launches := by
    intro _ thread line program after launched
    cases thread with
    | core0 => cases launched
    | interrupt =>
      obtain ⟨some', same⟩ := Option.ite_none_right_eq_some.mp launched
      cases same
      exact .inr ⟨some', rfl, rfl⟩
    | core1 =>
      obtain ⟨entry, first, launched⟩ := Option.bind_eq_some_iff.mp launched
      obtain ⟨parse, same⟩ := Option.ite_none_right_eq_some.mp launched
      cases same
      refine ⟨entry, _, (List.cons_head?_tail first).symm, rfl, ?_⟩
      rw [if_pos parse]
      exact ⟨.zero, rfl⟩
  drift _ line := some (Line.edge line)
  drifts := by
    intro _ line after drifted
    obtain rfl := Option.some.inj drifted
    unfold Line.edge
    split
    · exact .rise ‹_›
    · exact .fall (Bool.eq_false_iff.mpr ‹_›)

section Deciding

variable (line : Line)

instance : Decidable line.Queued := inferInstanceAs (Decidable (∃ _ ∈ _, _))
instance : Decidable line.Answered := inferInstanceAs (Decidable (_ ∨ _))
instance : Decidable line.Rearmed := inferInstanceAs (Decidable (_ ∨ _))
instance : Decidable line.Heard := inferInstanceAs (Decidable (_ ∨ _))
instance : Decidable line.Taken := inferInstanceAs (Decidable (_ → _))

instance Line.decidableStarts (thread : Thread) : Decidable (line.Starts thread) :=
  inferInstanceAs (Decidable (_ → _))

instance Line.decidableChanges : Decidable line.Changes := inferInstanceAs (Decidable (_ → _))

instance Line.decidablePermits (thread : Thread) (what : Deed) :
    Decidable (line.Permits thread what) := by
  unfold Line.Permits
  split <;> infer_instance

end Deciding

instance [Max77958.DriverHeader] (line : (system : System Ans).Shared) (action : system.Action) :
    Decidable (Orderly line action) :=
  match action with
  | .perform thread op answer => Line.decidablePermits line thread (deed op answer)
  | .launch thread _ => Line.decidableStarts line thread
  | .drift => Line.decidableChanges line

instance [Max77958.DriverHeader] (config : (system : System Ans).Config) :
    Decidable (Quiet config) :=
  decidable_of_iff (Line.stage config.shared .core0 = .idle ∧
      (config.programs Thread.interrupt).isDone = true ∧ Line.waiting config.shared = .none)
    ⟨fun all => ⟨all.1, all.2.1, all.2.2⟩, fun quiet => ⟨quiet.finished, quiet.returned,
      quiet.serviced⟩⟩

/-- `bq27742_g1_init` runs to its end, and the line falls. -/
def asserted [Max77958.DriverHeader] : List (player : System.Player (system : System Ans)).Cue :=
  [.run Thread.core0 .next 10, .drift .edge, .launch Thread.interrupt .next]

/-- The parse call runs on core 1. -/
def parsed [Max77958.DriverHeader] : List (player : System.Player (system : System Ans)).Cue :=
  [.launch Thread.core1 .next, .run Thread.core1 .next 30]

/-- The line is released after the parse call, and the rising edge is answered. -/
def released [Max77958.DriverHeader] : List (player : System.Player (system : System Ans)).Cue :=
  [.drift .edge, .launch Thread.interrupt .next, .run Thread.interrupt .next 10]

/-- A parse call is run while the line is low, and the falling edge is armed once it is released. -/
theorem attended_released :
    let _ := Max77958.sampleHeader
    ∃ config, System.Reaches Orderly (started false .none []) config ∧
      (Line.pending config.shared, (Line.enabled config.shared).fall) = (false, true) ∧
        Line.Attended config.shared := by
  intro header
  obtain ⟨config, reached, seen⟩ := player.reaches_of_any Orderly (started false .none [])
    (asserted ++ .run Thread.interrupt .next 10 :: parsed ++ released)
    (fun config => decide (Quiet config ∧
      (Line.pending config.shared, (Line.enabled config.shared).fall) = (false, true)))
    (by decide +kernel)
  obtain ⟨quiet, armed⟩ := of_decide_eq_true seen
  exact ⟨config, reached, armed, attended_of_orderly reached quiet⟩

/-- The line is released before the rising edge is enabled, and the parse call arms the falling edge
for core 1 only: core 0 stays deaf. -/
theorem attended_missed :
    ¬ ∀ [Max77958.DriverHeader] (low : Bool) (latched : Edges) (callQueue : List QueueEntry)
        (config : (system : System Ans).Config),
      System.Reaches (fun _ _ => True) (started low latched callQueue) config → Quiet config →
        (config.programs Thread.core1).isDone = true → Line.Attended config.shared := by
  intro attended
  let _ := Max77958.sampleHeader
  obtain ⟨config, reached, seen⟩ := player.reaches_of_any (fun _ _ => True)
    (started false .none [])
    (asserted ++ [.run Thread.interrupt .next 4, .drift .edge, .run Thread.interrupt .next 10] ++
      parsed)
    (fun config => decide (Quiet config ∧ (config.programs Thread.core1).isDone = true ∧
      (Line.pending config.shared, (Line.enabled config.shared).fall) = (false, false)))
    (by decide +kernel)
  obtain ⟨quiet, idle, deaf⟩ := of_decide_eq_true seen
  obtain ⟨pending, fall⟩ := Prod.mk.inj deaf
  obtain armed | claimed := attended false .none [] config reached quiet idle
  · exact Bool.noConfusion (fall.symm.trans armed.2)
  · exact Bool.noConfusion (pending.symm.trans claimed.1)

end GaugeLine

end RobotFirmware
