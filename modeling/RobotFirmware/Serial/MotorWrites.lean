import RobotFirmware.Interaction.System
import RobotFirmware.Serial.Receiver

/-!
# Writes to the motor control registers

After start-up core 0 runs the receiver and the interrupt handler, which preempts it, while
core 1 runs functions from the call queue. Operations of the threads interleave in any order
and receive any answers. Whatever core 1 is given to run, and whenever, only the receiver
writes to a motor control register, and only what accepted frames ask for.
-/

namespace RobotFirmware

open Interaction
open Drv8830 (Motor)

namespace MotorWrites

/-! ## Silent operations -/

/-- An operation that neither receives nor writes a motor control register. -/
def Silent (op : Op) : Prop :=
  op.controlWrite? = none ∧ op.outcome? = none ∧ ∀ answer, op.input? answer = none

/-- The other devices are used silently. -/
theorem Silent.of_peripheral {op : Op} (peripheral : op.Peripheral) : Silent op := by
  refine ⟨Reception.Quiet.controlWrite? (.of_peripheral peripheral), ?_, ?_⟩
  · cases op <;> first | rfl | exact peripheral.elim
  · cases op <;> first | exact fun _ => rfl | exact peripheral.elim

/-- The interrupt handler is silent. -/
theorem Silent.of_interrupt {op : Op} (interrupt : op.Interrupt) : Silent op := by
  obtain peripheral | ⟨entry, rfl, _⟩ := interrupt
  · exact .of_peripheral peripheral
  · exact ⟨rfl, rfl, fun _ => rfl⟩

section Controller

variable [Max77958.DriverHeader]

/-- The MAX77958 has an address of its own. -/
theorem motorAt?_slaveP1 : motorAt? Max77958.DriverHeader.slaveP1 = none := by
  have apart := Max77958.DriverHeader.slave_apart
  simp only [List.mem_cons, List.not_mem_nil, or_false, not_or] at apart
  simp [motorAt?, Drv8830.motorLeftAddress, Drv8830.motorRightAddress, apart.1, apart.2.1]

/-- The driver of the MAX77958 is silent. -/
theorem Silent.of_controls {op : Op} (controls : Max77958.Controls op) : Silent op := by
  cases op with
  | i2cWriteTimeoutUs i2c addr src nostop =>
    cases i2c with
    | i2c0 =>
      obtain rfl : addr = Max77958.DriverHeader.slaveP1 := controls
      exact ⟨Reception.controlValue?_apart (.inl motorAt?_slaveP1), rfl, fun _ => rfl⟩
    | i2c1 => exact controls.elim
  | enter call => cases call <;> first | exact ⟨rfl, rfl, fun _ => rfl⟩ | exact controls.elim
  | _ => first | exact ⟨rfl, rfl, fun _ => rfl⟩ | exact controls.elim

/-- Whatever core 1 takes from the call queue is silent. -/
theorem call_silent (buffers : Max77958.Buffers) (entry : QueueEntry) :
    (entry.call buffers).Within Silent :=
  (entry.call_within buffers).mono fun op inside => by
    obtain (peripheral | rfl) | controls := inside
    · exact .of_peripheral peripheral
    · exact ⟨rfl, rfl, fun _ => rfl⟩
    · exact .of_controls controls

end Controller

/-- A thread that performs silent operations only. -/
abbrev bystander : Monitor Ans := ⟨Unit, fun _ op => Silent op, fun _ _ _ => ()⟩

/-- A silent program is guarded as a bystander. -/
theorem bystander_guards {program : Firmware Unit} (silent : program.Within Silent)
    {post : Unit → Unit → Prop} (holds : ∀ value, post () value) :
    bystander.Guards () program post :=
  Monitor.Ignores.guards (fun _ _ silent => ⟨silent, fun _ => rfl⟩) silent holds

/-! ## The threads after start-up -/

/-- The threads after start-up. -/
inductive Thread where
  /-- The loop in `main`. -/
  | main
  /-- The interrupt handler on core 0. -/
  | interrupt
  /-- The loop in `core1_entry`. -/
  | core1
  deriving DecidableEq

/-- Everything that happened, and who did it. -/
abbrev History : Type := List (Thread × Event Ans)

/-- The trace of all threads together. -/
def History.trace (history : History) : List (Event Ans) := history.map Prod.snd

/-- The trace of one thread. -/
def History.traceOf (history : History) (thread : Thread) : List (Event Ans) :=
  (history.filter fun entry => entry.1 = thread).map Prod.snd

/-- The history of a thread grows by its own operations. -/
theorem traceOf_own (history : History) (thread : Thread) (event : Event Ans) :
    History.traceOf (history ++ [(thread, event)]) thread = history.traceOf thread ++ [event] := by
  simp [History.traceOf]

/-- The history of a thread does not grow by others' operations. -/
theorem traceOf_other (history : History) {thread other : Thread} (apart : other ≠ thread)
    (event : Event Ans) :
    History.traceOf (history ++ [(thread, event)]) other = history.traceOf other := by
  simp [History.traceOf, apart.symm]

/-- What only the receiver does shows in its own trace. -/
theorem filterMap_trace {β : Type} (f : Event Ans → Option β) {history : History}
    (others : ∀ entry ∈ history, entry.1 ≠ .main → f entry.2 = none) :
    history.trace.filterMap f = (history.traceOf .main).filterMap f := by
  induction history with
  | nil => rfl
  | cons entry history ih =>
    have later := ih fun other member => others other (List.mem_cons_of_mem _ member)
    unfold History.trace History.traceOf at later ⊢
    rw [List.map_cons, List.filterMap_cons, later]
    by_cases own : entry.1 = .main
    · rw [List.filter_cons_of_pos (by simpa using own), List.map_cons, List.filterMap_cons]
    · rw [List.filter_cons_of_neg (by simpa using own), others entry List.mem_cons_self own]

/-- The receiver is watched by the monitor of reception, the other threads as bystanders. -/
abbrev watch : Thread → Monitor Ans
  | .main => Reception.monitor
  | .interrupt => bystander
  | .core1 => bystander

/-- Where a thread stands after a history. -/
def standing : (thread : Thread) → History → (watch thread).State
  | .main, history => Reception.monitor.after .start (history.traceOf .main)
  | .interrupt, _ => ()
  | .core1, _ => ()

/-- Where an idle thread stands. -/
def atRest : (thread : Thread) → (watch thread).State → Prop
  | .main, reception => Reception.Resting reception
  | .interrupt, _ => True
  | .core1, _ => True

/-- A thread moves by its own operations. -/
theorem standing_own (history : History) (thread : Thread) (op : Op) (answer : Ans op) :
    standing thread (history ++ [(thread, ⟨op, answer⟩)]) =
      (watch thread).next (standing thread history) op answer := by
  cases thread with
  | main => rw [standing, traceOf_own, Monitor.after_append]; rfl
  | interrupt => rfl
  | core1 => rfl

/-- A thread does not move by others' operations. -/
theorem standing_other (history : History) {thread other : Thread} (apart : other ≠ thread)
    (event : Event Ans) :
    standing other (history ++ [(thread, event)]) = standing other history := by
  cases other with
  | main => rw [standing, traceOf_other history apart, standing]
  | interrupt => rfl
  | core1 => rfl

/-- What is kept of the history: the receiver is accepted, and the others are silent. -/
structure Accounted (history : History) : Prop where
  /-- The receiver's own trace is accepted. -/
  accepted : Reception.monitor.Accepts .start (history.traceOf .main)
  /-- The other threads are silent. -/
  silent : ∀ entry ∈ history, entry.1 ≠ .main → Silent entry.2.op

/-- An allowed operation keeps the accounts. -/
theorem Accounted.perform {history : History} (accounted : Accounted history) {thread : Thread}
    {op : Op} {answer : Ans op}
    (allowed : (watch thread).allows (standing thread history) op) :
    Accounted (history ++ [(thread, ⟨op, answer⟩)]) := by
  constructor
  · cases thread with
    | main =>
      rw [traceOf_own, Monitor.accepts_append]
      exact ⟨accounted.accepted, allowed, trivial⟩
    | interrupt =>
      rw [traceOf_other history (by decide)]
      exact accounted.accepted
    | core1 =>
      rw [traceOf_other history (by decide)]
      exact accounted.accepted
  · intro entry member other
    obtain earlier | last := List.mem_append.mp member
    · exact accounted.silent entry earlier other
    · obtain rfl := List.mem_singleton.mp last
      cases thread with
      | main => exact absurd rfl other
      | interrupt => exact allowed
      | core1 => exact allowed

section Interleavings

variable [Max77958.DriverHeader]

/-- The threads over their history. Core 1 may be given any entry at any time, which includes
every order in which entries can be queued. -/
def system : System Ans where
  Thread := Thread
  decEq := inferInstance
  Shared := History
  preempts first second := first = .interrupt ∧ second = .main
  exec thread history op answer := some (history ++ [(thread, ⟨op, answer⟩)])
  launch thread history program after := after = history ∧
    match thread with
    | .main => False
    | .interrupt => ∃ gpio eventMask, program = robotInterruptHandler gpio eventMask
    | .core1 => ∃ (entry : QueueEntry) (buffers : Max77958.Buffers),
        program = entry.call buffers >>= fun _ => .done ()
  drift _ _ := False

/-- Start-up is over: `main` enters its loop, and the other threads are idle. -/
def started (rp2040State : Rp2040State) (rounds : Nat) : system.Config where
  shared := []
  programs
    | .main => receiver rp2040State rounds >>= fun _ => .done ()
    | .interrupt => .done ()
    | .core1 => .done ()

/-- Every program that a thread is launched on is guarded. -/
theorem launch_guards {thread : Thread} {history after : History} {program : Firmware Unit}
    (launched : system.launch thread history program after) :
    (watch thread).Guards (standing thread after) program fun state _ => atRest thread state := by
  obtain ⟨_, launched⟩ := launched
  cases thread with
  | main => exact launched.elim
  | interrupt =>
    obtain ⟨gpio, eventMask, rfl⟩ := launched
    exact bystander_guards
      ((robotInterruptHandler_within gpio eventMask).mono fun _ => Silent.of_interrupt)
      fun _ => trivial
  | core1 =>
    obtain ⟨entry, buffers, rfl⟩ := launched
    exact bystander_guards ((call_silent buffers entry).bind fun _ => .done _) fun _ => trivial

/-- The threads under their monitors. -/
def discipline : System.Discipline system where
  monitor := watch
  view := standing
  rest := atRest
  own := by
    intro thread history op answer after performed
    obtain rfl := Option.some.inj performed
    exact standing_own history thread op answer
  other := by
    intro thread history op answer after performed other apart
    obtain rfl := Option.some.inj performed
    exact standing_other history apart _
  launched := fun launched _ => launch_guards launched
  aside := by
    rintro thread history program after ⟨rfl, _⟩ other apart
    rfl
  drifted := fun drifted => drifted.elim

/-- In every interleaving the writes to the motor control registers are those that the accepted
frames ask for, in their order, left motor before right; none is missing when the receiver
waits for the next byte. -/
theorem controlWrites_follow_frames {rp2040State : Rp2040State} {rounds : Nat}
    {config : system.Config}
    (reached : System.Reaches (fun _ _ => True) (started rp2040State rounds) config) :
    ∃ pending,
      controlWrites (History.trace config.shared) ++ pending =
        (Scanner.idle.outcomes (inputs (History.trace config.shared))).flatMap Outcome.levels ∧
      (AwaitsInput (config.programs .main) → pending = []) := by
  have guarded : discipline.Holds (started rp2040State rounds) := by
    intro thread
    cases thread with
    | main =>
      have serves := Reception.guards_serve rounds (Reception.start_between rp2040State)
      exact Monitor.guards_bind.mpr (serves.mono fun _ _ between => between.resting)
    | interrupt => trivial
    | core1 => trivial
  have kept : discipline.Holds config ∧ Accounted config.shared :=
    discipline.invariant
      (fun accounted allowed _ performed => by
        obtain rfl := Option.some.inj performed
        exact Accounted.perform accounted allowed)
      (fun accounted _ _ launched => launched.1 ▸ accounted)
      (fun _ _ drifted => drifted.elim) guarded ⟨trivial, by simp [started]⟩ reached
  obtain ⟨holds, accounted⟩ := kept
  have own : controlWrites (History.trace config.shared) =
      controlWrites (History.traceOf config.shared .main) :=
    filterMap_trace _ fun entry member other => (accounted.silent entry member other).1
  have reads : inputs (History.trace config.shared) = inputs
      (History.traceOf config.shared .main) :=
    filterMap_trace _ fun entry member other => (accounted.silent entry member other).2.2 _
  rw [own, reads]
  refine ⟨_, Reception.controlWrites_balance accounted.accepted, fun awaits => ?_⟩
  have nothing {reception : Reception} (produced : reception.due = none)
      (written : reception.levels = []) :
      reception.levels ++ reception.due.toList.flatMap Outcome.levels = [] := by
    rw [produced, written]
    rfl
  have settled := awaits_settled (holds .main) (fun _ _ resting => resting) awaits
  exact nothing settled.1 settled.2

end Interleavings

/-! ## A run -/

/-- Answers to the receiver from a list of inputs, as far as they last. -/
def replay (received : List (Option UInt8)) (history : History) (op : Op) :
    Option (Ans op × History) :=
  (script (received.drop (inputs history.trace).length) op).map fun answered =>
    (answered.1, history ++ [(.main, ⟨op, answered.1⟩)])

/-- The history of a receiver that gets a frame with two levels. -/
def levelsSet : History :=
  ((receiver .zero 1 >>= fun _ => .done ()).drive
    (replay [some 0xFE, some 1, some 7, some 9, some 0xFF]) []).2.2

/-- Both levels of the frame are written, as the frame asks. -/
theorem controlWrites_follow_levelsSet :
    controlWrites levelsSet.trace = [(.left, 7), (.right, 9)] ∧
      ∃ pending, controlWrites levelsSet.trace ++ pending =
        (Scanner.idle.outcomes (inputs levelsSet.trace)).flatMap Outcome.levels := by
  let _ := Max77958.sampleHeader
  let start : system.Config := started .zero 1
  have admitted : ∀ (history : system.Shared) (op : Op) (answer : Ans op) (after : system.Shared),
      replay [some 0xFE, some 1, some 7, some 9, some 0xFF] history op = some (answer, after) →
        True ∧ system.exec Thread.main history op answer = some after := by
    intro history op answer after replied
    obtain ⟨answered, _, same⟩ := Option.map_eq_some_iff.mp replied
    obtain ⟨rfl, rfl⟩ := Prod.mk.inj same
    exact ⟨trivial, rfl⟩
  have reached : System.Reaches (fun _ _ => True) start _ :=
    System.Reaches.refl.drive Thread.main _ admitted fun other hit => by
      obtain rfl : other = Thread.interrupt := hit.1
      exact ⟨Thread.noConfusion, rfl⟩
  obtain ⟨pending, balance, _⟩ := controlWrites_follow_frames reached
  exact ⟨by decide, pending, balance⟩

end MotorWrites

end RobotFirmware
