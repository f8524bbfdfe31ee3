import RobotFirmware.Interaction.Playback
import RobotFirmware.Interrupts.Edges
import RobotFirmware.TypeC.Board
import Mathlib.Data.List.Basic

/-!
# The flag of the wireless charger

Edges of the charger's pin are latched without order and serviced in batches: one callback gets
every edge latched since the last one. The callback queues one of two functions, and core 1
runs it and assigns the flag. The queue is shared with the other devices, whose functions and
handlers assign other statics and queue other functions.

The flag follows the last batch, and a batch with both edges is taken for a rising one.
-/

namespace RobotFirmware

open Interaction
open TypeC (Thread callQueueCapacity)

namespace Edges

/-- What the callback of the charger takes its edges for. -/
def attached (batch : Edges) : Bool := !batch.rise

/-- A batch with one edge tells the level of the pin after it. -/
structure Explains (batch : Edges) (low : Bool) : Prop where
  /-- After a single rising edge the pin is high. -/
  rising : batch = ⟨true, false⟩ → low = false
  /-- After a single falling edge it is low. -/
  falling : batch = ⟨false, true⟩ → low = true

end Edges

namespace WirelessCharger

/-- What a queued function says about the charger. -/
def tells? : EntryFunc → Option Bool
  | .ncp3901OnWirelessChargerAttached => some true
  | .ncp3901OnWirelessChargerDetached => some false
  | _ => none

/-- What an answered operation means to the charger. -/
inductive Deed where
  /-- Nothing. -/
  | other
  /-- An entry is offered to the call queue. -/
  | queue (entry : QueueEntry) (added : Bool)
  /-- `wireless_charger_attached` is assigned. -/
  | assign (value : Bool)
  /-- It is read. -/
  | look (value : Bool)
  /-- Edges of a pin are acknowledged. -/
  | acknowledge (gpio : Nat) (events : UInt32)

/-- The meaning of an operation. -/
def deed : (op : Op) → Ans op → Deed
  | .callQueueTryAdd entry, added => .queue entry added
  | .store .wirelessChargerAttached value, _ => .assign value
  | .load .wirelessChargerAttached, value => .look value
  | .gpioAcknowledgeIrq gpio events, _ => .acknowledge gpio events
  | _, _ => .other

/-- What the callback has still to queue after a deed. -/
def announced (announcing : Option Bool) : Deed → Option Bool
  | .queue entry added => if added = true ∧ tells? entry.func ≠ none then none else announcing
  | _ => announcing

/-- What core 1 is about to assign after a deed. -/
def stored (storing : Option Bool) : Deed → Option Bool
  | .assign _ => none
  | _ => storing

/-- What code does that is not about the charger. -/
def Deed.Elsewhere : Deed → Prop
  | .queue entry _ => tells? entry.func = none
  | .assign _ => False
  | _ => True

/-- The operations of code that is not about the charger. -/
def Elsewhere (op : Op) : Prop := ∀ answer, (deed op answer).Elsewhere

/-- The pin, the queue and the flag. -/
structure Charger where
  /-- The pin is low. -/
  low : Bool
  /-- The edges latched since the last callback. -/
  latched : Edges
  /-- An edge was acknowledged before a callback got it. -/
  unseen : Bool
  /-- `call_queue`. -/
  callQueue : List QueueEntry
  /-- `wireless_charger_attached`. -/
  attached : Bool
  /-- The last batch. -/
  batch : Option Edges
  /-- What the callback has still to queue. -/
  announcing : Option Bool
  /-- What core 1 is about to assign. -/
  storing : Option Bool
  deriving DecidableEq

namespace Charger

/-- The charger when `ncp3901_init` has enabled the interrupts of the pin. -/
def start (low : Bool) : Charger where
  low := low
  latched := ⟨false, false⟩
  unseen := false
  callQueue := []
  attached := false
  batch := none
  announcing := none
  storing := none

/-- Edges are acknowledged. -/
def acknowledge (charger : Charger) (events : UInt32) : Charger :=
  let rise : Bool := charger.latched.rise && events &&& gpioIrqEdgeRise ≠ 0
  let fall : Bool := charger.latched.fall && events &&& gpioIrqEdgeFall ≠ 0
  { charger with
    latched := ⟨charger.latched.rise && !rise, charger.latched.fall && !fall⟩
    unseen := charger.unseen || rise || fall }

/-- The charger after a deed, if it is possible. -/
def act (charger : Charger) : Deed → Option Charger
  | .queue entry added =>
    if added = decide (charger.callQueue.length < callQueueCapacity) then
      some { charger with
        callQueue := if added then charger.callQueue ++ [entry] else charger.callQueue }
    else none
  | .assign value => some { charger with attached := value }
  | .look value => if value = charger.attached then some charger else none
  | .acknowledge gpio events =>
    some (if gpio = gpioWirelessAvailable then charger.acknowledge events else charger)
  | .other => some charger

/-- A deed moves its own thread. -/
def moved (charger : Charger) (thread : Thread) (what : Deed) : Charger :=
  { charger with
    announcing := if thread = .interrupt then announced charger.announcing what
      else charger.announcing
    storing := if thread = .core1 then stored charger.storing what else charger.storing }

/-- The charger after an answered operation, if the answer is possible. -/
def exec (thread : Thread) (charger : Charger) (op : Op) (answer : Ans op) : Option Charger :=
  (charger.moved thread (deed op answer)).act (deed op answer)

/-- A callback gets the latched edges, and they are acknowledged. -/
def service (charger : Charger) : Charger :=
  { charger with
    latched := ⟨false, false⟩
    batch := some charger.latched
    announcing := some charger.latched.attached }

/-- Core 1 takes the first entry of the queue. -/
def dequeue (charger : Charger) (entry : QueueEntry) (rest : List QueueEntry) : Charger :=
  { charger with callQueue := rest, storing := tells? entry.func }

/-- An idle thread starts a program. Code that is not about the charger may do anything else. -/
def launch [Max77958.DriverHeader] (thread : Thread) (charger : Charger) (program : Firmware Unit)
    (after : Charger) : Prop :=
  match thread with
  | .core0 => after = charger ∧ program.Within Elsewhere
  | .interrupt =>
    (after = charger ∧ ∃ gpio eventMask, gpio ≠ gpioWirelessAvailable ∧
      program = robotInterruptHandler gpio eventMask) ∨
    charger.latched ≠ ⟨false, false⟩ ∧ after = charger.service ∧
      program = robotInterruptHandler gpioWirelessAvailable charger.latched.mask
  | .core1 => ∃ (entry : QueueEntry) (rest : List QueueEntry), charger.callQueue = entry :: rest ∧
      after = charger.dequeue entry rest ∧
        if tells? entry.func = none then program.Within Elsewhere
        else ∃ buffers, program = entry.call buffers >>= fun _ => .done ()

/-- The pin changes its level. -/
inductive Drift (charger : Charger) : Charger → Prop where
  /-- A rising edge. -/
  | rise (low : charger.low = true) :
      Drift charger { charger with low := false, latched := ⟨true, charger.latched.fall⟩ }
  /-- A falling edge. -/
  | fall (high : charger.low = false) :
      Drift charger { charger with low := true, latched := ⟨charger.latched.rise, true⟩ }

end Charger

section System

variable [Max77958.DriverHeader]

/-- The threads over the charger. -/
def system : System Ans where
  Thread := Thread
  decEq := inferInstance
  Shared := Charger
  preempts first second := first = .interrupt ∧ second = .core0
  exec := Charger.exec
  launch := Charger.launch
  drift := Charger.Drift

/-- `ncp3901_init` has enabled the interrupts of the pin. -/
def started (low : Bool) : system.Config where
  shared := Charger.start low
  programs _ := .done ()

/-- Every edge has been serviced and the queue has been drained. -/
structure Quiet (config : system.Config) : Prop where
  /-- No edge is latched, and none was missed. -/
  serviced : Charger.latched config.shared = ⟨false, false⟩ ∧ Charger.unseen config.shared = false
  /-- No callback is running. -/
  returned : (config.programs Thread.interrupt).isDone = true
  /-- The queue is empty. -/
  drained : Charger.callQueue config.shared = []
  /-- Core 1 has nothing to do. -/
  idle : (config.programs Thread.core1).isDone = true

end System

/-! ## What the threads do -/

/-- What the callback may do, by what it has still to queue. -/
def Deed.Announces (announcing : Option Bool) : Deed → Prop
  | .queue entry _ => tells? entry.func = none ∨ tells? entry.func = announcing
  | .assign _ => False
  | _ => True

/-- The interrupt handler, with what it has still to queue. -/
abbrev callback : Monitor Ans where
  State := Option Bool
  allows announcing op := ∀ answer, (deed op answer).Announces announcing
  next announcing op answer := announced announcing (deed op answer)

/-- What core 1 may do, by what it is about to assign. -/
def Deed.Stores (storing : Option Bool) : Deed → Prop
  | .queue entry _ => tells? entry.func = none
  | .assign value => storing = some value
  | _ => True

/-- Core 1, with what it is about to assign. -/
abbrev worker : Monitor Ans where
  State := Option Bool
  allows storing op := ∀ answer, (deed op answer).Stores storing
  next storing op answer := stored storing (deed op answer)

/-- Code that is not about the charger. -/
abbrev bystander : Monitor Ans := ⟨Unit, fun _ op => Elsewhere op, fun _ _ _ => ()⟩

/-- The monitor of each thread. -/
abbrev monitor : Thread → Monitor Ans
  | .core0 => bystander
  | .interrupt => callback
  | .core1 => worker

/-- What is known of a thread. -/
def view : (thread : Thread) → Charger → (monitor thread).State
  | .core0, _ => ()
  | .interrupt, charger => charger.announcing
  | .core1, charger => charger.storing

/-- An idle thread has nothing to queue and nothing to assign. -/
def rest : (thread : Thread) → (monitor thread).State → Prop
  | .core0, _ => True
  | .interrupt, (announcing : Option Bool) => announcing = none
  | .core1, (storing : Option Bool) => storing = none

/-- What a thread may do. -/
def Deed.Permitted (charger : Charger) : Thread → Deed → Prop
  | .core0, what => what.Elsewhere
  | .interrupt, what => what.Announces charger.announcing
  | .core1, what => what.Stores charger.storing

/-- The callback is not concerned with what is elsewhere. -/
theorem callback_ignores_elsewhere : callback.Ignores Elsewhere := by
  intro announcing op elsewhere
  have each (answer : Ans op) : (deed op answer).Announces announcing ∧
      announced announcing (deed op answer) = announcing := by
    have apart := elsewhere answer
    cases meaning : deed op answer with
    | queue entry added =>
      rw [meaning] at apart
      exact ⟨.inl apart, if_neg fun both => both.2 apart⟩
    | assign value => exact (meaning ▸ apart : (Deed.assign value).Elsewhere).elim
    | _ => exact ⟨trivial, rfl⟩
  exact ⟨fun answer => (each answer).1, fun answer => (each answer).2⟩

/-- Core 1 is not concerned with what is elsewhere. -/
theorem worker_ignores_elsewhere : worker.Ignores Elsewhere := by
  intro storing op elsewhere
  have each (answer : Ans op) : (deed op answer).Stores storing ∧
      stored storing (deed op answer) = storing := by
    have apart := elsewhere answer
    cases meaning : deed op answer with
    | queue entry added =>
      rw [meaning] at apart
      exact ⟨apart, rfl⟩
    | assign value => exact (meaning ▸ apart : (Deed.assign value).Elsewhere).elim
    | _ => exact ⟨trivial, rfl⟩
  exact ⟨fun answer => (each answer).1, fun answer => (each answer).2⟩

/-- Waiting, logging and raising errors are elsewhere. -/
theorem elsewhere_of_routine (op : Op) (routine : op.Routine) : Elsewhere op := by
  intro answer
  cases op <;> first | exact routine.elim | trivial

/-- The handlers of other devices do not touch the charger. -/
theorem otherInterrupt_elsewhere {gpio : Nat} (other : gpio ≠ gpioWirelessAvailable)
    (eventMask : UInt32) : (robotInterruptHandler gpio eventMask).Within Elsewhere := by
  have loaded (flag : Flag) : Elsewhere (.load flag) := by
    intro answer
    cases flag <;> trivial
  have gauge : (Bq27742G1.onInterrupt gpio eventMask).Within Elsewhere :=
    Bq27742G1.onInterrupt_allowed (fun _ => trivial) (fun _ _ _ => trivial) (fun _ _ => trivial)
      (fun _ _ => trivial) (loaded _) fun _ => rfl
  have silent : ∀ func ∈ EntryFunc.ofInterrupt, tells? func = none := by decide
  exact robotInterruptHandler_allowed elsewhere_of_routine (fun _ _ => trivial)
    (fun func listed _ _ => silent func listed) (fun flag _ => loaded flag)
    (fun same => absurd same other) fun _ => gauge

/-- The callback queues what it takes its batch for. -/
theorem guards_announce {func : EntryFunc} {value : Bool} (tells : tells? func = some value)
    (gpio : Nat) (mask : UInt32) :
    callback.Guards (some value) (do
      gpioAcknowledgeIrq gpio mask
      callQueueTryAdd func 0
      if ← load .testNcp3901Started then callQueueTryAdd .ncp3901TestResponse 1)
      fun announcing _ => announcing = none := by
  have told : tells? func ≠ none := by simp [tells]
  have response : callback.Guards none (do
      if ← load .testNcp3901Started then callQueueTryAdd .ncp3901TestResponse 1)
      fun announcing _ => announcing = none :=
    callback_ignores_elsewhere.guards
      ⟨fun _ => trivial, fun _ => .ite
        (callQueueTryAdd_allowed elsewhere_of_routine fun _ => rfl) trivial⟩ fun _ => rfl
  refine ⟨fun _ => trivial, fun _ => Monitor.guards_bind.mpr
    ⟨fun _ => .inr tells, fun (added : Bool) => ?_⟩⟩
  cases added with
  | true =>
    have queued : announced (some value) (.queue ⟨func, 0⟩ true) = none := if_pos ⟨rfl, told⟩
    change callback.Guards (announced (some value) (.queue ⟨func, 0⟩ true)) _ _
    rw [queued]
    exact response
  | false =>
    exact ⟨fun _ => trivial, fun _ => ⟨fun _ => trivial, fun impossible => impossible.elim⟩⟩

/-- A callback for the charger's pin queues what it takes its batch for. -/
theorem guards_callback {batch : Edges} (some' : batch ≠ ⟨false, false⟩) :
    callback.Guards (some batch.attached) (robotInterruptHandler gpioWirelessAvailable batch.mask)
      fun announcing _ => announcing = none := by
  have bits : (batch.mask &&& gpioIrqEdgeRise ≠ 0 ↔ batch.rise = true) ∧
      (batch.mask &&& gpioIrqEdgeFall ≠ 0 ↔ batch.fall = true) := by
    obtain ⟨rise, fall⟩ := batch
    revert rise fall
    decide
  rw [robotInterruptHandler, if_pos rfl, Ncp3901.onWirelessChargerInterrupt]
  obtain ⟨rise, fall⟩ := batch
  cases rise with
  | true =>
    rw [if_pos (bits.1.mpr rfl)]
    exact guards_announce rfl _ _
  | false =>
    have falls : fall = true := by
      cases fall with
      | true => rfl
      | false => exact absurd rfl some'
    rw [if_neg fun bit => Bool.noConfusion (bits.1.mp bit), if_pos (bits.2.mpr falls)]
    exact guards_announce rfl _ _

/-- What a deed does to the charger moves no thread. -/
theorem Charger.act_threads {charger after : Charger} {what : Deed}
    (acted : charger.act what = some after) :
    after.announcing = charger.announcing ∧ after.storing = charger.storing := by
  cases what with
  | queue entry added =>
    obtain ⟨_, same⟩ := Option.ite_none_right_eq_some.mp acted
    obtain rfl := Option.some.inj same
    exact ⟨rfl, rfl⟩
  | look value =>
    obtain ⟨_, same⟩ := Option.ite_none_right_eq_some.mp acted
    obtain rfl := Option.some.inj same
    exact ⟨rfl, rfl⟩
  | acknowledge gpio events =>
    obtain rfl := Option.some.inj acted
    split
    · exact ⟨rfl, rfl⟩
    · exact ⟨rfl, rfl⟩
  | _ =>
    obtain rfl := Option.some.inj acted
    exact ⟨rfl, rfl⟩

/-! ## What the flag follows -/

namespace Charger

/-- What will be assigned to the flag, in this order. -/
def news (charger : Charger) : List Bool :=
  charger.storing.toList ++ charger.callQueue.filterMap (fun entry => tells? entry.func) ++
    charger.announcing.toList

/-- The flag when there is no more news. -/
def settles (charger : Charger) : Bool := charger.news.getLastD charger.attached

/-- What the flag is to follow: its first value, or what the last batch was taken for. -/
def follows (charger : Charger) : Bool := charger.batch.elim false Edges.attached

/-- The flag follows the batches, and the edges since the last batch tell the level. -/
structure Consistent (charger : Charger) : Prop where
  /-- The flag settles to what it follows. -/
  settles : charger.settles = charger.follows
  /-- No batch is empty. -/
  nonempty : charger.batch ≠ some ⟨false, false⟩
  /-- If every edge was seen, the latched edges tell the level. -/
  latched : charger.unseen = false → charger.latched.Explains charger.low
  /-- If every edge was seen and none is latched, the last batch tells the level. -/
  last : charger.unseen = false → charger.latched = ⟨false, false⟩ →
    ∀ batch, charger.batch = some batch → batch.Explains charger.low

/-- Nothing has happened when the interrupts are enabled. -/
theorem start_consistent (low : Bool) : (start low).Consistent :=
  ⟨rfl, nofun, fun _ => ⟨nofun, nofun⟩, fun _ _ => nofun⟩

/-- An edge keeps the charger consistent. -/
theorem Drift.consistent {charger after : Charger} (drifted : Drift charger after)
    (consistent : charger.Consistent) : after.Consistent := by
  obtain ⟨settles, nonempty, latched, _⟩ := consistent
  cases drifted with
  | rise low =>
    have latches {rise fall : Bool} (same : (⟨true, charger.latched.fall⟩ : Edges) = ⟨rise, fall⟩) :
        rise = true := (congrArg Edges.rise same).symm
    exact ⟨settles, nonempty, fun _ => ⟨fun _ => rfl, fun single =>
      Bool.noConfusion (latches single)⟩,
      fun _ none => Bool.noConfusion (latches none)⟩
  | fall high =>
    have latches {rise fall : Bool} (same : (⟨charger.latched.rise, true⟩ : Edges) = ⟨rise, fall⟩) :
        fall = true := (congrArg Edges.fall same).symm
    exact ⟨settles, nonempty, fun _ => ⟨fun single => Bool.noConfusion (latches single), fun _ =>
      rfl⟩,
      fun _ none => Bool.noConfusion (latches none)⟩

/-- Taking a batch keeps the charger consistent. -/
theorem Consistent.service {charger : Charger} (consistent : charger.Consistent)
    (some' : charger.latched ≠ ⟨false, false⟩) : charger.service.Consistent where
  settles := by simp [Charger.settles, Charger.follows, Charger.news, Charger.service]
  nonempty same := some' (Option.some.inj same)
  latched _ := ⟨nofun, nofun⟩
  last seen _ batch same := Option.some.inj same ▸ consistent.latched seen

/-- Taking an entry from the queue keeps the charger consistent. -/
theorem Consistent.dequeue {charger : Charger} {entry : QueueEntry} {rest : List QueueEntry}
    (consistent : charger.Consistent) (resting : charger.storing = none)
    (queued : charger.callQueue = entry :: rest) : (charger.dequeue entry rest).Consistent := by
  have same : (charger.dequeue entry rest).news = charger.news := by
    rw [Charger.news, Charger.news, resting, queued, Charger.dequeue, List.filterMap_cons]
    cases tells? entry.func <;> rfl
  have settles : (charger.dequeue entry rest).settles = charger.settles :=
    congrArg (·.getLastD charger.attached) same
  exact ⟨settles.trans consistent.settles, consistent.nonempty, consistent.latched, consistent.last⟩

/-- Acknowledging edges keeps the charger consistent: an edge that it takes away was not seen. -/
theorem Consistent.acknowledge {charger : Charger} (consistent : charger.Consistent)
    (events : UInt32) : (charger.acknowledge events).Consistent := by
  have kept (seen : (charger.acknowledge events).unseen = false) :
      charger.unseen = false ∧ (charger.acknowledge events).latched = charger.latched := by
    simp only [Charger.acknowledge, Bool.or_eq_false_iff] at seen
    obtain ⟨⟨seen, rise⟩, fall⟩ := seen
    simp only [Charger.acknowledge, rise, fall, Bool.not_false, Bool.and_true, true_and, seen]
  refine ⟨consistent.settles, consistent.nonempty, fun seen => ?_, fun seen none => ?_⟩
  · rw [(kept seen).2]
    exact consistent.latched (kept seen).1
  · rw [(kept seen).2] at none
    exact consistent.last (kept seen).1 none

/-- A function of another device is queued. -/
theorem Consistent.queue {charger : Charger} (consistent : charger.Consistent)
    {entry : QueueEntry} (silent : tells? entry.func = none) :
    { charger with callQueue := charger.callQueue ++ [entry] }.Consistent := by
  have same : { charger with callQueue := charger.callQueue ++ [entry] }.news = charger.news := by
    simp only [Charger.news, List.filterMap_append, List.filterMap_cons, silent,
      List.filterMap_nil, List.append_nil]
  have settles : { charger with callQueue := charger.callQueue ++ [entry] }.settles =
      charger.settles := congrArg (·.getLastD charger.attached) same
  exact ⟨settles.trans consistent.settles, consistent.nonempty, consistent.latched, consistent.last⟩

/-- The callback queues its news. -/
theorem Consistent.announce {charger : Charger} (consistent : charger.Consistent)
    {entry : QueueEntry} (told : tells? entry.func = charger.announcing) :
    { charger with
      callQueue := charger.callQueue ++ [entry]
      announcing := none }.Consistent := by
  have same : { charger with
      callQueue := charger.callQueue ++ [entry]
      announcing := none }.news = charger.news := by
    simp only [Charger.news, List.filterMap_append, List.filterMap_cons, told, List.filterMap_nil,
      List.append_assoc]
    cases charger.announcing <;> rfl
  have settles : { charger with
      callQueue := charger.callQueue ++ [entry]
      announcing := none }.settles = charger.settles :=
    congrArg (·.getLastD charger.attached) same
  exact ⟨settles.trans consistent.settles, consistent.nonempty, consistent.latched, consistent.last⟩

/-- Core 1 assigns its news. -/
theorem Consistent.assign {charger : Charger} (consistent : charger.Consistent) {value : Bool}
    (told : charger.storing = some value) :
    { charger with attached := value, storing := none }.Consistent := by
  have settles : { charger with attached := value, storing := none }.settles =
      charger.settles := by
    simp only [Charger.settles, Charger.news, told]
    exact (List.getLastD_cons ..).symm
  exact ⟨settles.trans consistent.settles, consistent.nonempty, consistent.latched, consistent.last⟩

/-- What a thread may do keeps the charger consistent. -/
theorem Consistent.act {charger after : Charger} {thread : Thread} {what : Deed}
    (consistent : charger.Consistent) (permitted : what.Permitted charger thread)
    (acted : (charger.moved thread what).act what = some after) : after.Consistent := by
  have still : ∀ bystander : Thread, Consistent { charger with
      announcing := if bystander = .interrupt then charger.announcing else charger.announcing
      storing := if bystander = .core1 then charger.storing else charger.storing } := by
    intro bystander
    simpa only [ite_self] using consistent
  cases what with
  | queue entry added =>
    obtain ⟨_, same⟩ := Option.ite_none_right_eq_some.mp acted
    obtain rfl := Option.some.inj same
    cases added with
    | false =>
      have unmoved : announced charger.announcing (.queue entry false) = charger.announcing := by
        simp only [announced, Bool.false_eq_true, false_and, if_false]
      have unstored : stored charger.storing (.queue entry false) = charger.storing := rfl
      simpa only [moved, unmoved, unstored, Bool.false_eq_true, if_false] using still thread
    | true =>
      cases thread with
      | core0 => exact consistent.queue permitted
      | core1 => exact consistent.queue permitted
      | interrupt =>
        by_cases silent : tells? entry.func = none
        · have unmoved : announced charger.announcing (.queue entry true) = charger.announcing :=
            if_neg fun both => both.2 silent
          simpa only [moved, unmoved, if_true, reduceCtorEq, if_false] using
            consistent.queue silent
        · have quiet : announced charger.announcing (.queue entry true) = none :=
            if_pos ⟨rfl, silent⟩
          simpa only [moved, quiet, if_true, reduceCtorEq, if_false] using
            consistent.announce (permitted.resolve_left silent)
  | assign value =>
    obtain rfl := Option.some.inj acted
    cases thread with
    | core0 => exact permitted.elim
    | interrupt => exact permitted.elim
    | core1 => exact consistent.assign permitted
  | look value =>
    obtain ⟨_, same⟩ := Option.ite_none_right_eq_some.mp acted
    obtain rfl := Option.some.inj same
    exact still thread
  | acknowledge gpio events =>
    obtain rfl := Option.some.inj acted
    split
    · exact (still thread).acknowledge events
    · exact still thread
  | other =>
    obtain rfl := Option.some.inj acted
    exact still thread

/-- With nothing latched and no news, the flag agrees with the pin unless the pin is low and there
was no batch, or the last one held both edges. -/
theorem Consistent.agrees_iff {charger : Charger} (consistent : charger.Consistent)
    (seen : charger.unseen = false) (latched : charger.latched = ⟨false, false⟩)
    (quiet : charger.news = []) :
    (charger.attached = true ↔ charger.low = true) ↔
      ¬ (charger.low = true ∧ (charger.batch = none ∨ charger.batch = some ⟨true, true⟩)) := by
  have flag : charger.attached = charger.follows := by
    have settles := consistent.settles
    rwa [Charger.settles, quiet] at settles
  rw [flag, Charger.follows]
  cases last : charger.batch with
  | none => simp
  | some batch =>
    obtain ⟨rising, falling⟩ := consistent.last seen latched batch last
    obtain ⟨rise, fall⟩ := batch
    cases rise with
    | true =>
      cases fall with
      | true => simp [Edges.attached]
      | false => simp [Edges.attached, rising rfl]
    | false =>
      cases fall with
      | true => simp [Edges.attached, falling rfl]
      | false => exact absurd last consistent.nonempty

end Charger

section Discipline

variable [Max77958.DriverHeader]

/-- Core 1 assigns what the function it runs says. -/
theorem guards_call (buffers : Max77958.Buffers) (entry : QueueEntry)
    (told : tells? entry.func ≠ none) :
    worker.Guards (tells? entry.func) (entry.call buffers >>= fun _ => .done ())
      fun storing _ => storing = none := by
  obtain ⟨func, data⟩ := entry
  cases func with
  | ncp3901OnWirelessChargerAttached =>
    exact ⟨fun _ => trivial, fun _ => ⟨fun _ => rfl, fun _ => rfl⟩⟩
  | ncp3901OnWirelessChargerDetached =>
    exact ⟨fun _ => trivial, fun _ => ⟨fun _ => rfl, fun _ => rfl⟩⟩
  | _ => exact absurd rfl told

/-- The threads keep to their monitors. -/
def discipline : System.Discipline (system : System Ans) where
  monitor := monitor
  view := view
  rest := rest
  own := by
    intro thread charger op answer after executed
    obtain ⟨announcing, storing⟩ := Charger.act_threads executed
    cases thread with
    | core0 => rfl
    | interrupt => exact announcing
    | core1 => exact storing
  other := by
    intro thread charger op answer after executed bystander apart
    obtain ⟨announcing, storing⟩ := Charger.act_threads executed
    cases bystander with
    | core0 => rfl
    | interrupt =>
      cases thread with
      | interrupt => exact absurd rfl apart
      | _ => exact announcing
    | core1 =>
      cases thread with
      | core1 => exact absurd rfl apart
      | _ => exact storing
  launched := by
    intro thread charger program after launched resting
    cases thread with
    | core0 =>
      have ignores : bystander.Ignores Elsewhere := fun _ _ elsewhere => ⟨elsewhere, fun _ => rfl⟩
      exact ignores.guards launched.2 fun _ => trivial
    | interrupt =>
      obtain ⟨rfl, gpio, eventMask, other, rfl⟩ | ⟨some', rfl, rfl⟩ := launched
      · exact callback_ignores_elsewhere.guards (otherInterrupt_elsewhere other eventMask)
          fun _ => resting
      · exact guards_callback some'
    | core1 =>
      obtain ⟨entry, rest, queued, rfl, runs⟩ := launched
      split at runs
      · rename_i silent
        exact worker_ignores_elsewhere.guards runs fun _ => silent
      · rename_i told
        obtain ⟨buffers, rfl⟩ := runs
        exact guards_call buffers entry told
  aside := by
    intro thread charger program after launched bystander apart
    cases thread with
    | core0 => rw [launched.1]
    | interrupt =>
      obtain ⟨rfl, _⟩ | ⟨_, rfl, _⟩ := launched
      · rfl
      · cases bystander with
        | interrupt => exact absurd rfl apart
        | _ => rfl
    | core1 =>
      obtain ⟨entry, rest, queued, rfl, _⟩ := launched
      cases bystander with
      | core1 => exact absurd rfl apart
      | _ => rfl
  drifted := by
    intro charger after drifted thread
    cases drifted <;> cases thread <;> rfl

/-- Every configuration reached is consistent, and its threads keep to their monitors. -/
theorem reaches_consistent {low : Bool} {config : (system : System Ans).Config}
    (reached : System.Reaches (fun _ _ => True) (started low) config) :
    discipline.Holds config ∧ Charger.Consistent config.shared := by
  refine discipline.invariant
    (fun {thread charger op answer after} inv allowed _ executed => ?_)
    (fun {thread charger program after} inv resting _ launched => ?_)
    (fun inv _ drifted => drifted.consistent inv) ?_ (Charger.start_consistent low) reached
  · have permitted : (deed op answer).Permitted charger thread := by
      cases thread with
      | core0 => exact allowed answer
      | interrupt => exact allowed answer
      | core1 => exact allowed answer
    exact inv.act permitted executed
  · cases thread with
    | core0 => exact launched.1 ▸ inv
    | interrupt =>
      obtain ⟨rfl, _⟩ | ⟨some', rfl, _⟩ := launched
      · exact inv
      · exact inv.service some'
    | core1 =>
      obtain ⟨entry, rest, queued, rfl, _⟩ := launched
      exact inv.dequeue resting queued
  · intro thread
    cases thread <;> trivial

end Discipline

section Settled

variable [Max77958.DriverHeader]

/-- When every edge has been serviced and the queue has been drained, the flag agrees with the pin
unless the pin is low and there was no batch, or the last one held both edges. -/
theorem attached_agrees_iff {low : Bool} {config : (system : System Ans).Config}
    (reached : System.Reaches (fun _ _ => True) (started low) config) (quiet : Quiet config) :
    (Charger.attached config.shared = true ↔ Charger.low config.shared = true) ↔
      ¬ (Charger.low config.shared = true ∧ (Charger.batch config.shared = none ∨
        Charger.batch config.shared = some ⟨true, true⟩)) := by
  obtain ⟨holds, consistent⟩ := reaches_consistent reached
  obtain ⟨⟨latched, seen⟩, returned, drained, idle⟩ := quiet
  have announcing : Charger.announcing config.shared = none := by
    have resting := holds Thread.interrupt
    rw [Program.eq_done_valueD returned ()] at resting
    exact resting
  have storing : Charger.storing config.shared = none := by
    have resting := holds Thread.core1
    rw [Program.eq_done_valueD idle ()] at resting
    exact resting
  refine consistent.agrees_iff seen latched ?_
  change (Charger.storing config.shared).toList ++
    (Charger.callQueue config.shared).filterMap (fun entry => tells? entry.func) ++
      (Charger.announcing config.shared).toList = []
  rw [announcing, storing, drained]
  rfl

end Settled

/-! ## Playing runs -/

/-- The answer to an operation while no test is waiting. -/
def Charger.answer (charger : Charger) : (op : Op) → Option (Ans op)
  | .callQueueTryAdd _ => some (decide (charger.callQueue.length < callQueueCapacity))
  | .load .wirelessChargerAttached => some charger.attached
  | .load _ => some false
  | .store .. => some ()
  | .gpioAcknowledgeIrq .. => some ()
  | .rp2040Log .. => some ()
  | _ => none

/-- The program of a thread that is launched, with the charger after it. -/
def Charger.launchNext [Max77958.DriverHeader] (charger : Charger) :
    Thread → Option (Firmware Unit × Charger)
  | .core0 => none
  | .interrupt =>
    if charger.latched ≠ ⟨false, false⟩ then
      some (robotInterruptHandler gpioWirelessAvailable charger.latched.mask, charger.service)
    else none
  | .core1 =>
    charger.callQueue.head?.bind fun entry =>
      if tells? entry.func ≠ none then
        some (entry.call .zero >>= fun _ => .done (), charger.dequeue entry charger.callQueue.tail)
      else none

/-- The charger after the pin has changed its level. -/
def Charger.edge (charger : Charger) : Charger :=
  if charger.low then { charger with low := false, latched := ⟨true, charger.latched.fall⟩ }
  else { charger with low := true, latched := ⟨charger.latched.rise, true⟩ }

/-- Callbacks, entries of the queue and edges. -/
def player [Max77958.DriverHeader] : System.Player (system : System Ans) where
  Choice := PinChoice
  above
    | .core0 => [Thread.interrupt]
    | _ => []
  covers := by
    rintro _ _ ⟨rfl, rfl⟩
    exact List.mem_singleton.mpr rfl
  answer _ _ := Charger.answer
  launch _ thread charger := Charger.launchNext charger thread
  launches := by
    intro _ thread charger program after launched
    cases thread with
    | core0 => cases launched
    | interrupt =>
      obtain ⟨some', same⟩ := Option.ite_none_right_eq_some.mp launched
      cases same
      exact .inr ⟨some', rfl, rfl⟩
    | core1 =>
      obtain ⟨entry, first, launched⟩ := Option.bind_eq_some_iff.mp launched
      obtain ⟨told, same⟩ := Option.ite_none_right_eq_some.mp launched
      cases same
      refine ⟨entry, _, (List.cons_head?_tail first).symm, rfl, ?_⟩
      rw [if_neg told]
      exact ⟨.zero, rfl⟩
  drift _ charger := some (Charger.edge charger)
  drifts := by
    intro _ charger after drifted
    obtain rfl := Option.some.inj drifted
    unfold Charger.edge
    split
    · exact .rise ‹_›
    · exact .fall (Bool.eq_false_iff.mpr ‹_›)

instance [Max77958.DriverHeader] (config : (system : System Ans).Config) :
    Decidable (Quiet config) :=
  decidable_of_iff ((Charger.latched config.shared = ⟨false, false⟩ ∧
      Charger.unseen config.shared = false) ∧
      (config.programs Thread.interrupt).isDone = true ∧ Charger.callQueue config.shared = [] ∧
        (config.programs Thread.core1).isDone = true)
    ⟨fun all => ⟨all.1, all.2.1, all.2.2.1, all.2.2.2⟩,
      fun quiet => ⟨quiet.serviced, quiet.returned, quiet.drained, quiet.idle⟩⟩

/-- The edges since the last batch are serviced, and the queue is drained. -/
def serviced [Max77958.DriverHeader] : List (player : System.Player (system : System Ans)).Cue :=
  [.launch Thread.interrupt .next, .run Thread.interrupt .next 5, .launch Thread.core1 .next,
    .run Thread.core1 .next 5]

/-- A charger is attached, and the flag agrees. -/
theorem attached_agrees_falling :
    let _ := Max77958.sampleHeader
    ∃ config, System.Reaches (fun _ _ => True) (started false) config ∧
      (Charger.attached config.shared, Charger.low config.shared) = (true, true) ∧
        ((Charger.attached config.shared = true ↔ Charger.low config.shared = true) ↔
          ¬ (Charger.low config.shared = true ∧ (Charger.batch config.shared = none ∨
            Charger.batch config.shared = some ⟨true, true⟩))) := by
  intro header
  obtain ⟨config, reached, seen⟩ := player.reaches_of_any (fun _ _ => True) (started false)
    (.drift .edge :: serviced) (fun config => decide (Quiet config ∧
      (Charger.attached config.shared, Charger.low config.shared) = (true, true)))
    (by decide +kernel)
  obtain ⟨quiet, levels⟩ := of_decide_eq_true seen
  exact ⟨config, reached, levels, attached_agrees_iff reached quiet⟩

/-- A charger is attached, removed and attached again before the callback: its batch holds both
edges and is taken for a rising one, and the flag stays clear on a low pin. -/
theorem attached_missed :
    ¬ ∀ [Max77958.DriverHeader] (low : Bool) (config : (system : System Ans).Config),
      System.Reaches (fun _ _ => True) (started low) config → Quiet config →
        (Charger.attached config.shared = true ↔ Charger.low config.shared = true) := by
  intro agrees
  let _ := Max77958.sampleHeader
  obtain ⟨config, reached, seen⟩ := player.reaches_of_any (fun _ _ => True) (started false)
    (.drift .edge :: .drift .edge :: .drift .edge :: serviced)
    (fun config => decide (Quiet config ∧
      (Charger.attached config.shared, Charger.low config.shared) = (false, true)))
    (by decide +kernel)
  obtain ⟨quiet, levels⟩ := of_decide_eq_true seen
  obtain ⟨attached, low⟩ := Prod.mk.inj levels
  have impossible := (agrees false config reached quiet).mpr low
  rw [attached] at impossible
  exact Bool.noConfusion impossible

end WirelessCharger

end RobotFirmware
