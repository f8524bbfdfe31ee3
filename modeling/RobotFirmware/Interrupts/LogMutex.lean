import RobotFirmware.Interaction.Playback
import RobotFirmware.Serial.Receiver
import RobotFirmware.TypeC.Board

/-!
# The mutex of the log

`rp2040_log` holds a mutex while it stores its message, and `handle_packet` holds it while it
sends the log. The mutex is not recursive, and an interrupt handler on core 0 logs only when
the call queue refuses an entry of `call_queue_try_add`. If the code that it interrupted holds
the mutex at that moment, the handler waits for ever; otherwise it never waits for that code.
-/

namespace RobotFirmware

open Interaction
open TypeC (Thread callQueueCapacity)

namespace LogMutex

/-- `rp2040_log` stores its message between taking and releasing the mutex. -/
def locking : (op : Op) → Firmware (Ans op)
  | .rp2040Log format args => do
    perform .rp2040LogAcquireLock
    perform (.rp2040Log format args)
    perform .rp2040LogReleaseLock
  | op => perform op

/-- Where the interrupt handler stands. -/
inductive Stage where
  /-- It has not been refused. -/
  | calm
  /-- `call_queue_try_add` has been refused and is about to log. -/
  | refused
  /-- It has taken the mutex to log that. -/
  | logging
  deriving DecidableEq

/-- An offer that logs when it is refused. The fuel gauge uses `call_queue_try_add_nonblocking`,
which does not. -/
def Blocking (entry : QueueEntry) : Prop := entry.func ≠ .bq27742G1ParseInterruptVals

instance (entry : QueueEntry) : Decidable (Blocking entry) := inferInstanceAs (Decidable (_ ≠ _))

/-- Where the handler stands after an operation. -/
def Stage.next : Stage → (op : Op) → Ans op → Stage
  | stage, .callQueueTryAdd entry, added =>
    if added = false ∧ Blocking entry then .refused else stage
  | _, .rp2040LogAcquireLock, _ => .logging
  | stage, _, _ => stage

/-- The mutex and the call queue. -/
structure Lock where
  /-- The thread that holds the mutex. -/
  owner : Option Thread
  /-- `call_queue`. -/
  callQueue : List QueueEntry
  /-- Where the interrupt handler stands. -/
  stage : Stage
  deriving DecidableEq

namespace Lock

/-- The state after an operation of a thread, if it is possible: a thread that asks for a mutex
which is held waits, and an entry is added exactly when there is room. -/
def act (lock : Lock) (thread : Thread) : (op : Op) → Ans op → Option Lock
  | .rp2040LogAcquireLock, _ =>
    if lock.owner = none then some { lock with owner := some thread } else none
  | .rp2040LogReleaseLock, _ => some { lock with owner := none }
  | .callQueueTryAdd entry, added =>
    if added = decide (lock.callQueue.length < callQueueCapacity) then
      some { lock with callQueue := if added then lock.callQueue ++ [entry] else lock.callQueue }
    else none
  | _, _ => some lock

/-- The state after an answered operation. Only the interrupt handler moves its stage. -/
def exec (thread : Thread) (lock : Lock) (op : Op) (answer : Ans op) : Option Lock :=
  (lock.act thread op answer).map fun after =>
    { after with stage := if thread = .interrupt then lock.stage.next op answer else lock.stage }

/-- An idle thread starts a program: any pin may interrupt, and core 1 takes the first entry. -/
def launch [Max77958.DriverHeader] (thread : Thread) (lock : Lock) (program : Firmware Unit)
    (after : Lock) : Prop :=
  match thread with
  | .core0 => False
  | .interrupt => after = lock ∧
      ∃ gpio eventMask, program = (robotInterruptHandler gpio eventMask).expand locking
  | .core1 => ∃ (entry : QueueEntry) (rest : List QueueEntry) (buffers : Max77958.Buffers),
      lock.callQueue = entry :: rest ∧ after = { lock with callQueue := rest } ∧
        program = (entry.call buffers >>= fun _ => .done ()).expand locking

end Lock

section System

variable [Max77958.DriverHeader]

/-- The threads over the mutex and the queue. -/
def system : System Ans where
  Thread := Thread
  decEq := inferInstance
  Shared := Lock
  preempts first second := first = .interrupt ∧ second = .core0
  exec := Lock.exec
  launch := Lock.launch
  drift _ _ := False

/-- Core 0 runs a program, with any entries in the call queue. -/
def started {α : Type} (main : Firmware α) (callQueue : List QueueEntry) : system.Config where
  shared := ⟨none, callQueue, .calm⟩
  programs
    | .core0 => (main >>= fun _ => .done ()).expand locking
    | .interrupt => .done ()
    | .core1 => .done ()

/-- The interrupt handler waits for the mutex, and the code that it interrupted holds it. -/
def Deadlocked (config : system.Config) : Prop :=
  (config.programs Thread.interrupt).next? = some .rp2040LogAcquireLock ∧
    Lock.owner config.shared = some .core0

/-- When the interrupt handler calls `call_queue_try_add`, the queue has room or the interrupted
code does not hold the mutex. -/
def Spared : system.Shared → system.Action → Prop
  | (lock : Lock), .perform Thread.interrupt (.callQueueTryAdd entry) _ =>
    Blocking entry → lock.callQueue.length < callQueueCapacity ∨ lock.owner ≠ some .core0
  | _, _ => True

end System

/-! ## What the threads do -/

/-- What the handler may do with the mutex at each stage. -/
def Stage.Allows : Stage → Op → Prop
  | .calm, .rp2040LogAcquireLock => False
  | .refused, .rp2040LogAcquireLock => True
  | .refused, _ => False
  | .logging, .rp2040LogAcquireLock => False
  | _, _ => True

/-- What the handler may do with the log at each stage. -/
def Stage.AllowsLog : Stage → Op → Prop
  | .refused, .rp2040Log .. => True
  | .refused, _ => False
  | _, .rp2040Log .. => False
  | _, .rp2040LogAcquireLock => False
  | _, _ => True

/-- The interrupt handler and the mutex. -/
abbrev handler : Monitor Ans := ⟨Stage, Stage.Allows, Stage.next⟩

/-- The interrupt handler and the log, whose messages are single operations. -/
abbrev logger : Monitor Ans where
  State := Stage
  allows := Stage.AllowsLog
  next
    | _, .rp2040Log .., _ => .logging
    | stage, op, answer => stage.next op answer

/-- Core 0 outside interrupts, and core 1. -/
abbrev unwatched : Monitor Ans := ⟨Unit, fun _ _ => True, fun _ _ _ => ()⟩

/-- Every program may run unwatched. -/
theorem unwatched_guards {α : Type} (program : Firmware α) :
    unwatched.Guards () program fun _ _ => True := by
  induction program with
  | done value => trivial
  | perform op resume ih => exact ⟨trivial, ih⟩

/-- A message takes the mutex once. -/
theorem guards_locking (stage : Stage) (op : Op) (allowed : stage.AllowsLog op) :
    handler.Guards stage (locking op) fun final answer => final = logger.next stage op answer := by
  cases op with
  | rp2040Log format args =>
    cases stage with
    | refused => exact ⟨trivial, fun _ => ⟨trivial, fun _ => ⟨trivial, fun _ => rfl⟩⟩⟩
    | _ => exact allowed.elim
  | _ =>
    cases stage <;> first | exact allowed.elim | exact ⟨trivial, fun _ => rfl⟩

/-- A program that leaves a calm handler calm whenever it returns. -/
def Calms {α : Type} (program : Firmware α) : Prop :=
  logger.Guards .calm program fun stage _ => stage = .calm

namespace Calms

variable {α β : Type}

/-- A program that has returned. -/
theorem done (value : α) : Calms (.done value : Firmware α) := rfl

/-- A single operation. -/
theorem act {op : Op} (allowed : Stage.calm.AllowsLog op)
    (stays : ∀ answer, logger.next .calm op answer = .calm) : Calms (perform op) :=
  ⟨allowed, stays⟩

/-- One program after another. -/
theorem bind {program : Firmware α} {next : α → Firmware β} (first : Calms program)
    (second : ∀ value, Calms (next value)) : Calms (program >>= next) := by
  refine Monitor.guards_bind.mpr (first.mono fun stage value calm => ?_)
  subst calm
  exact second value

/-- An operation before a program. -/
theorem act_bind {op : Op} {next : Ans op → Firmware β} (allowed : Stage.calm.AllowsLog op)
    (stays : ∀ answer, logger.next .calm op answer = .calm)
    (second : ∀ answer, Calms (next answer)) : Calms (perform op >>= next) :=
  (act allowed stays).bind second

/-- A choice of two such programs. -/
theorem ite {condition : Prop} [Decidable condition] {first second : Firmware α}
    (yes : Calms first) (no : Calms second) : Calms (if condition then first else second) := by
  split
  · exact yes
  · exact no

end Calms

/-- `call_queue_try_add` leaves a calm handler calm, or does not return. -/
theorem callQueueTryAdd_calms {func : EntryFunc} (arg : Int32) (blocking : Blocking ⟨func, arg⟩) :
    Calms (callQueueTryAdd func arg) := by
  refine ⟨trivial, fun (added : Bool) => ?_⟩
  change logger.Guards (Stage.calm.next (.callQueueTryAdd ⟨func, arg⟩) added) _ _
  cases added with
  | true =>
    have calm : Stage.calm.next (.callQueueTryAdd ⟨func, arg⟩) true = .calm := by
      simp [Stage.next]
    rw [calm]
    exact Calms.done ()
  | false =>
    have refused : Stage.calm.next (.callQueueTryAdd ⟨func, arg⟩) false = .refused :=
      if_pos ⟨rfl, blocking⟩
    rw [refused]
    exact ⟨trivial, fun _ => ⟨trivial, fun impossible => impossible.elim⟩⟩

/-- The part that the handlers of most devices share leaves the handler calm. -/
theorem queueFunctions_calms {gpio : Nat} {mask : UInt32} {func response : EntryFunc}
    {arg : Int32} {flag : Flag} (blocking : Blocking ⟨func, arg⟩) (also : Blocking ⟨response, 1⟩) :
    Calms (do
      gpioAcknowledgeIrq gpio mask
      callQueueTryAdd func arg
      if ← load flag then callQueueTryAdd response 1) :=
  .act_bind trivial (fun _ => rfl) fun _ => (callQueueTryAdd_calms arg blocking).bind fun _ =>
    .act_bind trivial (fun _ => rfl) fun _ => .ite (callQueueTryAdd_calms 1 also) (.done ())

/-- The fuel gauge's handler does not log. -/
theorem gauge_calms (gpio : Nat) (eventMask : UInt32) :
    Calms (Bq27742G1.onInterrupt gpio eventMask) := by
  have rearm : Calms Bq27742G1.rearmIfReleased :=
    .act_bind trivial (fun _ => rfl) fun _ => .ite (.act_bind trivial (fun _ => rfl) fun _ =>
      .act_bind trivial (fun _ => rfl) fun _ => .act trivial fun _ => rfl) (.done ())
  have offer : Calms (callQueueTryAddNonblocking .bq27742G1ParseInterruptVals 0) :=
    .act trivial fun _ => if_neg fun both => both.2 rfl
  have queue : Calms Bq27742G1.queueParseInterrupt :=
    .act_bind trivial (fun _ => rfl) fun _ => .ite (.done ())
      (.act_bind trivial (fun _ => rfl) fun _ => .act_bind trivial (fun _ => rfl) fun _ =>
        .act_bind trivial (fun _ => rfl) fun _ => offer.bind fun _ => .ite rearm (.done ()))
  have assert : Calms (Bq27742G1.onAssert eventMask) :=
    .ite (.act_bind trivial (fun _ => rfl) fun _ => queue) (.done ())
  have deassert : Calms (Bq27742G1.onDeassert eventMask) :=
    .ite (.act_bind trivial (fun _ => rfl) fun _ => rearm) (.done ())
  exact .ite (.done ()) (assert.bind fun _ => deassert)

/-- Whatever pin interrupts, the handler logs only after a refused `call_queue_try_add`. -/
theorem robotInterruptHandler_calms (gpio : Nat) (eventMask : UInt32) :
    Calms (robotInterruptHandler gpio eventMask) := by
  have wireless : Calms (Ncp3901.onWirelessChargerInterrupt gpio eventMask) :=
    .ite (queueFunctions_calms nofun nofun) (.ite (queueFunctions_calms nofun nofun) (.done ()))
  have motor : Calms (Drv8830.onInterrupt gpio eventMask) :=
    .ite (queueFunctions_calms nofun nofun) (.done ())
  exact .ite wireless (.ite (.ite (queueFunctions_calms nofun nofun) (.done ()))
    (.ite (.ite (queueFunctions_calms nofun nofun) (.done ()))
      (.ite (gauge_calms gpio eventMask) (.ite motor (.ite motor (.done ()))))))

/-- The handler takes the mutex only after a refused `call_queue_try_add`. -/
theorem guards_robotInterruptHandler (gpio : Nat) (eventMask : UInt32) :
    handler.Guards .calm ((robotInterruptHandler gpio eventMask).expand locking)
      fun stage _ => stage = .calm :=
  Monitor.Guards.expand (m := handler) logger id guards_locking
    (robotInterruptHandler_calms gpio eventMask)

/-! ## The threads together -/

/-- The monitor of each thread. -/
abbrev monitor : Thread → Monitor Ans
  | .interrupt => handler
  | _ => unwatched

/-- What is known of a thread. -/
def view : (thread : Thread) → Lock → (monitor thread).State
  | .core0, _ => ()
  | .interrupt, lock => lock.stage
  | .core1, _ => ()

/-- An idle handler is calm. -/
def rest : (thread : Thread) → (monitor thread).State → Prop
  | .interrupt, (stage : Stage) => stage = .calm
  | .core0, _ => True
  | .core1, _ => True

/-- A refused handler found the mutex free, or held by core 1. -/
def Safe (lock : Lock) : Prop := lock.stage = .refused → lock.owner ≠ some .core0

/-- What an operation does to the owner of the mutex. -/
theorem owner_cases {thread : Thread} {lock after : Lock} {op : Op} {answer : Ans op}
    (executed : lock.exec thread op answer = some after) :
    after.owner = lock.owner ∨ after.owner = none ∨
      op = .rp2040LogAcquireLock ∧ after.owner = some thread := by
  obtain ⟨acted, found, rfl⟩ := Option.map_eq_some_iff.mp executed
  cases op with
  | rp2040LogAcquireLock =>
    obtain ⟨_, same⟩ := Option.ite_none_right_eq_some.mp found
    obtain rfl := Option.some.inj same
    exact .inr (.inr ⟨rfl, rfl⟩)
  | rp2040LogReleaseLock =>
    obtain rfl := Option.some.inj found
    exact .inr (.inl rfl)
  | callQueueTryAdd entry =>
    obtain ⟨_, same⟩ := Option.ite_none_right_eq_some.mp found
    obtain rfl := Option.some.inj same
    exact .inl rfl
  | _ =>
    obtain rfl := Option.some.inj found
    exact .inl rfl

/-- The handler is refused only when a blocking offer finds no room. -/
theorem refused_cases {lock after : Lock} {op : Op} {answer : Ans op}
    (executed : lock.exec .interrupt op answer = some after) (refused : after.stage = .refused) :
    lock.stage = .refused ∨ ∃ entry, op = .callQueueTryAdd entry ∧ Blocking entry ∧
      ¬ lock.callQueue.length < callQueueCapacity ∧ after.owner = lock.owner := by
  obtain ⟨acted, found, rfl⟩ := Option.map_eq_some_iff.mp executed
  have moved : lock.stage.next op answer = .refused := refused
  cases op with
  | callQueueTryAdd entry =>
    obtain ⟨answered, same⟩ := Option.ite_none_right_eq_some.mp found
    obtain rfl := Option.some.inj same
    by_cases both : answer = false ∧ Blocking entry
    · obtain ⟨no, blocking⟩ := both
      exact .inr ⟨entry, rfl, blocking, of_decide_eq_false (answered.symm.trans no), rfl⟩
    · exact .inl ((if_neg both).symm.trans moved)
  | rp2040LogAcquireLock => cases moved
  | _ => exact .inl moved

/-- Other threads leave the handler where it stands. -/
theorem stage_other {thread : Thread} {lock after : Lock} {op : Op} {answer : Ans op}
    (apart : thread ≠ .interrupt) (executed : lock.exec thread op answer = some after) :
    after.stage = lock.stage := by
  obtain ⟨acted, found, rfl⟩ := Option.map_eq_some_iff.mp executed
  exact if_neg apart

/-- A handler that has been refused asks for the mutex next. -/
theorem next_of_refused {program : Firmware Unit} (refused : handler.Guards Stage.refused program
    fun stage _ => stage = .calm) : program.next? = some .rp2040LogAcquireLock := by
  cases program with
  | done value => cases refused
  | perform op resume =>
    obtain ⟨allowed, _⟩ := refused
    cases op with
    | rp2040LogAcquireLock => rfl
    | _ => exact allowed.elim

/-- A blocking offer that finds no room is refused. -/
theorem refused_of_full {lock after : Lock} {entry : QueueEntry} {added : Bool}
    (executed : lock.exec .interrupt (.callQueueTryAdd entry) added = some after)
    (blocking : Blocking entry) (full : ¬ lock.callQueue.length < callQueueCapacity) :
    after.stage = .refused ∧ after.owner = lock.owner := by
  obtain ⟨acted, found, rfl⟩ := Option.map_eq_some_iff.mp executed
  obtain ⟨answered, same⟩ := Option.ite_none_right_eq_some.mp found
  obtain rfl := Option.some.inj same
  exact ⟨if_pos ⟨answered.trans (decide_eq_false full), blocking⟩, rfl⟩

section Threads

variable [Max77958.DriverHeader]

/-- The threads keep to their monitors. -/
def discipline : System.Discipline (system : System Ans) where
  monitor := monitor
  view := view
  rest := rest
  own := by
    intro thread lock op answer after executed
    obtain ⟨_, _, rfl⟩ := Option.map_eq_some_iff.mp executed
    cases thread <;> rfl
  other := by
    intro thread lock op answer after executed bystander apart
    obtain ⟨_, _, rfl⟩ := Option.map_eq_some_iff.mp executed
    cases bystander with
    | interrupt =>
      cases thread with
      | interrupt => exact absurd rfl apart
      | _ => rfl
    | _ => rfl
  launched := by
    intro thread lock program after launched resting
    cases thread with
    | core0 => exact launched.elim
    | interrupt =>
      obtain ⟨rfl, gpio, eventMask, rfl⟩ := launched
      have calm : after.stage = .calm := resting
      change handler.Guards after.stage _ _
      rw [calm]
      exact guards_robotInterruptHandler gpio eventMask
    | core1 => exact unwatched_guards program
  aside := by
    intro thread lock program after launched bystander apart
    cases thread with
    | core0 => exact launched.elim
    | interrupt => rw [launched.1]
    | core1 =>
      obtain ⟨entry, rest, buffers, queued, rfl, _⟩ := launched
      cases bystander <;> rfl
  drifted := fun drifted => drifted.elim

/-- At the start every thread keeps to its monitor. -/
theorem started_holds {α : Type} (main : Firmware α) (callQueue : List QueueEntry) :
    (discipline : System.Discipline (system : System Ans)).Holds (started main callQueue) := by
  intro thread
  cases thread with
  | core0 => exact unwatched_guards _
  | interrupt => rfl
  | core1 => trivial

/-- In a run whose offers are spared, a refused handler does not wait for core 0. -/
theorem reaches_safe {α : Type} {main : Firmware α} {callQueue : List QueueEntry}
    {config : (system : System Ans).Config}
    (reached : System.Reaches Spared (started main callQueue) config) :
    discipline.Holds config ∧ Safe config.shared := by
  refine discipline.preemptive_invariant
    (fun {thread lock op answer after} safe resting allowed spared executed => ?_)
    (fun {thread lock program after} safe _ _ _ launched => ?_) (fun _ _ drifted => drifted.elim)
    (started_holds main callQueue) (fun refused => Stage.noConfusion refused) reached
  · intro refused held
    cases thread with
    | interrupt =>
      obtain already | ⟨entry, rfl, blocking, full, same⟩ := refused_cases executed refused
      · obtain same | free | ⟨rfl, mine⟩ := owner_cases executed
        · exact safe already (same ▸ held)
        · cases free.symm.trans held
        · cases mine.symm.trans held
      · exact (spared blocking).elim full fun apart => apart (same ▸ held)
    | core0 =>
      have calm : lock.stage = .calm := resting Thread.interrupt ⟨rfl, rfl⟩
      cases calm.symm.trans ((stage_other (by decide) executed).symm.trans refused)
    | core1 =>
      have already := (stage_other (by decide) executed).symm.trans refused
      obtain same | free | ⟨rfl, mine⟩ := owner_cases executed
      · exact safe already (same ▸ held)
      · cases free.symm.trans held
      · cases mine.symm.trans held
  · cases thread with
    | core0 => exact launched.elim
    | interrupt => exact launched.1 ▸ safe
    | core1 =>
      obtain ⟨entry, rest, buffers, queued, rfl, _⟩ := launched
      exact safe
/-- In a run whose offers are spared, no handler waits for a mutex that the code it interrupted
holds. In any run, an offer that is not spared leads to that state at once. -/
theorem interrupt_waits_iff {α : Type} (main : Firmware α) (callQueue : List QueueEntry) :
    (∀ config, System.Reaches Spared (started main callQueue) config → ¬ Deadlocked config) ∧
      ∀ config action next, System.Reaches (fun _ _ => True) (started main callQueue) config →
        System.Step config action next → ¬ Spared config.shared action → Deadlocked next := by
  constructor
  · rintro config reached ⟨waits, held⟩
    obtain ⟨holds, safe⟩ := reaches_safe reached
    have allowed : (Lock.stage config.shared).Allows .rp2040LogAcquireLock :=
      (holds Thread.interrupt).allows_next (.refl _) waits
    cases stage : Lock.stage config.shared with
    | refused => exact safe stage held
    | _ => rw [stage] at allowed; exact allowed
  · intro config action next reached taken unspared
    have holds := (discipline.holds_of_reaches (started_holds main callQueue) reached).step taken
    cases taken with
    | perform free running answered =>
      rename_i thread op resume answer shared
      cases thread with
      | interrupt =>
        -- only an offer to the call queue can fail to be spared
        cases op with
        | callQueueTryAdd entry =>
          obtain ⟨blocking, crowded⟩ := Classical.not_imp.mp unspared
          obtain ⟨full, held⟩ := not_or.mp crowded
          obtain ⟨refused, same⟩ := refused_of_full answered blocking full
          have asking := holds Thread.interrupt
          change handler.Guards (Lock.stage shared) _ _ at asking
          rw [refused] at asking
          exact ⟨next_of_refused asking, same.trans (not_not.mp held)⟩
        | _ => exact absurd trivial unspared
      | _ => exact absurd trivial unspared
    | launch => exact absurd trivial unspared
    | drift => exact absurd trivial unspared

end Threads

/-! ## Playing runs -/

/-- What a cue chooses. -/
inductive Choice where
  /-- What is received next. -/
  | received (c : Option UInt8)
  /-- A pin interrupts. -/
  | interrupt (gpio : Nat) (eventMask : UInt32)

/-- The answer to an operation. -/
def Choice.answer (choice : Choice) (lock : Lock) : (op : Op) → Option (Ans op)
  | .getcharTimeoutUs _ =>
    match choice with
    | .received c => some c
    | .interrupt .. => none
  | .putchar _ => some ()
  | .enter _ => some ()
  | .rp2040LogAcquireLock => some ()
  | .gpioAcknowledgeIrq .. => some ()
  | .callQueueTryAdd _ => some (decide (lock.callQueue.length < callQueueCapacity))
  | .load _ => some false
  | _ => none

/-- The launch of the interrupt handler. -/
def Choice.launch (choice : Choice) (thread : Thread) (lock : Lock) :
    Option (Firmware Unit × Lock) :=
  match thread, choice with
  | .interrupt, .interrupt gpio eventMask =>
    some ((robotInterruptHandler gpio eventMask).expand locking, lock)
  | _, _ => none

/-- The receiver and the interrupt handler. -/
def player [Max77958.DriverHeader] : System.Player (system : System Ans) where
  Choice := Choice
  above
    | .core0 => [Thread.interrupt]
    | _ => []
  covers := by
    rintro _ _ ⟨rfl, rfl⟩
    exact List.mem_singleton.mpr rfl
  answer choice _ lock := choice.answer lock
  launch := Choice.launch
  launches := by
    intro choice thread lock program after launched
    cases thread <;> cases choice <;> cases launched
    exact ⟨rfl, _, _, rfl⟩
  drift _ _ := none
  drifts := fun drifted => nomatch drifted

instance [Max77958.DriverHeader] (lock : (system : System Ans).Shared) (action : system.Action) :
    Decidable (Spared lock action) := by
  unfold Spared
  split <;> infer_instance

/-- Whether a program asks for the mutex next. -/
def asks : Option Op → Bool
  | some .rp2040LogAcquireLock => true
  | _ => false

/-- That is what a deadlocked handler does. -/
theorem asks_iff {next : Option Op} : asks next = true ↔ next = some .rp2040LogAcquireLock := by
  constructor
  · intro asked
    unfold asks at asked
    split at asked
    · rfl
    · cases asked
  · rintro rfl
    rfl

instance [Max77958.DriverHeader] (config : (system : System Ans).Config) :
    Decidable (Deadlocked config) :=
  decidable_of_iff (asks (config.programs Thread.interrupt).next? = true ∧
    Lock.owner config.shared = some .core0) (and_congr_left fun _ => asks_iff)

/-- `GET_LOG` is being answered when a motor driver interrupts. -/
def interrupted [Max77958.DriverHeader] : List (player : System.Player (system : System Ans)).Cue :=
  [.run Thread.core0 (.received (some 0xFE)) 2, .run Thread.core0 (.received (some 0)) 3,
    .run Thread.core0 (.received (some 0xFF)) 5,
    .launch Thread.interrupt (.interrupt Drv8830.gpioFault1 Drv8830.irqMask),
    .run Thread.interrupt (.received none) 2]

/-- With room in the queue the handler goes on while core 0 holds the mutex. -/
theorem interrupt_waits_not :
    let _ := Max77958.sampleHeader
    ∃ config, System.Reaches Spared (started (receiver .zero 1) []) config ∧
      (Lock.owner config.shared, (Lock.callQueue config.shared).length) = (some .core0, 1) ∧
        ¬ Deadlocked config := by
  intro header
  obtain ⟨config, reached, seen⟩ := player.reaches_of_any Spared (started (receiver .zero 1) [])
    interrupted (fun config => decide ((Lock.owner config.shared,
      (Lock.callQueue config.shared).length) = (some .core0, 1))) (by decide +kernel)
  exact ⟨config, reached, of_decide_eq_true seen,
    (interrupt_waits_iff (receiver .zero 1) []).1 config reached⟩

/-- With a full queue the handler waits for the reply that it interrupted. -/
theorem interrupt_waits :
    ¬ ∀ [Max77958.DriverHeader] (main : Firmware SerialState) (callQueue : List QueueEntry)
        (config : (system : System Ans).Config),
      System.Reaches (fun _ _ => True) (started main callQueue) config → ¬ Deadlocked config := by
  intro never
  let _ := Max77958.sampleHeader
  let full : List QueueEntry := List.replicate callQueueCapacity ⟨.drv8830FaultHandler, 10⟩
  obtain ⟨config, reached, seen⟩ := player.reaches_of_any (fun _ _ => True)
    (started (receiver .zero 1) full) interrupted (fun config => decide (Deadlocked config))
    (by decide +kernel)
  exact never (receiver .zero 1) full config reached (of_decide_eq_true seen)

end LogMutex

end RobotFirmware
