import RobotFirmware.Interaction.Playback
import RobotFirmware.TypeC.Sharing

/-!
# Runs of the opcode pipeline

Runs on the shared buffers are played from lists of cues. Answers come from the board, the buffers
and the given register contents. A thread also waits where its next step does not meet the
condition on the run.
-/

namespace RobotFirmware

open Interaction Max77958

namespace TypeC

/-- What the status registers of the chip hold, apart from what the board says. -/
structure Readings where
  /-- `UIC_INT` without the bit of a response. -/
  uicInt : UInt8
  /-- `CC_INT`. -/
  ccInt : UInt8
  /-- `PD_INT`. -/
  pdInt : UInt8
  /-- `CC_STATUS0`. -/
  ccStatus0 : UInt8

/-- Registers that show nothing but a source. -/
def Readings.calm : Readings := ⟨0, 0, 0, 0b010⟩

/-- A response of the chip that starts with the given byte. -/
def reply (first : UInt8) : List UInt8 := first :: List.replicate 32 0

/-- What decides how a run goes on. -/
inductive Choice where
  /-- The registers of the chip hold this. -/
  | readings (readings : Readings)
  /-- A pin interrupts core 0. -/
  | interrupt (gpio : Nat)
  /-- The chip answers a command. -/
  | answer (response : List UInt8)
  /-- A PD message arrives. -/
  | message (pdStatus0 : UInt8)

section Playing

variable [DriverHeader]

/-- The bytes from a register on. -/
def Readings.bytes (readings : Readings) (board : Board) (selected : Option UInt8) : List UInt8 :=
  if selected = some regUicInt then
    [readings.uicInt ||| (if board.apCmdResI then apCmdResIMask else 0), readings.ccInt,
      readings.pdInt, 0]
  else if selected = some opcodeReadCommand then board.response
  else if selected = some regCcStatus0 then [readings.ccStatus0, 0]
  else if selected = some regPdStatus0 then [board.pdStatus0]
  else []

/-- The answer to an operation. -/
def Readings.answer (readings : Readings) (board : Board) (selected : Option UInt8) :
    (op : Op) → Option (Ans op)
  | .i2cWriteTimeoutUs _ _ src _ => some src.length
  | .i2cReadTimeoutUs _ _ len _ =>
    some (len, .ofFn fun i => (readings.bytes board selected).getD i 0)
  | .callQueueTryAdd _ => some (decide (board.callQueue.length < callQueueCapacity))
  | .opcodeQueueTryAdd _ => some (decide (board.opcodeQueue.length < opcodeQueueCapacity))
  | .opcodeQueueTryRemove => some board.opcodeQueue.head?
  | .opcodeQueueGetLevel => some board.opcodeQueue.length
  | .load .opcodesFinished => some board.opcodesFinished
  | .load _ => some false
  | .rp2040Log .. => some ()
  | .cexceptionTry => some ()
  | .storeOpCodeReturnBuf _ => some ()
  | .store .. => some ()
  | .gpioInit _ => some ()
  | .gpioPut .. => some ()
  | .gpioSetDir .. => some ()
  | .gpioPullUp _ => some ()
  | .gpioSetIrqEnabled .. => some ()
  | .gpioAcknowledgeIrq .. => some ()
  | .enter _ => some ()
  | _ => none

/-- The answer to an access. -/
def Readings.access (readings : Readings) (shared : SharedBoard) :
    (op : DriverOp) → Option (DriverAns op)
  | .platform op => readings.answer shared.board shared.pointer op
  | .clearSendBuf => some ()
  | .clearReturnBuf => some ()
  | .setSend .. => some ()
  | .sendByte index => some (shared.buffers.sendBuf.get index)
  | .returnByte index => some (shared.buffers.returnBuf.get index)
  | .writeSendBuf len _ => some (len : Int)
  | .readReturnBuf len =>
    some (len, .ofFn fun i => (readings.bytes shared.board shared.pointer).getD i 0)

/-- A program for an idle user, and the shared board after its launch. -/
def Choice.launch (choice : Choice) (user : User) (shared : SharedBoard) :
    Option (Sharing Unit × SharedBoard) :=
  match user, choice with
  | .runs .interrupt, .interrupt gpio =>
    some (liftM (robotInterruptHandler gpio interruptMask), shared)
  | .runs .core1, _ =>
    match shared.board.callQueue with
    | entry :: rest =>
      if shared.board.core1ShutdownRequested = false then
        some (entry.callShared >>= fun _ => .done (),
          { shared with board := shared.board.dequeue entry rest })
      else none
    | [] => none
  | _, _ => none

/-- The board after the chip has moved. -/
def Choice.drift (choice : Choice) (shared : SharedBoard) : Option SharedBoard :=
  match choice with
  | .answer response =>
    match shared.board.pending with
    | entry :: rest =>
      some { shared with board := { shared.board with
        pending := rest
        answers := shared.board.answers ++ [(entry, response)]
        response := response
        unread := shared.board.unread + 1
        apCmdResI := true } }
    | [] => none
  | .message pdStatus0 =>
    some { shared with board := { shared.board with
      pdStatus0 := pdStatus0
      swapSince := shared.board.swapSince || pdStatus0 = DriverHeader.pdmsgPrswapSwaptosrc } }
  | _ => none

/-- A computed program is one that the user may start. -/
theorem Choice.launches {choice : Choice} {user : User} {shared after : SharedBoard}
    {program : Sharing Unit} (computed : choice.launch user shared = some (program, after)) :
    shared.launch user program after := by
  unfold Choice.launch at computed
  split at computed
  · obtain ⟨rfl, rfl⟩ := Prod.mk.inj (Option.some.inj computed)
    exact ⟨rfl, _, ⟨rfl, _, _, rfl⟩, rfl⟩
  · split at computed
    · rename_i entry rest queued
      obtain ⟨running, same⟩ := Option.ite_none_right_eq_some.mp computed
      obtain ⟨rfl, rfl⟩ := Prod.mk.inj (Option.some.inj same)
      exact ⟨running, entry, rest, queued, rfl, rfl⟩
    · cases computed
  · cases computed

/-- A computed move is one that the chip may make. -/
theorem Choice.drifts {choice : Choice} {shared after : SharedBoard}
    (computed : choice.drift shared = some after) : shared.Drift after := by
  unfold Choice.drift at computed
  split at computed
  · rename_i response
    split at computed
    · rename_i entry rest pending
      obtain rfl := Option.some.inj computed
      exact ⟨_, .answer response pending, rfl⟩
    · cases computed
  · rename_i pdStatus0
    obtain rfl := Option.some.inj computed
    exact ⟨_, .message pdStatus0, rfl⟩
  · cases computed

/-- The player of the pipeline. -/
def player : System.Player (sharing : System DriverAns) where
  Choice := Choice
  above
    | .runs .core0 => [.runs .interrupt, .inspects]
    | .inspects => [.runs .interrupt, .runs .core0]
    | _ => []
  covers {other user} precedes := by
    obtain (_ | _ | _) | _ := other <;> obtain (_ | _ | _) | _ := user <;>
      first | exact precedes.elim | exact .head _ | exact .tail _ (.head _)
  answer choice _ shared op :=
    match choice with
    | .readings readings => readings.access shared op
    | _ => none
  launch := Choice.launch
  launches := Choice.launches
  drift := Choice.drift
  drifts := Choice.drifts

/-! ## Parts of runs -/

/-- Core 0 goes on. -/
def core0 (readings : Readings) : List (System.Player.Cue player) :=
  [.run (User.runs .core0) (Choice.readings readings) 400]

/-- Core 1 runs the first entry of the call queue. -/
def core1 (readings : Readings) : List (System.Player.Cue player) :=
  [.launch (User.runs .core1) (Choice.readings readings),
    .run (User.runs .core1) (Choice.readings readings) 400]

/-- The interrupt handler runs for a pin. -/
def interrupted (gpio : Nat) : List (System.Player.Cue player) :=
  [.launch (User.runs .interrupt) (Choice.interrupt gpio),
    .run (User.runs .interrupt) (Choice.readings .calm) 20]

/-- The chip answers a command. -/
def answered (response : List UInt8) : List (System.Player.Cue player) :=
  [.drift (Choice.answer response)]

/-- A PD message arrives. -/
def messaged (pdStatus0 : UInt8) : List (System.Player.Cue player) :=
  [.drift (Choice.message pdStatus0)]

/-- The chip answers, interrupts, and core 1 handles the response. -/
def answering (response : List UInt8) : List (System.Player.Cue player) :=
  answered response ++ interrupted gpioInterrupt ++ core1 .calm

/-- `max77958_init` runs with a source connected, and its three commands are answered. -/
def initialised : List (System.Player.Cue player) :=
  core0 .calm ++ core1 .calm ++ answering (reply 1) ++ core1 .calm ++ answering (reply 2) ++
    core1 .calm ++ answering (reply 3)

section Meeting

variable (meets : Board → Thread → Deed → Prop)
  [∀ board thread deed, Decidable (meets board thread deed)]

instance (shared : SharedBoard) (action : sharing.Action) :
    Decidable (Undisturbedly meets shared action) :=
  match action with
  | .perform (_ : User) _ _ => inferInstanceAs (Decidable (_ ∧ _))
  | .launch .. => inferInstanceAs (Decidable True)
  | .drift => inferInstanceAs (Decidable True)

/-- The board after some cues, if they can be played. -/
def boardAfter (cues : List (System.Player.Cue player)) (config : sharing.Config) : Option Board :=
  (player.play (Undisturbedly meets) cues config).map fun final => final.shared.board

variable {meets}

/-- A board that was played is reached. -/
theorem boardAfter_reaches {cues : List (System.Player.Cue player)} {start : sharing.Config}
    {board : Board} (played : boardAfter meets cues start = some board) :
    ∃ final : sharing.Config, final.shared.board = board ∧
      System.Reaches (Undisturbedly meets) start final := by
  obtain ⟨final, played, same⟩ := Option.map_eq_some_iff.mp played
  exact ⟨final, same, System.Player.play_reaches .refl played⟩

end Meeting

end Playing

end TypeC

end RobotFirmware
