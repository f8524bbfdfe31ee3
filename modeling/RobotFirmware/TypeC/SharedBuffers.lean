import RobotFirmware.Interaction.Embedding
import RobotFirmware.Robot

/-!
# The driver on shared buffers

`send_buf` and `return_buf` are static and have no lock, so when both cores use the driver its
stores, tests and transfers interleave. Here each of them is an operation of its own: a function
of the driver becomes a program over the operations of the platform and these accesses, in which
the other core can come between any two.

Read with buffers that nobody else uses, such a program is the sequential one.
-/

namespace RobotFirmware

open Interaction

namespace Max77958

/-- The operations of the driver while both cores may use its buffers. -/
inductive DriverOp where
  /-- An operation of the platform. -/
  | platform (op : Op)
  /-- `send_buf` is cleared. -/
  | clearSendBuf
  /-- `return_buf` is cleared. -/
  | clearReturnBuf
  /-- A byte is stored in `send_buf`. -/
  | setSend (index : Fin 33) (value : UInt8)
  /-- A byte of `send_buf` is read. -/
  | sendByte (index : Fin 33)
  /-- A byte of `return_buf` is read. -/
  | returnByte (index : Fin 33)
  /-- One attempt to write the first bytes that `send_buf` holds at this time. -/
  | writeSendBuf (len : Nat) (nostop : Bool)
  /-- One attempt to read bytes into `return_buf`. -/
  | readReturnBuf (len : Nat)

/-- What each of them is answered with. -/
abbrev DriverAns : DriverOp → Type
  | .platform op => Ans op
  | .sendByte _ => UInt8
  | .returnByte _ => UInt8
  | .writeSendBuf .. => Int
  | .readReturnBuf len => Int × Vector UInt8 len
  | _ => Unit

/-- A function of the driver that shares the buffers. -/
abbrev Sharing : Type → Type := Program DriverAns

/-- Perform one of these operations. -/
abbrev access (op : DriverOp) : Sharing (DriverAns op) := Program.act op

instance : MonadLift Firmware Sharing where
  monadLift function := function.embed DriverOp.platform

/-- The loop around a bus attempt on a static buffer, which takes the buffer as it finds it. -/
def bufferAttempts (attempt : Sharing Int) : Nat → Sharing (Except Int Unit)
  | 0 => do
    let result ← attempt
    if 0 ≤ result then return .ok () else return .error result
  | left + 1 => do
    let result ← attempt
    if 0 ≤ result then return .ok ()
    else
      perform (.sleepMs retryDelay)
      bufferAttempts attempt left

/-- The error handling around these attempts. -/
def bufferErrorHandling (message : String) (attempt : Sharing Int) : Sharing Unit := do
  perform .cexceptionTry
  match ← bufferAttempts attempt (maxRetries - 1) with
  | .ok _ => return ()
  | .error result =>
    perform (.cexceptionThrow result)
    perform .cexceptionCatch
    rp2040Log message [.int result, .int result]
    (assertFalse : Firmware Unit)

instance : StaticBuffers Sharing where
  clearSendBuf := access .clearSendBuf
  clearReturnBuf := access .clearReturnBuf
  setSend index value := access (.setSend index value)
  sendByte index := access (.sendByte index)
  returnByte index := access (.returnByte index)
  writeSendBuf len nostop :=
    bufferErrorHandling "ERROR: During i2c_write. Returned value of %i %i \n"
      (access (.writeSendBuf len nostop))
  readReturnBuf len :=
    bufferErrorHandling "ERROR: During i2c_read. Returned value of %i %i \n" do
      let (result, _) ← access (.readReturnBuf len)
      return result

/-- The buffers after an access with the given answer. -/
def Buffers.after (buffers : Buffers) : (op : DriverOp) → DriverAns op → Buffers
  | .clearSendBuf, _ => { buffers with sendBuf := .replicate 33 0 }
  | .clearReturnBuf, _ => { buffers with returnBuf := .replicate 33 0 }
  | .setSend index value, _ =>
    { buffers with sendBuf := buffers.sendBuf.setIfInBounds index.val value }
  | .readReturnBuf _, (result, bytes) =>
    if 0 ≤ result then { buffers with returnBuf := overwrite buffers.returnBuf bytes } else buffers
  | _, _ => buffers

variable [DriverHeader]

/-- What a program does with buffers that nobody else uses. -/
def alone {α : Type} : Sharing α → Driver α
  | .done value, buffers => .done (value, buffers)
  | .perform (.platform op) resume, buffers =>
    .perform op fun answer => alone (resume answer) buffers
  | .perform .clearSendBuf resume, buffers =>
    alone (resume ()) (buffers.after .clearSendBuf ())
  | .perform .clearReturnBuf resume, buffers =>
    alone (resume ()) (buffers.after .clearReturnBuf ())
  | .perform (.setSend index value) resume, buffers =>
    alone (resume ()) (buffers.after (.setSend index value) ())
  | .perform (.sendByte index) resume, buffers =>
    alone (resume (buffers.sendBuf.get index)) buffers
  | .perform (.returnByte index) resume, buffers =>
    alone (resume (buffers.returnBuf.get index)) buffers
  | .perform (.writeSendBuf len nostop) resume, buffers =>
    .perform (.i2cWriteTimeoutUs .i2c0 DriverHeader.slaveP1
      (buffers.sendBuf.toList.take len) nostop)
      fun result => alone (resume result) buffers
  | .perform (.readReturnBuf len) resume, buffers =>
    .perform (.i2cReadTimeoutUs .i2c0 DriverHeader.slaveP1 len false)
      fun answer => alone (resume answer) (buffers.after (.readReturnBuf len) answer)

/-! ## The reading is the sequential one -/

section Reading

variable {α β : Type}

/-- Returning is the same. -/
@[simp] theorem alone_pure (value : α) : alone (pure value : Sharing α) = pure value := rfl

/-- A program that has returned is the same. -/
@[simp] theorem alone_done (value : α) : alone (.done value) = pure value := rfl

/-- Sequencing is the same. -/
@[simp] theorem alone_bind (program : Sharing α) (next : α → Sharing β) :
    alone (program >>= next) = alone program >>= fun value => alone (next value) := by
  funext buffers
  induction program generalizing buffers with
  | done value => rfl
  | perform op resume ih =>
    cases op with
    | platform op => exact congrArg (Program.perform op) (funext fun answer => ih answer buffers)
    | writeSendBuf len nostop =>
      exact congrArg (Program.perform _) (funext fun result => ih result buffers)
    | readReturnBuf len => exact congrArg (Program.perform _) (funext fun answer => ih answer _)
    | _ => exact ih _ _

/-- The second program goes on with the buffers that the first one leaves. -/
theorem alone_bind_run (program : Sharing α) (next : α → Sharing β) (buffers : Buffers) :
    alone (program >>= next) buffers =
      alone program buffers >>= fun reached => alone (next reached.1) reached.2 :=
  congrFun (alone_bind program next) buffers

/-- A function that does not touch the buffers is the same. -/
@[simp] theorem alone_lift (function : Firmware α) :
    alone (liftM function : Sharing α) = liftM function := by
  funext buffers
  induction function with
  | done value => rfl
  | perform op resume ih => exact congrArg (Program.perform op) (funext ih)

/-- Branching is the same. -/
@[simp] theorem alone_ite {condition : Prop} [Decidable condition] (yes no : Sharing α) :
    alone (if condition then yes else no) = if condition then alone yes else alone no :=
  apply_ite alone ..

/-- Clearing `send_buf` is the same. -/
@[simp] theorem alone_clearSendBuf : alone (clearSendBuf : Sharing Unit) = clearSendBuf := rfl

/-- Clearing `return_buf` is the same. -/
@[simp] theorem alone_clearReturnBuf : alone (clearReturnBuf : Sharing Unit) = clearReturnBuf := rfl

/-- Storing a byte is the same. -/
@[simp] theorem alone_setSend (index : Fin 33) (value : UInt8) :
    alone (setSend index value : Sharing Unit) = setSend index value := by
  funext buffers
  have stored : buffers.sendBuf.setIfInBounds index.val value =
      buffers.sendBuf.set index value := by
    ext place inside
    rw [Vector.getElem_setIfInBounds inside, Vector.getElem_set]
  exact congrArg (fun buf => Program.done ((), { buffers with sendBuf := buf })) stored

/-- Reading a byte of `send_buf` is the same. -/
@[simp] theorem alone_sendByte (index : Fin 33) :
    alone (sendByte index : Sharing UInt8) = sendByte index := rfl

/-- Reading a byte of `return_buf` is the same. -/
@[simp] theorem alone_returnByte (index : Fin 33) :
    alone (returnByte index : Sharing UInt8) = returnByte index := rfl

/-- The outcome of a loop around attempts, with what a successful one leaves in the buffers. -/
def outcome {value : Type} (fill : value → Buffers → Buffers) (buffers : Buffers) :
    Except Int value → Except Int Unit × Buffers
  | .ok stored => (.ok (), fill stored buffers)
  | .error result => (.error result, buffers)

variable {attempt : Sharing Int} {real : Firmware (Int × α)} {fill : α → Buffers → Buffers}
  {buffers : Buffers}

/-- The loop is the same, when its attempts are. -/
theorem alone_bufferAttempts
    (same : alone attempt buffers = real >>= fun answer =>
      .done (answer.1, if 0 ≤ answer.1 then fill answer.2 buffers else buffers)) (left : Nat) :
    alone (bufferAttempts attempt left) buffers =
      i2cAttempts real left >>= fun ended => .done (outcome fill buffers ended) := by
  have once (next : Int → Sharing (Except Int Unit)) :
      alone (attempt >>= next) buffers = real >>= fun answer =>
        alone (next answer.1) (if 0 ≤ answer.1 then fill answer.2 buffers else buffers) := by
    rw [alone_bind_run, same, bind_assoc]
    rfl
  induction left with
  | zero =>
    rw [bufferAttempts, i2cAttempts, once, bind_assoc]
    refine congrArg (real >>= ·) (funext fun (result, value) => ?_)
    by_cases nonneg : 0 ≤ result
    · simp only [if_pos nonneg]; rfl
    · simp only [if_neg nonneg]; rfl
  | succ left ih =>
    rw [bufferAttempts, i2cAttempts, once, bind_assoc]
    refine congrArg (real >>= ·) (funext fun (result, value) => ?_)
    by_cases nonneg : 0 ≤ result
    · simp only [if_pos nonneg]; rfl
    · simp only [if_neg nonneg]
      exact congrArg (Program.perform (Op.sleepMs retryDelay)) (funext fun _ => ih)

/-- The error handling is the same, when the attempts are. -/
theorem alone_bufferErrorHandling (message : String)
    (same : alone attempt buffers = real >>= fun answer =>
      .done (answer.1, if 0 ≤ answer.1 then fill answer.2 buffers else buffers)) :
    alone (bufferErrorHandling message attempt) buffers =
      i2cErrorHandling message real >>= fun stored => .done ((), fill stored buffers) := by
  unfold bufferErrorHandling i2cErrorHandling
  refine congrArg (Program.perform Op.cexceptionTry) (funext fun _ => ?_)
  refine (alone_bind_run (bufferAttempts attempt (maxRetries - 1)) _ buffers).trans ?_
  rw [alone_bufferAttempts same, bind_assoc]
  refine Eq.trans ?_ (bind_assoc (i2cAttempts real (maxRetries - 1)) _ _).symm
  refine congrArg (fun next => i2cAttempts real (maxRetries - 1) >>= next) (funext fun ended => ?_)
  cases ended with
  | ok stored => rfl
  | error result =>
    refine congrArg (Program.perform (Op.cexceptionThrow result)) (funext fun _ => ?_)
    refine congrArg (Program.perform Op.cexceptionCatch) (funext fun _ => ?_)
    refine congrArg (Program.perform (Op.rp2040Log message _)) (funext fun _ => ?_)
    exact congrArg (Program.perform Op.assertFalse) (funext fun impossible => nomatch impossible)

/-- Writing from `send_buf` is the same. -/
@[simp] theorem alone_writeSendBuf (len : Nat) (nostop : Bool) :
    alone (writeSendBuf len nostop : Sharing Unit) = writeSendBuf len nostop := by
  funext buffers
  let real : Firmware (Int × Unit) := do
    let result ← perform (.i2cWriteTimeoutUs .i2c0 DriverHeader.slaveP1
      (buffers.sendBuf.toList.take len) nostop)
    return (result, ())
  have same : alone (access (.writeSendBuf len nostop)) buffers = real >>= fun answer =>
      .done (answer.1, if 0 ≤ answer.1 then buffers else buffers) :=
    congrArg (Program.perform _) (funext fun result =>
      congrArg (fun kept => Program.done (result, kept)) (ite_self buffers).symm)
  let fill (_ : Unit) (kept : Buffers) : Buffers := kept
  exact @alone_bufferErrorHandling _ _ _ _ fill _ _ same

/-- Reading into `return_buf` is the same. -/
@[simp] theorem alone_readReturnBuf (len : Nat) :
    alone (readReturnBuf len : Sharing Unit) = readReturnBuf len := by
  funext buffers
  let real : Firmware (Int × Vector UInt8 len) :=
    perform (.i2cReadTimeoutUs .i2c0 DriverHeader.slaveP1 len false)
  let fill (bytes : Vector UInt8 len) (kept : Buffers) : Buffers :=
    { kept with returnBuf := overwrite kept.returnBuf bytes }
  have same : alone (do
      let (result, _) ← access (.readReturnBuf len)
      return result) buffers = real >>= fun answer =>
        .done (answer.1, if 0 ≤ answer.1 then fill answer.2 buffers else buffers) := rfl
  refine (@alone_bufferErrorHandling _ _ _ _ fill _ _ same).trans ?_
  change _ = (i2cReadErrorHandling .i2c0 DriverHeader.slaveP1 len false >>= fun bytes =>
    .done (bytes, buffers)) >>= fun reached => .done ((), fill reached.1 reached.2)
  rw [bind_assoc]
  rfl

end Reading

section Functions

/-- The exchange is the same. -/
@[simp] theorem alone_readRegisters (reg : UInt8) (len : Nat) :
    alone (readRegisters reg len : Sharing Unit) = readRegisters reg len := by
  simp only [readRegisters, alone_bind, alone_clearSendBuf, alone_clearReturnBuf, alone_setSend,
    alone_writeSendBuf, alone_readReturnBuf]

/-- `opcode_write` is the same. -/
@[simp] theorem alone_opcodeWrite : alone (opcodeWrite : Sharing Unit) = opcodeWrite := by
  simp [opcodeWrite, -bind_pure_comp]

/-- `opcode_read` is the same. -/
@[simp] theorem alone_opcodeRead : alone (opcodeRead : Sharing Unit) = opcodeRead := by
  simp [opcodeRead, -bind_pure_comp]

/-- The start of a command is the same. -/
@[simp] theorem alone_startOpcode (opcode : UInt8) :
    alone (startOpcode opcode : Sharing Unit) = startOpcode opcode := by
  simp [startOpcode, -bind_pure_comp]

/-- A plain command is the same. -/
@[simp] theorem alone_plainOpcode (opcode : UInt8) :
    alone (plainOpcode opcode : Sharing Int32) = plainOpcode opcode := by
  simp [plainOpcode, -bind_pure_comp]

/-- `snk_pdo_request` is the same. -/
@[simp] theorem alone_snkPdoRequest : alone (snkPdoRequest : Sharing Int32) = snkPdoRequest := by
  simp [snkPdoRequest, -bind_pure_comp]

/-- `customer_config_write` is the same. -/
@[simp] theorem alone_customerConfigWrite :
    alone (customerConfigWrite : Sharing Int32) = customerConfigWrite := by
  simp [customerConfigWrite, -bind_pure_comp]

/-- `gpio_set` is the same. -/
@[simp] theorem alone_gpioSet (gpioVal : Int32) :
    alone (gpioSet gpioVal : Sharing Int32) = gpioSet gpioVal := by
  simp [gpioSet, -bind_pure_comp]

/-- `on_pd_msg_received` is the same. -/
@[simp] theorem alone_onPdMsgReceived :
    alone (onPdMsgReceived : Sharing Unit) = onPdMsgReceived := by
  simp [onPdMsgReceived, -bind_pure_comp]

/-- `on_opcode_cmd_response` is the same. -/
@[simp] theorem alone_onOpcodeCmdResponse :
    alone (onOpcodeCmdResponse : Sharing Unit) = onOpcodeCmdResponse := by
  simp [onOpcodeCmdResponse, -bind_pure_comp]

/-- `on_ccstat_change` is the same. -/
@[simp] theorem alone_onCcstatChange :
    alone (onCcstatChange : Sharing Unit) = onCcstatChange := by
  simp [onCcstatChange, -bind_pure_comp]

/-- `on_chgtype_change` is the same. -/
@[simp] theorem alone_onChgtypeChange :
    alone (onChgtypeChange : Sharing Unit) = onChgtypeChange := by
  simp [onChgtypeChange, -bind_pure_comp]

/-- A test is the same, when its handler is. -/
@[simp] theorem alone_dispatch (reg : Fin 33) (mask : UInt8) (handler : Sharing Unit)
    (bit returnVal : UInt16) :
    alone (dispatch reg mask handler bit returnVal) =
      dispatch reg mask (alone handler) bit returnVal := by
  simp [dispatch, -bind_pure_comp]

/-- `parse_interrupt_vals` is the same. -/
@[simp] theorem alone_parseInterruptVals :
    alone (parseInterruptVals : Sharing Int32) = parseInterruptVals := by
  simp [parseInterruptVals, getInterruptVals, onCcvcnstatChange, onCcistatChange,
    onCcpinstatChange, -bind_pure_comp]

/-- `pd_msg_response` is the same. -/
@[simp] theorem alone_pdMsgResponse :
    alone (pdMsgResponse : Sharing Int32) = pdMsgResponse := by
  simp [pdMsgResponse, -bind_pure_comp]

/-- `test_max77958_get_id` is the same. -/
@[simp] theorem alone_testGetId : alone (testGetId : Sharing Unit) = testGetId := by
  simp [testGetId, -bind_pure_comp]

/-- `set_interrupt_masks` is the same. -/
@[simp] theorem alone_setInterruptMasks :
    alone (setInterruptMasks : Sharing Unit) = setInterruptMasks := by
  simp [setInterruptMasks, -bind_pure_comp]

/-- `max77958_init` from `queue_init` on is the same. -/
@[simp] theorem alone_initDevice : alone (initDevice : Sharing Unit) = initDevice := by
  simp [initDevice, getInterruptVals, -bind_pure_comp]

end Functions

end Max77958

open Max77958

variable [DriverHeader]

/-- The call of a queued function in `call_queue_pop`, with the buffers shared. The functions of
the other devices do not touch them. -/
def QueueEntry.callShared (entry : QueueEntry) : Sharing Int32 :=
  match entry.func with
  | .parseInterruptVals => parseInterruptVals
  | .pdMsgResponse => pdMsgResponse
  | .gpioSet => gpioSet entry.data
  | .customerConfigWrite => customerConfigWrite
  | .bcCtrl1Read => bcCtrl1Read
  | .bcCtrl2Read => bcCtrl2Read
  | .control1Read => control1Read
  | .ccCtrl1Read => ccCtrl1Read
  | .ccCtrl4Read => ccCtrl4Read
  | .gpioControlRead => gpioControlRead
  | .gpio0Gpio1AdcRead => gpio0Gpio1AdcRead
  | .snkPdoRequest => snkPdoRequest
  | .customerConfigRead => customerConfigRead
  | _ => (entry.call .zero : Firmware Int32)

/-- With buffers that nobody else uses it is the sequential call. -/
theorem QueueEntry.alone_callShared (entry : QueueEntry) (buffers : Buffers) :
    (alone entry.callShared buffers >>= fun reached => .done reached.1) = entry.call buffers := by
  have driven {program : Sharing Int32} {function : Driver Int32}
      (same : alone program = function) :
      (alone program buffers >>= fun reached => .done reached.1) = callDriver buffers function :=
    same ▸ rfl
  have lifted (function : Firmware Int32) :
      (alone (liftM function : Sharing Int32) buffers >>= fun reached => .done reached.1) =
        function := by
    rw [alone_lift]
    exact (bind_assoc function _ _).trans (bind_pure function)
  obtain ⟨func, data⟩ := entry
  cases func with
  | parseInterruptVals => exact driven alone_parseInterruptVals
  | pdMsgResponse => exact driven alone_pdMsgResponse
  | gpioSet => exact driven (alone_gpioSet data)
  | customerConfigWrite => exact driven alone_customerConfigWrite
  | snkPdoRequest => exact driven alone_snkPdoRequest
  | bcCtrl1Read | bcCtrl2Read | control1Read | ccCtrl1Read | ccCtrl4Read | gpioControlRead
  | gpio0Gpio1AdcRead | customerConfigRead => exact driven (alone_plainOpcode _)
  | _ => exact lifted _

end RobotFirmware
