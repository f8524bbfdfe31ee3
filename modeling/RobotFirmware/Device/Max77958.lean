import RobotFirmware.Platform

/-!
# The MAX77958 USB-C and power-delivery controller

The driver keeps its transfers in two static buffers. Its functions are written over the accesses to
them, `StaticBuffers`: in `Driver` the buffers are the state of one caller, and elsewhere every
access is an operation that the cores interleave. The opcode reply buffer, the opcode queue and the
flags are shared with the other core. Commands are queued, moved to the call queue one by one,
written to the chip by core 1, and answered by an interrupt.

The constants of `max77958_driver.h`, which is not part of the repository, are the fields of
`DriverHeader`, except those whose values the driver's comments give.
-/

namespace RobotFirmware.Max77958

/-- The constants of `max77958_driver.h` whose values the repository does not show, with what
the driver needs of them: the chip has its own bus address, `case` labels differ, and no two
commands share a number. -/
class DriverHeader where
  /-- `MAX77958_SLAVE_P1`. -/
  slaveP1 : UInt8
  /-- `OPCODE_SET_GPIO`. -/
  opcodeSetGpio : UInt8
  /-- `OPCODE_SET_SOURCE_CAP`. -/
  opcodeSetSourceCap : UInt8
  /-- `OPCODE_SNK_PDO_SET`. -/
  opcodeSnkPdoSet : UInt8
  /-- `PDMSG_PRSWAP_SRCTOSWAP`. -/
  pdmsgPrswapSrctoswap : UInt8
  /-- `PDMSG_PRSWAP_SWAPTOSNK`. -/
  pdmsgPrswapSwaptosnk : UInt8
  /-- `PDMSG_PRSWAP_SNKTOSWAP`. -/
  pdmsgPrswapSnktoswap : UInt8
  /-- `PDMSG_PRSWAP_SWAPTOSRC`. -/
  pdmsgPrswapSwaptosrc : UInt8
  /-- `PDMSG_VDM_NAK_RECEIVED`. -/
  pdmsgVdmNakReceived : UInt8
  /-- `PDMSG_VDM_BUSY_RECEIVED`. -/
  pdmsgVdmBusyReceived : UInt8
  /-- `PDMSG_VDM_ACK_RECEIVED`. -/
  pdmsgVdmAckReceived : UInt8
  /-- `PDMSG_VDM_REQ_RECEIVED`. -/
  pdmsgVdmReqReceived : UInt8
  /-- No other device of the board on `i2c0` has this address. -/
  slave_apart : slaveP1 ∉ ([0x60, 0x62, 0x55] : List UInt8)
  /-- The `case` labels of `pd_msg_response` are distinct. -/
  pdmsg_distinct : [pdmsgPrswapSrctoswap, pdmsgPrswapSwaptosnk, pdmsgPrswapSnktoswap,
    pdmsgPrswapSwaptosrc, pdmsgVdmNakReceived, pdmsgVdmBusyReceived, pdmsgVdmAckReceived,
    pdmsgVdmReqReceived].Nodup
  /-- Setting the GPIOs is none of the commands written as literals. -/
  opcode_apart : opcodeSetGpio ∉
    ([0x01, 0x03, 0x05, 0x0B, 0x11, 0x23, 0x27, 0x37, 0x3E, 0x55, 0x56] : List UInt8)

/-- Constants that meet these needs. -/
@[reducible] def sampleHeader : DriverHeader where
  slaveP1 := 0x25
  opcodeSetGpio := 0x24
  opcodeSetSourceCap := 0x31
  opcodeSnkPdoSet := 0x3F
  pdmsgPrswapSrctoswap := 0x14
  pdmsgPrswapSwaptosnk := 0x15
  pdmsgPrswapSnktoswap := 0x16
  pdmsgPrswapSwaptosrc := 0x17
  pdmsgVdmNakReceived := 0x20
  pdmsgVdmBusyReceived := 0x21
  pdmsgVdmAckReceived := 0x22
  pdmsgVdmReqReceived := 0x23
  slave_apart := by decide
  pdmsg_distinct := by decide
  opcode_apart := by decide

open DriverHeader

/-- `MAX77958_INTB`, the pin stored in `_gpio_interrupt`. -/
def gpioInterrupt : Nat := 7
/-- `interrupt_mask`. -/
def interruptMask : UInt32 := gpioIrqEdgeFall
/-- `REG_UIC_INT`. -/
def regUicInt : UInt8 := 0x04
/-- `CC_STATUS0`, which `on_ccstat_change` selects. -/
def regCcStatus0 : UInt8 := 0x0C
/-- `BC_STATUS`, which `on_chgtype_change` selects. -/
def regBcStatus : UInt8 := 0xA
/-- `REG_PD_STATUS0`. -/
def regPdStatus0 : UInt8 := 0x0E
/-- `REG_UIC_INT_M`. -/
def regUicIntM : UInt8 := 0x10
/-- `OPCODE_WRITE`, the first register of a command. -/
def opcodeWriteReg : UInt8 := 0x21
/-- `OPCODE_READ_COMMAND`, the first register of a reply. -/
def opcodeReadCommand : UInt8 := 0x51
/-- The capacity that `max77958_init` gives to `opcode_queue`. -/
def opcodeQueueCapacity : Nat := 16

/-- The static transfer buffers. -/
structure Buffers where
  /-- `send_buf`. -/
  sendBuf : Vector UInt8 33
  /-- `return_buf`. -/
  returnBuf : Vector UInt8 33

/-- The buffers before their first use. -/
def Buffers.zero : Buffers := ⟨.replicate 33 0, .replicate 33 0⟩

/-- The static buffers, as a program of the driver can use them. The functions of the driver are
written against this, so that one definition is read sequentially, with the buffers as a state,
and in an interleaving of the cores, with every access as an operation of its own. -/
class StaticBuffers (m : Type → Type) where
  /-- `memset(send_buf, 0, sizeof send_buf)`. -/
  clearSendBuf : m Unit
  /-- `memset(return_buf, 0, sizeof return_buf)`. -/
  clearReturnBuf : m Unit
  /-- `send_buf[index] = value`. -/
  setSend (index : Fin 33) (value : UInt8) : m Unit
  /-- `send_buf[index]`. -/
  sendByte (index : Fin 33) : m UInt8
  /-- `return_buf[index]`. -/
  returnByte (index : Fin 33) : m UInt8
  /-- Write the first bytes of `send_buf` to the chip. -/
  writeSendBuf [DriverHeader] (len : Nat) (nostop : Bool) : m Unit
  /-- Read bytes from the chip into `return_buf`. -/
  readReturnBuf [DriverHeader] (len : Nat) : m Unit

export StaticBuffers (clearSendBuf clearReturnBuf setSend sendByte returnByte writeSendBuf
  readReturnBuf)

/-- A function of the driver that has the buffers for itself. -/
abbrev Driver : Type → Type := StateT Buffers Firmware

/-- Store bytes at the start of a buffer. -/
def overwrite {len : Nat} (buf : Vector UInt8 33) (bytes : Vector UInt8 len) : Vector UInt8 33 :=
  .ofFn fun i => if h : i < len then bytes[i] else buf[i]

instance : StaticBuffers Driver where
  clearSendBuf := modify fun b => { b with sendBuf := Vector.replicate 33 0 }
  clearReturnBuf := modify fun b => { b with returnBuf := Vector.replicate 33 0 }
  setSend index value := modify fun b => { b with sendBuf := b.sendBuf.set index value }
  sendByte index := do return (← get).sendBuf[index]
  returnByte index := do return (← get).returnBuf[index]
  writeSendBuf len nostop := do
    i2cWriteErrorHandling .i2c0 slaveP1 ((← get).sendBuf.toList.take len) nostop
  readReturnBuf len := do
    let bytes ← i2cReadErrorHandling .i2c0 slaveP1 len false
    modify fun b => { b with returnBuf := overwrite b.returnBuf bytes }

/-- A byte of `send_buf` is read off the state. -/
theorem run_sendByte (buffers : Buffers) (index : Fin 33) :
    (sendByte index : Driver UInt8).run buffers = .done (buffers.sendBuf[index], buffers) := rfl

/-- A byte of `return_buf` is read off the state. -/
theorem run_returnByte (buffers : Buffers) (index : Fin 33) :
    (returnByte index : Driver UInt8).run buffers = .done (buffers.returnBuf[index], buffers) := rfl

variable {m : Type → Type} [Monad m] [MonadLiftT Firmware m] [StaticBuffers m]

/-- The exchange that most reads consist of: both buffers are cleared, a register is selected,
and bytes from it on are read into `return_buf`. -/
def readRegisters [DriverHeader] (reg : UInt8) (len : Nat) : m Unit := do
  clearSendBuf
  clearReturnBuf
  setSend 0 reg
  writeSendBuf 1 true
  readReturnBuf len

/-! ## Commands -/

/-- `opcode_write`. Clearing with `sizeof &send_buf` reaches the first four bytes only. -/
def opcodeWrite [DriverHeader] : m Unit := do
  if (← sendByte 0) ≠ 0x21 then
    rp2040Log "ERROR: buffer should always start with the 0x21 register" []
  writeSendBuf 33 false
  setSend 0 0
  setSend 1 0
  setSend 2 0
  setSend 3 0
  setSend 0 0x41
  setSend 1 0x00
  writeSendBuf 2 false

/-- `opcode_read`. -/
def opcodeRead [DriverHeader] : m Unit := do
  clearSendBuf
  setSend 0 opcodeReadCommand
  writeSendBuf 1 true
  let bytes ← i2cReadErrorHandling .i2c0 slaveP1 33 false
  perform (.storeOpCodeReturnBuf bytes)
  rp2040Log "opcode_read: 0x%02x 0x%02x 0x%02x 0x%02x\n"
    [.byte bytes[0], .byte bytes[1], .byte bytes[2], .byte bytes[3]]

/-- The start of every command: a cleared buffer with the command register and the opcode. -/
def startOpcode (opcode : UInt8) : m Unit := do
  clearSendBuf
  setSend 0 opcodeWriteReg
  setSend 1 opcode

/-- The commands that only consist of their opcode. -/
def plainOpcode [DriverHeader] (opcode : UInt8) : m Int32 := do
  startOpcode opcode
  opcodeWrite
  return 0

/-- `bc_ctrl1_read`. -/
def bcCtrl1Read [DriverHeader] : m Int32 := plainOpcode 0x01
/-- `bc_ctrl2_read`. -/
def bcCtrl2Read [DriverHeader] : m Int32 := plainOpcode 0x03
/-- `control1_read`. -/
def control1Read [DriverHeader] : m Int32 := plainOpcode 0x05
/-- `cc_ctrl1_read`. -/
def ccCtrl1Read [DriverHeader] : m Int32 := plainOpcode 0x0B
/-- `cc_ctrl4_read`. -/
def ccCtrl4Read [DriverHeader] : m Int32 := plainOpcode 0x11
/-- `gpio_control_read`. -/
def gpioControlRead [DriverHeader] : m Int32 := plainOpcode 0x23
/-- `gpio0_gpio1_adc_read`. -/
def gpio0Gpio1AdcRead [DriverHeader] : m Int32 := plainOpcode 0x27
/-- `customer_config_read`. -/
def customerConfigRead [DriverHeader] : m Int32 := plainOpcode 0x55

/-- `snk_pdo_request`. -/
def snkPdoRequest [DriverHeader] : m Int32 := do
  startOpcode 0x3E
  setSend 2 (if ← load .useMtpAccess then 0b10000000 else 0b00000000)
  opcodeWrite
  return 0

/-- `typec_mode_t`. -/
inductive TypecMode where
  | src
  | snk
  | drp

/-- `max77958_customer_config_t`. -/
structure CustomerConfig where
  /-- Enable debug source. -/
  dbgSrcEnable : Bool
  /-- Enable debug sink. -/
  dbgSnkEnable : Bool
  /-- Enable audio accessory. -/
  audioAccEnable : Bool
  /-- Enable try sink. -/
  trysnkEnable : Bool
  /-- Type-C operation mode. -/
  typecMode : TypecMode
  /-- Update customer memory, not only RAM. -/
  memUpdateCustomer : Bool
  /-- Enable moisture detection. -/
  moistureEnable : Bool

/-- `max77958_build_customer_config_value`. -/
def buildCustomerConfigValue (config : CustomerConfig) : UInt8 :=
  let flag (enabled : Bool) (bit : UInt8) : UInt8 := if enabled then (1 : UInt8) <<< bit else 0
  let mode : UInt8 := match config.typecMode with
    | .src => 0
    | .snk => (1 : UInt8) <<< 4
    | .drp => (2 : UInt8) <<< 4
  flag config.dbgSrcEnable 0 ||| flag config.dbgSnkEnable 1 ||| flag config.audioAccEnable 2 |||
    flag config.trysnkEnable 3 ||| mode ||| flag config.memUpdateCustomer 6 |||
    flag config.moistureEnable 7

/-- `BYTE_TO_BINARY_PATTERN`. -/
def byteToBinaryPattern : String := "%c%c%c%c%c%c%c%c"

/-- `BYTE_TO_BINARY`. -/
def byteToBinary (byte : UInt8) : List LogArg :=
  ([0x80, 0x40, 0x20, 0x10, 0x08, 0x04, 0x02, 0x01] : List UInt8).map fun bit =>
    .str (if byte &&& bit ≠ 0 then "1" else "0")

/-- `customer_config_write`. -/
def customerConfigWrite [DriverHeader] : m Int32 := do
  startOpcode 0x56
  let config := buildCustomerConfigValue
    { dbgSrcEnable := false, dbgSnkEnable := false, audioAccEnable := false,
      trysnkEnable := false, typecMode := .drp, memUpdateCustomer := false,
      moistureEnable := false }
  setSend 2 config
  rp2040Log ("customer_config_write config = 0b" ++ byteToBinaryPattern ++ "\n")
    (byteToBinary config)
  setSend 3 0x6A
  setSend 4 0x0B
  setSend 5 0x60
  setSend 6 0x68
  setSend 7 0x00
  setSend 8 0x64
  setSend 9 0x00
  setSend 10 0x32
  setSend 11 0x00
  opcodeWrite
  return 0

/-- `gpio_bool_to_int32`. -/
def gpioBoolToInt32 (gpio4 gpio5 : Bool) : Int32 :=
  (gpio5.toInt32 <<< 3) ||| ((1 : Int32) <<< 2) ||| (gpio4.toInt32 <<< 1) ||| ((1 : Int32) <<< 0)

/-- `gpio_set`. -/
def gpioSet [DriverHeader] (gpioVal : Int32) : m Int32 := do
  startOpcode opcodeSetGpio
  setSend 2 0x00
  setSend 3 gpioVal.toUInt32.toUInt8
  opcodeWrite
  return 0

/-- `power_swap_request`. -/
def powerSwapRequest [DriverHeader] : m Unit := do
  startOpcode 0x37
  setSend 2 0x02
  opcodeWrite

/-- `set_src_pdos`. -/
def setSrcPdos [DriverHeader] : m Int32 := do
  startOpcode opcodeSetSourceCap
  setSend 2 0b00000001
  setSend 3 0x2C
  setSend 4 0x90
  setSend 5 0x01
  setSend 6 0x26
  opcodeWrite
  return 0

/-- `set_snk_pdos`. -/
def setSnkPdos [DriverHeader] : m Int32 := do
  startOpcode opcodeSnkPdoSet
  setSend 2 0b00000001
  setSend 3 0x2C
  setSend 4 0x91
  setSend 5 0x81
  setSend 6 0x26
  opcodeWrite
  return 0

/-! ## Queues -/

/-- `opcode_queue_add`. -/
def opcodeQueueAdd (opcodeFunc : EntryFunc) (opcodeData : Int32) : Firmware Unit := do
  store .opcodesFinished false
  let added : Bool ← perform (.opcodeQueueTryAdd ⟨opcodeFunc, opcodeData⟩)
  if !added then
    rp2040Log "ERROR: opcode_queue is full" []
    assertFalse
  let level : Nat ← perform .opcodeQueueGetLevel
  rp2040Log "Added to opcode_queue. %d entries remaining\n" [.int level]

/-- `opcode_queue_pop`. -/
def opcodeQueuePop : Firmware Bool := do
  let removed : Option QueueEntry ← perform .opcodeQueueTryRemove
  match removed with
  | some entry =>
    let level : Nat ← perform .opcodeQueueGetLevel
    rp2040Log "Removed entry from opcode_queue. %d entries remaining\n" [.int level]
    let added : Bool ← perform (.callQueueTryAdd entry)
    if added then
      rp2040Log "added opcode entry to call_queue\n" []
      return true
    else
      rp2040Log "ERROR: opcode_queue_pop: call_queue full\n" []
      return false
  | none =>
    rp2040Log "opcode_queue_pop: opcode_queue empty\n" []
    return false

/-- `vbus_turn_off`. -/
def vbusTurnOff : Firmware Unit := do
  opcodeQueueAdd .gpioSet (gpioBoolToInt32 false true)
  let _ ← opcodeQueuePop

/-- `vbus_turn_on`. -/
def vbusTurnOn : Firmware Unit := do
  opcodeQueueAdd .gpioSet (gpioBoolToInt32 true true)
  let _ ← opcodeQueuePop

/-! ## Interrupts -/

/-- `max77958_on_interrupt`. -/
def onInterrupt (eventMask : UInt32) : Firmware Unit := do
  if eventMask &&& interruptMask ≠ 0 then
    gpioAcknowledgeIrq gpioInterrupt interruptMask
    callQueueTryAdd .parseInterruptVals 0
    if ← load .testMax77958Started then
      callQueueTryAdd .max77958TestResponse 1

/-- `on_pd_msg_received`. -/
def onPdMsgReceived : m Unit := do
  perform (.enter .onPdMsgReceived)
  rp2040Log "Rec PD message\n" []
  callQueueTryAdd .pdMsgResponse 0

/-- `on_opcode_cmd_response`. -/
def onOpcodeCmdResponse [DriverHeader] : m Unit := do
  perform (.enter .onOpcodeCmdResponse)
  opcodeRead
  if !(← opcodeQueuePop) then store .opcodesFinished true

/-- The `CCPinStat` texts of `on_ccstat_change`. -/
def ccPinStatText (ccPinStat : UInt8) : String :=
  if ccPinStat = 0b00000000 then "00 (none)"
  else if ccPinStat = 0b01000000 then "01 (CC1)"
  else if ccPinStat = 0b10000000 then "10 (CC2)"
  else "11 (reserved)"

/-- The `CCIStat` texts of `on_ccstat_change`. -/
def cciStatText (cciStat : UInt8) : String :=
  if cciStat = 0b00000000 then "00 (none)"
  else if cciStat = 0b00010000 then "01 (500mA)"
  else if cciStat = 0b00100000 then "10 (1.5A)"
  else "11 (3.0A)"

/-- The `CCStat` texts of `on_ccstat_change`. -/
def ccStatText (ccStat : UInt8) : String :=
  if ccStat = 0b000 then "000 (none)"
  else if ccStat = 0b001 then "001 (sink)"
  else if ccStat = 0b010 then "010 (source)"
  else if ccStat = 0b011 then "011 (audio)"
  else if ccStat = 0b100 then "100 (debug)"
  else if ccStat = 0b101 then "101 (error)"
  else if ccStat = 0b110 then "110 (disabled)"
  else "111 (debug sink)"

/-- The switch over `CCStat` in `on_ccstat_change`. -/
def actOnCcStat (ccStat : UInt8) : Firmware Unit := do
  if ccStat = 0b000 then
    rp2040Log "CCStat: ccstat changed to no connection\n" []
    vbusTurnOff
  else if ccStat = 0b001 then
    rp2040Log "CCStat: ccstat changed to SINK\n" []
    vbusTurnOff
  else if ccStat = 0b010 then
    rp2040Log "CCStat: ccstat changed to SOURCE\n" []
  else
    rp2040Log "CCStat: ccstat changed to %d\n" [.byte ccStat]

/-- Log one message when a bit of `CC_STATUS1` is set. -/
def logFault (ccStatus1 bit : UInt8) (message : String) : Firmware Unit := do
  if ccStatus1 &&& bit ≠ 0 then rp2040Log message []

/-- `on_ccstat_change`. -/
def onCcstatChange [DriverHeader] : m Unit := do
  perform (.enter .onCcstatChange)
  rp2040Log "CCStat: ccstat changed\n" []
  readRegisters regCcStatus0 2
  let ccStatus0 ← returnByte 0
  let ccStatus1 ← returnByte 1
  rp2040Log "  CCStat: CCPinStat=%s\n" [.str (ccPinStatText (ccStatus0 &&& 0b11000000))]
  rp2040Log "  CCStat: CCIStat=%s\n" [.str (cciStatText (ccStatus0 &&& 0b00110000))]
  rp2040Log "  CCStat: CCVcnStat=%s\n"
    [.str (if ccStatus0 &&& 0b00001000 ≠ 0 then "1 (VCONN ON)" else "0 (VCONN OFF)")]
  rp2040Log "  CCStat=%s\n" [.str (ccStatText (ccStatus0 &&& 0b00000111))]
  actOnCcStat (ccStatus0 &&& 0b00000111)
  logFault ccStatus1 0b00000010 "ERROR: CCStat: Moisture detected on CC (Wtr=1)\n"
  logFault ccStatus1 0b00000100 "ERROR: CCStat: Charger detection aborted (DetAbrt=1)\n"
  logFault ccStatus1 0b00001000 "ERROR: CCStat: VBUS overvoltage detected (VSafeOV=1)\n"
  logFault ccStatus1 0b00010000 "ERROR: CCStat: VCONN short-circuit detected (VCONN_SC=1)\n"
  logFault ccStatus1 0b00100000 "ERROR: CCStat: VCONN overcurrent detected (VCONN_OCP=1)\n"

/-- The messages of the `ChgType` switch. -/
def chgTypeText (chgType : UInt8) : String :=
  if chgType = 0b000 then "ChgTyp changed to nothing attached\n"
  else if chgType = 0b001 then "ChgTyp changed to SDP, USB cable attached\n"
  else if chgType = 0b010 then "ChgTyp changed to CDP, Charging Downstream Port\n"
  else "ChgTyp changed to DCP, Dedicated charger\n"

/-- `on_chgtype_change`. -/
def onChgtypeChange [DriverHeader] : m Unit := do
  perform (.enter .onChgtypeChange)
  rp2040Log "chgtype changed\n" []
  readRegisters regBcStatus 1
  rp2040Log (chgTypeText ((← returnByte 0) &&& 0b11)) []

/-- `on_ccvcnstat_change`. -/
def onCcvcnstatChange : m Unit := do
  perform (.enter .onCcvcnstatChange)
  rp2040Log "CCStat changed\n" []

/-- `on_ccistat_change`. -/
def onCcistatChange : m Unit := do
  perform (.enter .onCcistatChange)
  rp2040Log "CCIStat changed\n" []

/-- `on_ccpinstat_change`. -/
def onCcpinstatChange : m Unit := do
  perform (.enter .onCcpinstatChange)
  rp2040Log "CCPinStat changed\n" []

/-- `get_interrupt_vals`. -/
def getInterruptVals [DriverHeader] : m Unit := readRegisters regUicInt 4

/-- One test of `parse_interrupt_vals`: the byte behind the pointer is read from `return_buf`
as it is now, and the handler and the result bit follow from it. -/
def dispatch (reg : Fin 33) (mask : UInt8) (handler : m Unit) (bit returnVal : UInt16) :
    m UInt16 := do
  if (← returnByte reg) &&& mask ≠ 0 then
    handler
    return returnVal ||| bit
  else
    return returnVal

/-- The place of `UIC_INT` in `return_buf`. -/
def uicInt : Fin 33 := 0
/-- The place of `CC_INT` in `return_buf`. -/
def ccInt : Fin 33 := 1
/-- The place of `PD_INT` in `return_buf`. -/
def pdInt : Fin 33 := 2
/-- `APCmdResI_mask`. -/
def apCmdResIMask : UInt8 := (1 : UInt8) <<< 7
/-- `PSRDYI_mask`. -/
def psrdyiMask : UInt8 := (1 : UInt8) <<< 6
/-- The mask `PDMsgI`. -/
def pdMsgIMask : UInt8 := (1 : UInt8) <<< 7
/-- The mask `CCStat`. -/
def ccStatMask : UInt8 := (1 : UInt8) <<< 0
/-- The mask `ChgType`. -/
def chgTypeMask : UInt8 := (1 : UInt8) <<< 1
/-- The mask `CCVcnStatI`. -/
def ccVcnStatIMask : UInt8 := (1 : UInt8) <<< 1
/-- The mask `CCIStatI`. -/
def ccIStatIMask : UInt8 := (1 : UInt8) <<< 2
/-- The mask `CCPinStatI`. -/
def ccPinStatIMask : UInt8 := (1 : UInt8) <<< 3

/-- `parse_interrupt_vals`. -/
def parseInterruptVals [DriverHeader] : m Int32 := do
  getInterruptVals
  let returnVal ← dispatch uicInt apCmdResIMask onOpcodeCmdResponse ((1 : UInt16) <<< 0) 0
  let returnVal ← dispatch pdInt psrdyiMask (rp2040Log "Power source ready\n" [])
    ((1 : UInt16) <<< 1) returnVal
  let returnVal ← dispatch pdInt pdMsgIMask onPdMsgReceived ((1 : UInt16) <<< 2) returnVal
  let returnVal ← dispatch uicInt chgTypeMask onChgtypeChange ((1 : UInt16) <<< 3) returnVal
  let returnVal ← dispatch ccInt ccStatMask onCcstatChange ((1 : UInt16) <<< 4) returnVal
  let returnVal ← dispatch ccInt ccVcnStatIMask onCcvcnstatChange ((1 : UInt16) <<< 5) returnVal
  let returnVal ← dispatch ccInt ccIStatIMask onCcistatChange ((1 : UInt16) <<< 6) returnVal
  let returnVal ← dispatch ccInt ccPinStatIMask onCcpinstatChange ((1 : UInt16) <<< 7) returnVal
  if returnVal = 0 then store .testMax77958InterruptBool true
  return returnVal.toUInt32.toInt32

/-- The messages of `pd_msg_response` from `PDMSG_VDM_REQ_RECEIVED` on. -/
def logVdmReq : Firmware Unit := rp2040Log "PD Message: VDM_REQ_RECEIVED\n" []

/-- The messages of `pd_msg_response` from `PDMSG_VDM_ACK_RECEIVED` on. -/
def logVdmAck : Firmware Unit := do
  rp2040Log "PD Message: VDM_ACK_RECEIVED\n" []
  logVdmReq

/-- The messages of `pd_msg_response` from `PDMSG_VDM_BUSY_RECEIVED` on. -/
def logVdmBusy : Firmware Unit := do
  rp2040Log "PD Message: VDM_BUSY_RECEIVED\n" []
  logVdmAck

/-- The messages of `pd_msg_response` from `PDMSG_VDM_NAK_RECEIVED` on. -/
def logVdmNak : Firmware Unit := do
  rp2040Log "PD Message: VDM_NAK Received\n" []
  logVdmBusy

/-- The switch over `PD_STATUS0` in `pd_msg_response`. -/
def actOnPdStatus [DriverHeader] (pdStatus0 : UInt8) : Firmware Unit := do
  if pdStatus0 = pdmsgPrswapSrctoswap then rp2040Log "PD Message: PRSWAP_SRCTOSWAP\n" []
  else if pdStatus0 = pdmsgPrswapSwaptosnk then
    rp2040Log "PD Message: PRSWAP_SWAPTOSNK\n" []
    vbusTurnOff
  else if pdStatus0 = pdmsgPrswapSnktoswap then rp2040Log "PD Message: PRSWAP_SNKTOSWAP\n" []
  else if pdStatus0 = pdmsgPrswapSwaptosrc then
    rp2040Log "PD Message: PRSWAP_SWAPTOSRC\n" []
    vbusTurnOn
  else if pdStatus0 = pdmsgVdmNakReceived then logVdmNak
  else if pdStatus0 = pdmsgVdmBusyReceived then logVdmBusy
  else if pdStatus0 = pdmsgVdmAckReceived then logVdmAck
  else if pdStatus0 = pdmsgVdmReqReceived then logVdmReq
  else rp2040Log "PD Message: Unknown\n" []

/-- `pd_msg_response`. -/
def pdMsgResponse [DriverHeader] : m Int32 := do
  readRegisters regPdStatus0 1
  let pdStatus0 ← returnByte 0
  rp2040Log "PD_STATUS0: 0x%02x\n" [.byte pdStatus0]
  actOnPdStatus pdStatus0
  return 0

/-- `max77958_test_response`. -/
def testResponse : Firmware Int32 := do
  store .testMax77958Completed true
  return 0

/-! ## Core 0 -/

/-- `test_max77958_get_id`. -/
def testGetId [DriverHeader] : m Unit := do
  rp2040Log "test_max77958_get_id started...\n" []
  clearSendBuf
  clearReturnBuf
  writeSendBuf 1 true
  readReturnBuf 2
  if (← returnByte 0) ≠ 0x58 then
    rp2040Log "test_max77958_get_id ERROR: DEVICE_ID should be 0x58" []
  if (← returnByte 1) ≠ 0x02 then
    rp2040Log "test_max77958_get_id ERROR: DEVICE_REV should be 0x02" []
  rp2040Log "test_max77958_get_id PASSED: DEVICE_ID = %x\n" [.byte (← returnByte 0)]
  rp2040Log "test_max77958_get_id PASSED: DEVICE_REV = %x\n" [.byte (← returnByte 1)]

/-- `set_interrupt_masks`. -/
def setInterruptMasks [DriverHeader] : m Unit := do
  clearSendBuf
  setSend 0 regUicIntM
  setSend 1 0b00000100
  setSend 2 0b00000000
  setSend 3 0b00111111
  writeSendBuf 4 false

/-- `set_interrupt_masks_all_masked`. -/
def setInterruptMasksAllMasked [DriverHeader] : m Unit := do
  clearSendBuf
  setSend 0 regUicIntM
  setSend 1 0b11111111
  setSend 2 0b11111111
  setSend 3 0b11111111
  writeSendBuf 4 false

/-- `get_interrupt_masks`. -/
def getInterruptMasks [DriverHeader] : m Unit := readRegisters regUicIntM 4

/-- `read_reg`. -/
def readReg [DriverHeader] (reg : UInt8) : m Unit := do
  readRegisters reg 1
  rp2040Log "read_reg: 0x%02x: 0x%02x\n" [.byte reg, .byte (← returnByte 0)]

/-- `max77958_read_register`. -/
def readRegister [DriverHeader] (reg : UInt8) : m UInt8 := do
  readRegisters reg 1
  returnByte 0

/-- `max77958_status_reg_t`. -/
structure StatusReg where
  /-- The name of the register. -/
  name : String
  /-- Its number. -/
  reg : UInt8
  /-- Its value after a reset. -/
  expected : UInt8

/-- The registers of `test_max77958_status_block_read_all`. -/
def statusRegs : List StatusReg :=
  [⟨"USBC_STATUS1", 0x08, 0b00000111⟩, ⟨"USBC_STATUS2", 0x09, 0b00000000⟩,
    ⟨"USBC_STATUS3", 0x0A, 0b00000000⟩, ⟨"USBC_STATUS4", 0x0B, 0b00000000⟩,
    ⟨"CC_STATUS0", 0x0C, 0b00000000⟩, ⟨"CC_STATUS1", 0x0D, 0b00000000⟩,
    ⟨"PD_STATUS0", 0x0E, 0b00000000⟩, ⟨"PD_STATUS1", 0x0F, 0b00000000⟩]

/-- One round of the loop in `test_max77958_status_block_read_all`. -/
def testStatusReg [DriverHeader] (status : StatusReg) : m Unit := do
  let val ← readRegister status.reg
  if val ≠ status.expected then
    rp2040Log ("test_max77958_status_block_read_all ERROR: %s expected 0b" ++ byteToBinaryPattern ++
      ", got 0b" ++ byteToBinaryPattern ++ "\n")
      (.str status.name :: (byteToBinary status.expected ++ byteToBinary val))
  else
    rp2040Log ("test_max77958_status_block_read_all PASSED: %s matches reset value 0b" ++
      byteToBinaryPattern ++ "\n") (.str status.name :: byteToBinary val)

/-- `test_max77958_status_block_read_all`. -/
def testStatusBlockReadAll [DriverHeader] : m Unit := do
  rp2040Log "test_max77958_status_block_read_all started...\n" []
  statusRegs.forM testStatusReg

/-- `max77958_init` from `queue_init` on. -/
def initDevice [DriverHeader] : m Unit := do
  testGetId
  setInterruptMasks
  perform (.gpioInit gpioInterrupt)
  perform (.gpioPut gpioInterrupt false)
  perform (.gpioSetDir gpioInterrupt false)
  perform (.gpioPullUp gpioInterrupt)
  gpioSetIrqEnabled gpioInterrupt gpioIrqEdgeFall true
  getInterruptVals
  opcodeQueueAdd .gpioSet (gpioBoolToInt32 false false)
  opcodeQueueAdd .gpioSet (gpioBoolToInt32 false true)
  opcodeQueueAdd .customerConfigWrite 0
  let _ ← opcodeQueuePop
  rp2040Log "max77958 init finished\n" []
  onCcstatChange

/-- `max77958_init`. -/
def init [DriverHeader] : m Unit := do
  rp2040Log "max77958 init started\n" []
  perform .opcodeQueueInit
  initDevice

/-- What the opcode tests share: add one opcode, pop, and wait for the flag. -/
def runOpcode (opcodeFunc : EntryFunc) (opcodeData : Int32) : Firmware Unit := do
  opcodeQueueAdd opcodeFunc opcodeData
  let _ ← opcodeQueuePop
  perform (.await .opcodesFinished)

/-- A byte of `op_code_return_buf`. -/
def replyByte (reply : Vector UInt8 33) (index : Nat) : Firmware UInt8 :=
  if inside : index < 33 then return reply.get ⟨index, inside⟩ else strayRead index

/-- The data object that a round of the loops in `test_max77958_snk_pdo_request` decodes. -/
def decodePdo (reply : Vector UInt8 33) (j : Nat) : Firmware UInt32 := do
  let byte0 ← replyByte reply (2 + j * 4)
  let byte1 ← replyByte reply (3 + j * 4)
  let byte2 ← replyByte reply (4 + j * 4)
  let byte3 ← replyByte reply (5 + j * 4)
  return byte0.toUInt32 ||| (byte1.toUInt32 <<< 8) ||| (byte2.toUInt32 <<< 16) |||
    (byte3.toUInt32 <<< 24)

/-- One round of these loops. -/
def logPdo (copy : String) (reply : Vector UInt8 33) (j : Nat) : Firmware Unit := do
  let pdo ← decodePdo reply j
  rp2040Log ("test_max77958_snk_pdo_request " ++ copy ++ " PDO[%d] = 0x%08lx\n")
    [.int j, .int pdo.toNat]

/-- `mtp_pdo_count` or `ram_pdo_count`. -/
def pdoCount (reply : Vector UInt8 33) : UInt8 := reply[1]

/-- The loop over the data objects of a reply. -/
def logPdos (copy : String) (reply : Vector UInt8 33) : Firmware Unit :=
  (List.range (pdoCount reply).toNat).forM (logPdo copy reply)

/-- One of the two halves of `test_max77958_snk_pdo_request`, which returns the count. While no
command is outstanding the reply does not change. -/
def readSnkPdos (mtpAccess : Bool) (copy : String) : Firmware UInt8 := do
  store .useMtpAccess mtpAccess
  runOpcode .snkPdoRequest 0
  let reply : Vector UInt8 33 ← perform .loadOpCodeReturnBuf
  if reply[0] ≠ 0x3E then
    rp2040Log ("test_max77958_snk_pdo_request ERROR: OPCODE echo mismatch for " ++ copy ++
      " (got 0x%02x)\n") [.byte reply[0]]
  rp2040Log ("test_max77958_snk_pdo_request " ++ copy ++ " PDO count = %d\n")
    [.byte (pdoCount reply)]
  logPdos copy reply
  return pdoCount reply

/-- `test_max77958_snk_pdo_request`. -/
def testSnkPdoRequest : Firmware Unit := do
  rp2040Log "test_max77958_snk_pdo_request started...\n" []
  let mtpPdoCount ← readSnkPdos false "MTP"
  let ramPdoCount ← readSnkPdos true "RAM"
  rp2040Log "test_max77958_snk_pdo_request PASSED: MTP=%d PDOs, RAM=%d PDOs\n"
    [.byte mtpPdoCount, .byte ramPdoCount]

/-- `max77958_shutdown`. -/
def shutdown : Firmware Unit := runOpcode .gpioSet (gpioBoolToInt32 false false)

end RobotFirmware.Max77958
