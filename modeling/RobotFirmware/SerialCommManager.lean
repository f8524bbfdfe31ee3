import RobotFirmware.Robot

/-!
# The serial protocol with the phone

`get_block` waits for a start marker, reads a packet type and two data bytes, and expects an
end marker. It calls `handle_packet` on a complete packet and sends a NACK otherwise. Its
static indices, the static packets and the static robot state are the state of `Serial`.
-/

namespace RobotFirmware

/-- `GET_LOG`. -/
def getLog : UInt8 := 0x00
/-- `SET_MOTOR_LEVEL`. -/
def setMotorLevel : UInt8 := 0x01
/-- `RESET_STATE`. -/
def resetState : UInt8 := 0x02
/-- `GET_STATE`. -/
def getStateType : UInt8 := 0x03
/-- `NACK`. -/
def nack : UInt8 := 0xFC
/-- `START_MARKER`. -/
def startMarker : UInt8 := 0xFE
/-- `END_MARKER`. -/
def endMarker : UInt8 := 0xFF
/-- `ANDROID_BUFFER_LENGTH_IN`. -/
abbrev androidBufferLengthIn : Nat := 2
/-- `MAX_SERIAL_GET_COUNT`. -/
def maxSerialGetCount : UInt8 := 100

/-- `IncomingPacketFromAndroid`. -/
structure IncomingPacketFromAndroid where
  /-- Set at start-up and cleared with the packet; never read. -/
  startMarker : UInt8
  /-- The first byte after the start marker. -/
  packetType : UInt8
  /-- The two bytes after the type. -/
  data : Vector UInt8 androidBufferLengthIn
  /-- Set at start-up and cleared with the packet; never read. -/
  endMarker : UInt8

/-- The packet after `memset(…, 0, …)`. -/
def IncomingPacketFromAndroid.zero : IncomingPacketFromAndroid := ⟨0, 0, #v[0, 0], 0⟩

/-- `sizeof(IncomingPacketFromAndroid)`. -/
def IncomingPacketFromAndroid.size : Nat := 5

/-- `OutgoingPacketToAndroid`. -/
structure OutgoingPacketToAndroid where
  /-- The first byte of the frame. -/
  startMarker : UInt8
  /-- The type of the request, or `NACK`. -/
  packetType : UInt8
  /-- The size of the state. -/
  dataSize : UInt16
  /-- The state. -/
  data : Rp2040State
  /-- The last byte of the frame. -/
  endMarker : UInt8

/-- The packed bytes of the packet. -/
def OutgoingPacketToAndroid.bytes (packet : OutgoingPacketToAndroid) : List UInt8 :=
  [packet.startMarker, packet.packetType] ++ bytes16 packet.dataSize ++ packet.data.bytes ++
    [packet.endMarker]

/-- `OutgoingLogPacketToAndroid`, without its pointer `data`, which is never used. -/
structure OutgoingLogPacketToAndroid where
  /-- The first byte of the frame. -/
  startMarker : UInt8
  /-- The type of the request. -/
  packetType : UInt8
  /-- The number of log bytes. -/
  dataSize : UInt16
  /-- The last byte of the frame. -/
  endMarker : UInt8

/-- The static variables of the serial protocol. -/
structure SerialState where
  /-- The static `start_idx` of `get_block`. -/
  startIdx : Int8
  /-- The static `end_idx` of `get_block`. -/
  endIdx : Int8
  /-- `incoming_packet_from_android`. -/
  incoming : IncomingPacketFromAndroid
  /-- `outgoing_packet_to_android`. -/
  outgoing : OutgoingPacketToAndroid
  /-- `outgoing_log_packet_to_android`. -/
  outgoingLog : OutgoingLogPacketToAndroid
  /-- `rp2040_state_`. -/
  rp2040State : Rp2040State

/-- The statics before `main`. -/
def SerialState.static : SerialState where
  startIdx := -1
  endIdx := -1
  incoming := .zero
  outgoing := ⟨0, 0, 0, .zero, 0⟩
  outgoingLog := ⟨0, 0, 0, 0⟩
  rp2040State := .zero

/-- A function of the serial protocol. -/
abbrev Serial (α : Type) : Type := StateT SerialState Firmware α

/-- `serial_comm_manager_init`. -/
def serialCommManagerInit (rp2040State : Rp2040State) (state : SerialState) : SerialState :=
  { state with
    rp2040State := rp2040State
    incoming := { state.incoming with startMarker := startMarker, endMarker := endMarker }
    outgoing := { state.outgoing with
      startMarker := startMarker, endMarker := endMarker,
      dataSize := UInt16.ofNat Rp2040State.size }
    outgoingLog := { state.outgoingLog with
      startMarker := startMarker, packetType := getLog, endMarker := endMarker } }

/-- A loop of `putchar` over the bytes of a packet. -/
def putBytes : List UInt8 → Firmware Unit
  | [] => return ()
  | c :: bytes => do
    perform (.putchar c)
    putBytes bytes

/-- `reset_packet_and_send_nack`. The callers return at once, so the cleared `buffer_index` is
not used again. -/
def resetPacketAndSendNack : Serial Unit := do
  perform (.enter .resetPacketAndSendNack)
  modify fun state => { state with
    startIdx := -1
    endIdx := -1
    incoming := .zero
    outgoing := { state.outgoing with packetType := nack } }
  putBytes (← get).outgoing.bytes

/-- The case `GET_LOG` of `handle_packet`. -/
def handleGetLog (packet : IncomingPacketFromAndroid) : Serial Unit := do
  modify fun state => { state with
    outgoingLog := { state.outgoingLog with packetType := packet.packetType } }
  let outgoingLog := (← get).outgoingLog
  perform (.putchar outgoingLog.startMarker)
  perform (.putchar outgoingLog.packetType)
  perform .rp2040LogAcquireLock
  let dataSize : UInt16 ← perform .rp2040GetByteCount
  modify fun state => { state with outgoingLog := { state.outgoingLog with dataSize := dataSize } }
  perform (.putchar (dataSize &&& 0xFF).toUInt8)
  perform (.putchar ((dataSize >>> 8) &&& 0xFF).toUInt8)
  let _ ← perform .rp2040LogFlush
  perform .rp2040LogReleaseLock
  perform (.putchar outgoingLog.endMarker)

/-- The end of the cases that answer with the state: read it, copy it into the packet and send
the packet. -/
def sendState : Serial Unit := do
  let rp2040State ← getState (← get).rp2040State
  modify fun state => { state with
    rp2040State := rp2040State
    outgoing := { state.outgoing with data := rp2040State } }
  putBytes (← get).outgoing.bytes

/-- The case `SET_MOTOR_LEVEL` of `handle_packet`. -/
def handleSetMotorLevel (packet : IncomingPacketFromAndroid) : Serial Unit := do
  modify fun state => { state with
    outgoing := { state.outgoing with packetType := packet.packetType }
    rp2040State := { Rp2040State.zero with
      motorsState.controlValues := ⟨packet.data[0], packet.data[1]⟩ } }
  setMotorLevels (← get).rp2040State
  sendState

/-- The case `GET_STATE` of `handle_packet`. -/
def handleGetState (packet : IncomingPacketFromAndroid) : Serial Unit := do
  modify fun state => { state with
    outgoing := { state.outgoing with packetType := packet.packetType }
    rp2040State := .zero }
  sendState

/-- `handle_packet`. -/
def handlePacket (packet : IncomingPacketFromAndroid) : Serial Unit := do
  perform (.enter (.handlePacket packet.packetType packet.data))
  if packet.packetType = getLog then handleGetLog packet
  else if packet.packetType = setMotorLevel then handleSetMotorLevel packet
  else if packet.packetType = getStateType then handleGetState packet
  else if packet.packetType = resetState then return ()
  else
    modify fun state => { state with outgoing := { state.outgoing with packetType := nack } }

/-- The store of a received byte: the first one is the packet type, and the later ones go to
`data[buffer_index - 1]`. -/
def storeByte (bufferIndex : UInt16) (c : UInt8) : Serial Unit :=
  let index := bufferIndex.toNat - 1
  if bufferIndex = 0 then
    modify fun state => { state with incoming := { state.incoming with packetType := c } }
  else if inside : index < androidBufferLengthIn then
    modify fun state => { state with
      incoming := { state.incoming with data := state.incoming.data.set index c inside } }
  else
    perform (.strayStore index)

/-- How the loop of `get_block` ends. -/
inductive LoopEnd where
  /-- The loop condition failed. -/
  | left
  /-- A timeout made `get_block` return. -/
  | returned
  /-- The fuel was too small. -/
  | exhausted
  deriving DecidableEq

/-- The loop of `get_block`, for as many rounds as there is fuel. -/
def readLoop : Nat → UInt16 → UInt8 → Serial LoopEnd
  | 0, _, _ => return .exhausted
  | fuel + 1, bufferIndex, i => do
    if bufferIndex.toNat < androidBufferLengthIn + 1 ∨ i = maxSerialGetCount then
      match ← getcharTimeoutUs 100 with
      | some c =>
        storeByte bufferIndex c
        readLoop fuel (bufferIndex + 1) (i + 1)
      | none =>
        rp2040Log "Timeout while reading packet. Resetting state.\n" []
        resetPacketAndSendNack
        return .returned
    else
      return .left

/-- Fuel that the loop of `get_block` never uses up. -/
def readFuel : Nat := androidBufferLengthIn + 2

/-- The end of `get_block`, after the loop. -/
def finishBlock : Serial Unit := do
  let c ← getcharTimeoutUs 100
  if c = some endMarker then
    let state ← get
    let packetLength := UInt16.ofInt (state.endIdx.toInt - state.startIdx.toInt)
    if IncomingPacketFromAndroid.size ≤ packetLength.toNat then
      handlePacket state.incoming
      modify fun state => { state with startIdx := -1, endIdx := -1, incoming := .zero }
    else
      rp2040Log "Received incomplete packet. Resetting state.\n" []
      resetPacketAndSendNack
  else
    rp2040Log "Received packet with no end marker. Resetting state.\n" []
    resetPacketAndSendNack

/-- `get_block`. -/
def getBlock : Serial Unit := do
  perform (.enter .getBlock)
  let c ← getcharTimeoutUs 100
  if c = some startMarker then
    modify fun state => { state with startIdx := 0 }
    match ← readLoop readFuel 0 0 with
    | .left => finishBlock
    | .returned => return ()
    | .exhausted => return ()

/-- The body of the loop in `main`. -/
def mainRound (state : SerialState) : Firmware SerialState := do
  let (_, state) ← getBlock.run state
  perform (.sleepMs 10)
  return state

/-- Some rounds of the loop in `main`. -/
def serve (rounds : Nat) (state : SerialState) : Firmware SerialState :=
  Interaction.Program.iterate mainRound rounds state

end RobotFirmware
