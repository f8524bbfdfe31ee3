import RobotFirmware.Interaction.Program
import RobotFirmware.Interaction.Monitor
import RobotFirmware.Interaction.System
import RobotFirmware.Interaction.Device
import RobotFirmware.Interaction.Playback
import RobotFirmware.Structure.RingBuffer
import RobotFirmware.Structure.Conveyor
import RobotFirmware.Structure.LittleEndian
import RobotFirmware.Structure.ByteSum
import RobotFirmware.Structure.Text
import RobotFirmware.Structure.Lines
import RobotFirmware.Structure.Overlay
import RobotFirmware.Platform
import RobotFirmware.Device.Drv8830
import RobotFirmware.Device.MotorVoltage
import RobotFirmware.Device.Bq27742G1
import RobotFirmware.Device.Max77976
import RobotFirmware.Device.Peripherals
import RobotFirmware.Device.Max77958
import RobotFirmware.BitOps
import RobotFirmware.Device.Max77857
import RobotFirmware.Rp2040Log
import RobotFirmware.LogMemory
import RobotFirmware.Robot
import RobotFirmware.SerialCommManager
import RobotFirmware.Retries
import RobotFirmware.Footprint
import RobotFirmware.Exchange
import RobotFirmware.Readout
import RobotFirmware.ExceptionFrame
import RobotFirmware.Serial.Scanner
import RobotFirmware.Serial.Reception
import RobotFirmware.Serial.Receiver
import RobotFirmware.Serial.MotorWrites
import RobotFirmware.Serial.LogFrame
import RobotFirmware.Serial.Replies
import RobotFirmware.Serial.Completion
import RobotFirmware.Serial.Telemetry
import RobotFirmware.Serial.StateFrames
import RobotFirmware.Serial.ChargerDetails
import RobotFirmware.Serial.FaultReport
import RobotFirmware.FuelGauge.DataFlash
import RobotFirmware.FuelGauge.HostInterrupts
import RobotFirmware.TypeC.InterruptDispatch
import RobotFirmware.TypeC.OpcodeLevel
import RobotFirmware.TypeC.Transmission
import RobotFirmware.TypeC.SinkPdos
import RobotFirmware.TypeC.Board
import RobotFirmware.TypeC.Playback
import RobotFirmware.TypeC.Discipline
import RobotFirmware.TypeC.Threads
import RobotFirmware.TypeC.Turns
import RobotFirmware.TypeC.Flow
import RobotFirmware.TypeC.Delivery
import RobotFirmware.TypeC.InFlight
import RobotFirmware.TypeC.Finished
import RobotFirmware.TypeC.Vbus
import RobotFirmware.Interrupts.SharedBus
import RobotFirmware.Interrupts.WirelessCharger
import RobotFirmware.Interrupts.SelfTestRuns
import RobotFirmware.Interrupts.GaugeAttended
import RobotFirmware.Interrupts.LogMutex
import RobotFirmware.Capture.Attached
import RobotFirmware.Capture.Consume
import RobotFirmware.Capture.Phases
import RobotFirmware.Capture.Chunks
import RobotFirmware.Encoder.Odometry
import RobotFirmware.StartUp.Charger
import RobotFirmware.StartUp.Lines
import RobotFirmware.StartUp.Memory
