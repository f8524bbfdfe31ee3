import RobotFirmware.Platform

/-!
# Wireless power, analogue inputs and encoders

The power multiplexer's flag pin, the two analogue inputs, and the encoder counters.
-/

namespace RobotFirmware

namespace Ncp3901

/-- `GPIO_WIRELESS_AVAILABLE`, the pin stored in `_gpio_wireless_charger`. -/
def gpioWirelessCharger : Nat := 4

/-- `ncp3901_on_wireless_charger_interrupt`. -/
def onWirelessChargerInterrupt (gpio : Nat) (eventMask : UInt32) : Firmware Unit := do
  if eventMask &&& gpioIrqEdgeRise ≠ 0 then
    gpioAcknowledgeIrq gpio gpioIrqEdgeRise
    callQueueTryAdd .ncp3901OnWirelessChargerDetached 0
    if ← load .testNcp3901Started then
      callQueueTryAdd .ncp3901TestResponse 1
  else if eventMask &&& gpioIrqEdgeFall ≠ 0 then
    gpioAcknowledgeIrq gpio gpioIrqEdgeFall
    callQueueTryAdd .ncp3901OnWirelessChargerAttached 0
    if ← load .testNcp3901Started then
      callQueueTryAdd .ncp3901TestResponse 1

/-- `ncp3901_on_wireless_charger_attached`. -/
def onWirelessChargerAttached : Firmware Int32 := do
  rp2040Log "Wireless power available\n" []
  store .wirelessChargerAttached true
  return 0

/-- `ncp3901_on_wireless_charger_detached`. -/
def onWirelessChargerDetached : Firmware Int32 := do
  rp2040Log "Wireless power unavailable\n" []
  store .wirelessChargerAttached false
  return 0

/-- `ncp3901_wireless_charger_attached`. -/
def wirelessChargerAttached : Firmware Bool := load .wirelessChargerAttached

/-- `ncp3901_test_response`. -/
def testResponse : Firmware Int32 := do
  store .testNcp3901Completed true
  return 0

/-- `test_ncp3901_interrupt`. Its flags are not reset after the second wait. -/
def testInterrupt : Firmware Unit := do
  rp2040Log "test_ncp3901_interrupt: starting test of wireless connection...\n" []
  store .testNcp3901Started true
  movePin gpioWirelessCharger (perform (.gpioSetDir gpioWirelessCharger true)) false
    "test_ncp3901_interrupt: prior to driving low GPIO%d. Current Value:%d\n"
    "ERROR: test_ncp3901_interrupt: GPIO%d was not driven low. Current Value:%d\n"
    "test_ncp3901_interrupt: after driving low GPIO%d. Current Value:%d\n"
  let left ← waitForTest .testNcp3901Completed
    "ERROR: test_ncp3901_interrupt wireless connect timed out\n" testRounds
  store .testNcp3901Started false
  store .testNcp3901Completed false
  rp2040Log "test_ncp3901_interrupt_wireless_connect: PASSED after %lu milliseconds.\n"
    [waitedMs left]
  rp2040Log "test_ncp3901_interrupt: starting test of wireless disconnection...\n" []
  store .testNcp3901Started true
  movePin gpioWirelessCharger
    (do perform (.gpioSetDir gpioWirelessCharger false); perform (.gpioPullUp gpioWirelessCharger))
    true
    "test_ncp3901_interrupt: prior to pulling up GPIO%d. Current Value:%d\n"
    "ERROR: test_ncp3901_interrupt: GPIO%d was pulled up. Current Value:%d\n"
    "test_ncp3901_interrupt: after pulling up GPIO%d. Current Value:%d\n"
  let left ← waitForTest .testNcp3901Completed
    "ERROR: test_ncp3901_interrupt wireless disconnect timed out\n" testRounds
  rp2040Log "test_ncp3901_interrupt_wireless_disconnect: PASSED after %lu milliseconds.\n"
    [waitedMs left]

/-- `ncp3901_adc0`. -/
def adc0 : Firmware UInt16 := do
  perform (.adcSelectInput 0)
  perform .adcRead

end Ncp3901

/-- `STWLC38JRM_adc1`. -/
def stwlc38jrmAdc1 : Firmware UInt16 := do
  perform (.adcSelectInput 1)
  perform .adcRead

/-- `quad_encoder_get_count`. -/
def quadEncoderGetCount (encoder : Nat) : Firmware Int32 :=
  perform (.quadratureEncoderGetCount encoder)

end RobotFirmware
