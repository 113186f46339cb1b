import Mathlib.Data.BitVec
import NrfFeather.Lib.MachineInt
import NrfFeather.Lib.Prog
import NrfFeather.Lib.Transition
import NrfFeather.Zephyr

/-!
# The battery driver

`drivers/battery/battery.c`: a sensor driver that reads a voltage divider through the ADC, with an
optional GPIO that powers the divider. The static data of the file is the state `Driver` that its
functions pass along; each enabled `voltage-divider` node is a device `ι` with its own stored
voltage, and everything else is shared. The hardware behind the driver is an environment that
may answer any call with success or failure.
-/

namespace NrfFeather

open Effects Transition MachineInt

/-! ## Data -/

/-- `struct gpio_dt_spec`: a port and a pin on it. -/
structure GpioDtSpec where
  port : Nat
  pin : Nat
  deriving DecidableEq

/-- `struct divider_config`; a power GPIO whose `port` is `NULL` is `none`. -/
structure DividerConfig where
  ioChannel : UInt8
  powerGpios : Option GpioDtSpec
  outputOhm : UInt32
  fullOhm : UInt32

/-- What the build takes the shared configuration from: the node `/vbatt`, when it is there, or
else the channel of `/zephyr,user`; and `CONFIG_BOARD_THINGY52_NRF52832`. -/
structure DeviceTree where
  vbatt : Option DividerConfig
  zephyrUser : UInt8
  thingy52 : Bool

/-- The static `divider_config`. -/
def DeviceTree.dividerConfig (dt : DeviceTree) : DividerConfig :=
  match dt.vbatt with
  | some vbatt => vbatt
  | none => { ioChannel := dt.zephyrUser, powerGpios := none, outputOhm := 0, fullOhm := 0 }

inductive AdcGain where
  | gain1
  | gain1_6
  deriving DecidableEq

/-- `BATTERY_ADC_GAIN`. -/
def DeviceTree.batteryAdcGain (dt : DeviceTree) : AdcGain :=
  if dt.thingy52 then .gain1 else .gain1_6

/-- An input of the SAADC: `SAADC_CH_PSELP_PSELP_AnalogInput0 + n`, or the supply. -/
inductive AdcInput where
  | analog (n : UInt8)
  | vdd
  deriving DecidableEq

/-- The input a node is measured at: its own channel, or the supply where there is no divider. -/
def DividerConfig.input (cfg : DividerConfig) : AdcInput :=
  if cfg.outputOhm ≠ 0 then .analog cfg.ioChannel else .vdd

/-- `struct adc_channel_cfg`; the reference is always the internal one. -/
structure AdcChannelCfg where
  gain : AdcGain
  acquisitionTime : Nat
  inputPositive : AdcInput
  deriving DecidableEq

/-- `struct adc_sequence`; the buffer is always `ddp->raw`. -/
structure AdcSequence where
  channels : Nat
  oversampling : Nat
  calibrate : Bool
  resolution : Nat
  deriving DecidableEq

/-- What the driver uses of the ADC API to convert a reading. -/
structure AdcApi where
  /-- `adc_ref_internal`, in millivolts. -/
  refInternal : Int
  /-- `adc_raw_to_millivolts`, of reference, gain, resolution and raw value. -/
  rawToMillivolts : Int → AdcGain → Nat → Int → Int

/-- The static data of the file, and the voltage of each device. -/
structure Driver (ι : Type) where
  raw : BitVec 16
  adcSeq : AdcSequence
  adcCfg : AdcChannelCfg
  batteryOk : Bool
  voltage : ι → SensorValue

/-! ## Hardware -/

inductive HwCall where
  | adcIsReady
  | gpioIsReady (port : Nat)
  /-- `gpio_pin_configure_dt` with `GPIO_OUTPUT_INACTIVE`. -/
  | gpioPinConfigureDt (spec : GpioDtSpec)
  | gpioPinSetDt (spec : GpioDtSpec) (value : Bool)
  | adcChannelSetup (cfg : AdcChannelCfg)
  /-- `adc_read`; the answer holds what is in the buffer afterwards. -/
  | adcRead (seq : AdcSequence)
  | kSleep (usec : Nat)
  deriving DecidableEq

@[reducible] def HwCall.Ans : HwCall → Type
  | .adcIsReady | .gpioIsReady _ => Bool
  | .gpioPinConfigureDt _ | .gpioPinSetDt _ _ | .adcChannelSetup _ => Int
  | .adcRead _ => Int × BitVec 16
  | .kSleep _ => Unit

/-- The call succeeded. -/
def HwCall.Ok : (c : HwCall) → c.Ans → Prop
  | .adcIsReady, r | .gpioIsReady _, r => r = true
  | .gpioPinConfigureDt _, r | .gpioPinSetDt _ _, r | .adcChannelSetup _, r => r = 0
  | .adcRead _, r => r.1 = 0
  | .kSleep _, _ => True

/-- A successful reading of the ADC, and the input it was taken at. -/
structure Reading where
  input : AdcInput
  raw : BitVec 16
  deriving DecidableEq

/-- The hardware: the input ADC channel 0 is set up for, the level of each GPIO, and the readings
taken so far. -/
structure Hw where
  input : Option AdcInput
  level : GpioDtSpec → Bool
  readings : List Reading

/-- The hardware after a call was answered; a failed call changes nothing. -/
def Hw.next (hw : Hw) : (c : HwCall) → c.Ans → Hw
  | .gpioPinConfigureDt spec, r =>
    if r = 0 then { hw with level := fun g => if g = spec then false else hw.level g } else hw
  | .gpioPinSetDt spec value, r =>
    if r = 0 then { hw with level := fun g => if g = spec then value else hw.level g } else hw
  | .adcChannelSetup cfg, r => if r = 0 then { hw with input := some cfg.inputPositive } else hw
  | .adcRead _, r =>
    match hw.input with
    | some input => if r.1 = 0 then { hw with readings := ⟨input, r.2⟩ :: hw.readings } else hw
    | none => hw
  | _, _ => hw

/-- Any call may succeed or fail. -/
def Hw.env : Env HwCall.Ans Hw where
  allows _ _ _ := True
  next := Hw.next

/-! ## The driver's functions -/

/-- A function of the driver: it works on the static data and makes calls to the hardware. -/
abbrev Drv (ι : Type) (α : Type) : Type := StateT (Driver ι) (Prog HwCall.Ans) α

section
variable {ι : Type} [DecidableEq ι] (dt : DeviceTree) (adc : AdcApi)

def adcIsReady : Prog HwCall.Ans Bool := .perform HwCall.adcIsReady

def gpioIsReady (port : Nat) : Prog HwCall.Ans Bool := .perform (HwCall.gpioIsReady port)

def gpioPinConfigureDt (spec : GpioDtSpec) : Prog HwCall.Ans Int :=
  .perform (HwCall.gpioPinConfigureDt spec)

def gpioPinSetDt (spec : GpioDtSpec) (value : Bool) : Prog HwCall.Ans Int :=
  .perform (HwCall.gpioPinSetDt spec value)

def adcChannelSetup (cfg : AdcChannelCfg) : Prog HwCall.Ans Int :=
  .perform (HwCall.adcChannelSetup cfg)

def adcRead (seq : AdcSequence) : Prog HwCall.Ans (Int × BitVec 16) :=
  .perform (HwCall.adcRead seq)

def kSleep (usec : Nat) : Prog HwCall.Ans Unit := .perform (HwCall.kSleep usec)

def dividerSetup : Drv ι Int := do
  let cfg := dt.dividerConfig
  if !(← adcIsReady) then
    return -ENOENT
  if let some gcp := cfg.powerGpios then
    if !(← gpioIsReady gcp.port) then
      return -ENOENT
    let rc ← gpioPinConfigureDt gcp
    if rc ≠ 0 then
      return rc
  modify fun d => { d with
    adcSeq := { channels := 1, oversampling := 4, calibrate := true, resolution := 0 } }
  modify fun d => { d with
    adcCfg :=
      { gain := dt.batteryAdcGain, acquisitionTime := 40, inputPositive := cfg.input } }
  modify fun d => { d with adcSeq := { d.adcSeq with resolution := 14 } }
  let d ← get
  let rc ← adcChannelSetup d.adcCfg
  return rc

def batteryMeasurementInit (_dev : ι) : Drv ι Int := do
  let rc ← dividerSetup dt
  modify fun d => { d with batteryOk := rc = 0 }
  return rc

def batteryMeasureEnable (enable : Bool) : Drv ι Int := do
  let d ← get
  if d.batteryOk then
    match dt.dividerConfig.powerGpios with
    | some gcp =>
      let rc ← gpioPinSetDt gcp enable
      return rc
    | none => return 0
  else
    return -ENOENT

/-- `val * (uint64_t)full_ohm / output_ohm`, stored in an `int`. -/
def scale (keep32 keep64 : Int → Option Int) (cfg : DividerConfig) (val : Int) : Option Int := do
  let val ← keep64 val
  let product ← keep64 (val * cfg.fullOhm.toNat)
  keep32 (product / cfg.outputOhm.toNat)

/-- What `battery_sample` makes of a raw reading, over 32-bit signed and 64-bit unsigned operations
and a conversion to millivolts. -/
def sampleVoltage (keep32 keep64 toMillivolts : Int → Option Int) (cfg : DividerConfig)
    (raw : BitVec 16) : Option Int := do
  let val := if raw.toInt < 0 then 1 else raw.toInt
  let val ← toMillivolts val
  if cfg.outputOhm ≠ 0 then scale keep32 keep64 cfg val else return val

/-- The same in C, whose operations always have a value. -/
def batteryVoltage (cfg : DividerConfig) (gain : AdcGain) (resolution : Nat) (raw : BitVec 16) :
    Int :=
  (sampleVoltage (wrapSigned 32) (wrapUnsigned 64)
    (fun val => some (adc.rawToMillivolts adc.refInternal gain resolution val)) cfg raw).getD 0

/-- `battery_sample`, which stores the voltage of the device it is called for. -/
def batterySample (dev : ι) : Drv ι Int := do
  let d ← get
  if d.batteryOk then
    let (rc, raw) ← adcRead d.adcSeq
    modify fun d => { d with raw := raw }
    if rc ≠ 0 then
      return rc
    modify fun d => { d with adcSeq := { d.adcSeq with calibrate := false } }
    modify fun d =>
      let mv := batteryVoltage adc dt.dividerConfig d.adcCfg.gain d.adcSeq.resolution d.raw
      { d with
        voltage := fun i => if i = dev then { d.voltage i with val1 := mv } else d.voltage i }
    return rc
  else
    return -ENOENT

def batteryMeasurementSampleFetch (dev : ι) (chan : SensorChannel) : Drv ι Int := do
  match chan with
  | .voltage =>
    let _ ← batteryMeasureEnable dt true
    kSleep 100
    let _err ← batterySample dt adc dev
    let _ ← batteryMeasureEnable dt false
  | _ => pure ()
  return 0

/-- `battery_measurement_channel_get`, with the value it copies to the caller. -/
def batteryMeasurementChannelGet (dev : ι) (chan : SensorChannel) :
    Drv ι (Int × Option SensorValue) := do
  match chan with
  | .voltage =>
    let d ← get
    if d.batteryOk then
      return (0, some (d.voltage dev))
    else
      return (-ENODEV, none)
  | _ => return (-EINVAL, none)

end

end NrfFeather
