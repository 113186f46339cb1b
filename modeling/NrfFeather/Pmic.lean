import Mathlib.Data.BitVec
import NrfFeather.Lib.Prog
import NrfFeather.Zephyr

/-!
# The board around the nPM1300

The calls the samples make to the drivers of the power-management chip and of the console UART,
and the board behind them: a reference-counted regulator for BUCK2, the chip's registers, and the
power state of the UART. `Board.env` is what the drivers are assumed to do: an answer of at least
0 means that the call took effect, a negative one that it changed nothing.
-/

namespace NrfFeather

open Effects

/-! ## Registers -/

def NPM1300_BUCK_BASE : BitVec 8 := 0x04
def NPM1300_BUCK_BUCKCTRL0 : BitVec 8 := 0x15
def NPM1300_BUCK2_PULLDOWN_EN : BitVec 8 := 1 <<< 3

/-- The register value that `mfd_npm1300_reg_update` writes: the bits of the mask are taken from
`data`, the others stay. -/
def maskedUpdate (old data mask : BitVec 8) : BitVec 8 := (old &&& ~~~mask) ||| (data &&& mask)

/-- Under the mask the new data is read back. -/
theorem maskedUpdate_and_mask (old data mask : BitVec 8) :
    maskedUpdate old data mask &&& mask = data &&& mask := by
  unfold maskedUpdate
  ext i
  simp only [BitVec.getElem_and, BitVec.getElem_or, BitVec.getElem_not]
  cases mask[i] <;> simp

/-! ## Calls -/

/-- The devices whose readiness is asked for. -/
inductive Device where
  | pmic
  | consoleDev
  deriving DecidableEq

/-- `enum pm_device_action`, as far as it is used. -/
inductive PmDeviceAction where
  | suspend
  | resume
  deriving DecidableEq

/-- The driver calls. The regulator is always `buck2` and the device of `pmDeviceActionRun` always
the console UART. -/
inductive PmicCall where
  | deviceIsReady (dev : Device)
  | regulatorEnable
  | regulatorDisable
  | regulatorIsEnabled
  | mfdNpm1300RegRead (base offset : BitVec 8)
  | mfdNpm1300RegWrite (base offset data : BitVec 8)
  | mfdNpm1300RegUpdate (base offset data mask : BitVec 8)
  | pmDeviceActionRun (action : PmDeviceAction)
  | tasksHfclkstop
  deriving DecidableEq

/-- What a call returns; a register read also returns the byte it read. -/
@[reducible] def PmicCall.Ans : PmicCall → Type
  | .deviceIsReady _ | .regulatorIsEnabled => Bool
  | .mfdNpm1300RegRead _ _ => Int × BitVec 8
  | .tasksHfclkstop => Unit
  | _ => Int

/-- BUCK2, the registers of the nPM1300 and the console UART. -/
structure Board where
  /-- The reference count of the regulator. -/
  refcnt : Int
  /-- BUCK2's output. -/
  buck2On : Bool
  regs : BitVec 8 → BitVec 8 → BitVec 8
  uartActive : Bool

namespace Board

/-- BUCK2's pull-down bit. -/
def pulldown (b : Board) : Bool :=
  b.regs NPM1300_BUCK_BASE NPM1300_BUCK_BUCKCTRL0 &&& NPM1300_BUCK2_PULLDOWN_EN ≠ 0

def setReg (b : Board) (base offset data : BitVec 8) : Board :=
  { b with regs := fun x y => if x = base ∧ y = offset then data else b.regs x y }

/-- `regulator_enable`: the first user drives the output on. -/
def enable (b : Board) : Board :=
  { b with refcnt := b.refcnt + 1, buck2On := if b.refcnt = 0 then true else b.buck2On }

/-- `regulator_disable`: the last user drives the output off. -/
def disable (b : Board) : Board :=
  { b with refcnt := b.refcnt - 1, buck2On := if b.refcnt = 1 then false else b.buck2On }

/-- The board after a call was answered. -/
def next (b : Board) : (c : PmicCall) → c.Ans → Board
  | .regulatorEnable, r => if r < 0 then b else b.enable
  | .regulatorDisable, r => if r < 0 then b else b.disable
  | .mfdNpm1300RegWrite base offset data, r => if r < 0 then b else b.setReg base offset data
  | .mfdNpm1300RegUpdate base offset data mask, r =>
    if r < 0 then b else b.setReg base offset (maskedUpdate (b.regs base offset) data mask)
  | .pmDeviceActionRun action, r => if r < 0 then b else { b with uartActive := action = .resume }
  | _, _ => b

/-- The answers the drivers may give: a query answers with the state it asks for, and every other
call may succeed or fail. -/
def allows (b : Board) : (c : PmicCall) → c.Ans → Prop
  | .regulatorIsEnabled, r => r = (b.refcnt ≠ 0)
  | .mfdNpm1300RegRead base offset, r => 0 ≤ r.1 → r.2 = b.regs base offset
  | _, _ => True

def env : Env PmicCall.Ans Board where
  allows := allows
  next := next

end Board

/-- A driver call succeeded. -/
def PmicCall.Ok : (c : PmicCall) → c.Ans → Prop
  | .deviceIsReady _, r => r = true
  | .regulatorIsEnabled, _ | .tasksHfclkstop, _ => True
  | .mfdNpm1300RegRead _ _, r => 0 ≤ r.1
  | .regulatorEnable, r | .regulatorDisable, r | .mfdNpm1300RegWrite _ _ _, r
  | .mfdNpm1300RegUpdate _ _ _ _, r | .pmDeviceActionRun _, r => 0 ≤ r

/-! ## The driver API -/

def deviceIsReady (dev : Device) : Prog PmicCall.Ans Bool :=
  .perform (PmicCall.deviceIsReady dev)

def regulatorEnable : Prog PmicCall.Ans Int := .perform PmicCall.regulatorEnable

def regulatorDisable : Prog PmicCall.Ans Int := .perform PmicCall.regulatorDisable

def mfdNpm1300RegUpdate (base offset data mask : BitVec 8) : Prog PmicCall.Ans Int :=
  .perform (PmicCall.mfdNpm1300RegUpdate base offset data mask)

def pmDeviceActionRun (action : PmDeviceAction) : Prog PmicCall.Ans Int :=
  .perform (PmicCall.pmDeviceActionRun action)

def tasksHfclkstop : Prog PmicCall.Ans Unit := .perform PmicCall.tasksHfclkstop

def buck2SetMode (enabled : Bool) : Prog PmicCall.Ans Int := do
  if !(← deviceIsReady .pmic) then
    return -ENODEV
  if enabled then
    let err ← regulatorEnable
    if err < 0 then
      return err
    let err ← mfdNpm1300RegUpdate NPM1300_BUCK_BASE NPM1300_BUCK_BUCKCTRL0
      0 NPM1300_BUCK2_PULLDOWN_EN
    if err < 0 then
      return err
  else
    let err ← regulatorDisable
    if err < 0 then
      return err
    let err ← mfdNpm1300RegUpdate NPM1300_BUCK_BASE NPM1300_BUCK_BUCKCTRL0
      NPM1300_BUCK2_PULLDOWN_EN NPM1300_BUCK2_PULLDOWN_EN
    if err < 0 then
      return err
  return 0

end NrfFeather
