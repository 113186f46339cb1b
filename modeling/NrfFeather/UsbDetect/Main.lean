import NrfFeather.Lib.Signal
import NrfFeather.Pmic

/-!
# The USB-detect sample

`samples/usb_detect/src/main.c` as a transition system. Two threads of control share
`vbus_connected` and the semaphore `usb_detect_sem`: `event_callback`, which the PMIC's interrupt
handler calls, and `main`, from the moment it has armed that callback. Each step is one access to
shared data, or one call of `buck2_set_mode` or `uart_set_mode`; the steps of the two threads may
be interleaved in any way. The driver calls a step makes are answered by the oracle its label
carries, so that a run is determined by its labels.

`Hist` records what happened and is read by no step.
-/

namespace NrfFeather

open Effects Transition Signal

/-! ## Modes -/

def uartSetMode (enabled : Bool) : Prog PmicCall.Ans Int := do
  if !(← deviceIsReady .consoleDev) then
    return -ENODEV
  if enabled then
    let err ← pmDeviceActionRun .resume
    if err < 0 then
      return err
  else
    let err ← pmDeviceActionRun .suspend
    if err < 0 then
      return err
    tasksHfclkstop
  return 0

/-- Answers to the driver calls of a step. -/
abbrev PmicOracle : Type := (c : PmicCall) → c.Ans

/-- Every driver call succeeds. -/
def PmicOracle.Ok (o : PmicOracle) : Prop := ∀ c : PmicCall, c.Ok (o c)

/-- The board after a program that was answered by the oracle. -/
def Board.run (b : Board) (o : PmicOracle) (p : Prog PmicCall.Ans Int) : Board :=
  (runWith Board.env o b p).2.2

/-- The board after `buck2_set_mode`, if no call in it fails. -/
def Board.setBuck2 (b : Board) (enabled : Bool) : Board :=
  let b' := if enabled then b.enable else b.disable
  b'.setReg NPM1300_BUCK_BASE NPM1300_BUCK_BUCKCTRL0
    (maskedUpdate (b'.regs NPM1300_BUCK_BASE NPM1300_BUCK_BUCKCTRL0)
      (if enabled then 0 else NPM1300_BUCK2_PULLDOWN_EN) NPM1300_BUCK2_PULLDOWN_EN)

/-- BUCK2 is pulled down when it is turned off. -/
theorem Board.pulldown_setBuck2 (b : Board) (enabled : Bool) :
    (b.setBuck2 enabled).pulldown = !enabled := by
  simp only [Board.pulldown, Board.setBuck2, Board.setReg, and_self, if_true,
    maskedUpdate_and_mask]
  cases enabled <;> rfl

/-- `buck2_set_mode`, when its driver calls succeed. -/
theorem Board.run_buck2SetMode {o : PmicOracle} (ho : o.Ok) (b : Board) (enabled : Bool) :
    b.run o (buck2SetMode enabled) = b.setBuck2 enabled := by
  have hr : o (.deviceIsReady .pmic) = true := ho (.deviceIsReady .pmic)
  have he : ¬ (o .regulatorEnable : Int) < 0 := Int.not_lt.2 (ho .regulatorEnable)
  have hd : ¬ (o .regulatorDisable : Int) < 0 := Int.not_lt.2 (ho .regulatorDisable)
  have hu (base offset data mask : BitVec 8) :
      ¬ (o (.mfdNpm1300RegUpdate base offset data mask) : Int) < 0 :=
    Int.not_lt.2 (ho (.mfdNpm1300RegUpdate base offset data mask))
  cases enabled <;>
    simp [Board.run, buck2SetMode, deviceIsReady, regulatorEnable, regulatorDisable,
      mfdNpm1300RegUpdate, Prog.perform, hr, he, hd, hu, Board.env, Board.next, Board.setBuck2]

/-- `uart_set_mode`, when its driver calls succeed. -/
theorem Board.run_uartSetMode {o : PmicOracle} (ho : o.Ok) (b : Board) (enabled : Bool) :
    b.run o (uartSetMode enabled) = { b with uartActive := enabled } := by
  have hr : o (.deviceIsReady .consoleDev) = true := ho (.deviceIsReady .consoleDev)
  have hp (a : PmDeviceAction) : ¬ (o (.pmDeviceActionRun a) : Int) < 0 :=
    Int.not_lt.2 (ho (.pmDeviceActionRun a))
  cases enabled <;>
    simp [Board.run, uartSetMode, deviceIsReady, pmDeviceActionRun, tasksHfclkstop, Prog.perform,
      hr, hp, Board.env, Board.next]

/-! ## The callback -/

/-- The bits of the two VBUS events in a pins word, `NPM1300_EVENT_VBUS_DETECTED` and
`NPM1300_EVENT_VBUS_REMOVED`. -/
structure VbusEvents where
  detected : BitVec 32
  removed : BitVec 32

variable (ev : VbusEvents)

/-- The pins word names the event. -/
def Fires (pins bit : BitVec 32) : Prop := pins &&& bit ≠ 0

instance (pins bit : BitVec 32) : Decidable (Fires pins bit) :=
  inferInstanceAs (Decidable (_ ≠ _))

/-- Where `event_callback` stands. -/
inductive CallbackPc where
  /-- No callback is in progress. -/
  | idle
  /-- Before the test for `VBUS_DETECTED`. -/
  | detected (pins : BitVec 32)
  /-- `vbus_connected = true` is done, its give is not. -/
  | giveDetected (pins : BitVec 32)
  /-- Before the test for `VBUS_REMOVED`. -/
  | removed (pins : BitVec 32)
  /-- `vbus_connected = false` is done, its give is not. -/
  | giveRemoved
  deriving DecidableEq

/-- Where `main` stands. -/
inductive MainPc where
  /-- The callback is armed, `sensor_attr_get` not yet called. -/
  | sample
  /-- The status is sampled, not yet stored in `vbus_connected`. -/
  | store (status : Bool)
  /-- At `k_sem_take`. -/
  | take
  /-- The semaphore is taken, `vbus_connected` not yet read. -/
  | read
  /-- Before `buck2_set_mode`. -/
  | buck2 (mode : Bool)
  /-- Before `uart_set_mode`. -/
  | uart (mode : Bool)
  /-- `sensor_attr_get` failed and `main` returned. -/
  | returned
  deriving DecidableEq

/-- What happened since the callback was armed. -/
structure Hist where
  /-- What the last VBUS callback reported: `true` for detected, `false` for removed. -/
  event : Option Bool := none
  /-- A VBUS callback was called since the loop was entered. -/
  called : Bool := false
  /-- The last value a callback stored since the loop was entered. -/
  stored : Option Bool := none
  /-- The sampled VBUS status. -/
  sampled : Option Bool := none
  /-- The mode selected by the last pass of the loop. -/
  mode : Option Bool := none
  /-- The mode of the last pass that came to its end. -/
  applied : Option Bool := none
  gives : Nat := 0
  passes : Nat := 0
  deriving DecidableEq

structure State where
  vbusConnected : Bool
  usbDetectSem : Sem 1
  cb : CallbackPc
  pc : MainPc
  board : Board
  hist : Hist

inductive Label where
  /-- The interrupt handler calls `event_callback`. -/
  | call (pins : BitVec 32)
  /-- The next step of the callback in progress. -/
  | callback
  /-- `sensor_attr_get` returns. -/
  | sensorAttrGet (ret : Int) (val : SensorValue)
  /-- The next step of `main`. -/
  | main (o : PmicOracle)

/-- What a callback with these pins reports: it handles a removal last. -/
def polarity (pins : BitVec 32) : Option Bool :=
  if Fires pins ev.removed then some false
  else if Fires pins ev.detected then some true
  else none

namespace State

/-- `event_callback` is entered. -/
def call (s : State) (pins : BitVec 32) : Option State :=
  match s.cb with
  | .idle => some { s with
      cb := .detected pins
      hist := { s.hist with
        event := polarity ev pins <|> s.hist.event
        called := s.hist.called || (polarity ev pins).isSome } }
  | _ => none

/-- The next step of `event_callback`. -/
def callback (s : State) : Option State :=
  match s.cb with
  | .idle => none
  | .detected pins =>
    if Fires pins ev.detected then
      some { s with
        vbusConnected := true
        cb := .giveDetected pins
        hist := { s.hist with stored := some true } }
    else
      some { s with cb := .removed pins }
  | .giveDetected pins => some { s with
      usbDetectSem := s.usbDetectSem.give
      cb := .removed pins
      hist := { s.hist with gives := s.hist.gives + 1 } }
  | .removed pins =>
    if Fires pins ev.removed then
      some { s with
        vbusConnected := false
        cb := .giveRemoved
        hist := { s.hist with stored := some false } }
    else
      some { s with cb := .idle }
  | .giveRemoved => some { s with
      usbDetectSem := s.usbDetectSem.give
      cb := .idle
      hist := { s.hist with gives := s.hist.gives + 1 } }

/-- `sensor_attr_get` returns; a failure makes `main` return. -/
def sensorAttrGet (s : State) (ret : Int) (val : SensorValue) : Option State :=
  match s.pc with
  | .sample =>
    if ret < 0 then
      some { s with pc := .returned }
    else
      let status := val.val1 ≠ 0 || val.val2 ≠ 0
      some { s with pc := .store status, hist := { s.hist with sampled := some status } }
  | _ => none

/-- The next step of `main`. -/
def main (s : State) (o : PmicOracle) : Option State :=
  match s.pc with
  | .sample | .returned => none
  | .store status => some { s with
      vbusConnected := status
      pc := .take
      hist := { s.hist with called := false, stored := none } }
  | .take => s.usbDetectSem.take.map fun sem =>
      { s with
        usbDetectSem := sem
        pc := .read
        hist := { s.hist with passes := s.hist.passes + 1 } }
  | .read => some { s with
      pc := .buck2 s.vbusConnected
      hist := { s.hist with mode := some s.vbusConnected } }
  | .buck2 mode => some { s with
      board := s.board.run o (buck2SetMode mode)
      pc := .uart mode }
  | .uart mode => some { s with
      board := s.board.run o (uartSetMode mode)
      pc := .take
      hist := { s.hist with applied := some mode } }

def step (s : State) : Label → Option State
  | .call pins => s.call ev pins
  | .callback => s.callback ev
  | .sensorAttrGet ret val => s.sensorAttrGet ret val
  | .main o => s.main o

/-- The loop is blocked in `k_sem_take` and no callback is in progress. -/
def Blocked (s : State) : Prop := s.pc = .take ∧ s.usbDetectSem.count = 0 ∧ s.cb = .idle

/-- The callback has just been armed. -/
def armed (vbusConnected : Bool) (board : Board) : State :=
  { vbusConnected, usbDetectSem := ⟨0, Nat.zero_le _⟩, cb := .idle, pc := .sample, board,
    hist := {} }

end State

/-! ## The steps one by one -/

/-- What a step can be: where it starts, and what it changes. -/
inductive UsbStep (ev : VbusEvents) (s : State) : Label → State → Prop where
  | call {pins : BitVec 32} (hcb : s.cb = .idle) :
      UsbStep ev s (.call pins) { s with
        cb := .detected pins
        hist := { s.hist with
          event := polarity ev pins <|> s.hist.event
          called := s.hist.called || (polarity ev pins).isSome } }
  | storeDetected {pins : BitVec 32} (hcb : s.cb = .detected pins)
      (hfires : Fires pins ev.detected) :
      UsbStep ev s .callback { s with
        vbusConnected := true
        cb := .giveDetected pins
        hist := { s.hist with stored := some true } }
  | skipDetected {pins : BitVec 32} (hcb : s.cb = .detected pins)
      (hfires : ¬Fires pins ev.detected) :
      UsbStep ev s .callback { s with cb := .removed pins }
  | giveDetected {pins : BitVec 32} (hcb : s.cb = .giveDetected pins) :
      UsbStep ev s .callback { s with
        usbDetectSem := s.usbDetectSem.give
        cb := .removed pins
        hist := { s.hist with gives := s.hist.gives + 1 } }
  | storeRemoved {pins : BitVec 32} (hcb : s.cb = .removed pins)
      (hfires : Fires pins ev.removed) :
      UsbStep ev s .callback { s with
        vbusConnected := false
        cb := .giveRemoved
        hist := { s.hist with stored := some false } }
  | skipRemoved {pins : BitVec 32} (hcb : s.cb = .removed pins)
      (hfires : ¬Fires pins ev.removed) :
      UsbStep ev s .callback { s with cb := .idle }
  | giveRemoved (hcb : s.cb = .giveRemoved) :
      UsbStep ev s .callback { s with
        usbDetectSem := s.usbDetectSem.give
        cb := .idle
        hist := { s.hist with gives := s.hist.gives + 1 } }
  | sampleFailed {ret : Int} {val : SensorValue} (hpc : s.pc = .sample) (hret : ret < 0) :
      UsbStep ev s (.sensorAttrGet ret val) { s with pc := .returned }
  | sampled {ret : Int} {val : SensorValue} (hpc : s.pc = .sample) (hret : ¬ret < 0) :
      UsbStep ev s (.sensorAttrGet ret val) { s with
        pc := .store (val.val1 ≠ 0 || val.val2 ≠ 0)
        hist := { s.hist with sampled := some (val.val1 ≠ 0 || val.val2 ≠ 0) } }
  | store {o : PmicOracle} {status : Bool} (hpc : s.pc = .store status) :
      UsbStep ev s (.main o) { s with
        vbusConnected := status
        pc := .take
        hist := { s.hist with called := false, stored := none } }
  | take {o : PmicOracle} {sem : Sem 1} (hpc : s.pc = .take)
      (hsem : s.usbDetectSem.take = some sem) :
      UsbStep ev s (.main o) { s with
        usbDetectSem := sem
        pc := .read
        hist := { s.hist with passes := s.hist.passes + 1 } }
  | read {o : PmicOracle} (hpc : s.pc = .read) :
      UsbStep ev s (.main o) { s with
        pc := .buck2 s.vbusConnected
        hist := { s.hist with mode := some s.vbusConnected } }
  | buck2 {o : PmicOracle} {mode : Bool} (hpc : s.pc = .buck2 mode) :
      UsbStep ev s (.main o) { s with
        board := s.board.run o (buck2SetMode mode)
        pc := .uart mode }
  | uart {o : PmicOracle} {mode : Bool} (hpc : s.pc = .uart mode) :
      UsbStep ev s (.main o) { s with
        board := s.board.run o (uartSetMode mode)
        pc := .take
        hist := { s.hist with applied := some mode } }

variable {ev}

/-- The call of the callback. -/
theorem State.call_inv {s t : State} {pins : BitVec 32} (h : s.call ev pins = some t) :
    UsbStep ev s (.call pins) t := by
  unfold State.call at h
  split at h
  · next hcb => cases h; exact .call hcb
  · cases h

/-- A step of the callback. -/
theorem State.callback_inv {s t : State} (h : s.callback ev = some t) :
    UsbStep ev s .callback t := by
  unfold State.callback at h
  split at h
  · cases h
  · next hcb =>
    split at h
    · next hfires => cases h; exact .storeDetected hcb hfires
    · next hfires => cases h; exact .skipDetected hcb hfires
  · next hcb => cases h; exact .giveDetected hcb
  · next hcb =>
    split at h
    · next hfires => cases h; exact .storeRemoved hcb hfires
    · next hfires => cases h; exact .skipRemoved hcb hfires
  · next hcb => cases h; exact .giveRemoved hcb

/-- The sampling of the status. -/
theorem State.sensorAttrGet_inv {s t : State} {ret : Int} {val : SensorValue}
    (h : s.sensorAttrGet ret val = some t) : UsbStep ev s (.sensorAttrGet ret val) t := by
  unfold State.sensorAttrGet at h
  split at h
  · next hpc =>
    split at h
    · next hret => cases h; exact .sampleFailed hpc hret
    · next hret => cases h; exact .sampled hpc hret
  · cases h

/-- A step of `main`. -/
theorem State.main_inv {s t : State} {o : PmicOracle} (h : s.main o = some t) :
    UsbStep ev s (.main o) t := by
  unfold State.main at h
  split at h
  · cases h
  · cases h
  · next hpc => cases h; exact .store hpc
  · next hpc =>
    obtain ⟨sem, hsem, rfl⟩ := Option.map_eq_some_iff.1 h
    exact .take hpc hsem
  · next hpc => cases h; exact .read hpc
  · next hpc => cases h; exact .buck2 hpc
  · next hpc => cases h; exact .uart hpc

/-- Every step is one of these. -/
theorem State.step_inv {s t : State} {l : Label} (h : s.step ev l = some t) :
    UsbStep ev s l t := by
  cases l with
  | call pins => exact State.call_inv h
  | callback => exact State.callback_inv h
  | sensorAttrGet ret val => exact State.sensorAttrGet_inv h
  | main o => exact State.main_inv h

variable (ev) in
/-- The runs of the sample. -/
abbrev UsbRun (s : State) (ls : List Label) (t : State) : Prop := Run (Steps (State.step ev)) s ls t

/-- The driver calls of a step succeed. -/
def Label.Ok : Label → Prop
  | .sensorAttrGet ret _ => 0 ≤ ret
  | .main o => o.Ok
  | _ => True

/-! ## Concrete runs -/

def vbusEvents : VbusEvents where
  detected := 1 <<< 7
  removed := 1 <<< 8

/-- Drivers whose every call succeeds. -/
def okOracle : PmicOracle
  | .deviceIsReady _ | .regulatorIsEnabled => true
  | .mfdNpm1300RegRead _ _ => (0, 0)
  | .tasksHfclkstop => ()
  | .regulatorEnable | .regulatorDisable | .mfdNpm1300RegWrite _ _ _
  | .mfdNpm1300RegUpdate _ _ _ _ | .pmDeviceActionRun _ => (0 : Int)

/-- Under this oracle every driver call succeeds. -/
theorem okOracle_ok : okOracle.Ok := by
  intro c
  cases c <;> first | rfl | trivial | exact Int.le_refl 0

/-- BUCK2 is off, its pull-down set. -/
def Board.off : Board where
  refcnt := 0
  buck2On := false
  regs := fun _ _ => NPM1300_BUCK2_PULLDOWN_EN
  uartActive := true

/-- A whole callback for a single event. -/
def eventLabels (pins : BitVec 32) : List Label := [.call pins, .callback, .callback, .callback]

/-- A whole pass of the loop. -/
def passLabels : List Label := List.replicate 4 (.main okOracle)

/-- No driver call is made in a callback. -/
theorem eventLabels_ok (pins : BitVec 32) : ∀ l ∈ eventLabels pins, l.Ok := by
  intro l hl
  simp only [eventLabels, List.mem_cons, List.not_mem_nil, or_false] at hl
  rcases hl with rfl | rfl | rfl | rfl <;> trivial

/-- The pass is made under that oracle. -/
theorem passLabels_ok : ∀ l ∈ passLabels, l.Ok := by
  intro l hl
  rw [List.eq_of_mem_replicate hl]
  exact okOracle_ok

end NrfFeather
