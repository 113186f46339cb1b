import NrfFeather.Lib.Views
import NrfFeather.PmicPulldown

/-!
# The active-sleep sample

`main` of `samples/active_sleep/src/main.c` puts one device after the other to sleep, and looks at
none of the results. Each device is a part of the board that only its own calls touch, so a run of
`main` is nothing but a run of each set-up by itself (`activeSleepMain_exec_iff`), and no failure
keeps a second device awake (`sleep_isolated`).
-/

namespace NrfFeather.ActiveSleep

open Effects

/-! ## The devices -/

inductive Pin where
  | sw0
  | led0
  | latchEn
  | wp
  | hold
  deriving DecidableEq

/-- The flags of `gpio_pin_configure_dt`, as far as they are used. -/
inductive PinFlags where
  | input
  | output
  /-- `GPIO_DISCONNECTED`. -/
  | disconnected
  /-- `GPIO_INPUT | GPIO_PULL_UP`. -/
  | inputPullUp
  deriving DecidableEq

inductive GpioCall where
  | gpioPinConfigureDt (pin : Pin) (flags : PinFlags)

@[reducible] def GpioCall.Ans : GpioCall → Type
  | .gpioPinConfigureDt _ _ => Int

/-- How the pins are configured. -/
abbrev Pins : Type := Pin → PinFlags

def Pins.env : Env GpioCall.Ans Pins where
  allows _ _ _ := True
  next pins
    | .gpioPinConfigureDt pin flags, r =>
      if r = (0 : Int) then fun p => if p = pin then flags else pins p else pins

inductive OdrCall where
  | deviceIsReady
  /-- Of the sampling frequency. -/
  | sensorAttrSet (odr : SensorValue)

@[reducible] def OdrCall.Ans : OdrCall → Type
  | .deviceIsReady => Bool
  | .sensorAttrSet _ => Int

/-- The sampling frequency of the accelerometer. -/
def odrEnv : Env OdrCall.Ans SensorValue where
  allows _ _ _ := True
  next odr
    | .deviceIsReady, _ => odr
    | .sensorAttrSet odr', r => if r = (0 : Int) then odr' else odr

inductive NorCall where
  | pmDeviceActionRun (action : PmDeviceAction)

@[reducible] def NorCall.Ans : NorCall → Type
  | .pmDeviceActionRun _ => Int

/-- The external flash is active. -/
def norEnv : Env NorCall.Ans Bool where
  allows _ _ _ := True
  next active
    | .pmDeviceActionRun action, r => if r < (0 : Int) then active else action = .resume

inductive SleepCall where
  | gpio (c : GpioCall)
  | odr (c : OdrCall)
  | nor (c : NorCall)
  | nrfModemLibInit
  | pmic (c : PmicCall)

@[reducible] def SleepCall.Ans : SleepCall → Type
  | .gpio c => c.Ans
  | .odr c => c.Ans
  | .nor c => c.Ans
  | .nrfModemLibInit => Int
  | .pmic c => c.Ans

structure Devices where
  pins : Pins
  odr : SensorValue
  norActive : Bool
  modemInit : Bool
  board : Board

namespace Devices

def allows (w : Devices) : (c : SleepCall) → c.Ans → Prop
  | .pmic c, r => w.board.allows c r
  | _, _ => True

def next (w : Devices) : (c : SleepCall) → c.Ans → Devices
  | .gpio c, r => { w with pins := Pins.env.next w.pins c r }
  | .odr c, r => { w with odr := odrEnv.next w.odr c r }
  | .nor c, r => { w with norActive := norEnv.next w.norActive c r }
  | .nrfModemLibInit, r => { w with modemInit := decide ((0 : Int) ≤ r) }
  | .pmic c, r => { w with board := w.board.next c r }

def env : Env SleepCall.Ans Devices := ⟨allows, next⟩

end Devices

def gpioCalls : Embedding GpioCall.Ans SleepCall.Ans := ⟨.gpio, fun _ => Equiv.refl _⟩

def odrCalls : Embedding OdrCall.Ans SleepCall.Ans := ⟨.odr, fun _ => Equiv.refl _⟩

def norCalls : Embedding NorCall.Ans SleepCall.Ans := ⟨.nor, fun _ => Equiv.refl _⟩

def pmicCalls : Embedding PmicCall.Ans SleepCall.Ans := ⟨.pmic, fun _ => Equiv.refl _⟩

/-- The calls of `setup_gpio` act on the pins alone. -/
theorem pinsPart :
    Part Devices.env Pins.env gpioCalls Devices.pins fun pins w => { w with pins } :=
  ⟨fun _ _ _ => Iff.rfl, fun _ _ _ => rfl, fun _ _ => rfl, fun _ _ _ => rfl, fun _ => rfl⟩

/-- Those of `setup_accel` act on the data rate alone. -/
theorem odrPart : Part Devices.env odrEnv odrCalls Devices.odr fun odr w => { w with odr } :=
  ⟨fun _ _ _ => Iff.rfl, fun _ _ _ => rfl, fun _ _ => rfl, fun _ _ _ => rfl, fun _ => rfl⟩

/-- Those of `nor_storage_init` act on the state of the flash alone. -/
theorem norPart :
    Part Devices.env norEnv norCalls Devices.norActive fun norActive w => { w with norActive } :=
  ⟨fun _ _ _ => Iff.rfl, fun _ _ _ => rfl, fun _ _ => rfl, fun _ _ _ => rfl, fun _ => rfl⟩

/-- Those of `setup_uart` and `setup_pmic` act on the board alone. -/
theorem boardPart :
    Part Devices.env Board.env pmicCalls Devices.board fun board w => { w with board } :=
  ⟨fun _ _ _ => Iff.rfl, fun _ _ _ => rfl, fun _ _ => rfl, fun _ _ _ => rfl, fun _ => rfl⟩

/-! ## The sample -/

/-- The boards on which the set-ups differ. -/
inductive Feather where
  | nrf9160
  | nrf9161
  | nrf9151
  deriving DecidableEq

def gpioPinConfigureDt (pin : Pin) (flags : PinFlags) : Prog GpioCall.Ans Int :=
  .perform (GpioCall.gpioPinConfigureDt pin flags)

def setupGpio (feather : Feather) : Prog GpioCall.Ans Int := do
  let _ ← gpioPinConfigureDt .sw0 .disconnected
  if feather = .nrf9160 then
    let _ ← gpioPinConfigureDt .led0 .disconnected
    let _ ← gpioPinConfigureDt .latchEn .disconnected
    let _ ← gpioPinConfigureDt .wp .inputPullUp
    let _ ← gpioPinConfigureDt .hold .inputPullUp
  return 0

def setupAccel : Prog OdrCall.Ans Unit := do
  let ready ← .perform OdrCall.deviceIsReady
  if !ready then
    return ()
  let odr : SensorValue := { val1 := 0, val2 := 0 }
  -- an error is only logged
  let _rc ← .perform (OdrCall.sensorAttrSet odr)

def norStorageInit : Prog NorCall.Ans Int := do
  let err ← .perform (NorCall.pmDeviceActionRun .suspend)
  if err < 0 then
    return err
  return 0

def setupUart : Prog PmicCall.Ans Int := do
  let err ← pmDeviceActionRun .suspend
  if err < 0 then
    return err
  tasksHfclkstop
  return 0

/-- `setup_pmic`; there is no nPM1300 on the nRF9160. -/
def setupPmicOf (feather : Feather) (pmic : Bool) : Prog PmicCall.Ans Int :=
  if feather = .nrf9160 then return 0 else setupPmic pmic

def activeSleepMain (feather : Feather) (pmic : Bool) : Prog SleepCall.Ans Int := do
  let _ ← (setupGpio feather).embed gpioCalls
  setupAccel.embed odrCalls
  let _ ← norStorageInit.embed norCalls
  let _err ← .perform SleepCall.nrfModemLibInit
  let _ ← setupUart.embed pmicCalls
  let _ ← (setupPmicOf feather pmic).embed pmicCalls
  return 0

/-- The set-ups one by one, each on its own device. -/
inductive SetUps (feather : Feather) (pmic : Bool) (w : Devices) :
    List (Event SleepCall.Ans) → Devices → Prop where
  | mk {gpio : List (Event GpioCall.Ans)} {odr : List (Event OdrCall.Ans)}
      {nor : List (Event NorCall.Ans)} {modem : Int} {uart pmic' : List (Event PmicCall.Ans)}
      {gpioRet norRet uartRet pmicRet : Int} {pins : Pins} {rate : SensorValue} {norActive : Bool}
      {board board' : Board}
      (hgpio : Exec Pins.env w.pins (setupGpio feather) gpio gpioRet pins)
      (hodr : Exec odrEnv w.odr setupAccel odr () rate)
      (hnor : Exec norEnv w.norActive norStorageInit nor norRet norActive)
      (huart : Exec Board.env w.board setupUart uart uartRet board)
      (hpmic : Exec Board.env board (setupPmicOf feather pmic) pmic' pmicRet board') :
      SetUps feather pmic w
        (gpio.map gpioCalls.event ++ (odr.map odrCalls.event ++ (nor.map norCalls.event ++
          ([⟨.nrfModemLibInit, modem⟩] ++
            (uart.map pmicCalls.event ++ pmic'.map pmicCalls.event)))))
        ⟨pins, rate, norActive, decide (0 ≤ modem), board'⟩

section
variable {feather : Feather} {pmic : Bool} {w w' : Devices} {t : List (Event SleepCall.Ans)}
  {ret : Int}

/-- The runs of `main` are those of its set-ups, whatever each of them comes to. -/
theorem activeSleepMain_exec_iff :
    Exec Devices.env w (activeSleepMain feather pmic) t ret w' ↔
      ret = 0 ∧ SetUps feather pmic w t w' := by
  constructor
  · intro h
    obtain ⟨_, _, _, _, h₁, h, rfl⟩ := h.bind_inv
    obtain ⟨gpio, pins, rfl, hgpio, rfl⟩ := pinsPart.exec_iff.1 h₁
    obtain ⟨_, _, _, _, h₂, h, rfl⟩ := h.bind_inv
    obtain ⟨odr, rate, rfl, hodr, rfl⟩ := odrPart.exec_iff.1 h₂
    obtain ⟨_, _, _, _, h₃, h, rfl⟩ := h.bind_inv
    obtain ⟨nor, norActive, rfl, hnor, rfl⟩ := norPart.exec_iff.1 h₃
    obtain ⟨_, modem, _, _, h₄, h, rfl⟩ := h.bind_inv
    cases h₄ with
    | call _ h₄ =>
      cases h₄
      obtain ⟨_, _, _, _, h₅, h, rfl⟩ := h.bind_inv
      obtain ⟨uart, board, rfl, huart, rfl⟩ := boardPart.exec_iff.1 h₅
      obtain ⟨_, _, _, _, h₆, h, rfl⟩ := h.bind_inv
      obtain ⟨pmic', board', rfl, hpmic, rfl⟩ := boardPart.exec_iff.1 h₆
      cases h
      rw [List.append_nil]
      exact ⟨rfl, .mk hgpio hodr hnor huart hpmic⟩
  · rintro ⟨rfl, h⟩
    cases h with
    | @mk gpio odr nor modem uart pmic' _ _ _ _ pins rate norActive board board' hgpio hodr hnor
        huart hpmic =>
      have h₁ := pinsPart.exec_iff.2 ⟨gpio, pins, rfl, hgpio, rfl⟩
      have h₂ := (odrPart.exec_iff (s := { w with pins })).2 ⟨odr, rate, rfl, hodr, rfl⟩
      have h₃ := (norPart.exec_iff (s := { w with pins, odr := rate })).2
        ⟨nor, norActive, rfl, hnor, rfl⟩
      have h₄ : Exec Devices.env { w with pins, odr := rate, norActive }
          (.perform SleepCall.nrfModemLibInit) [⟨.nrfModemLibInit, modem⟩] modem
          ⟨pins, rate, norActive, decide (0 ≤ modem), w.board⟩ :=
        .call trivial .ret
      have h₅ := (boardPart.exec_iff (s :=
        ⟨pins, rate, norActive, decide (0 ≤ modem), w.board⟩)).2 ⟨uart, board, rfl, huart, rfl⟩
      have h₆ := (boardPart.exec_iff (s :=
        ⟨pins, rate, norActive, decide (0 ≤ modem), board⟩)).2 ⟨pmic', board', rfl, hpmic, rfl⟩
      have hrest := h₆.bind (f := fun _ => (.ret 0 : Prog SleepCall.Ans Int)) .ret
      rw [List.append_nil] at hrest
      exact h₁.bind (h₂.bind (h₃.bind (h₄.bind (h₅.bind hrest))))

end

/-! ## Pins -/

/-- The pins that `setup_gpio` configures, in order. -/
def pinSetup (feather : Feather) : List (Pin × PinFlags) :=
  (.sw0, .disconnected) :: if feather = .nrf9160 then
    [(.led0, .disconnected), (.latchEn, .disconnected), (.wp, .inputPullUp), (.hold, .inputPullUp)]
  else []

def configureAll : List (Pin × PinFlags) → Prog GpioCall.Ans Int
  | [] => return 0
  | (pin, flags) :: rest => do
    let _ ← gpioPinConfigureDt pin flags
    configureAll rest

/-- On each board `setup_gpio` is the same loop over the pins of that board. -/
theorem setupGpio_eq (feather : Feather) : setupGpio feather = configureAll (pinSetup feather) := by
  cases feather <;> rfl

/-- The configuration of the pin fails. -/
def PinFails (pin : Pin) : Event GpioCall.Ans → Prop
  | ⟨.gpioPinConfigureDt pin' _, r⟩ => pin' = pin ∧ r ≠ (0 : Int)

/-- Each pin of a list without repetitions is configured unless that fails, and no other pin is
touched. -/
theorem wp_configureAll {cfgs : List (Pin × PinFlags)} (hnodup : (cfgs.map Prod.fst).Nodup)
    (pins : Pins) :
    wp Pins.env (configureAll cfgs) (fun u _ pins' =>
      (∀ cfg ∈ cfgs, pins cfg.1 ≠ cfg.2 →
        (pins' cfg.1 = cfg.2 ↔ ∀ e ∈ u, ¬ PinFails cfg.1 e)) ∧
      ∀ pin ∉ cfgs.map Prod.fst, pins' pin = pins pin ∧ ∀ e ∈ u, ¬ PinFails pin e) pins := by
  induction cfgs generalizing pins with
  | nil => exact ⟨nofun, fun _ _ => ⟨rfl, nofun⟩⟩
  | cons cfg rest ih =>
    obtain ⟨pin, flags⟩ := cfg
    obtain ⟨hpin, hnodup⟩ : pin ∉ rest.map Prod.fst ∧ (rest.map Prod.fst).Nodup :=
      List.nodup_cons.1 hnodup
    rw [configureAll, gpioPinConfigureDt, Prog.perform_bind, wp_call]
    intro r _
    refine wp_mono ?_ (ih hnodup _)
    rintro u ret pins' ⟨hrest, hothers⟩
    have hother (p : Pin) (hp : p ≠ pin) :
        Pins.env.next pins (.gpioPinConfigureDt pin flags) r p = pins p := by
      dsimp only [Pins.env]
      split
      · exact if_neg hp
      · rfl
    refine ⟨?_, ?_⟩
    · intro cfg hcfg hne
      rw [List.forall_mem_cons]
      rcases List.mem_cons.1 hcfg with rfl | hmem
      · obtain ⟨hsame, hnone⟩ := hothers pin hpin
        rw [and_iff_left hnone]
        dsimp only [PinFails]
        rw [hsame]
        by_cases hr : r = (0 : Int)
        · refine iff_of_true ?_ fun h => h.2 hr
          simp [Pins.env, hr]
        · refine iff_of_false ?_ fun h => h ⟨rfl, hr⟩
          simpa [Pins.env, hr] using hne
      · have hp : cfg.1 ≠ pin := by
          rintro rfl
          exact hpin (List.mem_map_of_mem hmem)
        rw [hrest cfg hmem ((hother _ hp).symm ▸ hne)]
        exact (and_iff_right fun h => hp h.1.symm).symm
    · intro p hp
      obtain ⟨hne, hp⟩ := not_or.1 (mt List.mem_cons.2 hp)
      obtain ⟨hsame, hnone⟩ := hothers p hp
      exact ⟨hsame.trans (hother p hne), List.forall_mem_cons.2 ⟨fun h => hne h.1.symm, hnone⟩⟩

/-! ## The other devices -/

/-- The accelerometer is not there, or its sampling frequency is not set. -/
def OdrFails : Event OdrCall.Ans → Prop
  | ⟨.deviceIsReady, r⟩ => r = false
  | ⟨.sensorAttrSet _, r⟩ => r ≠ (0 : Int)

/-- `setup_accel` sets the data rate to 0 unless the device is not ready or refuses it. -/
theorem wp_setupAccel {odr : SensorValue} (hodr : odr ≠ ⟨0, 0⟩) :
    wp odrEnv setupAccel (fun u _ odr' => odr' = ⟨0, 0⟩ ↔ ∀ e ∈ u, ¬ OdrFails e) odr := by
  simp only [setupAccel, Prog.perform_bind, wp_call]
  rintro (_ | _) -
  · exact iff_of_false hodr fun h => h _ (.head _) rfl
  · intro r _
    simp only [Prog.pure_eq, wp_ret, List.forall_mem_cons, OdrFails]
    by_cases hr : r = (0 : Int)
    · simp [odrEnv, hr]
    · simpa [odrEnv, hr] using hodr

def NorFails : Event NorCall.Ans → Prop
  | ⟨.pmDeviceActionRun _, r⟩ => r < (0 : Int)

/-- `nor_storage_init` suspends the flash unless the driver refuses it. -/
theorem wp_norStorageInit :
    wp norEnv norStorageInit (fun u _ active => active = false ↔ ∀ e ∈ u, ¬ NorFails e) true := by
  simp only [norStorageInit, Prog.perform_bind, wp_call]
  intro r _
  by_cases hr : r < (0 : Int)
  · simp [hr, norEnv, NorFails]
  · simp [hr, norEnv, NorFails, Int.not_lt.1 hr]

/-- The console UART is not suspended. -/
def UartFails : Event PmicCall.Ans → Prop
  | ⟨.pmDeviceActionRun _, r⟩ => r < (0 : Int)
  | _ => False

/-- BUCK2 is not turned off, or its pull-down not set; a read that fails does no harm. -/
def Buck2Fails : Event PmicCall.Ans → Prop
  | ⟨.regulatorDisable, r⟩ | ⟨.mfdNpm1300RegWrite _ _ _, r⟩ => r < (0 : Int)
  | _ => False

/-- BUCK2 is off and pulled down. -/
def BuckAsleep (b : Board) : Prop := b.buck2On = false ∧ b.pulldown = true

/-- BUCK2 is on, for exactly one user, and not pulled down. -/
def BuckAwake (b : Board) : Prop := b.refcnt = 1 ∧ b.buck2On = true ∧ b.pulldown = false

/-- `setup_uart` suspends the console unless the driver refuses it, and leaves BUCK2 alone. -/
theorem wp_setupUart (b : Board) :
    wp Board.env setupUart (fun u _ b' =>
      (b.uartActive = true → (b'.uartActive = false ↔ ∀ e ∈ u, ¬ UartFails e)) ∧
        (∀ e ∈ u, ¬ Buck2Fails e) ∧ (BuckAwake b → BuckAwake b')) b := by
  simp only [setupUart, pmDeviceActionRun, tasksHfclkstop, Prog.perform_bind, wp_call]
  intro r _
  by_cases hr : r < (0 : Int)
  · have hnext : Board.env.next b (.pmDeviceActionRun .suspend) r = b := if_pos hr
    simp [hr, hnext, UartFails, Buck2Fails]
  · have hnext : Board.env.next b (.pmDeviceActionRun .suspend) r =
        { b with uartActive := false } := if_neg hr
    simp only [hr, if_false, hnext, wp_call]
    intro _ _
    simp [hr, UartFails, Buck2Fails, Board.env, Board.next]
    exact id

/-- BUCK2 is not pulled down when its bit of `BUCKCTRL0` is clear. -/
theorem pulldown_eq_false {b : Board} :
    b.pulldown = false ↔ b.buckctrl0 &&& NPM1300_BUCK2_PULLDOWN_EN = 0 := by
  rw [Board.pulldown, decide_eq_false_iff_not, not_not]
  rfl

/-- The value that the sample writes pulls BUCK2 down. -/
theorem pulldown_setBuckctrl0 (b : Board) :
    (b.setBuckctrl0 NPM1300_BUCK2_PULLDOWN_EN).pulldown = true := by
  refine Bool.of_not_eq_false fun h => ?_
  rw [pulldown_eq_false, Board.buckctrl0_setBuckctrl0] at h
  exact absurd h (by decide)

/-- The guard of the update finds no pull-down, so it writes it. -/
theorem wp_guardedUpdate_asleep (b : Board) :
    wp Board.env (guardedUpdate NPM1300_BUCK2_PULLDOWN_EN (0 : Int)) (fun u _ b' =>
      (b'.uartActive = b.uartActive ∧ ∀ e ∈ u, ¬ UartFails e) ∧
        (b.buck2On = false → b.pulldown = false →
          (BuckAsleep b' ↔ ∀ e ∈ u, ¬ Buck2Fails e))) b := by
  refine wp_mono ?_ (guardedUpdate_outcome b _ _)
  intro u _ b' h
  cases h with
  | seen hset =>
    exact ⟨⟨rfl, by simp [UartFails]⟩, fun _ hpull => absurd (pulldown_eq_false.1 hpull) hset⟩
  | failed hw =>
    refine ⟨⟨rfl, by simp [UartFails]⟩, fun _ hpull => iff_of_false ?_ ?_⟩
    · rintro ⟨-, hset⟩
      rw [hpull] at hset
      cases hset
    · exact fun h => h _ (.tail _ (.head _)) hw
  | written hw =>
    refine ⟨⟨rfl, by simp [UartFails]⟩, fun hoff _ => iff_of_true ⟨hoff, ?_⟩ ?_⟩
    · exact pulldown_setBuckctrl0 b
    · simp [Buck2Fails, hw]

/-- What a set-up of the PMIC comes to. -/
def PmicPost (feather : Feather) (pmic : Bool) (b : Board) (u : List (Event PmicCall.Ans))
    (b' : Board) : Prop :=
  (b'.uartActive = b.uartActive ∧ ∀ e ∈ u, ¬ UartFails e) ∧
    (feather ≠ .nrf9160 → pmic = true → BuckAwake b →
      (BuckAsleep b' ↔ ∀ e ∈ u, ¬ Buck2Fails e))

/-- `setup_pmic` leaves the console alone, and turns BUCK2 off and pulls it down unless a call it
makes for that fails. -/
theorem wp_setupPmicOf (feather : Feather) (pmic : Bool) (b : Board) :
    wp Board.env (setupPmicOf feather pmic) (fun u _ b' => PmicPost feather pmic b u b') b := by
  rw [setupPmicOf]
  split
  · next hfeather => exact ⟨⟨rfl, nofun⟩, fun h => absurd hfeather h⟩
  · cases pmic with
    | false => exact ⟨⟨rfl, nofun⟩, nofun⟩
    | true =>
      rw [setupPmic_eq, regulatorIsEnabled, Prog.perform_bind, wp_call]
      intro enabled henabled
      have henabled : (enabled = true) = (b.refcnt ≠ 0) := henabled
      split
      · next h =>
        rw [regulatorDisable, Prog.perform_bind, wp_call]
        intro err _
        by_cases herr : err < (0 : Int)
        · -- BUCK2 stays on
          have hnext : Board.env.next (Board.env.next b .regulatorIsEnabled enabled)
              .regulatorDisable err = b := if_pos herr
          rw [if_pos herr, hnext]
          refine ⟨⟨rfl, by simp [UartFails]⟩, fun _ _ hawake => iff_of_false ?_ ?_⟩
          · rintro ⟨hoff, -⟩
            rw [hawake.2.1] at hoff
            cases hoff
          · exact fun h => h _ (.tail _ (.head _)) herr
        · have hnext : Board.env.next (Board.env.next b .regulatorIsEnabled enabled)
              .regulatorDisable err = b.disable := if_neg herr
          rw [if_neg herr, hnext]
          refine wp_mono ?_ (wp_guardedUpdate_asleep b.disable)
          rintro u ret b' ⟨⟨huart, hcalls⟩, hbuck⟩
          refine ⟨⟨huart, ?_⟩, fun _ _ hawake => ?_⟩
          · simpa [UartFails] using hcalls
          · have hoff : b.disable.buck2On = false := by
              rw [Board.disable, hawake.1]
              rfl
            rw [hbuck hoff hawake.2.2]
            simp [Buck2Fails, herr]
      · next h =>
        refine wp_mono ?_ (wp_guardedUpdate_asleep b)
        rintro u ret b' ⟨⟨huart, hcalls⟩, -⟩
        refine ⟨⟨huart, by simpa [UartFails] using hcalls⟩, fun _ _ hawake => absurd ?_ h⟩
        rw [henabled, hawake.1]
        decide

/-! ## Failures -/

/-- What is put to sleep. -/
inductive Target where
  | pin (pin : Pin) (flags : PinFlags)
  | odr
  | nor
  | uart
  | buck2

namespace Target

/-- The sample puts it to sleep on this board. -/
def On (feather : Feather) (pmic : Bool) : Target → Prop
  | .pin p flags => (p, flags) ∈ pinSetup feather
  | .buck2 => feather ≠ .nrf9160 ∧ pmic = true
  | _ => True

/-- It is not yet as the sample wants it; for BUCK2, on for exactly one user as well. -/
def Awake (w : Devices) : Target → Prop
  | .pin p flags => w.pins p ≠ flags
  | .odr => w.odr ≠ ⟨0, 0⟩
  | .nor => w.norActive = true
  | .uart => w.board.uartActive = true
  | .buck2 => BuckAwake w.board

/-- It is as the sample wants it. -/
def Asleep (w : Devices) : Target → Prop
  | .pin p flags => w.pins p = flags
  | .odr => w.odr = ⟨0, 0⟩
  | .nor => w.norActive = false
  | .uart => w.board.uartActive = false
  | .buck2 => BuckAsleep w.board

/-- A call that is needed for it fails. -/
def Fails : Target → Event SleepCall.Ans → Prop
  | .pin p _, ⟨.gpio c, r⟩ => PinFails p ⟨c, r⟩
  | .odr, ⟨.odr c, r⟩ => OdrFails ⟨c, r⟩
  | .nor, ⟨.nor c, r⟩ => NorFails ⟨c, r⟩
  | .uart, ⟨.pmic c, r⟩ => UartFails ⟨c, r⟩
  | .buck2, ⟨.pmic c, r⟩ => Buck2Fails ⟨c, r⟩
  | _, _ => False

end Target

section
variable {feather : Feather} {pmic : Bool} {w w' : Devices} {t : List (Event SleepCall.Ans)}
  {ret : Int}

/-- No pin is configured twice. -/
theorem pinSetup_nodup (feather : Feather) : ((pinSetup feather).map Prod.fst).Nodup := by
  cases feather <;> decide

/-- Only the calls of its own set-ups are needed for a device. -/
theorem Target.not_fails_iff {gpio : List (Event GpioCall.Ans)} {odr : List (Event OdrCall.Ans)}
    {nor : List (Event NorCall.Ans)} {modem : Int} {uart pmic' : List (Event PmicCall.Ans)}
    (d : Target) :
    (∀ e ∈ gpio.map gpioCalls.event ++ (odr.map odrCalls.event ++ (nor.map norCalls.event ++
      ([⟨.nrfModemLibInit, modem⟩] ++ (uart.map pmicCalls.event ++ pmic'.map pmicCalls.event)))),
        ¬ d.Fails e) ↔
      match d with
      | .pin p _ => ∀ e ∈ gpio, ¬ PinFails p e
      | .odr => ∀ e ∈ odr, ¬ OdrFails e
      | .nor => ∀ e ∈ nor, ¬ NorFails e
      | .uart => (∀ e ∈ uart, ¬ UartFails e) ∧ ∀ e ∈ pmic', ¬ UartFails e
      | .buck2 => (∀ e ∈ uart, ¬ Buck2Fails e) ∧ ∀ e ∈ pmic', ¬ Buck2Fails e := by
  simp only [List.forall_mem_append, List.forall_mem_map, List.forall_mem_singleton]
  cases d <;>
    simp [Target.Fails, Embedding.event, gpioCalls, odrCalls, norCalls, pmicCalls] <;> rfl

/-- `main` returns 0 in every run, and each device that it puts to sleep, and that was awake, is
asleep at the end exactly when no call that is needed for this device has failed: what fails for
another device does not matter. BUCK2 is awake only for exactly one user and with its pull-down
clear (`BuckAwake`): the one `regulator_disable` of the sample takes back one user, so BUCK2 would
stay on for a second one. -/
theorem sleep_isolated (h : Exec Devices.env w (activeSleepMain feather pmic) t ret w') :
    ret = 0 ∧ ∀ d : Target, d.On feather pmic → d.Awake w →
      (d.Asleep w' ↔ ∀ e ∈ t, ¬ d.Fails e) := by
  obtain ⟨rfl, hsetups⟩ := activeSleepMain_exec_iff.1 h
  refine ⟨rfl, fun d hon hawake => ?_⟩
  cases hsetups with
  | @mk gpio odr nor modem uart pmic' _ _ _ _ pins rate norActive board board' hgpio hodr hnor
      huart hpmic =>
    obtain ⟨hsuspended, hsilent, hkept⟩ := huart.of_wp (wp_setupUart w.board)
    obtain ⟨⟨hsame, hquiet⟩, hbuck⟩ := hpmic.of_wp (wp_setupPmicOf feather pmic board)
    rw [d.not_fails_iff]
    cases d with
    | pin p flags =>
      rw [setupGpio_eq] at hgpio
      exact (hgpio.of_wp (wp_configureAll (pinSetup_nodup feather) w.pins)).1 (p, flags) hon hawake
    | odr => exact hodr.of_wp (wp_setupAccel hawake)
    | nor =>
      have hactive : w.norActive = true := hawake
      rw [hactive] at hnor
      exact hnor.of_wp wp_norStorageInit
    | uart =>
      show board'.uartActive = false ↔ _
      rw [hsame, hsuspended hawake]
      exact (and_iff_left hquiet).symm
    | buck2 =>
      show BuckAsleep board' ↔ _
      rw [hbuck hon.1 hon.2 (hkept hawake)]
      exact (and_iff_right hsilent).symm

end

/-- Everything is awake. -/
def Devices.awake : Devices where
  pins _ := .input
  odr := ⟨1, 0⟩
  norActive := true
  modemInit := false
  board := ⟨1, true, fun _ _ => 0, true⟩

/-- There is no accelerometer, and the flash is not suspended. -/
def twoFailures : List (Event SleepCall.Ans) :=
  [⟨.gpio (.gpioPinConfigureDt .sw0 .disconnected), (0 : Int)⟩, ⟨.odr .deviceIsReady, false⟩,
    ⟨.nor (.pmDeviceActionRun .suspend), - EIO⟩, ⟨.nrfModemLibInit, (0 : Int)⟩,
    ⟨.pmic (.pmDeviceActionRun .suspend), (0 : Int)⟩, ⟨.pmic .tasksHfclkstop, ()⟩,
    ⟨.pmic .regulatorIsEnabled, true⟩, ⟨.pmic .regulatorDisable, (0 : Int)⟩,
    ⟨.pmic (.mfdNpm1300RegRead NPM1300_BUCK_BASE NPM1300_BUCK_BUCKCTRL0), (0, 0)⟩,
    ⟨.pmic (.mfdNpm1300RegWrite NPM1300_BUCK_BASE NPM1300_BUCK_BUCKCTRL0
      NPM1300_BUCK2_PULLDOWN_EN), (0 : Int)⟩]

/-- The UART and BUCK2 are put to sleep all the same. -/
theorem sleep_isolated_two :
    ∃ w', Exec Devices.env .awake (activeSleepMain .nrf9151 true) twoFailures 0 w' ∧
      Target.uart.Asleep w' ∧ Target.buck2.Asleep w' := by
  have henabled : (true = true) = ((1 : Int) ≠ 0) := by decide
  have hrun : Exec Devices.env .awake (activeSleepMain .nrf9151 true) twoFailures 0
      (Devices.env.after .awake twoFailures) :=
    .call trivial <| .call trivial <| .call trivial <| .call trivial <| .call trivial <|
      .call trivial <| .call henabled <| .call trivial <| .call (fun _ => rfl) <|
      .call trivial .ret
  obtain ⟨-, hasleep⟩ := sleep_isolated hrun
  refine ⟨_, hrun, (hasleep .uart trivial rfl).2 ?_, (hasleep .buck2 ?_ ?_).2 ?_⟩
  · simp [twoFailures, Target.Fails, UartFails]
  · exact ⟨by decide, rfl⟩
  · exact ⟨rfl, rfl, by decide⟩
  · simp [twoFailures, Target.Fails, Buck2Fails]

end NrfFeather.ActiveSleep
