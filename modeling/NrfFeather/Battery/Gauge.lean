import Mathlib.Data.Int.ConditionallyCompleteOrder
import NrfFeather.Battery.Curves
import NrfFeather.Battery.Voltage

/-!
# The level of a measured voltage

What the driver is for: a voltage is measured, and `battery_level_pptt` estimates the level from it.
A device is a cell that holds the voltage of its own last successful reading, whatever else is
called and whatever fails (`stored_voltage`). So what a get delivers, and the level estimated from
it, are functions of that reading, and a higher one never gives a lower level
(`level_follows_reading`).
-/

namespace NrfFeather

open Effects Transition Interpolation MachineInt

section
variable {ι : Type} [DecidableEq ι] {dt : DeviceTree} {adc : AdcApi}

/-! ## Readings -/

/-- What a call of the hardware reads. -/
def successfulRead : Event HwCall.Ans → Option (BitVec 16)
  | ⟨.adcRead _, r⟩ => if r.1 = 0 then some r.2 else none
  | _ => none

/-- What a call of the driver reads for `dev`. -/
def DevLabel.reading (dev : ι) (l : DevLabel ι) : Option (BitVec 16) :=
  if l.op = .sampleFetch dev .voltage then l.trace.findSome? successfulRead else none

/-- The last reading for `dev`; before the first one the device stores 0 V, as for 0. -/
def lastReading (dev : ι) (ls : List (DevLabel ι)) : BitVec 16 :=
  (lastWrite (DevLabel.reading dev) ls).getD 0

/-- Switching the divider reads nothing. -/
theorem findSome?_powerTrace (cfg : DividerConfig) (enable : Bool) (rc : Int) :
    (powerTrace cfg enable rc).findSome? successfulRead = none := by
  unfold powerTrace
  cases cfg.powerGpios <;> rfl

/-- A fetch reads once. -/
theorem findSome?_fetchTrace (cfg : DividerConfig) (seq : AdcSequence) (on off : Int)
    (r : Int × BitVec 16) :
    (fetchTrace cfg seq on r off).findSome? successfulRead =
      if r.1 = 0 then some r.2 else none := by
  rw [fetchTrace, List.findSome?_append, findSome?_powerTrace, Option.none_or,
    List.findSome?_cons_of_isNone rfl, List.findSome?_cons, findSome?_powerTrace]
  by_cases hr : r.1 = 0 <;> simp [successfulRead, hr]

/-! ## The stored voltage -/

/-- With these resistors no conversion overflows. -/
structure Divides (dt : DeviceTree) (adc : AdcApi) : Prop where
  documented : adc.Documented
  gain : dt.batteryAdcGain = .gain1_6
  divider : dt.dividerConfig.outputOhm ≠ 0
  fits : 7199 * dt.dividerConfig.fullOhm.toNat / dt.dividerConfig.outputOhm.toNat < 2 ^ 31

/-- The value stored for a reading is the exact quotient. -/
theorem Divides.batteryVoltage (h : Divides dt adc) (raw : BitVec 16) :
    batteryVoltage adc dt.dividerConfig dt.batteryAdcGain 14 raw =
      batteryMV dt.dividerConfig raw := by
  rw [h.gain]
  exact batteryVoltage_of_checked h.documented (documentedVoltage_checked h.divider h.fits raw)

/-- It fits an `int`. -/
theorem Divides.batteryMV_lt (h : Divides dt adc) (raw : BitVec 16) :
    batteryMV dt.dividerConfig raw < 2 ^ 31 := by
  have hmul : pinMV raw * dt.dividerConfig.fullOhm.toNat ≤
      7199 * dt.dividerConfig.fullOhm.toNat :=
    Int.mul_le_mul_of_nonneg_right pinMV_le (Int.natCast_nonneg _)
  have hle : batteryMV dt.dividerConfig raw ≤
      ((7199 * dt.dividerConfig.fullOhm.toNat / dt.dividerConfig.outputOhm.toNat : Nat) : Int) := by
    rw [Int.natCast_ediv, Int.natCast_mul]
    exact Int.ediv_le_ediv (outputOhm_pos h.divider) hmul
  have hfits := h.fits
  omega

/-- The value of the sensor for a reading. -/
def measured (dt : DeviceTree) (raw : BitVec 16) : SensorValue :=
  ⟨batteryMV dt.dividerConfig raw, 0⟩

/-- Between calls: the configuration is that of the device tree, and the second half of a value is
never written. -/
structure Storing (dt : DeviceTree) (s : DevState ι) : Prop where
  configured : s.driver.batteryOk = true → s.driver.Configured dt
  val2 : ∀ dev, (s.driver.voltage dev).val2 = 0

/-- A call changes the value of a device only to that of its reading. -/
theorem DevStep.voltage_eq (hdt : Divides dt adc) (dev : ι) (s : DevState ι) (l : DevLabel ι)
    (s' : DevState ι) (hs : Storing dt s) (h : DevStep dt adc s l s') :
    s'.driver.voltage dev = ((l.reading dev).map (measured dt)).getD (s.driver.voltage dev) := by
  have hother (hop : l.op ≠ .sampleFetch dev .voltage) : l.reading dev = none := if_neg hop
  cases h.outcome with
  | init hop _ hset =>
    rw [hother (by simp [hop]), hset.voltage]
    rfl
  | get hop _ hsame =>
    rw [hother (by simp [hop]), hsame]
    rfl
  | idle hop hidle htrace hsame =>
    have hnone : l.reading dev = none := by
      rw [DevLabel.reading, htrace]
      split
      · split <;> rfl
      · rfl
    rw [hnone, hsame]
    rfl
  | @fetch i on r off hop hok htrace hd =>
    rw [hd, Driver.afterRead_voltage]
    by_cases hi : dev = i
    · subst hi
      have hreading : l.reading dev = if r.1 = 0 then some r.2 else none := by
        rw [DevLabel.reading, if_pos hop, htrace, findSome?_fetchTrace]
      rw [hreading]
      by_cases hr : r.1 = 0
      · have hconf := hs.configured hok
        rw [if_pos ⟨hr, rfl⟩, if_pos hr, hconf.gain, hconf.resolution, hdt.batteryVoltage]
        exact congrArg (SensorValue.mk _) (hs.val2 dev)
      · rw [if_neg fun h => hr h.1, if_neg hr]
        rfl
    · rw [if_neg fun h => hi h.2, hother (by simp [hop, Ne.symm hi])]
      rfl

/-- Each call keeps the configuration, and the second half of the values. -/
theorem Storing.step (hdt : Divides dt adc) {s s' : DevState ι} {l : DevLabel ι}
    (hs : Storing dt s) (h : DevStep dt adc s l s') : Storing dt s' := by
  refine ⟨h.configured hs.configured, fun dev => ?_⟩
  rw [h.voltage_eq hdt dev s l s' hs]
  cases l.reading dev with
  | none => exact hs.val2 dev
  | some raw => rfl

/-- The initial value is that of a reading of 0. -/
theorem measured_zero (dt : DeviceTree) : measured dt 0 = ⟨0, 0⟩ := by
  have hpin : pinMV 0 = 0 := by decide
  rw [measured, batteryMV, hpin, Int.zero_mul, Int.zero_ediv]

/-- A device stores the value of its last reading. -/
theorem stored_voltage (hdt : Divides dt adc) {s : DevState ι} {ls : List (DevLabel ι)}
    (h : Run (DevStep dt adc) DevState.boot ls s) (dev : ι) :
    s.driver.voltage dev = measured dt (lastReading dev ls) := by
  let write : DevLabel ι → Option SensorValue := fun l => (l.reading dev).map (measured dt)
  have hlast : s.driver.voltage dev = (lastWrite write ls).getD ⟨0, 0⟩ :=
    h.lastWrite_getD (fun s => s.driver.voltage dev) (I := Storing dt)
      (fun _ _ _ hs hl => hs.step hdt hl) (fun s l t hs hl => hl.voltage_eq hdt dev s l t hs)
      ⟨fun hok => absurd hok Bool.false_ne_true, fun _ => rfl⟩
  have hwrite : lastWrite write ls =
      (lastWrite (DevLabel.reading dev) ls).map (measured dt) := by
    unfold lastWrite
    rw [← List.getLast?_map, ← List.map_filterMap]
  rw [hlast, hwrite, lastReading, ← measured_zero dt, Option.getD_map]

/-! ## The estimated level -/

/-- What `battery_level_pptt` makes of a value of the sensor. -/
def levelOf (curve : DocumentedCurve) (v : SensorValue) : Option Int :=
  batteryLevelPptt (UInt32.ofInt v.val1) curve.points

/-- In some run from boot, with any calls for any devices and any outcomes of the hardware calls, a
get delivers `v` for `dev`, whose last reading is `raw`. -/
def Delivered (dt : DeviceTree) (adc : AdcApi) (dev : ι) (raw : BitVec 16) (v : SensorValue) :
    Prop :=
  ∃ (s s' : DevState ι) (ls : List (DevLabel ι)) (g : DevLabel ι),
    Run (DevStep dt adc) DevState.boot ls s ∧ DevStep dt adc s g s' ∧
      g.op = .channelGet dev .voltage ∧ g.val = some v ∧ lastReading dev ls = raw

/-- A delivered value is a function of the last reading. -/
theorem Delivered.eq (hdt : Divides dt adc) {dev : ι} {raw : BitVec 16} {v : SensorValue}
    (h : Delivered dt adc dev raw v) : v = measured dt raw := by
  obtain ⟨s, s', ls, g, hrun, hg, hop, hv, rfl⟩ := h
  obtain ⟨-, -, hret⟩ := hg.channelGet hop
  rw [if_pos rfl, hv] at hret
  split at hret
  · have hval : v = s.driver.voltage dev := Option.some.inj (congrArg Prod.snd hret)
    rw [hval]
    exact stored_voltage hdt hrun dev
  · cases congrArg Prod.snd hret

/-- The voltage is the same as an `unsigned int`. -/
theorem Divides.toNat_measured (h : Divides dt adc) (raw : BitVec 16) :
    (UInt32.ofInt (measured dt raw).val1).toNat = (measured dt raw).val1.toNat := by
  have hlt := h.batteryMV_lt raw
  have hnonneg : 0 ≤ batteryMV dt.dividerConfig raw := batteryMV_nonneg
  rw [UInt32.ofInt, UInt32.toNat_ofNat']
  dsimp only [measured]
  omega

/-- The level of a documented curve as a function of the voltage. -/
theorem DocumentedCurve.exists_level (c : DocumentedCurve) :
    ∃ level : ℚ → ℤ, Monotone level ∧ (∀ x, 0 ≤ level x ∧ level x ≤ 10000) ∧
      ∀ battMV : UInt32, batteryLevelPptt battMV c.points = some (level battMV.toNat) := by
  obtain ⟨d, rest, hpoints⟩ := c.exists_dischargeCurve
  obtain ⟨hi, knots, hknots, hfull⟩ := DischargeCurve.knots_head hpoints
  have hd := d.descending
  have hnonneg : ∀ k ∈ d.knots, (0 : ℚ) ≤ k.y := by
    intro k hk
    obtain ⟨p, -, rfl⟩ := List.mem_map.1 hk
    exact Nat.cast_nonneg _
  refine ⟨fun x => ⌊eval d.knots x⌋, fun x y h => Int.floor_mono (eval_mono hd h), ?_, ?_⟩
  · intro x
    rw [hknots] at hd hnonneg ⊢
    refine ⟨Int.floor_nonneg.2 (le_eval hd hnonneg), ?_⟩
    have hle : eval (hi :: knots) x ≤ hi.y := eval_le hd
    rw [hfull] at hle
    have hfloor := Int.floor_mono hle
    rwa [show ((10000 : ℚ)) = ((10000 : ℤ) : ℚ) from rfl, Int.floor_intCast] at hfloor
  · intro battMV
    rw [hpoints]
    exact d.level_append rest battMV

/-- Whatever else was called and failed before, what a get delivers is the voltage of the last
reading, and a higher reading never gives a lower level. -/
theorem level_follows_reading (hdt : Divides dt adc) (curve : DocumentedCurve) {dev dev' : ι}
    {raw raw' : BitVec 16} {v v' : SensorValue} (h : Delivered dt adc dev raw v)
    (h' : Delivered dt adc dev' raw' v') (hle : raw.toInt ≤ raw'.toInt) :
    v = measured dt raw ∧ v' = measured dt raw' ∧
      ∃ level level', levelOf curve v = some level ∧ levelOf curve v' = some level' ∧
        0 ≤ level ∧ level ≤ level' ∧ level' ≤ 10000 := by
  obtain ⟨level, hmono, hbounds, hlevel⟩ := curve.exists_level
  obtain rfl := h.eq hdt
  obtain rfl := h'.eq hdt
  refine ⟨rfl, rfl, _, _, hlevel _, hlevel _, (hbounds _).1, hmono ?_, (hbounds _).2⟩
  rw [hdt.toNat_measured, hdt.toNat_measured]
  exact Nat.cast_le.2 (Int.toNat_le_toNat (batteryMV_mono hdt.divider hle))

end

/-- The set-up of the feather's divider after boot, and a fetch that reads `raw`. -/
def firstReading (raw : BitVec 16) : List (DevLabel Unit) × DevState Unit :=
  Op.calls featherTree zephyrAdc DevState.boot
    [(okOutcomes raw, .init ()), (okOutcomes raw, .sampleFetch () .voltage)]

/-- A set-up and a fetch deliver the reading. -/
theorem delivered_feather (raw : BitVec 16) :
    Delivered featherTree zephyrAdc () raw ((firstReading raw).2.driver.voltage ()) := by
  have hok : (firstReading raw).2.driver.batteryOk = true := rfl
  have hreading : lastReading () (firstReading raw).1 = raw := rfl
  have hrun : Run (DevStep featherTree zephyrAdc) DevState.boot (firstReading raw).1
      (firstReading raw).2 := Op.calls_run _ _ _ _
  generalize firstReading raw = calls at hok hreading hrun
  let get := Op.call featherTree zephyrAdc (okOutcomes raw) calls.2 (.channelGet () .voltage)
  have hget : DevStep featherTree zephyrAdc calls.2 get.1 get.2 := Op.call_step _ _ _
  obtain ⟨-, -, hret⟩ := hget.channelGet rfl
  rw [if_pos rfl, if_pos hok] at hret
  exact ⟨calls.2, get.2, calls.1, get.1, hrun, hget, rfl, congrArg Prod.snd hret, hreading⟩

/-- Two readings of the feather's divider, one twice as high as the other. -/
theorem level_follows_reading_feather :
    ∃ v v' level level', Delivered featherTree zephyrAdc () 4096 v ∧
      Delivered featherTree zephyrAdc () 8192 v' ∧ v = ⟨1800, 0⟩ ∧ v' = ⟨3600, 0⟩ ∧
      levelOf lipo v = some level ∧ levelOf lipo v' = some level' ∧
      0 ≤ level ∧ level ≤ level' ∧ level' ≤ 10000 := by
  have hdt : Divides featherTree zephyrAdc :=
    ⟨zephyrAdc_documented, rfl, by decide, by decide⟩
  obtain ⟨hv, hv', level, level', h⟩ := level_follows_reading hdt lipo (delivered_feather 4096)
    (delivered_feather 8192) (by decide)
  exact ⟨_, _, level, level', delivered_feather 4096, delivered_feather 8192,
    hv.trans (by decide), hv'.trans (by decide), h⟩

end NrfFeather
