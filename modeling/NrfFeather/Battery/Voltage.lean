import Mathlib.Tactic.NormNum
import NrfFeather.Battery.Steps

/-!
# From an ADC reading to a voltage

`battery_sample` scales a raw reading twice: Zephyr converts it to millivolts at the pin, and the
resistors of the divider give the voltage of the battery. A negative reading is replaced by 1. The
conversion is written once over the arithmetic it is done in, as C does it and with every operation
checked; where the configured resistors keep the result in an `int`, the two agree.
-/

namespace NrfFeather

open Effects Transition MachineInt

/-! ## The conversion -/

/-- `adc_raw_to_millivolts` for a gain of 1/6, with a reference in millivolts. -/
def adcRawToMillivolts (keep : Int → Option Int) (ref : Int) (resolution : Nat) (raw : Int) :
    Option Int := do
  let mv ← keep (raw * ref)
  let mv ← keep (mv * 6)
  return mv >>> resolution

/-- What is known of the ADC API: the internal reference of 600 mV, and the conversion, which is
done in 32-bit signed arithmetic. -/
structure AdcApi.Documented (adc : AdcApi) : Prop where
  ref : adc.refInternal = 600
  gain1_6 : ∀ ref resolution raw, some (adc.rawToMillivolts ref .gain1_6 resolution raw) =
    adcRawToMillivolts (wrapSigned 32) ref resolution raw

/-- `battery_sample` with that conversion, over an arithmetic. -/
def documentedVoltage (keep32 keep64 : Int → Option Int) (cfg : DividerConfig) (raw : BitVec 16) :
    Option Int :=
  sampleVoltage keep32 keep64 (adcRawToMillivolts keep32 600 14) cfg raw

/-- The voltage at the pin, in millivolts. -/
def pinMV (raw : BitVec 16) : Int := max raw.toInt 0 * 3600 / 16384

/-- The voltage of the battery, in millivolts. -/
def batteryMV (cfg : DividerConfig) (raw : BitVec 16) : Int :=
  pinMV raw * cfg.fullOhm.toNat / cfg.outputOhm.toNat

section
variable {adc : AdcApi} {cfg : DividerConfig} {raw raw' : BitVec 16}

/-- A conversion whose operations were all checked has the same value in any other arithmetic. -/
theorem adcRawToMillivolts_refines {keep keep' : Int → Option Int} (hkeep : Refines keep keep')
    (ref : Int) (resolution : Nat) :
    Refines (adcRawToMillivolts keep ref resolution)
      (adcRawToMillivolts keep' ref resolution) := by
  intro n v h
  simp only [adcRawToMillivolts, Option.bind_eq_bind, Option.bind_eq_some_iff] at h ⊢
  obtain ⟨mv, hmv, mv', hmv', h⟩ := h
  exact ⟨mv, hkeep _ _ hmv, mv', hkeep _ _ hmv', h⟩

/-- So has the scaling by the divider. -/
theorem scale_refines {keep32 keep32' keep64 keep64' : Int → Option Int}
    (h32 : Refines keep32 keep32') (h64 : Refines keep64 keep64') :
    Refines (scale keep32 keep64 cfg) (scale keep32' keep64' cfg) := by
  intro val v h
  simp only [scale, Option.bind_eq_bind, Option.bind_eq_some_iff] at h ⊢
  obtain ⟨mv, hmv, product, hproduct, h⟩ := h
  exact ⟨mv, h64 _ _ hmv, product, h64 _ _ hproduct, h32 _ _ h⟩

/-- Where no operation overflows, C computes the same. -/
theorem sampleVoltage_refines {keep32 keep32' keep64 keep64' mv mv' : Int → Option Int}
    (h32 : Refines keep32 keep32') (h64 : Refines keep64 keep64') (hmv : Refines mv mv') {v : Int}
    (h : sampleVoltage keep32 keep64 mv cfg raw = some v) :
    sampleVoltage keep32' keep64' mv' cfg raw = some v := by
  simp only [sampleVoltage, Option.bind_eq_bind, Option.bind_eq_some_iff] at h ⊢
  obtain ⟨val, hval, h⟩ := h
  refine ⟨val, hmv _ _ hval, ?_⟩
  split at h
  · next hdiv =>
    rw [if_pos hdiv]
    exact scale_refines h32 h64 _ _ h
  · next hdiv =>
    rw [if_neg hdiv]
    exact h

/-- The arithmetic of C always has a value. -/
theorem sampleVoltage_eq (adc : AdcApi) (cfg : DividerConfig) (gain : AdcGain) (resolution : Nat)
    (raw : BitVec 16) :
    sampleVoltage (wrapSigned 32) (wrapUnsigned 64)
        (fun val => some (adc.rawToMillivolts adc.refInternal gain resolution val)) cfg raw =
      some (batteryVoltage adc cfg gain resolution raw) := by
  unfold batteryVoltage sampleVoltage
  dsimp only [Option.bind_eq_bind, Option.bind_some]
  split <;> rfl

/-- The driver does this arithmetic in C. -/
theorem batteryVoltage_eq (hadc : adc.Documented) (raw : BitVec 16) :
    documentedVoltage (wrapSigned 32) (wrapUnsigned 64) cfg raw =
      some (batteryVoltage adc cfg .gain1_6 14 raw) := by
  have hmv : adcRawToMillivolts (wrapSigned 32) 600 14 =
      fun val => some (adc.rawToMillivolts adc.refInternal .gain1_6 14 val) := by
    funext val
    rw [hadc.ref, hadc.gain1_6]
  rw [documentedVoltage, hmv, sampleVoltage_eq]

/-- Where no operation overflows, what the driver stores is the exact value. -/
theorem batteryVoltage_of_checked (hadc : adc.Documented) {v : Int}
    (h : documentedVoltage (checkSigned 32) (checkUnsigned 64) cfg raw = some v) :
    batteryVoltage adc cfg .gain1_6 14 raw = v := by
  have hwrap := sampleVoltage_refines (checkSigned_refines 32) (checkUnsigned_refines 64)
    (adcRawToMillivolts_refines (checkSigned_refines 32) 600 14) h
  exact Option.some.inj ((batteryVoltage_eq hadc raw).symm.trans hwrap)

/-- The voltage at the pin is not negative. -/
theorem pinMV_nonneg : 0 ≤ pinMV raw := by
  unfold pinMV
  omega

/-- It is at most that of the highest reading. -/
theorem pinMV_le : pinMV raw ≤ 7199 := by
  have hraw := BitVec.toInt_lt (x := raw)
  unfold pinMV
  omega

/-- It does not fall as the reading rises. -/
theorem pinMV_mono (h : raw.toInt ≤ raw'.toInt) : pinMV raw ≤ pinMV raw' := by
  unfold pinMV
  omega

/-- The battery's voltage is not negative either. -/
theorem batteryMV_nonneg : 0 ≤ batteryMV cfg raw :=
  Int.ediv_nonneg (Int.mul_nonneg pinMV_nonneg (Int.natCast_nonneg _)) (Int.natCast_nonneg _)

/-- A resistor that is there divides by something positive. -/
theorem outputOhm_pos (hdiv : cfg.outputOhm ≠ 0) : (0 : Int) < cfg.outputOhm.toNat := by
  have hne : cfg.outputOhm.toNat ≠ 0 := fun h => hdiv (UInt32.toNat_inj.1 h)
  omega

/-- A higher reading never gives a lower voltage. -/
theorem batteryMV_mono (hdiv : cfg.outputOhm ≠ 0) (h : raw.toInt ≤ raw'.toInt) :
    batteryMV cfg raw ≤ batteryMV cfg raw' := by
  have hmul : pinMV raw * cfg.fullOhm.toNat ≤ pinMV raw' * cfg.fullOhm.toNat :=
    Int.mul_le_mul_of_nonneg_right (pinMV_mono h) (Int.natCast_nonneg _)
  exact Int.ediv_le_ediv (outputOhm_pos hdiv) hmul

/-- The conversion of a reading at the pin never overflows; a negative reading counts as 0 V. -/
theorem adcRawToMillivolts_checked (raw : BitVec 16) :
    adcRawToMillivolts (checkSigned 32) 600 14 (if raw.toInt < 0 then 1 else raw.toInt) =
      some (pinMV raw) := by
  have hraw := BitVec.toInt_lt (x := raw)
  have hkeep (n : Int) (h0 : 0 ≤ n) (hn : n < 2 ^ 31) : checkSigned 32 n = some n :=
    checkSigned_eq (by omega) (by omega)
  have hval : 0 ≤ (if raw.toInt < 0 then 1 else raw.toInt) ∧
      (if raw.toInt < 0 then 1 else raw.toInt) < 32768 := by
    split <;> omega
  simp only [adcRawToMillivolts, Option.bind_eq_bind, Option.bind_eq_some_iff]
  refine ⟨_, hkeep _ (by omega) (by omega), _, hkeep _ (by omega) (by omega), ?_⟩
  have hmv : (if raw.toInt < 0 then 1 else raw.toInt) * 600 * 6 / 16384 = pinMV raw := by
    unfold pinMV
    split <;> omega
  rw [← hmv, Int.shiftRight_eq_div_pow]
  rfl

/-- With these resistors no operation of a sample overflows. -/
theorem documentedVoltage_checked (hdiv : cfg.outputOhm ≠ 0)
    (hfits : 7199 * cfg.fullOhm.toNat / cfg.outputOhm.toNat < 2 ^ 31) (raw : BitVec 16) :
    documentedVoltage (checkSigned 32) (checkUnsigned 64) cfg raw = some (batteryMV cfg raw) := by
  have hfull := cfg.fullOhm.toNat_lt
  have hmv0 : 0 ≤ pinMV raw := pinMV_nonneg
  have hmul : pinMV raw * cfg.fullOhm.toNat ≤ 7199 * cfg.fullOhm.toNat :=
    Int.mul_le_mul_of_nonneg_right pinMV_le (Int.natCast_nonneg _)
  have hmul0 : 0 ≤ pinMV raw * cfg.fullOhm.toNat := Int.mul_nonneg hmv0 (Int.natCast_nonneg _)
  have hle : batteryMV cfg raw ≤
      ((7199 * cfg.fullOhm.toNat / cfg.outputOhm.toNat : Nat) : Int) := by
    rw [Int.natCast_ediv, Int.natCast_mul]
    exact Int.ediv_le_ediv (outputOhm_pos hdiv) hmul
  have hmv : pinMV raw ≤ 7199 := pinMV_le
  have hmv0' : 0 ≤ batteryMV cfg raw := batteryMV_nonneg
  have hkeep : checkSigned 32 (batteryMV cfg raw) = some (batteryMV cfg raw) :=
    checkSigned_eq (by omega) (by omega)
  simp only [documentedVoltage, sampleVoltage, scale, if_pos hdiv, Option.bind_eq_bind,
    Option.bind_eq_some_iff]
  exact ⟨_, adcRawToMillivolts_checked raw, _, checkUnsigned_eq hmv0 (by omega), _,
    checkUnsigned_eq hmul0 (by omega), hkeep⟩

/-! ## Samples -/

variable {ι : Type} [DecidableEq ι] {dt : DeviceTree}

/-- The static data are set up whenever the driver says so. -/
theorem DevStep.configured {s s' : DevState ι} {l : DevLabel ι}
    (hs : s.driver.batteryOk = true → s.driver.Configured dt) (h : DevStep dt adc s l s') :
    s'.driver.batteryOk = true → s'.driver.Configured dt := by
  intro hb
  cases h.outcome with
  | init _ hok hset =>
    rw [hok, decide_eq_true_eq] at hb
    exact hset.configured hb
  | get _ _ hsame | idle _ _ _ hsame =>
    rw [hsame] at hb ⊢
    exact hs hb
  | fetch _ hok _ hd =>
    rw [hd]
    exact (hs hok).afterRead _ _

/-- In a state that calls of the driver lead to after boot, `battery_sample` succeeds for `dev` with
the reading `raw`, and stores `v`. -/
def Samples (dt : DeviceTree) (adc : AdcApi) (dev : ι) (raw : BitVec 16) (v : Int) : Prop :=
  ∃ (s₀ s : DevState ι) (ls : List (DevLabel ι)) (t : List (Event HwCall.Ans)) (d : Driver ι)
      (hw : Hw), s₀.driver.batteryOk = false ∧ Run (DevStep dt adc) s₀ ls s ∧
    Exec Hw.env s.hw ((batterySample dt adc dev).run s.driver) t (0, d) hw ∧ d.raw = raw ∧
    (d.voltage dev).val1 = v

/-- A successful sample stores what the driver makes of its reading, with the gain and the
resolution that were set up. -/
theorem Samples.eq {dev : ι} {v : Int} (h : Samples dt adc dev raw v) :
    v = batteryVoltage adc dt.dividerConfig dt.batteryAdcGain 14 raw := by
  obtain ⟨s₀, s, ls, t, d, hw, hboot, hrun, hexec, rfl, rfl⟩ := h
  have hconf := hrun.invariant (I := fun s => s.driver.batteryOk = true → s.driver.Configured dt)
    (fun _ _ _ hs hl => hl.configured hs) fun hok => absurd hok (by rw [hboot]; decide)
  cases hok : s.driver.batteryOk with
  | false =>
    have hfails : wp Hw.env ((batterySample dt adc dev).run s.driver)
        (fun _ r _ => r.1 = -ENOENT) s.hw := by
      simp [batterySample, hok]
    have hne : (0 : Int) ≠ -ENOENT := by decide
    exact absurd (hexec.of_wp hfails) hne
  | true =>
    have hafter : wp Hw.env ((batterySample dt adc dev).run s.driver)
        (fun _ r _ => ∃ a, r = (a.1, s.driver.afterRead dt adc dev a)) s.hw :=
      wp_batterySample hok dev s.hw fun a _ => ⟨a, rfl⟩
    obtain ⟨a, ha⟩ := hexec.of_wp hafter
    rw [Prod.mk.injEq] at ha
    obtain ⟨hrc, rfl⟩ := ha
    rw [Driver.afterRead_voltage, if_pos ⟨hrc.symm, rfl⟩, (hconf hok).gain, (hconf hok).resolution,
      Driver.afterRead, if_pos hrc.symm]

/-- What a sample is to store for a reading: the exact value with its two roundings, which comes out
of the arithmetic of the code with no operation overflowing. -/
structure SampleStores (cfg : DividerConfig) (raw : BitVec 16) (v : Int) : Prop where
  exact : v = max raw.toInt 0 * 3600 / 16384 * cfg.fullOhm.toNat / cfg.outputOhm.toNat
  checked : documentedVoltage (checkSigned 32) (checkUnsigned 64) cfg raw = some v
  nonneg : 0 ≤ v

/-- Every successful sample stores the voltage that its reading stands for, and a sample with a
lower reading, negative or not, never stores a higher voltage. -/
theorem sample_voltage (hadc : adc.Documented) (hgain : dt.batteryAdcGain = .gain1_6)
    (hdiv : 0 < dt.dividerConfig.outputOhm)
    (hfits : 7199 * dt.dividerConfig.fullOhm.toNat / dt.dividerConfig.outputOhm.toNat < 2 ^ 31)
    {dev : ι} {v : Int} (h : Samples dt adc dev raw v) :
    SampleStores dt.dividerConfig raw v ∧
      ∀ raw' v', Samples dt adc dev raw' v' → raw.toInt ≤ raw'.toInt → v ≤ v' := by
  have hdiv' : dt.dividerConfig.outputOhm ≠ 0 := UInt32.pos_iff_ne_zero.1 hdiv
  have hsample : ∀ raw v, Samples dt adc dev raw v → v = batteryMV dt.dividerConfig raw := by
    intro raw v h
    rw [h.eq, hgain]
    exact batteryVoltage_of_checked hadc (documentedVoltage_checked hdiv' hfits raw)
  have hv := hsample raw v h
  refine ⟨⟨hv, ?_, ?_⟩, ?_⟩
  · rw [hv]
    exact documentedVoltage_checked hdiv' hfits raw
  · rw [hv]
    exact batteryMV_nonneg
  · intro raw' v' h' hle
    rw [hv, hsample raw' v' h']
    exact batteryMV_mono hdiv' hle

end

/-- The conversion of the ADC API, in 32-bit arithmetic. -/
def zephyrAdc : AdcApi where
  refInternal := 600
  rawToMillivolts ref gain resolution raw :=
    match gain with
    | .gain1 => Int.bmod (raw * ref) (2 ^ 32) >>> resolution
    | .gain1_6 => Int.bmod (Int.bmod (raw * ref) (2 ^ 32) * 6) (2 ^ 32) >>> resolution

/-- It does what is documented. -/
theorem zephyrAdc_documented : zephyrAdc.Documented := ⟨rfl, fun _ _ _ => rfl⟩

/-- The first sample after boot, of a reading of the feather's divider. -/
theorem exists_samples_feather (raw : BitVec 16) :
    ∃ v, Samples featherTree zephyrAdc () raw v := by
  let init := Op.call featherTree zephyrAdc (okOutcomes raw) (DevState.boot (ι := Unit)) (.init ())
  let sample := runWith Hw.env (okOutcomes raw) init.2.hw
    ((batterySample featherTree zephyrAdc ()).run init.2.driver)
  have hexec : Exec Hw.env init.2.hw ((batterySample featherTree zephyrAdc ()).run init.2.driver)
      sample.1 (sample.2.1.1, sample.2.1.2) sample.2.2 := runWith_exec (fun _ _ => trivial) _ _
  exact ⟨_, DevState.boot, init.2, [init.1], sample.1, sample.2.1.2, sample.2.2, rfl,
    .cons (Op.call_step _ _ _) (.nil _), hexec, rfl, rfl⟩

/-- A reading of the feather's divider. -/
theorem sample_voltage_feather :
    ∃ v, Samples featherTree zephyrAdc () 4096 v ∧ SampleStores featherDivider 4096 v := by
  obtain ⟨v, hv⟩ := exists_samples_feather 4096
  exact ⟨v, hv, (sample_voltage zephyrAdc_documented rfl (by decide) (by decide) hv).1⟩

end NrfFeather
