import NrfFeather.Battery.Driver

/-!
# What a call of the battery driver can do

One call of `battery_measurement_init`, `battery_measurement_sample_fetch` or
`battery_measurement_channel_get` is a step `DevStep` of the driver's static data and the hardware,
labelled with the call, the trace of its hardware calls and what it returned. Each kind of step
has one lemma that says everything such a step can do, for every outcome of every hardware call;
the properties of the driver are read off these three.
-/

namespace NrfFeather

open Effects Transition

section
variable {ι : Type} [DecidableEq ι] {dt : DeviceTree} {adc : AdcApi}

/-! ## Steps -/

/-- A call of the sensor driver. -/
inductive Op (ι : Type) where
  | init (dev : ι)
  | sampleFetch (dev : ι) (chan : SensorChannel)
  | channelGet (dev : ι) (chan : SensorChannel)
  deriving DecidableEq

/-- The function behind a call, with the code it returns and the value it delivers. -/
def Op.prog (dt : DeviceTree) (adc : AdcApi) : Op ι → Drv ι (Int × Option SensorValue)
  | .init dev => do
    let rc ← batteryMeasurementInit dt dev
    return (rc, none)
  | .sampleFetch dev chan => do
    let rc ← batteryMeasurementSampleFetch dt adc dev chan
    return (rc, none)
  | .channelGet dev chan => batteryMeasurementChannelGet dev chan

/-- A call that was made: its hardware calls and their outcomes, what it returned, and the value
it delivered. -/
structure DevLabel (ι : Type) where
  op : Op ι
  trace : List (Event HwCall.Ans)
  rc : Int
  val : Option SensorValue

/-- The static data of the driver, and the hardware. -/
structure DevState (ι : Type) where
  driver : Driver ι
  hw : Hw

/-- One call. -/
def DevStep (dt : DeviceTree) (adc : AdcApi) (s : DevState ι) (l : DevLabel ι) (s' : DevState ι) :
    Prop :=
  Exec Hw.env s.hw ((l.op.prog dt adc).run s.driver) l.trace ((l.rc, l.val), s'.driver) s'.hw

/-- The hardware after a call is the one its trace leads to. -/
theorem DevStep.hw_eq {s s' : DevState ι} {l : DevLabel ι} (h : DevStep dt adc s l s') :
    s'.hw = Hw.env.after s.hw l.trace :=
  (Exec.after_eq h).symm

/-! ## The pieces of a fetch -/

/-- The trace of `battery_measure_enable`. -/
def powerTrace (cfg : DividerConfig) (enable : Bool) (rc : Int) : List (Event HwCall.Ans) :=
  match cfg.powerGpios with
  | some gcp => [⟨.gpioPinSetDt gcp enable, rc⟩]
  | none => []

/-- The trace of a fetch of the voltage. -/
def fetchTrace (cfg : DividerConfig) (seq : AdcSequence) (on : Int) (r : Int × BitVec 16)
    (off : Int) : List (Event HwCall.Ans) :=
  powerTrace cfg true on ++
    ⟨.kSleep 100, ()⟩ :: ⟨.adcRead seq, r⟩ :: powerTrace cfg false off

/-- The divider is switched by its GPIO, if it has one. -/
theorem mem_powerTrace {cfg : DividerConfig} {enable : Bool} {rc : Int}
    {e : Event HwCall.Ans} :
    e ∈ powerTrace cfg enable rc ↔
      ∃ gcp, cfg.powerGpios = some gcp ∧ e = ⟨.gpioPinSetDt gcp enable, rc⟩ := by
  unfold powerTrace
  cases cfg.powerGpios <;> simp

/-- A fetch sleeps, reads once, and switches the divider on and off. -/
theorem mem_fetchTrace {cfg : DividerConfig} {seq : AdcSequence} {on off : Int}
    {r : Int × BitVec 16} {e : Event HwCall.Ans} :
    e ∈ fetchTrace cfg seq on r off ↔
      e = ⟨.kSleep 100, ()⟩ ∨ e = ⟨.adcRead seq, r⟩ ∨
        ∃ gcp, cfg.powerGpios = some gcp ∧
          (e = ⟨.gpioPinSetDt gcp true, on⟩ ∨ e = ⟨.gpioPinSetDt gcp false, off⟩) := by
  simp only [fetchTrace, List.mem_append, List.mem_cons, mem_powerTrace, and_or_left, exists_or]
  exact or_left_comm.trans (or_congr_right or_left_comm)

/-- A fetch switches the power on once, -/
theorem on_of_mem_fetchTrace {cfg : DividerConfig} {seq : AdcSequence} {on off rc : Int}
    {r : Int × BitVec 16} {gcp : GpioDtSpec}
    (h : ⟨.gpioPinSetDt gcp true, rc⟩ ∈ fetchTrace cfg seq on r off) : on = rc := by
  rcases mem_fetchTrace.1 h with h | h | ⟨gcp', -, h | h⟩
  · cases h
  · cases h
  · cases h
    rfl
  · cases h

/-- and reads the ADC once. -/
theorem read_of_mem_fetchTrace {cfg : DividerConfig} {seq seq' : AdcSequence} {on off : Int}
    {r a : Int × BitVec 16} (h : ⟨.adcRead seq', a⟩ ∈ fetchTrace cfg seq on r off) : r = a := by
  rcases mem_fetchTrace.1 h with h | h | ⟨gcp', -, h | h⟩
  · cases h
  · cases h
    rfl
  · cases h
  · cases h

/-- Powering the divider leaves the ADC alone. -/
theorem after_powerTrace (hw : Hw) (cfg : DividerConfig) (enable : Bool) (rc : Int) :
    (Hw.env.after hw (powerTrace cfg enable rc)).input = hw.input ∧
      (Hw.env.after hw (powerTrace cfg enable rc)).readings = hw.readings := by
  unfold powerTrace
  cases cfg.powerGpios with
  | none => exact ⟨rfl, rfl⟩
  | some gcp =>
    simp only [Env.after_cons, Env.after_nil, Hw.env, Hw.next]
    split <;> exact ⟨rfl, rfl⟩

/-- A read leaves the input that the ADC is set up for. -/
@[simp] theorem Hw.next_adcRead_input (hw : Hw) (seq : AdcSequence) (r : Int × BitVec 16) :
    (hw.next (.adcRead seq) r).input = hw.input := by
  cases hin : hw.input with
  | none => simp [Hw.next, hin]
  | some input => by_cases hr : r.1 = 0 <;> simp [Hw.next, hin, hr]

/-- A read that succeeds adds what was read at that input. -/
@[simp] theorem Hw.next_adcRead_readings (hw : Hw) (seq : AdcSequence) (r : Int × BitVec 16) :
    (hw.next (.adcRead seq) r).readings =
      match hw.input with
      | some input => if r.1 = 0 then ⟨input, r.2⟩ :: hw.readings else hw.readings
      | none => hw.readings := by
  cases hin : hw.input with
  | none => simp [Hw.next, hin]
  | some input => by_cases hr : r.1 = 0 <;> simp [Hw.next, hin, hr]

/-- A fetch of the voltage adds its reading, if that succeeded. -/
theorem after_fetchTrace (hw : Hw) (cfg : DividerConfig) (seq : AdcSequence) (on off : Int)
    (r : Int × BitVec 16) :
    (Hw.env.after hw (fetchTrace cfg seq on r off)).input = hw.input ∧
      (Hw.env.after hw (fetchTrace cfg seq on r off)).readings =
        match hw.input with
        | some input => if r.1 = 0 then ⟨input, r.2⟩ :: hw.readings else hw.readings
        | none => hw.readings := by
  obtain ⟨hin, hread⟩ := after_powerTrace hw cfg true on
  rw [fetchTrace, Env.after_append, Env.after_cons, Env.after_cons]
  obtain ⟨hin', hread'⟩ := after_powerTrace
    ((Hw.env.after hw (powerTrace cfg true on)).next (.adcRead seq) r) cfg false off
  refine ⟨hin'.trans ?_, hread'.trans ?_⟩
  · rw [Hw.next_adcRead_input, hin]
  · rw [Hw.next_adcRead_readings, hin, hread]

/-- The static data after `battery_sample` got this answer from `adc_read`. -/
def Driver.afterRead (dt : DeviceTree) (adc : AdcApi) (d : Driver ι) (dev : ι)
    (r : Int × BitVec 16) : Driver ι :=
  if r.1 = 0 then
    { d with
      raw := r.2
      adcSeq := { d.adcSeq with calibrate := false }
      voltage := fun i =>
        if i = dev then
          { d.voltage i with
            val1 := batteryVoltage adc dt.dividerConfig d.adcCfg.gain d.adcSeq.resolution r.2 }
        else d.voltage i }
  else { d with raw := r.2 }

/-- A read does not touch the flag. -/
@[simp] theorem Driver.afterRead_batteryOk (d : Driver ι) (dev : ι) (r : Int × BitVec 16) :
    (d.afterRead dt adc dev r).batteryOk = d.batteryOk := by
  unfold Driver.afterRead
  split <;> rfl

/-- What a fetch of the voltage of `dev` leaves in the value of a device. -/
theorem Driver.afterRead_voltage (d : Driver ι) (dev i : ι) (r : Int × BitVec 16) :
    (d.afterRead dt adc dev r).voltage i =
      if r.1 = 0 ∧ i = dev then
        { d.voltage i with
          val1 := batteryVoltage adc dt.dividerConfig d.adcCfg.gain d.adcSeq.resolution r.2 }
      else d.voltage i := by
  unfold Driver.afterRead
  by_cases hr : r.1 = 0 <;> simp [hr]

omit [DecidableEq ι] in
/-- Once something was set up, `battery_measure_enable` switches the divider and leaves the driver
as it is. -/
theorem wp_batteryMeasureEnable {d : Driver ι} (hd : d.batteryOk = true) (enable : Bool) (hw : Hw)
    {Q : List (Event HwCall.Ans) → Int × Driver ι → Hw → Prop}
    (hQ : ∀ rc hw', Q (powerTrace dt.dividerConfig enable rc) (rc, d) hw') :
    wp Hw.env ((batteryMeasureEnable dt enable).run d) Q hw := by
  simp only [batteryMeasureEnable, StateT.run_bind, StateT.run_get, pure_bind, hd, if_true]
  unfold powerTrace at hQ
  cases hp : dt.dividerConfig.powerGpios with
  | none =>
    simp only [hp] at hQ ⊢
    exact hQ 0 hw
  | some gcp =>
    simp only [hp] at hQ ⊢
    intro rc _
    exact hQ rc _

/-- Once something was set up, `battery_sample` reads once and stores what comes of it. -/
theorem wp_batterySample {d : Driver ι} (hd : d.batteryOk = true) (dev : ι) (hw : Hw)
    {Q : List (Event HwCall.Ans) → Int × Driver ι → Hw → Prop}
    (hQ : ∀ r hw', Q [⟨.adcRead d.adcSeq, r⟩] (r.1, d.afterRead dt adc dev r) hw') :
    wp Hw.env ((batterySample dt adc dev).run d) Q hw := by
  simp only [batterySample, adcRead, StateT.run_bind, StateT.run_get, pure_bind, hd, if_true,
    Prog.run_liftM, Prog.perform_bind, Prog.call_bind, Prog.ret_bind, wp_call]
  rintro ⟨rc, raw⟩ -
  have hQ := hQ (rc, raw) (Hw.env.next hw (.adcRead d.adcSeq) (rc, raw))
  by_cases hrc : rc = 0
  · subst hrc
    exact hQ
  · simp only [Driver.afterRead, hrc, if_false] at hQ
    simpa [hrc] using hQ

/-! ## The three kinds of steps -/

/-- `channel_get` makes no hardware call and changes nothing: it delivers the stored voltage of
the device, or refuses. -/
theorem DevStep.channelGet {s s' : DevState ι} {l : DevLabel ι} {dev : ι} {chan : SensorChannel}
    (hop : l.op = .channelGet dev chan) (h : DevStep dt adc s l s') :
    l.trace = [] ∧ s' = s ∧
      (l.rc, l.val) =
        if chan = .voltage then
          if s.driver.batteryOk then (0, some (s.driver.voltage dev)) else (-ENODEV, none)
        else (-EINVAL, none) := by
  obtain ⟨op, t, rc, val⟩ := l
  obtain ⟨d, hw⟩ := s
  obtain ⟨d', hw'⟩ := s'
  subst hop
  have hwp : wp Hw.env ((Op.prog dt adc (.channelGet dev chan)).run d) (fun t r hw' =>
      t = [] ∧ (⟨r.2, hw'⟩ : DevState ι) = ⟨d, hw⟩ ∧
        r.1 = if chan = .voltage then
          if d.batteryOk then (0, some (d.voltage dev)) else (-ENODEV, none)
        else (-EINVAL, none)) hw := by
    cases chan with
    | voltage => cases hok : d.batteryOk <;> simp [Op.prog, batteryMeasurementChannelGet, hok]
    | all | other n => simp [Op.prog, batteryMeasurementChannelGet]
  exact Exec.of_wp h hwp

/-- `sample_fetch` returns 0 whatever happens. On another channel than the voltage it does nothing,
and without a successful set-up it only sleeps. -/
theorem DevStep.sampleFetch_idle {s s' : DevState ι} {l : DevLabel ι} {dev : ι}
    {chan : SensorChannel} (hop : l.op = .sampleFetch dev chan)
    (hidle : chan ≠ .voltage ∨ s.driver.batteryOk = false) (h : DevStep dt adc s l s') :
    l.trace = (if chan = .voltage then [⟨.kSleep 100, ()⟩] else []) ∧ s' = s ∧ l.rc = 0 := by
  obtain ⟨op, t, rc, val⟩ := l
  obtain ⟨d, hw⟩ := s
  obtain ⟨d', hw'⟩ := s'
  subst hop
  have hwp : wp Hw.env ((Op.prog dt adc (.sampleFetch dev chan)).run d) (fun t r hw' =>
      t = (if chan = .voltage then [⟨.kSleep 100, ()⟩] else []) ∧
        (⟨r.2, hw'⟩ : DevState ι) = ⟨d, hw⟩ ∧ r.1.1 = 0) hw := by
    cases chan with
    | voltage =>
      have hok : d.batteryOk = false := hidle.resolve_left fun h => h rfl
      simp [Op.prog, batteryMeasurementSampleFetch, batteryMeasureEnable, batterySample, kSleep,
        hok, Hw.env, Hw.next]
    | all | other n => simp [Op.prog, batteryMeasurementSampleFetch]
  exact Exec.of_wp h hwp

/-- A fetch of the voltage powers the divider, sleeps, reads the ADC and switches the power off
again, in this order and whatever the outcomes; it returns 0, and what it stores depends on the
outcome of the read alone. -/
theorem DevStep.sampleFetch_voltage {s s' : DevState ι} {l : DevLabel ι} {dev : ι}
    (hop : l.op = .sampleFetch dev .voltage) (hok : s.driver.batteryOk = true)
    (h : DevStep dt adc s l s') :
    ∃ (on : Int) (r : Int × BitVec 16) (off : Int),
      l.trace = fetchTrace dt.dividerConfig s.driver.adcSeq on r off ∧
      s'.driver = s.driver.afterRead dt adc dev r ∧ l.rc = 0 := by
  obtain ⟨op, t, rc, val⟩ := l
  obtain ⟨d, hw⟩ := s
  obtain ⟨d', hw'⟩ := s'
  subst hop
  have hwp : wp Hw.env ((Op.prog dt adc (.sampleFetch dev .voltage)).run d) (fun t r hw' =>
      ∃ (on : Int) (a : Int × BitVec 16) (off : Int),
        t = fetchTrace dt.dividerConfig d.adcSeq on a off ∧
        r.2 = d.afterRead dt adc dev a ∧ r.1.1 = 0) hw := by
    simp only [Op.prog, batteryMeasurementSampleFetch, StateT.run_bind, bind_assoc, wp_bind]
    refine wp_batteryMeasureEnable hok true hw ?_
    intro on hw₁
    simp only [kSleep, Prog.run_liftM, Prog.perform_bind, Prog.call_bind, Prog.ret_bind, wp_call]
    intro _ _
    rw [wp_bind]
    refine wp_batterySample hok dev _ ?_
    intro a hw₂
    have hok' : (d.afterRead dt adc dev a).batteryOk = true := by
      rw [Driver.afterRead_batteryOk, hok]
    rw [wp_bind]
    refine wp_batteryMeasureEnable hok' false _ ?_
    intro off hw₃
    exact ⟨on, a, off, by simp [fetchTrace], rfl, rfl⟩
  exact Exec.of_wp h hwp

/-- The ADC set-up of the driver. -/
structure Driver.Configured (d : Driver ι) (dt : DeviceTree) : Prop where
  gain : d.adcCfg.gain = dt.batteryAdcGain
  input : d.adcCfg.inputPositive = dt.dividerConfig.input
  resolution : d.adcSeq.resolution = 14

/-- What `divider_setup` leaves behind: the stored voltages and the readings as they were, and on
success an ADC that is set up for the configured input. It succeeds when all its calls do. -/
structure SetUp (dt : DeviceTree) (d : Driver ι) (hw : Hw) (t : List (Event HwCall.Ans))
    (rc : Int) (d' : Driver ι) (hw' : Hw) : Prop where
  voltage : d'.voltage = d.voltage
  readings : hw'.readings = hw.readings
  configured : rc = 0 → d'.Configured dt
  calibrate : rc = 0 → d'.adcSeq.calibrate = true
  input : rc = 0 → hw'.input = some dt.dividerConfig.input
  ok : (∀ e ∈ t, e.1.Ok e.2) → rc = 0

omit [DecidableEq ι] in
/-- A set-up that stops early, after a call that failed. -/
theorem SetUp.of_ne {dt : DeviceTree} {d : Driver ι} {hw hw' : Hw} {t : List (Event HwCall.Ans)}
    {rc : Int} (hrc : rc ≠ 0) (hreadings : hw'.readings = hw.readings)
    (hfail : ¬∀ e ∈ t, e.1.Ok e.2) : SetUp dt d hw t rc d hw' :=
  ⟨rfl, hreadings, fun h => absurd h hrc, fun h => absurd h hrc, fun h => absurd h hrc,
    fun h => absurd h hfail⟩

/-- The set-up of the channel decides the input, if it succeeds, and reads nothing. -/
theorem Hw.next_adcChannelSetup (hw : Hw) (cfg : AdcChannelCfg) (rc : Int) :
    (hw.next (.adcChannelSetup cfg) rc).readings = hw.readings ∧
      (rc = 0 → (hw.next (.adcChannelSetup cfg) rc).input = some cfg.inputPositive) := by
  refine ⟨?_, fun hrc => by simp [Hw.next, hrc]⟩
  simp only [Hw.next]
  split <;> rfl

omit [DecidableEq ι] in
/-- What `divider_setup` leaves behind, whatever fails in it. -/
theorem wp_dividerSetup (d : Driver ι) (hw : Hw) :
    wp Hw.env ((dividerSetup dt).run d)
      (fun t r hw' => SetUp dt d hw t r.1 r.2 hw') hw := by
  simp only [dividerSetup, adcIsReady, gpioIsReady, gpioPinConfigureDt, adcChannelSetup,
    StateT.run_bind, Prog.run_liftM, Prog.perform_bind, Prog.call_bind, Prog.ret_bind, wp_call]
  have hneg : -ENOENT ≠ 0 := by decide
  intro ready _
  cases ready with
  | false => exact .of_ne hneg rfl fun h => absurd (h _ (.head _)) Bool.false_ne_true
  | true =>
    cases hp : dt.dividerConfig.powerGpios with
    | none =>
      intro rc _
      have hnext := Hw.next_adcChannelSetup hw ⟨dt.batteryAdcGain, 40, dt.dividerConfig.input⟩ rc
      exact ⟨rfl, hnext.1, fun _ => ⟨rfl, rfl, rfl⟩, fun _ => rfl, hnext.2,
        fun h => h ⟨.adcChannelSetup _, rc⟩ (by simp)⟩
    | some gcp =>
      simp only [Bool.not_true, Bool.false_eq_true, if_false, StateT.run_bind, Prog.run_liftM,
        Prog.perform_bind, Prog.call_bind, Prog.ret_bind, wp_call]
      intro ready _
      cases ready with
      | false => exact .of_ne hneg rfl fun h => absurd (h _ (.tail _ (.head _))) Bool.false_ne_true
      | true =>
        simp only [Bool.not_true, Bool.false_eq_true, if_false, StateT.run_bind, Prog.run_liftM,
          Prog.perform_bind, Prog.call_bind, Prog.ret_bind, wp_call]
        intro rc _
        by_cases hrc : rc = 0
        · subst hrc
          intro rc _
          have hnext := Hw.next_adcChannelSetup (hw.next (.gpioPinConfigureDt gcp) (0 : Int))
            ⟨dt.batteryAdcGain, 40, dt.dividerConfig.input⟩ rc
          exact ⟨rfl, hnext.1, fun _ => ⟨rfl, rfl, rfl⟩, fun _ => rfl, hnext.2,
            fun h => h ⟨.adcChannelSetup _, rc⟩ (by simp)⟩
        · simp only [hrc, ne_eq, not_false_eq_true, if_true, StateT.run_pure, Prog.pure_eq, wp_ret]
          refine .of_ne hrc (by simp [Hw.env, Hw.next, hrc]) ?_
          intro h
          exact hrc (h ⟨.gpioPinConfigureDt gcp, rc⟩ (by simp))

/-- `init` records whether the set-up succeeded. -/
theorem DevStep.init {s s' : DevState ι} {l : DevLabel ι} {dev : ι} (hop : l.op = .init dev)
    (h : DevStep dt adc s l s') :
    s'.driver.batteryOk = decide (l.rc = 0) ∧
      SetUp dt s.driver s.hw l.trace l.rc s'.driver s'.hw := by
  obtain ⟨op, t, rc, val⟩ := l
  obtain ⟨d, hw⟩ := s
  obtain ⟨d', hw'⟩ := s'
  subst hop
  have hwp : wp Hw.env ((Op.prog dt adc (.init dev)).run d) (fun t r hw' =>
      r.2.batteryOk = decide (r.1.1 = 0) ∧ SetUp dt d hw t r.1.1 r.2 hw') hw := by
    simp only [Op.prog, batteryMeasurementInit, StateT.run_bind, bind_assoc, wp_bind]
    refine wp_mono ?_ (wp_dividerSetup d hw)
    rintro t ⟨rc, d'⟩ hw' hset
    simp only [StateT.run_modify, Prog.pure_eq]
    have hconfigured (h : rc = 0) : Driver.Configured { d' with batteryOk := rc = 0 } dt :=
      ⟨(hset.configured h).gain, (hset.configured h).input, (hset.configured h).resolution⟩
    exact ⟨rfl, hset.voltage, hset.readings, hconfigured, hset.calibrate, hset.input,
      fun h => hset.ok (by simpa using h)⟩
  exact Exec.of_wp h hwp

/-! ## A driver that is set up -/

/-- The set-up succeeded. -/
structure Driver.Ready (d : Driver ι) (dt : DeviceTree) : Prop where
  ok : d.batteryOk = true
  configured : d.Configured dt

/-- A read leaves the configuration. -/
theorem Driver.Configured.afterRead {d : Driver ι} (h : d.Configured dt) (dev : ι)
    (r : Int × BitVec 16) : (d.afterRead dt adc dev r).Configured dt := by
  unfold Driver.afterRead
  split <;> exact ⟨h.gain, h.input, h.resolution⟩

/-- Gets of any devices and channels change nothing. -/
theorem DevStep.gets {s s' : DevState ι} {ls : List (DevLabel ι)}
    (hls : ∀ l ∈ ls, ∃ d c, l.op = .channelGet d c) (h : Run (DevStep dt adc) s ls s') :
    s' = s := by
  induction h with
  | nil => rfl
  | cons hl _ ih =>
    rw [List.forall_mem_cons] at hls
    obtain ⟨d, c, hop⟩ := hls.1
    obtain ⟨-, rfl, -⟩ := hl.channelGet hop
    exact ih hls.2

/-- The ways a call can go: a set-up, a get, a fetch that has nothing to do, and a fetch of the
voltage. -/
inductive DevOutcome (dt : DeviceTree) (adc : AdcApi) (s : DevState ι) (l : DevLabel ι)
    (s' : DevState ι) : Prop where
  | init {dev : ι} : l.op = .init dev → s'.driver.batteryOk = decide (l.rc = 0) →
      SetUp dt s.driver s.hw l.trace l.rc s'.driver s'.hw → DevOutcome dt adc s l s'
  | get {dev : ι} {chan : SensorChannel} : l.op = .channelGet dev chan → l.trace = [] → s' = s →
      (chan = .voltage → s.driver.batteryOk = false → l.rc = -ENODEV) → DevOutcome dt adc s l s'
  | idle {dev : ι} {chan : SensorChannel} : l.op = .sampleFetch dev chan →
      (chan = .voltage → s.driver.batteryOk = false) →
      l.trace = (if chan = .voltage then [⟨.kSleep 100, ()⟩] else []) → s' = s →
      DevOutcome dt adc s l s'
  | fetch {dev : ι} {on : Int} {r : Int × BitVec 16} {off : Int} :
      l.op = .sampleFetch dev .voltage → s.driver.batteryOk = true →
      l.trace = fetchTrace dt.dividerConfig s.driver.adcSeq on r off →
      s'.driver = s.driver.afterRead dt adc dev r → DevOutcome dt adc s l s'

/-- Each call goes one of the four ways. -/
theorem DevStep.outcome {s s' : DevState ι} {l : DevLabel ι} (h : DevStep dt adc s l s') :
    DevOutcome dt adc s l s' := by
  cases hop : l.op with
  | init dev =>
    obtain ⟨hok, hset⟩ := h.init hop
    exact .init hop hok hset
  | channelGet dev chan =>
    obtain ⟨htrace, hs, hret⟩ := h.channelGet hop
    refine .get hop htrace hs ?_
    intro hc hok
    rw [if_pos hc, hok] at hret
    exact congrArg Prod.fst hret
  | sampleFetch dev chan =>
    by_cases hc : chan = .voltage ∧ s.driver.batteryOk = true
    · obtain ⟨rfl, hok⟩ := hc
      obtain ⟨on, r, off, htrace, hd, -⟩ := h.sampleFetch_voltage hop hok
      exact .fetch hop hok htrace hd
    · have hidle : chan = .voltage → s.driver.batteryOk = false := by
        rw [← Bool.not_eq_true]
        exact not_and.1 hc
      obtain ⟨htrace, hs, -⟩ := h.sampleFetch_idle hop (Decidable.not_or_of_imp hidle)
      exact .idle hop hidle htrace hs

/-- Only another set-up can undo a set-up. -/
theorem DevStep.ready {s s' : DevState ι} {l : DevLabel ι} (hs : s.driver.Ready dt)
    (hl : ∀ dev, l.op ≠ .init dev) (h : DevStep dt adc s l s') : s'.driver.Ready dt := by
  cases h.outcome with
  | init hop => exact absurd hop (hl _)
  | get _ _ hsame | idle _ _ _ hsame =>
    rw [hsame]
    exact hs
  | fetch _ _ _ hd =>
    rw [hd]
    exact ⟨by rw [Driver.afterRead_batteryOk, hs.ok], hs.configured.afterRead _ _⟩

/-! ## Runs against oracles -/

/-- The outcomes of the hardware calls during a call of the driver. -/
abbrev HwOracle : Type := (c : HwCall) → c.Ans

/-- A call whose hardware calls are answered by an oracle, and the state it leads to. -/
def Op.call (dt : DeviceTree) (adc : AdcApi) (o : HwOracle) (s : DevState ι) (op : Op ι) :
    DevLabel ι × DevState ι :=
  let r := runWith Hw.env o s.hw ((op.prog dt adc).run s.driver)
  (⟨op, r.1, r.2.1.1.1, r.2.1.1.2⟩, ⟨r.2.1.2, r.2.2⟩)

/-- Calls one after the other, each with its oracle. -/
def Op.calls (dt : DeviceTree) (adc : AdcApi) :
    DevState ι → List (HwOracle × Op ι) → List (DevLabel ι) × DevState ι
  | s, [] => ([], s)
  | s, (o, op) :: rest =>
    let r := op.call dt adc o s
    let rs := Op.calls dt adc r.2 rest
    (r.1 :: rs.1, rs.2)

/-- A call against an oracle is a step. -/
theorem Op.call_step (o : HwOracle) (s : DevState ι) (op : Op ι) :
    DevStep dt adc s (op.call dt adc o s).1 (op.call dt adc o s).2 := by
  have ho : ∀ (hw : Hw) (c : HwCall), Hw.env.allows hw c (o c) := fun _ _ => trivial
  exact runWith_exec ho ((op.prog dt adc).run s.driver) s.hw

/-- Calls against oracles are a run. -/
theorem Op.calls_run (dt : DeviceTree) (adc : AdcApi) (s : DevState ι)
    (ops : List (HwOracle × Op ι)) :
    Run (DevStep dt adc) s (Op.calls dt adc s ops).1 (Op.calls dt adc s ops).2 := by
  induction ops generalizing s with
  | nil => exact .nil s
  | cons op ops ih => exact .cons (Op.call_step _ _ _) (ih _)

/-- All calls succeed, and the ADC reads `raw`. -/
def okOutcomes (raw : BitVec 16) : HwOracle
  | .adcIsReady | .gpioIsReady _ => true
  | .gpioPinConfigureDt _ | .gpioPinSetDt _ _ | .adcChannelSetup _ => 0
  | .adcRead _ => (0, raw)
  | .kSleep _ => ()

/-- Under this oracle every hardware call succeeds. -/
theorem okOutcomes_ok (raw : BitVec 16) (c : HwCall) : c.Ok (okOutcomes raw c) := by
  cases c <;> simp [okOutcomes, HwCall.Ok]

/-- So do those of every operation. -/
theorem Op.call_ok {o : HwOracle} (ho : ∀ c : HwCall, c.Ok (o c)) (s : DevState ι) (op : Op ι) :
    ∀ e ∈ (op.call dt adc o s).1.trace, e.1.Ok e.2 :=
  runWith_forall ho _ _

/-- The voltage divider of the feather. -/
def featherDivider : DividerConfig :=
  { ioChannel := 7, powerGpios := some ⟨0, 25⟩, outputOhm := 100000, fullOhm := 200000 }

def featherTree : DeviceTree := { vbatt := some featherDivider, zephyrUser := 0, thingy52 := false }

/-- The SAADC: 600 mV of internal reference, and the conversion of the ADC API. -/
def saadc : AdcApi where
  refInternal := 600
  rawToMillivolts ref gain resolution raw :=
    raw * ref * (match gain with | .gain1 => 1 | .gain1_6 => 6) / 2 ^ resolution

/-- The static data and the hardware at boot. -/
def DevState.boot : DevState ι where
  driver :=
    { raw := 0
      adcSeq := { channels := 0, oversampling := 0, calibrate := false, resolution := 0 }
      adcCfg := { gain := .gain1, acquisitionTime := 0, inputPositive := .vdd }
      batteryOk := false
      voltage := fun _ => ⟨0, 0⟩ }
  hw := { input := none, level := fun _ => false, readings := [] }

end

end NrfFeather
