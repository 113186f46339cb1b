import NrfFeather.Battery.Steps

/-!
# What holds between calls

After `battery_measurement_init` of one device, with whatever outcome, any fetches and gets may
follow, and any of their hardware calls may fail. Where the set-up succeeded, the divider is not
left powered unless it could not be switched off, and the ADC is calibrated at every read until one
has succeeded. Where it failed, the hardware is left alone. `PowerInv` carries the first part, for
the hardware calls so far and the state reached.
-/

namespace NrfFeather

open Effects Transition

/-! ## Histories of hardware calls -/

/-- A successful read of the ADC. -/
def readOk : Event HwCall.Ans → Bool
  | ⟨.adcRead _, r⟩ => r.1 = 0
  | _ => false

/-- Watches for the first successful read. -/
def readMonitor : Env HwCall.Ans Bool where
  allows _ _ _ := True
  next b c r := b || readOk ⟨c, r⟩

/-- A read calibrates unless one has succeeded before. -/
def CalibratedRead (b : Bool) : Event HwCall.Ans → Prop
  | ⟨.adcRead seq, _⟩ => seq.calibrate = !b
  | _ => True

/-- Every read is made with calibration until one has succeeded, and without from then on. -/
def CalibratesUntilRead (t : List (Event HwCall.Ans)) : Prop :=
  ∀ t₁ seq r t₂, t = t₁ ++ ⟨.adcRead seq, r⟩ :: t₂ →
    (seq.calibrate = true ↔ ∀ e ∈ t₁, readOk e = false)

/-- The last attempt to switch the divider off failed. -/
def SwitchOffFailed (gcp : GpioDtSpec) (t : List (Event HwCall.Ans)) : Prop :=
  ∃ (t₁ : List (Event HwCall.Ans)) (rc : Int) (t₂ : List (Event HwCall.Ans)),
    t = t₁ ++ ⟨.gpioPinSetDt gcp false, rc⟩ :: t₂ ∧ rc ≠ 0 ∧
    ∀ rc' : Int, ⟨.gpioPinSetDt gcp false, rc'⟩ ∉ t₂

/-- The monitor has seen a successful read if there was one. -/
theorem readMonitor_after (b : Bool) (t : List (Event HwCall.Ans)) :
    readMonitor.after b t = (b || t.any readOk) := by
  induction t generalizing b with
  | nil => rw [Env.after_nil, List.any_nil, Bool.or_false]
  | cons e t ih =>
    obtain ⟨c, r⟩ := e
    rw [Env.after_cons, ih, List.any_cons, ← Bool.or_assoc]
    rfl

/-- What the monitor accepts is what the history has to be like. -/
theorem calibratesUntilRead_of_monitor {t : List (Event HwCall.Ans)}
    (h : readMonitor.AllCalls CalibratedRead false t) : CalibratesUntilRead t := by
  intro t₁ seq r t₂ ht
  have hread : seq.calibrate = !(readMonitor.after false t₁) :=
    (readMonitor.allCalls_iff CalibratedRead false t).1 h t₁ ⟨.adcRead seq, r⟩ t₂ ht
  rw [hread, readMonitor_after, Bool.false_or, Bool.not_eq_true', List.any_eq_false]
  simp only [Bool.not_eq_true]

/-- Switching the divider is none of the monitor's concern. -/
theorem calibratedRead_powerTrace (b : Bool) (cfg : DividerConfig) (enable : Bool) (rc : Int) :
    readMonitor.AllCalls CalibratedRead b (powerTrace cfg enable rc) ∧
      readMonitor.after b (powerTrace cfg enable rc) = b := by
  unfold powerTrace
  cases cfg.powerGpios with
  | none => exact ⟨trivial, rfl⟩
  | some gcp => exact ⟨⟨trivial, trivial⟩, Bool.or_false b⟩

/-- A fetch reads once. -/
theorem calibratedRead_fetchTrace {b : Bool} (cfg : DividerConfig) {seq : AdcSequence}
    (on off : Int) (r : Int × BitVec 16) (hseq : seq.calibrate = !b) :
    readMonitor.AllCalls CalibratedRead b (fetchTrace cfg seq on r off) ∧
      readMonitor.after b (fetchTrace cfg seq on r off) = (b || decide (r.1 = 0)) := by
  obtain ⟨hon, hon'⟩ := calibratedRead_powerTrace b cfg true on
  obtain ⟨hoff, hoff'⟩ := calibratedRead_powerTrace (b || decide (r.1 = 0)) cfg false off
  have hsleep : readMonitor.next b (.kSleep 100) () = b := Bool.or_false b
  have hread : readMonitor.next b (.adcRead seq) r = (b || decide (r.1 = 0)) := rfl
  constructor
  · rw [fetchTrace, Env.allCalls_append, hon', Env.allCalls_cons, Env.allCalls_cons, hsleep, hread]
    exact ⟨hon, trivial, hseq, hoff⟩
  · rw [fetchTrace, Env.after_append, hon', Env.after_cons, Env.after_cons, hsleep, hread, hoff']

section
variable {ι : Type} [DecidableEq ι] {dt : DeviceTree} {adc : AdcApi} {s s' : DevState ι}
  {l : DevLabel ι} {t : List (Event HwCall.Ans)}

/-! ## The power GPIO -/

/-- The divider is not powered, as far as its GPIO can tell. -/
def Unpowered (dt : DeviceTree) (hw : Hw) : Prop :=
  ∀ gcp, dt.dividerConfig.powerGpios = some gcp → hw.level gcp = false

/-- The set-up of the ADC channel leaves the GPIO alone. -/
theorem Unpowered.channelSetup {hw : Hw} (h : Unpowered dt hw) (cfg : AdcChannelCfg) (rc : Int) :
    Unpowered dt (hw.next (.adcChannelSetup cfg) rc) := by
  intro gcp hgcp
  simp only [Hw.next]
  split <;> exact h gcp hgcp

omit [DecidableEq ι] in
/-- A set-up that succeeds has made the GPIO an inactive output. -/
theorem wp_dividerSetup_unpowered (d : Driver ι) (hw : Hw) :
    wp Hw.env ((dividerSetup dt).run d) (fun _ r hw' => r.1 = 0 → Unpowered dt hw') hw := by
  simp only [dividerSetup, adcIsReady, gpioIsReady, gpioPinConfigureDt, adcChannelSetup,
    StateT.run_bind, Prog.run_liftM, Prog.perform_bind, Prog.call_bind, Prog.ret_bind, wp_call]
  have hneg : -ENOENT ≠ 0 := by decide
  intro ready _
  cases ready with
  | false => exact fun h => absurd h hneg
  | true =>
    cases hp : dt.dividerConfig.powerGpios with
    | none =>
      intro rc _ _ gcp hgcp
      rw [hp] at hgcp
      cases hgcp
    | some gcp =>
      simp only [Bool.not_true, Bool.false_eq_true, if_false, StateT.run_bind, Prog.run_liftM,
        Prog.perform_bind, Prog.call_bind, Prog.ret_bind, wp_call]
      intro ready _
      cases ready with
      | false => exact fun h => absurd h hneg
      | true =>
        simp only [Bool.not_true, Bool.false_eq_true, if_false, StateT.run_bind, Prog.run_liftM,
          Prog.perform_bind, Prog.call_bind, Prog.ret_bind, wp_call]
        intro rc _
        by_cases hrc : rc = 0
        · subst hrc
          intro rc _ _
          have hconf : Unpowered dt (hw.next (.gpioPinConfigureDt gcp) (0 : Int)) := by
            intro gcp' hgcp'
            rw [hp] at hgcp'
            cases hgcp'
            simp [Hw.next]
          exact hconf.channelSetup _ rc
        · simp only [hrc, ne_eq, not_false_eq_true, if_true, StateT.run_pure, Prog.pure_eq, wp_ret]
          exact False.elim

/-- A set-up that succeeds leaves the divider unpowered. -/
theorem DevStep.init_unpowered {dev : ι} (hop : l.op = .init dev) (h : DevStep dt adc s l s')
    (hrc : l.rc = 0) : Unpowered dt s'.hw := by
  obtain ⟨op, t, rc, val⟩ := l
  obtain ⟨d, hw⟩ := s
  obtain ⟨d', hw'⟩ := s'
  subst hop
  have hwp : wp Hw.env ((Op.prog dt adc (.init dev)).run d)
      (fun _ r hw' => r.1.1 = 0 → Unpowered dt hw') hw := by
    simp only [Op.prog, batteryMeasurementInit, StateT.run_bind, bind_assoc, wp_bind]
    refine wp_mono ?_ (wp_dividerSetup_unpowered d hw)
    rintro t ⟨rc, d'⟩ hw' hset
    exact hset
  exact Exec.of_wp h hwp hrc

/-- A fetch leaves the divider unpowered, or it could not be switched off. -/
theorem switchOff_fetchTrace {hw : Hw} {seq : AdcSequence} {on off : Int} {r : Int × BitVec 16}
    {gcp : GpioDtSpec} (hgcp : dt.dividerConfig.powerGpios = some gcp) :
    (Hw.env.after hw (fetchTrace dt.dividerConfig seq on r off)).level gcp = false ∨
      SwitchOffFailed gcp (t ++ fetchTrace dt.dividerConfig seq on r off) := by
  have hoff : powerTrace dt.dividerConfig false off = [⟨.gpioPinSetDt gcp false, off⟩] := by
    rw [powerTrace, hgcp]
  by_cases h0 : off = 0
  · refine .inl ?_
    rw [fetchTrace, hoff, Env.after_append, Env.after_cons, Env.after_cons, Env.after_cons,
      Env.after_nil]
    simp [Hw.env, Hw.next, h0]
  · refine .inr ⟨t ++ (powerTrace dt.dividerConfig true on ++
      [⟨.kSleep 100, ()⟩, ⟨.adcRead seq, r⟩]), off, [], ?_, h0, fun _ => List.not_mem_nil⟩
    rw [fetchTrace, hoff]
    simp

/-! ## The invariant -/

/-- After a successful set-up: what holds of the hardware calls since then and the state they have
led to. -/
structure PowerInv (dt : DeviceTree) (t : List (Event HwCall.Ans)) (s : DevState ι) : Prop where
  ok : s.driver.batteryOk = true
  level : ∀ gcp, dt.dividerConfig.powerGpios = some gcp →
    s.hw.level gcp = false ∨ SwitchOffFailed gcp t
  monitor : readMonitor.AllCalls CalibratedRead false t
  calibrate : s.driver.adcSeq.calibrate = !(readMonitor.after false t)

omit [DecidableEq ι] in
/-- A call that makes no hardware call and changes nothing. -/
theorem PowerInv.idle (h : PowerInv dt t s) : PowerInv dt (t ++ []) s := by
  rwa [List.append_nil]

/-- A read that succeeds turns calibration off. -/
theorem Driver.afterRead_calibrate (d : Driver ι) (dev : ι) (r : Int × BitVec 16) :
    (d.afterRead dt adc dev r).adcSeq.calibrate =
      (!decide (r.1 = 0) && d.adcSeq.calibrate) := by
  unfold Driver.afterRead
  by_cases hr : r.1 = 0 <;> simp [hr]

/-- Each call but a set-up keeps the invariant. -/
theorem PowerInv.step (hinv : PowerInv dt t s) (hl : ∀ dev, l.op ≠ .init dev)
    (h : DevStep dt adc s l s') : PowerInv dt (t ++ l.trace) s' := by
  cases h.outcome with
  | init hop => exact absurd hop (hl _)
  | get _ htrace hsame =>
    rw [htrace, hsame]
    exact hinv.idle
  | @idle _ chan _ hidle htrace hsame =>
    have hc : chan ≠ .voltage := by
      intro hc
      have hok := hidle hc
      rw [hinv.ok] at hok
      cases hok
    rw [htrace, hsame, if_neg hc]
    exact hinv.idle
  | @fetch _ on r off _ _ htrace hdriver =>
    obtain ⟨hreads, hafter⟩ := calibratedRead_fetchTrace dt.dividerConfig on off r hinv.calibrate
    rw [htrace]
    refine ⟨?_, ?_, ?_, ?_⟩
    · rw [hdriver, Driver.afterRead_batteryOk, hinv.ok]
    · intro gcp hgcp
      rw [h.hw_eq, htrace]
      exact switchOff_fetchTrace hgcp
    · rw [Env.allCalls_append]
      exact ⟨hinv.monitor, hreads⟩
    · rw [hdriver, Driver.afterRead_calibrate, hinv.calibrate, Env.after_append, hafter,
        Bool.not_or, Bool.and_comm]

/-- A set-up that succeeds establishes it. -/
theorem PowerInv.init {dev : ι} (hop : l.op = .init dev) (h : DevStep dt adc s l s')
    (hrc : l.rc = 0) : PowerInv dt [] s' := by
  obtain ⟨hok, hset⟩ := h.init hop
  refine ⟨by rw [hok, hrc]; rfl, fun gcp hgcp => .inl (h.init_unpowered hop hrc gcp hgcp), trivial,
    hset.calibrate hrc⟩

/-! ## The other calls -/

/-- A fetch of the voltage of `i` whose read of the ADC succeeds. -/
def ReadsVoltage (l : DevLabel ι) (i : ι) : Prop :=
  l.op = .sampleFetch i .voltage ∧ ∃ e ∈ l.trace, readOk e = true

/-- Only such a fetch changes the stored voltage. -/
theorem DevStep.voltage_changed (h : DevStep dt adc s l s') {i : ι}
    (hne : s'.driver.voltage i ≠ s.driver.voltage i) : ReadsVoltage l i := by
  cases h.outcome with
  | init _ _ hset =>
    rw [hset.voltage] at hne
    exact absurd rfl hne
  | get _ _ hsame | idle _ _ _ hsame =>
    rw [hsame] at hne
    exact absurd rfl hne
  | @fetch _ _ r _ hop _ htrace hdriver =>
    rw [hdriver, Driver.afterRead_voltage] at hne
    split at hne
    · next hr =>
      obtain ⟨hr, rfl⟩ := hr
      refine ⟨hop, ⟨.adcRead s.driver.adcSeq, r⟩, ?_, decide_eq_true hr⟩
      rw [htrace]
      exact mem_fetchTrace.2 (.inr (.inl rfl))
    · exact absurd rfl hne

/-- Without a successful set-up nothing is done, and no voltage is delivered. -/
theorem DevStep.off (hok : s.driver.batteryOk = false) (hl : ∀ dev, l.op ≠ .init dev)
    (h : DevStep dt adc s l s') :
    s' = s ∧ (∀ e ∈ l.trace, e = ⟨.kSleep 100, ()⟩) ∧
      ∀ dev, l.op = .channelGet dev .voltage → l.rc = -ENODEV := by
  cases h.outcome with
  | init hop => exact absurd hop (hl _)
  | get hop htrace hs hret =>
    refine ⟨hs, ?_, ?_⟩
    · intro e he
      rw [htrace] at he
      cases he
    · intro dev hget
      rw [hop, Op.channelGet.injEq] at hget
      exact hret hget.2 hok
  | idle hop _ htrace hs =>
    refine ⟨hs, ?_, ?_⟩
    · intro e he
      rw [htrace] at he
      split at he
      · exact List.mem_singleton.1 he
      · cases he
    · intro dev hget
      rw [hop] at hget
      cases hget
  | fetch _ hok' =>
    rw [hok] at hok'
    cases hok'

/-! ## Runs -/

/-- What holds after a successful set-up and the calls `ls`, which led to `s`. -/
structure PoweredSafely (dt : DeviceTree) (ls : List (DevLabel ι)) (s : DevState ι) : Prop where
  power : ∀ gcp, dt.dividerConfig.powerGpios = some gcp →
    s.hw.level gcp = false ∨ SwitchOffFailed gcp (ls.flatMap DevLabel.trace)
  calibrates : CalibratesUntilRead (ls.flatMap DevLabel.trace)

/-- What holds after a failed set-up that left the voltages `v`, and the calls `ls`. -/
structure LeftAlone (v : ι → SensorValue) (ls : List (DevLabel ι)) (s : DevState ι) : Prop where
  calls : ∀ l ∈ ls, ∀ e ∈ l.trace, e = ⟨.kSleep 100, ()⟩
  voltage : s.driver.voltage = v
  refused : ∀ l ∈ ls, ∀ dev, l.op = .channelGet dev .voltage → l.rc = -ENODEV

/-- After a set-up that succeeded, the invariant holds through every run without another set-up. -/
theorem powerInv_run {ls : List (DevLabel ι)} (hs : PowerInv dt [] s)
    (hls : ∀ l ∈ ls, ∀ dev, l.op ≠ .init dev) (h : Run (DevStep dt adc) s ls s') :
    PowerInv dt (ls.flatMap DevLabel.trace) s' := by
  refine (h.guard hls).history (I := fun ls s => PowerInv dt (ls.flatMap DevLabel.trace) s) ?_ hs
  rintro ls s l s' hinv ⟨hl, hstep⟩
  rw [List.flatMap_append, List.flatMap_singleton]
  exact hinv.step hl hstep

/-- After one that failed, nothing but sleeping is done, and every get of the voltage is refused. -/
theorem leftAlone_run {ls : List (DevLabel ι)} (hs : s.driver.batteryOk = false)
    (hls : ∀ l ∈ ls, ∀ dev, l.op ≠ .init dev) (h : Run (DevStep dt adc) s ls s') :
    LeftAlone s.driver.voltage ls s' := by
  induction h with
  | nil s =>
    exact ⟨fun _ hl => absurd hl List.not_mem_nil, rfl, fun _ hl => absurd hl List.not_mem_nil⟩
  | cons hstep _ ih =>
    obtain ⟨hl, hls⟩ := List.forall_mem_cons.1 hls
    obtain ⟨rfl, hcalls, hrefused⟩ := hstep.off hs hl
    have hrest := ih hs hls
    exact ⟨List.forall_mem_cons.2 ⟨hcalls, hrest.calls⟩, hrest.voltage,
      List.forall_mem_cons.2 ⟨hrefused, hrest.refused⟩⟩

/-- After a set-up with any outcome, and any fetches and gets with any outcomes of their hardware
calls. -/
theorem battery_invariant {s₀ s₁ s₂ : DevState ι} {l₀ : DevLabel ι} {ls : List (DevLabel ι)}
    {dev : ι} (hop : l₀.op = .init dev) (h₀ : DevStep dt adc s₀ l₀ s₁)
    (hls : ∀ l ∈ ls, ∀ d, l.op ≠ .init d) (h : Run (DevStep dt adc) s₁ ls s₂) :
    (l₀.rc = 0 → PoweredSafely dt ls s₂) ∧
      (∀ pre l post s s', ls = pre ++ l :: post → Run (DevStep dt adc) s₁ pre s →
        DevStep dt adc s l s' →
        ∀ i, s'.driver.voltage i ≠ s.driver.voltage i → ReadsVoltage l i) ∧
      (l₀.rc ≠ 0 → LeftAlone s₀.driver.voltage ls s₂) := by
  refine ⟨?_, ?_, ?_⟩
  · intro hrc
    have hinv := powerInv_run (PowerInv.init hop h₀ hrc) hls h
    exact ⟨hinv.level, calibratesUntilRead_of_monitor hinv.monitor⟩
  · intro pre l post s s' _ _ hstep i hne
    exact hstep.voltage_changed hne
  · intro hrc
    obtain ⟨hok, hset⟩ := h₀.init hop
    rw [← hset.voltage]
    exact leftAlone_run (hok.trans (decide_eq_false hrc)) hls h

end

/-- What holds of all operations holds of their calls. -/
theorem Op.calls_ops {ι : Type} [DecidableEq ι] {dt : DeviceTree} {adc : AdcApi} {P : Op ι → Prop}
    (s : DevState ι) {ops : List (HwOracle × Op ι)} (hops : ∀ x ∈ ops, P x.2) :
    ∀ l ∈ (Op.calls dt adc s ops).1, P l.op := by
  induction ops generalizing s with
  | nil => exact fun _ hl => absurd hl List.not_mem_nil
  | cons x ops ih =>
    rw [List.forall_mem_cons] at hops
    exact List.forall_mem_cons.2 ⟨hops.1, ih _ hops.2⟩

/-- The set-up of the feather's divider, a fetch and a get. -/
theorem battery_invariant_feather :
    let init := Op.call featherTree saadc (okOutcomes 4096) (DevState.boot (ι := Unit)) (.init ())
    let calls := Op.calls featherTree saadc init.2
      [(okOutcomes 4096, .sampleFetch () .voltage), (okOutcomes 4096, .channelGet () .voltage)]
    PoweredSafely featherTree calls.1 calls.2 := by
  intro init calls
  have hls : ∀ l ∈ calls.1, ∀ d, l.op ≠ .init d :=
    Op.calls_ops (P := fun op => ∀ d, op ≠ .init d) _ (by simp)
  exact (battery_invariant rfl (Op.call_step _ _ _) hls (Op.calls_run _ _ _ _)).1 rfl

end NrfFeather
