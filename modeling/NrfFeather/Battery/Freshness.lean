import NrfFeather.Battery.Steps

/-!
# Freshness of the reported voltage

A reader of the sensor fetches a sample and then gets the voltage. What it gets is fresh when the
value was computed from a reading of the ADC that this very fetch made, with the divider powered.
`battery_measurement_sample_fetch` drops the results of all the calls it makes and accepts every
channel, so the value is fresh exactly when the fetch was one of the voltage and its calls
happened to succeed; otherwise an older value is delivered, and both calls return 0.
-/

namespace NrfFeather

open Effects Transition

section
variable {ι : Type} [DecidableEq ι] {dt : DeviceTree} {adc : AdcApi}

/-- The value was computed from a successful reading in the trace, before which the feed of the
divider had been switched on. -/
def Fresh (dt : DeviceTree) (adc : AdcApi) (t : List (Event HwCall.Ans)) (v : SensorValue) :
    Prop :=
  ∃ pre seq raw post, t = pre ++ ⟨.adcRead seq, ((0 : Int), raw)⟩ :: post ∧
    (∀ gcp, dt.dividerConfig.powerGpios = some gcp →
      ⟨.gpioPinSetDt gcp true, (0 : Int)⟩ ∈ pre) ∧
    v.val1 = batteryVoltage adc dt.dividerConfig dt.batteryAdcGain 14 raw

/-- The get `g` delivers a value that the fetch `f` measured. -/
def Delivers (dt : DeviceTree) (adc : AdcApi) (f g : DevLabel ι) : Prop :=
  ∃ v, g.val = some v ∧ Fresh dt adc f.trace v

/-- When both calls return 0 the value is fresh, and when it is not, one of them says so. -/
def Honest (dt : DeviceTree) (adc : AdcApi) (f g : DevLabel ι) : Prop :=
  (f.rc = 0 → g.rc = 0 → Delivers dt adc f g) ∧
    (¬ Delivers dt adc f g → f.rc < 0 ∨ g.rc < 0)

/-- The calls of a fetch that its value depends on. -/
def HwCall.Feeds : HwCall → Prop
  | .gpioPinSetDt _ value => value = true
  | .adcRead _ => True
  | _ => False

omit [DecidableEq ι] in
/-- When both calls return 0, only a fresh value is honest. -/
theorem honest_iff {f g : DevLabel ι} (hf : f.rc = 0) (hg : g.rc = 0) :
    Honest dt adc f g ↔ Delivers dt adc f g := by
  refine ⟨fun h => h.1 hf hg, fun h => ⟨fun _ _ => h, fun hn => absurd h hn⟩⟩

/-- What the freshness of a fetch of the voltage comes down to. -/
theorem fetchTrace_feeds_iff {cfg : DividerConfig} {seq : AdcSequence} {on off : Int}
    {r : Int × BitVec 16} :
    (∀ e ∈ fetchTrace cfg seq on r off, e.1.Feeds → e.1.Ok e.2) ↔
      (∀ gcp, cfg.powerGpios = some gcp → on = 0) ∧ r.1 = 0 := by
  constructor
  · intro h
    refine ⟨?_, ?_⟩
    · intro gcp hg
      exact h ⟨.gpioPinSetDt gcp true, on⟩
        (mem_fetchTrace.2 (.inr (.inr ⟨gcp, hg, .inl rfl⟩))) rfl
    · exact h ⟨.adcRead seq, r⟩ (mem_fetchTrace.2 (.inr (.inl rfl))) trivial
  · rintro ⟨hon, hr⟩ e he hfeeds
    rcases mem_fetchTrace.1 he with rfl | rfl | ⟨gcp, hg, rfl | rfl⟩
    · exact trivial
    · exact hr
    · exact hon gcp hg
    · exact nomatch hfeeds

/-- A fetch of the voltage is fresh exactly when its power-up and its reading succeeded. -/
theorem fresh_fetchTrace_iff {seq : AdcSequence} {on off : Int}
    {r : Int × BitVec 16} {v : SensorValue}
    (hv : r.1 = 0 → v.val1 = batteryVoltage adc dt.dividerConfig dt.batteryAdcGain 14 r.2) :
    Fresh dt adc (fetchTrace dt.dividerConfig seq on r off) v ↔
      (∀ gcp, dt.dividerConfig.powerGpios = some gcp → on = 0) ∧ r.1 = 0 := by
  constructor
  · rintro ⟨pre, seq', raw, post, ht, hpow, -⟩
    refine ⟨?_, ?_⟩
    · intro gcp hg
      have hmem : ⟨.gpioPinSetDt gcp true, (0 : Int)⟩ ∈
          fetchTrace dt.dividerConfig seq on r off := by
        rw [ht]
        exact List.mem_append_left _ (hpow gcp hg)
      exact on_of_mem_fetchTrace hmem
    · have hmem : ⟨.adcRead seq', ((0 : Int), raw)⟩ ∈
          fetchTrace dt.dividerConfig seq on r off := by
        rw [ht]
        exact List.mem_append_right pre (.head post)
      rw [read_of_mem_fetchTrace hmem]
  · rintro ⟨hon, hr⟩
    obtain ⟨rc, raw⟩ := r
    cases hr
    refine ⟨powerTrace dt.dividerConfig true on ++ [⟨.kSleep 100, ()⟩], seq, raw,
      powerTrace dt.dividerConfig false off, by simp [fetchTrace], fun gcp hg => ?_, hv rfl⟩
    rw [← hon gcp hg]
    exact List.mem_append_left _ (mem_powerTrace.2 ⟨gcp, hg, rfl⟩)

/-- After a successful set-up, in any run of fetches and gets and whatever the outcomes of their
hardware calls, a get of the voltage is honest about the fetch before it exactly when that was a
fetch of the voltage whose power-up and reading succeeded. -/
theorem fetch_honest_iff {dev : ι} {chan : SensorChannel} {s₀ s : DevState ι}
    {i f g : DevLabel ι} (ls gs : List (DevLabel ι)) (hi : i.op = .init dev) (hrc : i.rc = 0)
    (hls : ∀ l ∈ ls, ∀ d, l.op ≠ .init d) (hf : f.op = .sampleFetch dev chan)
    (hgs : ∀ l ∈ gs, ∃ d c, l.op = .channelGet d c) (hg : g.op = .channelGet dev .voltage)
    (h : Run (DevStep dt adc) s₀ (i :: ls ++ f :: gs ++ [g]) s) :
    Honest dt adc f g ↔
      chan = .voltage ∧ ∀ e ∈ f.trace, e.1.Feeds → e.1.Ok e.2 := by
  obtain ⟨s₄, h, hget⟩ := h.append_inv
  obtain ⟨s₂, hbefore, h⟩ := h.append_inv
  cases hbefore with
  | cons hinit hbefore =>
  cases h with
  | cons hfetch hgets =>
  cases hget with
  | cons hget _ =>
  obtain ⟨hok, hset⟩ := hinit.init hi
  have hready : s₂.driver.Ready dt :=
    (hbefore.guard hls).invariant (fun _ _ _ hs hl => hl.2.ready hs hl.1)
      ⟨by rw [hok, decide_eq_true hrc], hset.configured hrc⟩
  obtain rfl := DevStep.gets hgs hgets
  have hready' : s₄.driver.Ready dt :=
    hfetch.ready hready fun d => by rw [hf]; nofun
  obtain ⟨-, -, hval⟩ := hget.channelGet hg
  simp only [if_true, hready'.ok, Prod.mk.injEq] at hval
  have hdel : Delivers dt adc f g ↔
      Fresh dt adc f.trace (s₄.driver.voltage dev) := by
    simp [Delivers, hval.2]
  by_cases hc : chan = .voltage
  · subst hc
    obtain ⟨on, r, off, ht, hd, hfrc⟩ := hfetch.sampleFetch_voltage hf hready.ok
    rw [honest_iff hfrc hval.1, hdel, ht, fetchTrace_feeds_iff, fresh_fetchTrace_iff]
    · simp
    · intro hr
      rw [hd, Driver.afterRead_voltage, if_pos ⟨hr, rfl⟩, hready.configured.gain,
        hready.configured.resolution]
  · obtain ⟨ht, -, hfrc⟩ := hfetch.sampleFetch_idle hf (.inl hc)
    rw [honest_iff hfrc hval.1, hdel, ht, if_neg hc]
    refine ⟨?_, fun h => absurd h.1 hc⟩
    rintro ⟨pre, seq, raw, post, h, -⟩
    cases pre <;> cases h

end

/-- The set-up, and a first sample. -/
def firstSample : List (HwOracle × Op Unit) :=
  [(okOutcomes 8192, .init ()), (okOutcomes 8192, .sampleFetch () .voltage),
    (okOutcomes 8192, .channelGet () .voltage)]

/-- A set-up, a fetch and a get, in which nothing fails. -/
theorem fetch_honest_firstSample :
    ∃ i f g s, Run (DevStep featherTree saadc) (DevState.boot : DevState Unit) [i, f, g] s ∧
      Honest featherTree saadc f g :=
  have h := Op.calls_run featherTree saadc .boot firstSample
  ⟨_, _, _, _, h, (fetch_honest_iff [] [] rfl rfl nofun rfl nofun rfl h).2
    ⟨rfl, fun e he _ => Op.call_ok (okOutcomes_ok 8192) _ _ e he⟩⟩

/-- The outcomes of a fetch whose reading fails. -/
def readFails : HwOracle
  | .adcRead _ => (-5, 0)
  | c => okOutcomes 0 c

/-- After the first sample, the reading of a second one fails: the fetch returns 0 all the same,
and the get delivers the voltage of the first sample. -/
theorem failed_read_unseen :
    ∃ i f₁ g₁ f g s, Run (DevStep featherTree saadc) (DevState.boot : DevState Unit)
        [i, f₁, g₁, f, g] s ∧ i.op = .init () ∧ i.rc = 0 ∧ f.op = .sampleFetch () .voltage ∧
      f.rc = 0 ∧ g.op = .channelGet () .voltage ∧ g.rc = 0 ∧ g.val = g₁.val ∧
      ¬ Honest featherTree saadc f g := by
  have h := Op.calls_run featherTree saadc .boot
    (firstSample ++ [(readFails, .sampleFetch () .voltage), (readFails, .channelGet () .voltage)])
  refine ⟨_, _, _, _, _, _, h, rfl, rfl, rfl, rfl, rfl, rfl, rfl, ?_⟩
  intro hh
  obtain ⟨v, -, hv⟩ := hh.1 rfl rfl
  have hfresh : Fresh featherTree saadc
      (fetchTrace featherDivider ⟨1, 4, false, 14⟩ 0 (-5, 0) 0) v := hv
  have hfail : ((-5 : Int), (0 : BitVec 16)).1 ≠ 0 := by decide
  exact hfail ((fresh_fetchTrace_iff fun hr => absurd hr hfail).1 hfresh).2

end NrfFeather
