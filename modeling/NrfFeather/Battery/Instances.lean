import Mathlib.Data.List.Basic
import NrfFeather.Battery.Steps

/-!
# Several voltage dividers

The driver defines one sensor device for each enabled `voltage-divider` node, but its functions
ignore the device they are called for: the divider, the ADC set-up and `battery_ok` are those of
the file, and the divider is always that of `/vbatt`. So the devices are isolated from each other,
each measuring at its own channel, through its own resistors and with its own power GPIO, and
each answering for its own set-up, exactly when there is only one; and then the value of a get comes
from a reading exactly when the device was sampled before it, since a get does not ask for that.
-/

namespace NrfFeather

open Effects Transition

/-! ## What the devices share -/

section
variable {ι : Type} [DecidableEq ι] {dt : DeviceTree} {adc : AdcApi}

/-- All hardware calls of the call succeeded. -/
def DevLabel.Ok (l : DevLabel ι) : Prop := ∀ e ∈ l.trace, e.1.Ok e.2

/-- The runs in which all hardware calls succeed. -/
abbrev OkRun (dt : DeviceTree) (adc : AdcApi) :
    DevState ι → List (DevLabel ι) → DevState ι → Prop :=
  Run (Guarded (DevStep dt adc) fun _ l => l.Ok)

/-- Nothing is set up yet, and nothing read. -/
structure DevState.Fresh (s : DevState ι) : Prop where
  off : s.driver.batteryOk = false
  unread : s.hw.readings = []

/-- `dev` was set up, and its voltage fetched after that. -/
def Sampled (dev : ι) (ls : List (DevLabel ι)) : Prop :=
  [.init dev, .sampleFetch dev .voltage].Sublist (ls.map DevLabel.op)

omit [DecidableEq ι] in
/-- Two elements in this order, in a list with one element more. -/
theorem pair_sublist_concat {α : Type} {a b c : α} {l : List α} :
    [a, b].Sublist (l ++ [c]) ↔ [a, b].Sublist l ∨ a ∈ l ∧ c = b := by
  rw [List.sublist_append_iff]
  constructor
  · rintro ⟨l₁, l₂, h, h₁, h₂⟩
    rcases List.sublist_singleton.1 h₂ with rfl | rfl
    · rw [List.append_nil] at h
      exact .inl (h ▸ h₁)
    · have h' : [a] ++ [b] = l₁ ++ [c] := h
      obtain ⟨rfl, hbc⟩ := List.append_inj' h' rfl
      exact .inr ⟨List.singleton_sublist.1 h₁, (List.cons.inj hbc).1.symm⟩
  · rintro (h | ⟨h, rfl⟩)
    · exact ⟨[a, b], [], rfl, h, List.nil_sublist _⟩
    · exact ⟨[a], [c], rfl, List.singleton_sublist.2 h, List.Sublist.refl _⟩

omit [DecidableEq ι] in
/-- A device is sampled by a fetch after a set-up. -/
theorem sampled_concat {dev : ι} {ls : List (DevLabel ι)} {l : DevLabel ι} :
    Sampled dev (ls ++ [l]) ↔
      Sampled dev ls ∨ .init dev ∈ ls.map DevLabel.op ∧ l.op = .sampleFetch dev .voltage := by
  rw [Sampled, List.map_append, List.map_singleton, pair_sublist_concat]
  rfl

/-- What holds after any calls of any devices, as long as the hardware does: one set-up is
everybody's, all readings are taken at the one configured input and by a fetch after a set-up, and
the voltage stored for a device that was sampled comes from one of them. -/
structure Shared (dt : DeviceTree) (adc : AdcApi) (ls : List (DevLabel ι)) (s : DevState ι) :
    Prop where
  ok : s.driver.batteryOk = true ↔ ∃ d, .init d ∈ ls.map DevLabel.op
  configured : s.driver.batteryOk = true → s.driver.Configured dt
  input : s.driver.batteryOk = true → s.hw.input = some dt.dividerConfig.input
  readings : ∀ r ∈ s.hw.readings, r.input = dt.dividerConfig.input
  fetched : s.hw.readings ≠ [] →
    ∃ d dev, [.init d, .sampleFetch dev .voltage].Sublist (ls.map DevLabel.op)
  stored : ∀ dev, Sampled dev ls → ∃ r ∈ s.hw.readings, (s.driver.voltage dev).val1 =
    batteryVoltage adc dt.dividerConfig dt.batteryAdcGain 14 r.raw

omit [DecidableEq ι] in
/-- A further call leaves those before it in their order. -/
theorem sublist_concat {ops : List (Op ι)} {ls : List (DevLabel ι)} (l : DevLabel ι)
    (h : ops.Sublist (ls.map DevLabel.op)) : ops.Sublist ((ls ++ [l]).map DevLabel.op) := by
  rw [List.map_append]
  exact h.trans (List.sublist_append_left _ _)

/-- A set-up, for whichever device. -/
theorem Shared.init {ls : List (DevLabel ι)} {s t : DevState ι} {l : DevLabel ι} {dev : ι}
    (h : Shared dt adc ls s) (hop : l.op = .init dev) (hok : l.Ok) (hl : DevStep dt adc s l t) :
    Shared dt adc (ls ++ [l]) t := by
  obtain ⟨hbat, hset⟩ := hl.init hop
  have hrc : l.rc = 0 := hset.ok hok
  refine ⟨?_, fun _ => hset.configured hrc, fun _ => hset.input hrc, ?_, ?_, ?_⟩
  · rw [hbat, decide_eq_true_iff]
    refine ⟨fun _ => ⟨dev, ?_⟩, fun _ => hrc⟩
    rw [List.map_append, List.map_singleton, hop]
    exact List.mem_append_right _ (List.mem_singleton_self _)
  · rw [hset.readings]
    exact h.readings
  · intro hr
    rw [hset.readings] at hr
    obtain ⟨d, dev, hsub⟩ := h.fetched hr
    exact ⟨d, dev, sublist_concat l hsub⟩
  · intro d hd
    rw [hset.readings, hset.voltage]
    rcases sampled_concat.1 hd with hd | ⟨-, hd⟩
    · exact h.stored d hd
    · rw [hop] at hd
      cases hd

omit [DecidableEq ι] in
/-- A call that is no set-up adds none. -/
theorem mem_op_concat {ls : List (DevLabel ι)} {l : DevLabel ι} (hop : ∀ d, l.op ≠ .init d)
    (d : ι) : .init d ∈ (ls ++ [l]).map DevLabel.op ↔ .init d ∈ ls.map DevLabel.op := by
  rw [List.map_append, List.map_singleton, List.mem_append, List.mem_singleton]
  exact or_iff_left (hop d).symm

omit [DecidableEq ι] in
/-- A call that changes nothing, and counts as no sample. -/
theorem Shared.idle {ls : List (DevLabel ι)} {s : DevState ι} {l : DevLabel ι}
    (h : Shared dt adc ls s) (hop : ∀ d, l.op ≠ .init d)
    (hs : ∀ d, l.op = .sampleFetch d .voltage → s.driver.batteryOk = false) :
    Shared dt adc (ls ++ [l]) s := by
  refine ⟨?_, h.configured, h.input, h.readings, ?_, ?_⟩
  · simp only [mem_op_concat hop]
    exact h.ok
  · intro hr
    obtain ⟨d, dev, hsub⟩ := h.fetched hr
    exact ⟨d, dev, sublist_concat l hsub⟩
  · intro d hd
    rcases sampled_concat.1 hd with hd | ⟨hinit, hd⟩
    · exact h.stored d hd
    · have hok := h.ok.2 ⟨d, hinit⟩
      rw [hs d hd] at hok
      cases hok

/-- A fetch of the voltage, once something was set up. -/
theorem Shared.fetch {ls : List (DevLabel ι)} {s t : DevState ι} {l : DevLabel ι} {dev : ι}
    (h : Shared dt adc ls s) (hop : l.op = .sampleFetch dev .voltage) (hok : l.Ok)
    (hbat : s.driver.batteryOk = true) (hl : DevStep dt adc s l t) :
    Shared dt adc (ls ++ [l]) t := by
  have hinit : ∀ d, l.op ≠ .init d := fun d => by rw [hop]; nofun
  obtain ⟨on, r, off, ht, hd, -⟩ := hl.sampleFetch_voltage hop hbat
  have hr : r.1 = 0 := by
    refine hok ⟨.adcRead s.driver.adcSeq, r⟩ ?_
    rw [ht]
    exact mem_fetchTrace.2 (.inr (.inl rfl))
  obtain ⟨hin, hread⟩ := after_fetchTrace s.hw dt.dividerConfig s.driver.adcSeq on off r
  rw [← ht, ← hl.hw_eq] at hin hread
  simp only [h.input hbat, hr, if_true] at hread
  refine ⟨?_, ?_, fun _ => hin.trans (h.input hbat), ?_, ?_, ?_⟩
  · simp only [mem_op_concat hinit, hd, Driver.afterRead_batteryOk]
    exact h.ok
  · intro _
    rw [hd]
    exact (h.configured hbat).afterRead dev r
  · intro r' hr'
    rw [hread, List.mem_cons] at hr'
    rcases hr' with rfl | hr'
    · rfl
    · exact h.readings r' hr'
  · intro _
    obtain ⟨d, hd⟩ := h.ok.1 hbat
    refine ⟨d, dev, ?_⟩
    rw [List.map_append, List.map_singleton]
    exact pair_sublist_concat.2 (.inr ⟨hd, hop⟩)
  · intro d hs
    rw [hread, hd, Driver.afterRead_voltage]
    by_cases hdev : d = dev
    · refine ⟨_, .head _, ?_⟩
      rw [if_pos ⟨hr, hdev⟩, (h.configured hbat).gain, (h.configured hbat).resolution]
    · rw [if_neg fun hc => hdev hc.2]
      rcases sampled_concat.1 hs with hs | ⟨-, hs⟩
      · obtain ⟨r', hmem, hval⟩ := h.stored d hs
        exact ⟨r', .tail _ hmem, hval⟩
      · rw [hop, Op.sampleFetch.injEq] at hs
        exact absurd hs.1.symm hdev

/-- Each call keeps what the devices share. -/
theorem Shared.step {ls : List (DevLabel ι)} {s t : DevState ι} {l : DevLabel ι}
    (h : Shared dt adc ls s) (hok : l.Ok) (hl : DevStep dt adc s l t) :
    Shared dt adc (ls ++ [l]) t := by
  cases hl.outcome with
  | init hop => exact h.init hop hok hl
  | get hop _ hsame =>
    rw [hsame]
    exact h.idle (fun d => by rw [hop]; nofun) fun d hd => by rw [hop] at hd; cases hd
  | idle hop hidle _ hsame =>
    rw [hsame]
    refine h.idle (fun d => by rw [hop]; nofun) ?_
    intro d hd
    rw [hop, Op.sampleFetch.injEq] at hd
    exact hidle hd.2
  | fetch hop hbat => exact h.fetch hop hok hbat hl

/-- So does every run. -/
theorem OkRun.shared {ls : List (DevLabel ι)} {s t : DevState ι} (hs : s.Fresh)
    (h : OkRun dt adc s ls t) : Shared dt adc ls t := by
  refine Run.history (fun ls s l t hi hl => Shared.step hi hl.1 hl.2) h ?_
  refine ⟨?_, ?_, ?_, ?_, ?_, ?_⟩
  · simp [hs.off]
  · simp [hs.off]
  · simp [hs.off]
  · simp [hs.unread]
  · simp [hs.unread]
  · intro d hd
    exact absurd hd (by simp [Sampled])

/-- A get of the voltage reads the shared flag and the device's own value. -/
theorem OkRun.get (ls : List (DevLabel ι)) {g : DevLabel ι} {s t : DevState ι} {dev : ι}
    (hs : s.Fresh) (h : OkRun dt adc s (ls ++ [g]) t) (hg : g.op = .channelGet dev .voltage) :
    Shared dt adc ls t ∧ (g.rc, g.val) =
      if t.driver.batteryOk then (0, some (t.driver.voltage dev)) else (-ENODEV, none) := by
  obtain ⟨u, hbefore, hget⟩ := h.append_inv
  cases hget with
  | cons hget hnil =>
  cases hnil
  obtain ⟨-, rfl, hval⟩ := hget.2.channelGet hg
  rw [if_pos rfl] at hval
  exact ⟨OkRun.shared hs hbefore, hval⟩

/-- A device reports `-ENODEV` until some device was set up. -/
theorem OkRun.enodev_iff (ls : List (DevLabel ι)) {g : DevLabel ι} {s t : DevState ι} {dev : ι}
    (hs : s.Fresh) (h : OkRun dt adc s (ls ++ [g]) t) (hg : g.op = .channelGet dev .voltage) :
    g.rc = -ENODEV ↔ ∀ d, .init d ∉ ls.map DevLabel.op := by
  obtain ⟨hshared, hval⟩ := OkRun.get ls hs h hg
  rw [← not_exists, ← hshared.ok]
  cases hbat : t.driver.batteryOk with
  | false =>
    rw [hbat] at hval
    simpa using congrArg Prod.fst hval
  | true =>
    rw [hbat] at hval
    have hrc : g.rc = 0 := congrArg Prod.fst hval
    rw [hrc]
    simp [ENODEV]

/-- Calls whose hardware calls all succeed. -/
theorem Op.calls_okRun (dt : DeviceTree) (adc : AdcApi) (raw : BitVec 16) (s : DevState ι)
    (ops : List (Op ι)) :
    OkRun dt adc s (Op.calls dt adc s (ops.map (okOutcomes raw, ·))).1
      (Op.calls dt adc s (ops.map (okOutcomes raw, ·))).2 := by
  induction ops generalizing s with
  | nil => exact .nil s
  | cons op ops ih => exact .cons ⟨Op.call_ok (okOutcomes_ok raw) _ _, Op.call_step _ _ _⟩ (ih _)

omit [DecidableEq ι] in
/-- At boot nothing is set up, and nothing was read. -/
theorem DevState.boot_fresh : (DevState.boot : DevState ι).Fresh := ⟨rfl, rfl⟩

end

/-! ## Isolation -/

/-- A build with `n` enabled nodes, each with its own channel and its own power GPIO; one of them
is `/vbatt`. -/
structure Nodes (n : Nat) where
  cfg : Fin n → DividerConfig
  vbatt : Fin n
  zephyrUser : UInt8
  thingy52 : Bool
  channel_inj : ∀ i j, (cfg i).ioChannel = (cfg j).ioChannel → i = j
  power_inj : ∀ i j gcp, (cfg i).powerGpios = some gcp → (cfg j).powerGpios = some gcp → i = j

section
variable {n : Nat} (ns : Nodes n) (adc : AdcApi)

/-- What the driver takes from the build. -/
def Nodes.tree : DeviceTree :=
  { vbatt := some (ns.cfg ns.vbatt), zephyrUser := ns.zephyrUser, thingy52 := ns.thingy52 }

/-- The value comes from a reading at the channel of the device's own node, scaled by the resistors
of its own node. -/
def FromOwn (t : DevState (Fin n)) (i : Fin n) (v : SensorValue) : Prop :=
  ∃ r ∈ t.hw.readings, r.input = (ns.cfg i).input ∧
    v.val1 = batteryVoltage adc (ns.cfg i) ns.tree.batteryAdcGain 14 r.raw

/-- What a get of a device that was sampled delivers comes from its own reading. -/
def OwnReading : Prop :=
  ∀ (s : DevState (Fin n)) ls g t i v, s.Fresh → OkRun ns.tree adc s (ls ++ [g]) t →
    g.op = .channelGet i .voltage → g.rc = 0 → g.val = some v → Sampled i ls →
    FromOwn ns adc t i v

/-- A fetch of a device drives no other node's power GPIO. -/
def OwnPower : Prop :=
  ∀ (s : DevState (Fin n)) ls f t i chan, s.Fresh → OkRun ns.tree adc s (ls ++ [f]) t →
    f.op = .sampleFetch i chan → ∀ j gcp, j ≠ i → (ns.cfg j).powerGpios = some gcp →
      ∀ value rc, ⟨.gpioPinSetDt gcp value, rc⟩ ∉ f.trace

/-- The results of a device's own set-ups. -/
def setUpResults (i : Fin n) (ls : List (DevLabel (Fin n))) : List Int :=
  (ls.filter fun l => l.op = .init i).map DevLabel.rc

/-- Whether a device reports `-ENODEV` is decided by the results of its own set-ups. -/
def OwnSetUp : Prop :=
  ∀ i, ∃ enodev : List Int → Prop, ∀ (s : DevState (Fin n)) ls g t, s.Fresh →
    OkRun ns.tree adc s (ls ++ [g]) t → g.op = .channelGet i .voltage →
      (g.rc = -ENODEV ↔ enodev (setUpResults i ls))

/-- The devices are isolated from each other, as far as gets of sampled devices go; `fromOwn_iff`
says what the other gets of a single device come to. -/
structure Isolated : Prop where
  reading : OwnReading ns adc
  power : OwnPower ns adc
  setUp : OwnSetUp ns adc

variable {ns adc}

/-- A device whose node is measured at another input than `/vbatt` gets readings that are not its
own. -/
theorem not_ownReading {i : Fin n} (hi : (ns.cfg i).input ≠ (ns.cfg ns.vbatt).input) :
    ¬ OwnReading ns adc := by
  intro h
  have hrun := Op.calls_okRun ns.tree adc 0 .boot
    [.init i, .sampleFetch i .voltage, .channelGet i .voltage]
  obtain ⟨hshared, hval⟩ := OkRun.get [_, _] DevState.boot_fresh hrun rfl
  rw [if_pos (hshared.ok.2 ⟨i, .head _⟩), Prod.mk.injEq] at hval
  obtain ⟨r, hr, hin, -⟩ := h _ [_, _] _ _ i _ DevState.boot_fresh hrun rfl hval.1 hval.2
    (List.Sublist.refl _)
  exact hi (hin.symm.trans (hshared.readings r hr))

/-- Another device than that of `/vbatt` drives the power GPIO of `/vbatt`. -/
theorem not_ownPower {i : Fin n} (hi : i ≠ ns.vbatt) {gcp : GpioDtSpec}
    (hgcp : (ns.cfg ns.vbatt).powerGpios = some gcp) : ¬ OwnPower ns adc := by
  intro h
  have hrun := Op.calls_okRun ns.tree adc 0 .boot
    [.init i, .sampleFetch i .voltage]
  have hrun' := hrun
  cases hrun' with
  | cons hinit hrest =>
  cases hrest with
  | cons hfetch _ =>
  have hshared := OkRun.shared DevState.boot_fresh (.cons hinit (.nil _))
  obtain ⟨on, r, off, ht, -⟩ := hfetch.2.sampleFetch_voltage rfl (hshared.ok.2 ⟨i, .head _⟩)
  refine h _ [_] _ _ i .voltage DevState.boot_fresh hrun rfl ns.vbatt gcp hi.symm hgcp true on ?_
  rw [ht]
  exact mem_fetchTrace.2 (.inr (.inr ⟨gcp, hgcp, .inl rfl⟩))

/-- With two devices, the set-up of one decides what the other reports. -/
theorem not_ownSetUp {i j : Fin n} (hij : i ≠ j) : ¬ OwnSetUp ns adc := by
  intro h
  obtain ⟨dec, hdec⟩ := h i
  have hrun := Op.calls_okRun ns.tree adc 0 .boot [.channelGet i .voltage]
  have hrun' := Op.calls_okRun ns.tree adc 0 .boot
    [.init j, .channelGet i .voltage]
  have hd : dec [] := (hdec _ [] _ _ DevState.boot_fresh hrun rfl).1
    ((OkRun.enodev_iff [] DevState.boot_fresh hrun rfl).2 nofun)
  have hnone := (OkRun.enodev_iff [_] DevState.boot_fresh hrun' rfl).1
    ((hdec _ [_] _ _ DevState.boot_fresh hrun' rfl).2 ?_)
  · exact hnone j (.head _)
  · have hres : setUpResults i [(Op.call ns.tree adc (okOutcomes 0) .boot (.init j)).1] = [] := by
      have hne : (Op.init j : Op (Fin n)) ≠ .init i := fun he => hij (Op.init.inj he).symm
      simp [setUpResults, Op.call, hne]
    rw [← hres] at hd
    exact hd

/-- A device has no results exactly when it was not set up. -/
theorem setUpResults_eq_nil_iff {i : Fin n} {ls : List (DevLabel (Fin n))} :
    setUpResults i ls = [] ↔ .init i ∉ ls.map DevLabel.op := by
  rw [setUpResults, List.map_eq_nil_iff, List.filter_eq_nil_iff, List.mem_map]
  constructor
  · rintro h ⟨l, hl, hop⟩
    exact h l hl (decide_eq_true hop)
  · intro h l hl hop
    exact h ⟨l, hl, of_decide_eq_true hop⟩

/-- What a get that returns 0 delivers is the value stored for the device. -/
theorem OkRun.get_val (ls : List (DevLabel (Fin n))) {g : DevLabel (Fin n)} {s t : DevState (Fin n)}
    {i : Fin n} {v : SensorValue} (hs : s.Fresh) (h : OkRun ns.tree adc s (ls ++ [g]) t)
    (hg : g.op = .channelGet i .voltage) (hv : g.val = some v) :
    Shared ns.tree adc ls t ∧ v = t.driver.voltage i := by
  obtain ⟨hshared, hval⟩ := OkRun.get ls hs h hg
  refine ⟨hshared, ?_⟩
  split at hval
  · rw [hv, Prod.mk.injEq, Option.some.injEq] at hval
    exact hval.2
  · rw [hv, Prod.mk.injEq] at hval
    exact nomatch hval.2

/-- With one device, what a get delivers comes from a reading exactly when the device was sampled
before. -/
theorem fromOwn_iff (hn : n = 1) {ls : List (DevLabel (Fin n))} {g : DevLabel (Fin n)}
    {s t : DevState (Fin n)} {i : Fin n} {v : SensorValue} (hs : s.Fresh)
    (h : OkRun ns.tree adc s (ls ++ [g]) t) (hg : g.op = .channelGet i .voltage)
    (hv : g.val = some v) : FromOwn ns adc t i v ↔ Sampled i ls := by
  subst hn
  obtain ⟨hshared, rfl⟩ := OkRun.get_val ls hs h hg hv
  have hcfg : ns.cfg i = ns.tree.dividerConfig := by
    rw [Subsingleton.elim i ns.vbatt]
    rfl
  constructor
  · rintro ⟨r, hr, -, -⟩
    obtain ⟨d, dev, hsub⟩ := hshared.fetched (List.ne_nil_of_mem hr)
    rw [Subsingleton.elim d i, Subsingleton.elim dev i] at hsub
    exact hsub
  · intro hsampled
    obtain ⟨r, hr, hstored⟩ := hshared.stored i hsampled
    refine ⟨r, hr, ?_, ?_⟩
    · rw [hcfg]
      exact hshared.readings r hr
    · rw [hcfg]
      exact hstored

/-- As far as gets of sampled devices go, the devices are isolated from each other exactly when
there is only one. And of that one, a get delivers what its own reading gave if and only if it comes
after a sample: before the first sample it returns 0 as well. -/
theorem isolated_iff :
    (Isolated ns adc ↔ n = 1) ∧
      (n = 1 → ∀ (s : DevState (Fin n)) ls g t i v, s.Fresh →
        OkRun ns.tree adc s (ls ++ [g]) t → g.op = .channelGet i .voltage → g.rc = 0 →
        g.val = some v → (FromOwn ns adc t i v ↔ Sampled i ls)) := by
  refine ⟨⟨?_, ?_⟩, fun hn s ls g t i v hs h hg _ hv => fromOwn_iff hn hs h hg hv⟩
  · intro h
    by_contra hn
    have hpos : 0 < n := ns.vbatt.pos
    have : Nontrivial (Fin n) := Fin.nontrivial_iff_two_le.2 (by omega)
    obtain ⟨i, hi⟩ := exists_ne ns.vbatt
    exact not_ownSetUp hi h.setUp
  · rintro rfl
    refine ⟨?_, ?_, ?_⟩
    · intro s ls g t i v hs h hg _ hv hsampled
      exact (fromOwn_iff rfl hs h hg hv).2 hsampled
    · intro s ls f t i chan hs h hf j gcp hj
      exact absurd (Subsingleton.elim j i) hj
    · intro i
      refine ⟨fun rs => rs = [], ?_⟩
      intro s ls g t hs h hg
      rw [OkRun.enodev_iff ls hs h hg]
      refine Iff.trans ?_ setUpResults_eq_nil_iff.symm
      refine ⟨fun hd => hd i, ?_⟩
      intro hi d
      rw [Subsingleton.elim d i]
      exact hi

end

/-- The divider of the feather, and a second one next to it. -/
def twoDividers : Nodes 2 where
  cfg i :=
    { ioChannel := if i = 0 then 7 else 3
      powerGpios := some ⟨0, if i = 0 then 25 else 12⟩
      outputOhm := 100000
      fullOhm := if i = 0 then 200000 else 150000 }
  vbatt := 0
  zephyrUser := 0
  thingy52 := false
  channel_inj := by decide
  power_inj i j gcp hi hj := by
    have hpower : ∀ i j : Fin 2,
        (if i = 0 then 25 else 12) = (if j = 0 then 25 else 12) → i = j := by
      decide
    rw [← hj, Option.some.injEq, GpioDtSpec.mk.injEq] at hi
    exact hpower i j hi.2

/-- Nothing of the second divider is its own. -/
theorem twoDividers_not_isolated :
    ¬ OwnReading twoDividers saadc ∧ ¬ OwnPower twoDividers saadc ∧ ¬ OwnSetUp twoDividers saadc :=
  ⟨not_ownReading (i := 1) (by decide), not_ownPower (i := 1) (by decide) rfl,
    not_ownSetUp (i := 1) (j := 0) (by decide)⟩

/-- The divider of the feather alone. -/
def oneDivider : Nodes 1 where
  cfg _ := featherDivider
  vbatt := 0
  zephyrUser := 0
  thingy52 := false
  channel_inj i j _ := Subsingleton.elim i j
  power_inj i j _ _ _ := Subsingleton.elim i j

/-- A get after a set-up and a fetch delivers what the fetch has read. -/
theorem isolated_iff_one :
    ∃ ls g t v, OkRun oneDivider.tree saadc (.boot : DevState (Fin 1)) (ls ++ [g]) t ∧
      ls.map DevLabel.op = [.init 0, .sampleFetch 0 .voltage] ∧ g.op = .channelGet 0 .voltage ∧
      g.rc = 0 ∧ g.val = some v ∧ FromOwn oneDivider saadc t 0 v := by
  have h := Op.calls_okRun oneDivider.tree saadc 4096 (.boot : DevState (Fin 1))
    [.init 0, .sampleFetch 0 .voltage, .channelGet 0 .voltage]
  refine ⟨[_, _], _, _, _, h, rfl, rfl, rfl, rfl, ?_⟩
  exact (isolated_iff.2 rfl _ [_, _] _ _ 0 _ DevState.boot_fresh h rfl rfl rfl).2
    (List.Sublist.refl _)

/-- A get right after the set-up returns 0, with the initial value of the static data. -/
theorem oneDivider_unsampled :
    ∃ ls g t, OkRun oneDivider.tree saadc (.boot : DevState (Fin 1)) (ls ++ [g]) t ∧
      ls.map DevLabel.op = [.init 0] ∧ g.op = .channelGet 0 .voltage ∧ g.rc = 0 ∧
      g.val = some ⟨0, 0⟩ ∧ ¬ FromOwn oneDivider saadc t 0 ⟨0, 0⟩ := by
  have h := Op.calls_okRun oneDivider.tree saadc 0 (.boot : DevState (Fin 1))
    [.init 0, .channelGet 0 .voltage]
  refine ⟨[_], _, _, h, rfl, rfl, rfl, rfl, ?_⟩
  rintro ⟨r, hr, -⟩
  cases hr

end NrfFeather
