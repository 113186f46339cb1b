import NrfFeather.UsbDetect.Buck2

/-!
# Start-up

`main` arms the callback, samples the VBUS status, stores it in `vbus_connected` and enters the
loop, which reads the flag only after a give. So the initial status is applied only if a callback
happens to wake the loop (`no_wakeup_at_start`), a callback between the sample and the store
has its value overwritten by the older one (`stale_sample`), and a pass that repeats the mode of the
one before leaves BUCK2 with a user too many (`repeated_mode`). `startup_settled` says, of the runs
that repeat no mode, exactly when a blocked loop has settled on the true VBUS state.
-/

namespace NrfFeather

open Effects Transition Signal

variable {ev : VbusEvents}

/-- The true VBUS state: what the last callback reported, or else what was sampled. -/
def State.vbus (s : State) : Bool := (s.hist.event <|> s.hist.sampled).getD false

/-- A pass has applied the mode to BUCK2's pull-down and to the console UART. -/
def State.Applied (s : State) (mode : Bool) : Prop :=
  s.hist.applied = some mode ∧ s.board.pulldown = !mode ∧ s.board.uartActive = mode

/-- The flag holds the true VBUS state, and a pass has applied its mode: to BUCK2, its output, its
users and its pull-down, and to the console UART. -/
def State.Settled (s : State) : Prop :=
  s.vbusConnected = s.vbus ∧ s.Applied s.vbus ∧ s.board.Drives s.vbus

/-- How far the pass for the selected mode has come. -/
def PassOk (s : State) : MainPc → Prop
  | .sample => s.hist.mode = none ∧ s.hist.applied = none ∧ s.hist.passes = 0
  | .store status =>
    s.hist.sampled = some status ∧ s.hist.mode = none ∧ s.hist.applied = none ∧ s.hist.passes = 0
  | .take =>
    s.hist.applied = s.hist.mode ∧ (s.hist.mode = none ↔ s.hist.passes = 0) ∧
      ∀ m, s.hist.mode = some m → s.Applied m
  | .read => 0 < s.hist.passes
  | .buck2 m => s.hist.mode = some m ∧ 0 < s.hist.passes
  | .uart m => s.hist.mode = some m ∧ 0 < s.hist.passes ∧ s.board.pulldown = !m
  | .returned => False

/-- The loop has been entered. -/
def MainPc.inLoop : MainPc → Bool
  | .sample | .store _ | .returned => false
  | _ => true

/-- What holds along a run whose driver calls succeed: how far the pass has come, and that until a
callback stores something in the loop, the flag and the modes selected are the sampled status. -/
structure Started (s : State) : Prop where
  pass : PassOk s s.pc
  flag : s.pc.inLoop = true → s.hist.stored = none →
    s.hist.sampled = some s.vbusConnected ∧ ∀ m, s.hist.mode = some m → m = s.vbusConnected

/-- A step of the callback leaves the pass where it is. -/
theorem PassOk.congr {s t : State} {pc : MainPc} (h : PassOk s pc) (hb : t.board = s.board)
    (hm : t.hist.mode = s.hist.mode) (ha : t.hist.applied = s.hist.applied)
    (hp : t.hist.passes = s.hist.passes) (hs : t.hist.sampled = s.hist.sampled) :
    PassOk t pc := by
  revert h
  cases pc <;> simp only [PassOk, State.Applied, hb, hm, ha, hp, hs] <;> exact id

/-- Each step whose driver calls succeed goes on with the pass as expected. -/
theorem Started.step {s t : State} {l : Label} (h : Started s) (ho : l.Ok)
    (hs : s.step ev l = some t) : Started t := by
  obtain ⟨hp, hf⟩ := h
  cases State.step_inv hs with
  | call | skipDetected | giveDetected | skipRemoved | giveRemoved =>
    exact ⟨hp.congr rfl rfl rfl rfl rfl, hf⟩
  | storeDetected | storeRemoved => exact ⟨hp.congr rfl rfl rfl rfl rfl, fun _ => nofun⟩
  | sampleFailed hpc hret => exact absurd hret (Int.not_lt.2 ho)
  | sampled hpc =>
    rw [hpc] at hp
    exact ⟨⟨rfl, hp⟩, nofun⟩
  | store hpc =>
    rw [hpc] at hp
    obtain ⟨hsampled, hmode, happlied, hpasses⟩ := hp
    have hnone : ∀ m, s.hist.mode ≠ some m := by rw [hmode]; nofun
    exact ⟨⟨happlied.trans hmode.symm, iff_of_true hmode hpasses, fun m hm => absurd hm (hnone m)⟩,
      fun _ _ => ⟨hsampled, fun m hm => absurd hm (hnone m)⟩⟩
  | take hpc => exact ⟨Nat.succ_pos _, fun _ => hf (by rw [hpc]; rfl)⟩
  | read hpc =>
    rw [hpc] at hp
    refine ⟨⟨rfl, hp⟩, fun _ hst => ⟨(hf (by rw [hpc]; rfl) hst).1, ?_⟩⟩
    intro m hm
    cases hm
    rfl
  | buck2 hpc =>
    rw [hpc] at hp
    rw [Board.run_buck2SetMode ho]
    exact ⟨⟨hp.1, hp.2, Board.pulldown_setBuck2 _ _⟩, fun _ => hf (by rw [hpc]; rfl)⟩
  | uart hpc =>
    rw [hpc] at hp
    rw [Board.run_uartSetMode ho]
    obtain ⟨hmode, hpasses, hpull⟩ := hp
    have hne : s.hist.mode ≠ none := by rw [hmode]; nofun
    refine ⟨⟨hmode.symm, iff_of_false hne (Nat.pos_iff_ne_zero.1 hpasses), fun m' hm' => ?_⟩,
      fun _ => hf (by rw [hpc]; rfl)⟩
    cases hmode.symm.trans hm'
    exact ⟨rfl, hpull, rfl⟩

/-- No pass was begun when the callback is armed. -/
theorem armed_started (flag : Bool) (board : Board) : Started (State.armed flag board) :=
  ⟨⟨rfl, rfl, rfl⟩, nofun⟩

/-- BUCK2 is driven to the mode selected last, or as at the start before the first one; before
`buck2_set_mode` it is driven to the other mode than the one to come. -/
def Driven (s : State) : MainPc → Prop
  | .buck2 m => s.board.Drives (!m)
  | _ => s.board.Drives (s.hist.mode.getD s.board.buck2On)

/-- Each such step that repeats no mode keeps BUCK2 driven to the mode it should be in. -/
theorem Driven.step {s t : State} {l : Label} (h : Driven s s.pc) (hh : Handed s s.pc) (ho : l.Ok)
    (hn : NoRepeat s l) (hs : s.step ev l = some t) : Driven t t.pc := by
  cases State.step_inv hs with
  | call | storeDetected | skipDetected | giveDetected | storeRemoved | skipRemoved | giveRemoved =>
    show Driven _ s.pc
    revert h
    cases s.pc <;> exact id
  | sampleFailed hpc | sampled hpc | store hpc | take hpc =>
    rw [hpc] at h
    exact h
  | read hpc =>
    rw [hpc] at h
    obtain ⟨hon, hcount⟩ := h
    have hother : s.board.buck2On = !s.vbusConnected := (Bool.not_eq.2 (hn hpc)).symm ▸ rfl
    refine ⟨hother, ?_⟩
    rw [hcount, ← hon, hother]
  | buck2 hpc =>
    rw [hpc] at h hh
    rw [Board.run_buck2SetMode ho]
    show (s.board.setBuck2 _).Drives (s.hist.mode.getD _)
    rw [show s.hist.mode = some _ from hh]
    exact Board.Drives.setBuck2 h
  | uart hpc =>
    rw [hpc] at h
    rw [Board.run_uartSetMode ho]
    exact h

/-- A blocked loop that no callback has woken has made no pass. -/
theorem blocked_passes {s : State} (hc : s.cell.Inv) (hb : s.Blocked) :
    0 < s.hist.passes ↔ 0 < s.hist.gives := by
  have hbalance : s.hist.passes + s.usbDetectSem.count ≤ s.hist.gives := hc.balance
  have hwoken : 0 < s.hist.gives → 0 < s.usbDetectSem.count ∨ 0 < s.hist.passes := hc.woken
  have hcount := hb.2.1
  omega

/-- When the loop is blocked, the mode of the last pass has been applied to everything; so if it is
that of the true VBUS state, the start-up has settled. -/
theorem Started.settled_of_mode {s : State} (hst : Started s) (hd : Driven s s.pc) (hb : s.Blocked)
    (hflag : s.vbusConnected = s.vbus) (hm : s.hist.mode = some s.vbus) : s.Settled := by
  obtain ⟨-, -, happlied⟩ : PassOk s .take := hb.1 ▸ hst.pass
  have hdrives : s.board.Drives (s.hist.mode.getD s.board.buck2On) := by
    rwa [hb.1] at hd
  rw [hm] at hdrives
  exact ⟨hflag, happlied _ hm, hdrives⟩

/-- In every run from the moment the callback is armed whose driver calls succeed and in which no
pass selects the mode that BUCK2 is in already, a blocked loop has settled on the true VBUS state if
and only if a callback has woken it and, unless a callback stored the flag after `main` did, the
status that `main` sampled is what the last callback reported. BUCK2 may be on or off at the start;
its regulator counts one user for it if it is on. -/
theorem startup_settled {flag : Bool} {board : Board} {ls : List Label} {s : State}
    (hboard : board.Drives board.buck2On)
    (h : Run (Guarded (Steps (State.step ev)) fun s l => l.Ok ∧ NoRepeat s l)
      (State.armed flag board) ls s)
    (hb : s.Blocked) :
    s.Settled ↔ 0 < s.hist.gives ∧ (s.hist.stored ≠ none ∨ s.hist.sampled = s.hist.event) := by
  have hst : Started s :=
    h.invariant (fun _ _ _ hi hl => hi.step hl.1.1 hl.2) (armed_started flag board)
  have hdriven : Handed s s.pc ∧ Driven s s.pc :=
    h.invariant (I := fun s => Handed s s.pc ∧ Driven s s.pc)
      (fun _ _ _ hi hl => ⟨hi.1.step hl.2, hi.2.step hi.1 hl.1.1 hl.1.2 hl.2⟩) ⟨rfl, hboard⟩
  have hrun : UsbRun ev (State.armed flag board) ls s := h.of_guarded
  have hc : s.cell.Inv := hrun.cell_inv (armed_cell_inv flag board)
  have ht : Traced ev s := UsbRun.traced h.of_guarded (armed_traced flag board)
  have hpasses := blocked_passes hc hb
  obtain ⟨happlied, hmode, -⟩ : PassOk s .take := hb.1 ▸ hst.pass
  by_cases hgives : 0 < s.hist.gives
  · obtain ⟨m, hm⟩ := Option.ne_none_iff_exists'.1 fun hn => by
      have := hmode.1 hn
      omega
    obtain ⟨e, he⟩ := Option.ne_none_iff_exists'.1 fun hn => by
      have := (ht.event hn).1
      omega
    have hvbus : s.vbus = e := by rw [State.vbus, he]; rfl
    cases hs : s.hist.stored with
    | some v =>
      -- the last callback stored after `main`: its value was read last and applied
      obtain ⟨hev, hflag, hm'⟩ := blocked_stored hc ht hb hs
      have hve : v = s.vbus := hvbus ▸ Option.some.inj (hev.symm.trans he)
      refine iff_of_true ?_ ⟨hgives, .inl nofun⟩
      exact hst.settled_of_mode hdriven.2 hb (hflag.trans hve) (hm'.trans (congrArg some hve))
    | none =>
      -- the flag is still the sampled status, and that is what every pass has applied
      obtain ⟨hsampled, hread⟩ := hst.flag (by rw [hb.1]; rfl) hs
      refine ⟨fun hset => ⟨hgives, .inr ?_⟩, fun ⟨_, hor⟩ => ?_⟩
      · rw [hsampled, hset.1, hvbus, he]
      · have hsame : s.hist.sampled = s.hist.event := hor.resolve_left fun h => h rfl
        rw [hsampled, he, Option.some.injEq, ← hvbus] at hsame
        exact hst.settled_of_mode hdriven.2 hb hsame (hm.trans (congrArg some
          ((hread m hm).trans hsame)))
  · have hmn : s.hist.mode = none := hmode.2 (by omega)
    refine iff_of_false ?_ fun hcond => hgives hcond.1
    intro hset
    have := hset.2.1.1
    rw [happlied, hmn] at this
    cases this

/-- VBUS is absent when it is sampled, and detected when the loop is entered. -/
theorem startup_settled_plugged :
    ∃ s, UsbRun vbusEvents (State.armed false .off)
        ([.sensorAttrGet 0 ⟨0, 0⟩, .main okOracle] ++ eventLabels vbusEvents.detected ++
          passLabels) s ∧
      (s.Settled ↔
        0 < s.hist.gives ∧ (s.hist.stored ≠ none ∨ s.hist.sampled = s.hist.event)) :=
  have h : Run (Guarded (Steps (State.step vbusEvents)) fun s l => l.Ok ∧ NoRepeat s l)
      (State.armed false .off)
      ([.sensorAttrGet 0 ⟨0, 0⟩, .main okOracle] ++ eventLabels vbusEvents.detected ++
        passLabels) _ :=
    .cons ⟨⟨Int.le_refl 0, trivial⟩, rfl⟩ <| .cons (guarded_main nofun rfl) <|
      .cons ⟨⟨trivial, trivial⟩, rfl⟩ <| .cons (guarded_callback rfl) <|
      .cons (guarded_callback rfl) <| .cons (guarded_callback rfl) <|
      .cons (guarded_main nofun rfl) <| .cons (guarded_main (fun _ => nofun) rfl) <|
      .cons (guarded_main nofun rfl) <| .cons (guarded_main nofun rfl) <| .nil _
  ⟨_, h.of_guarded, startup_settled ⟨rfl, rfl⟩ h ⟨rfl, rfl, rfl⟩⟩

/-! ## The three ways to miss the initial state -/

/-- The run leads to a blocked state, and to none before. -/
def FirstBlocked (ev : VbusEvents) (s : State) (ls : List Label) (t : State) : Prop :=
  UsbRun ev s ls t ∧ t.Blocked ∧ ∀ n < ls.length, ∀ u, UsbRun ev s (ls.take n) u → ¬ u.Blocked

instance (s : State) : Decidable s.Blocked := inferInstanceAs (Decidable (_ ∧ _ ∧ _))

/-- A run from labels blocks first at its end if none of their prefixes leads to a blocked state. -/
theorem FirstBlocked.of_exec {s t : State} {ls : List Label}
    (h : exec (State.step ev) s ls = some t) (hb : t.Blocked)
    (hn : ∀ n < ls.length, ∀ u ∈ exec (State.step ev) s (ls.take n), ¬ u.Blocked) :
    FirstBlocked ev s ls t :=
  ⟨exec_eq_some.1 h, hb, fun n hlt u hu => hn n hlt u (exec_eq_some.2 hu)⟩

/-- VBUS is present at start-up and nothing happens: the loop blocks at once, and no pass ever
applies the mode. -/
theorem no_wakeup_at_start :
    ∃ s, FirstBlocked vbusEvents (State.armed false .off)
        [.sensorAttrGet 0 ⟨1, 0⟩, .main okOracle] s ∧
      Label.Ok (.sensorAttrGet 0 ⟨1, 0⟩) ∧ Label.Ok (.main okOracle) ∧ ¬ s.Settled := by
  refine ⟨_, .of_exec rfl ⟨rfl, rfl, rfl⟩ (by decide +kernel), Int.le_refl 0, okOracle_ok, ?_⟩
  intro hset
  exact nomatch hset.2.1.1

/-- VBUS is absent when it is sampled and detected before the sample is stored: `main` overwrites
the newer value, and the pass the callback wakes the loop for applies the wrong mode. -/
theorem stale_sample :
    ∃ s, FirstBlocked vbusEvents (State.armed false .off)
        ([.sensorAttrGet 0 ⟨0, 0⟩] ++ eventLabels vbusEvents.detected ++ [.main okOracle] ++
          passLabels) s ∧
      s.vbus = true ∧ s.Applied false :=
  ⟨_, .of_exec rfl ⟨rfl, rfl, rfl⟩ (by decide +kernel), rfl, rfl, rfl, rfl⟩

/-- VBUS is detected before `main` stores the sample, and the flag is stored after that; while the
first pass is on its way VBUS is removed and detected again, and while the second one is, it is
removed for good. -/
def restless : List Label :=
  [.sensorAttrGet 0 ⟨0, 0⟩, .call vbusEvents.detected, .main okOracle] ++
  List.replicate 3 .callback ++ List.replicate 2 (.main okOracle) ++
  eventLabels vbusEvents.removed ++ eventLabels vbusEvents.detected ++
  List.replicate 4 (.main okOracle) ++ eventLabels vbusEvents.removed ++
  List.replicate 6 (.main okOracle)

/-- All driver calls of the run succeed. -/
theorem restless_ok : ∀ l ∈ restless, l.Ok := by
  intro l hl
  simp only [restless, List.mem_append, List.mem_cons, List.not_mem_nil, or_false,
    List.mem_replicate] at hl
  rcases hl with (((((((rfl | rfl | rfl) | h) | h) | h) | h) | h) | h) | h
  exacts [Int.le_refl 0, trivial, okOracle_ok, h.2 ▸ trivial, h.2 ▸ okOracle_ok,
    eventLabels_ok _ l h, eventLabels_ok _ l h, h.2 ▸ okOracle_ok, eventLabels_ok _ l h,
    h.2 ▸ okOracle_ok]

/-- A callback has woken the loop and stored the flag after `main` did, but the second pass repeats
the mode of the first: when the loop first blocks VBUS is absent, and BUCK2 is on. -/
theorem repeated_mode :
    ∃ s, FirstBlocked vbusEvents (State.armed false .off) restless s ∧ (∀ l ∈ restless, l.Ok) ∧
      0 < s.hist.gives ∧ s.hist.stored ≠ none ∧ s.vbus = false ∧ s.board.buck2On = true ∧
      ¬ s.Settled := by
  refine ⟨_, .of_exec rfl ⟨rfl, rfl, rfl⟩ (by decide +kernel), restless_ok, Nat.succ_pos _, nofun,
    rfl, rfl, ?_⟩
  intro hset
  exact nomatch hset.2.2.1

end NrfFeather
