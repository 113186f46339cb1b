import Mathlib.Data.Bool.Count
import NrfFeather.UsbDetect.Buck2
import NrfFeather.UsbDetect.Startup

/-!
# Driver faults

What the driver calls of the USB-detect sample leave behind when they may fail, and when a pass
repeats the mode of the one before. BUCK2's reference count adds up the regulator calls that took
effect, and the output follows its sign, so an unbalanced count is never corrected
(`buck2_follows_calls`). The pull-down and the console UART are set anew in every pass: whatever
went wrong before, a single pass whose calls succeed puts them right (`faults_recover`).
-/

namespace NrfFeather

open Effects Transition Signal

variable {ev : VbusEvents}

/-! ## BUCK2 -/

/-- BUCK2 is on exactly while its count of users is positive. -/
def Board.Counted (b : Board) : Prop := b.buck2On = true ↔ 0 < b.refcnt

/-- The regulator call of `buck2_set_mode` is reached and takes effect. -/
def PmicOracle.regulates (o : PmicOracle) (enabled : Bool) : Bool :=
  o (.deviceIsReady .pmic) &&
    if enabled then decide (0 ≤ (o .regulatorEnable : Int))
    else decide (0 ≤ (o .regulatorDisable : Int))

/-- Enabling the regulator keeps the count and the output together. -/
theorem Board.Counted.enable {b : Board} (h : b.Counted) : b.enable.Counted := by
  unfold Counted Board.enable at *
  dsimp only
  split
  · next h0 => exact iff_of_true rfl (by omega)
  · next h0 => rw [h]; omega

/-- So does disabling it. -/
theorem Board.Counted.disable {b : Board} (h : b.Counted) : b.disable.Counted := by
  unfold Counted Board.disable at *
  dsimp only
  split
  · next h1 => exact iff_of_false Bool.false_ne_true (by omega)
  · next h1 => rw [h]; omega

/-- The count of users and the output. -/
def Board.regulator (b : Board) : Int × Bool := (b.refcnt, b.buck2On)

/-- An update of a register leaves the regulator alone. -/
theorem Board.regulator_update (b : Board) (base offset data mask : BitVec 8) (r : Int) :
    (b.next (.mfdNpm1300RegUpdate base offset data mask) r).regulator = b.regulator := by
  dsimp only [next]
  split
  · rfl
  · rfl

/-- The regulator after `buck2_set_mode`, whatever its calls answer. -/
theorem Board.regulator_buck2SetMode (b : Board) (o : PmicOracle) (enabled : Bool) :
    (b.run o (buck2SetMode enabled)).regulator =
      (if o.regulates enabled then if enabled then b.enable else b.disable else b).regulator := by
  have hlog (b : Board) (c : Prop) [Decidable c] (x y : Int) :
      (runWith env o b (if c then .ret x else .ret y)).2.2 = b := by
    split
    · rfl
    · rfl
  by_cases hr : o (.deviceIsReady .pmic) = true
  · cases enabled with
    | true =>
      by_cases he : (o .regulatorEnable : Int) < 0
      · simp [run, buck2SetMode, deviceIsReady, regulatorEnable, PmicOracle.regulates, env, next,
          hr, he, Int.not_le.2 he]
      · simp only [run, buck2SetMode, deviceIsReady, regulatorEnable, mfdNpm1300RegUpdate,
          PmicOracle.regulates, Prog.perform_bind, Prog.pure_eq, runWith_call, hr, he, hlog,
          Int.not_lt.1 he, Bool.not_true, Bool.false_eq_true, if_false, if_true, Bool.true_and,
          decide_true]
        exact (regulator_update _ _ _ _ _ _).trans (congrArg regulator (if_neg he))
    | false =>
      by_cases hd : (o .regulatorDisable : Int) < 0
      · simp [run, buck2SetMode, deviceIsReady, regulatorDisable, PmicOracle.regulates, env, next,
          hr, hd, Int.not_le.2 hd]
      · simp only [run, buck2SetMode, deviceIsReady, regulatorDisable, mfdNpm1300RegUpdate,
          PmicOracle.regulates, Prog.perform_bind, Prog.pure_eq, runWith_call, hr, hd, hlog,
          Int.not_lt.1 hd, Bool.not_true, Bool.false_eq_true, if_false, if_true, Bool.true_and,
          decide_true]
        exact (regulator_update _ _ _ _ _ _).trans (congrArg regulator (if_neg hd))
  · simp [run, buck2SetMode, deviceIsReady, PmicOracle.regulates, env, next, hr]

/-- An action on the UART leaves the regulator alone. -/
theorem Board.regulator_pmDeviceActionRun (b : Board) (action : PmDeviceAction) (r : Int) :
    (b.next (.pmDeviceActionRun action) r).regulator = b.regulator := by
  dsimp only [next]
  split
  · rfl
  · rfl

/-- So `uart_set_mode` does not touch BUCK2. -/
theorem Board.regulator_uartSetMode (b : Board) (o : PmicOracle) (enabled : Bool) :
    (b.run o (uartSetMode enabled)).regulator = b.regulator := by
  by_cases hr : o (.deviceIsReady .consoleDev) = true
  · cases enabled with
    | true =>
      simp only [run, uartSetMode, deviceIsReady, pmDeviceActionRun, Prog.perform_bind,
        Prog.pure_eq, runWith_call, hr, Bool.not_true, Bool.false_eq_true, if_false, if_true]
      split
      · exact b.regulator_pmDeviceActionRun _ _
      · exact b.regulator_pmDeviceActionRun _ _
    | false =>
      simp only [run, uartSetMode, deviceIsReady, pmDeviceActionRun, tasksHfclkstop,
        Prog.perform_bind, Prog.pure_eq, runWith_call, hr, Bool.not_true, Bool.false_eq_true,
        if_false]
      split
      · exact b.regulator_pmDeviceActionRun _ _
      · exact b.regulator_pmDeviceActionRun _ _
  · simp [run, uartSetMode, deviceIsReady, env, next, hr]

/-- The count and the output are those of the regulator. -/
theorem Board.Counted.congr {b b' : Board} (h : b.Counted) (hb : b'.regulator = b.regulator) :
    b'.Counted ∧ b'.refcnt = b.refcnt := by
  obtain ⟨hcount, hon⟩ := Prod.ext_iff.1 hb
  have hcount : b'.refcnt = b.refcnt := hcount
  have hon : b'.buck2On = b.buck2On := hon
  refine ⟨?_, hcount⟩
  rw [Counted, hcount, hon]
  exact h

/-- What a user more or less does to the count. -/
def weight (enabled : Bool) : Int := if enabled then 1 else -1

/-- The mode of the regulator call that takes effect in a step. -/
def State.regulated (s : State) : Label → Option Bool
  | .main o =>
    match s.pc with
    | .buck2 mode => if o.regulates mode then some mode else none
    | _ => none
  | _ => none

/-- The modes of the regulator calls that take effect in a run, in order. -/
def regulatorCalls (ev : VbusEvents) : State → List Label → List Bool
  | _, [] => []
  | s, l :: ls =>
    (s.regulated l).toList ++ ((s.step ev l).map fun t => regulatorCalls ev t ls).getD []

/-- The effective calls of a run are those of its first step and of the rest. -/
theorem regulatorCalls_cons {s t : State} {l : Label} {ls : List Label}
    (h : s.step ev l = some t) :
    regulatorCalls ev s (l :: ls) = (s.regulated l).toList ++ regulatorCalls ev t ls := by
  rw [regulatorCalls, h]
  rfl

/-- A step changes the count by its effective calls. -/
theorem State.counted_step {s t : State} {l : Label} (h : s.step ev l = some t)
    (hs : s.board.Counted) :
    t.board.Counted ∧
      t.board.refcnt = s.board.refcnt + ((s.regulated l).toList.map weight).sum := by
  have hsame {t : State} (hb : t.board.regulator = s.board.regulator)
      (hl : s.regulated l = none) : t.board.Counted ∧
        t.board.refcnt = s.board.refcnt + ((s.regulated l).toList.map weight).sum := by
    rw [hl]
    obtain ⟨hcounted, hcount⟩ := hs.congr hb
    exact ⟨hcounted, hcount.trans (Int.add_zero _).symm⟩
  cases State.step_inv h with
  | call | storeDetected | skipDetected | giveDetected | storeRemoved | skipRemoved | giveRemoved
  | sampleFailed | sampled => exact hsame rfl rfl
  | store hpc | take hpc | read hpc => exact hsame rfl (by rw [State.regulated, hpc])
  | @uart o mode hpc =>
    exact hsame (s.board.regulator_uartSetMode o mode) (by rw [State.regulated, hpc])
  | @buck2 o mode hpc =>
    have hreg := s.board.regulator_buck2SetMode o mode
    rw [State.regulated, hpc]
    dsimp only
    by_cases hmode : o.regulates mode = true
    · rw [if_pos hmode] at hreg ⊢
      cases mode with
      | true => exact hs.enable.congr hreg
      | false => exact hs.disable.congr hreg
    · rw [if_neg hmode] at hreg ⊢
      obtain ⟨hcounted, hcount⟩ := hs.congr hreg
      exact ⟨hcounted, hcount.trans (Int.add_zero _).symm⟩

/-- The calls that enable add one each, and those that disable take one away. -/
theorem sum_weight (modes : List Bool) :
    (modes.map weight).sum = modes.count true - modes.count false := by
  induction modes with
  | nil => rfl
  | cons mode modes ih =>
    rw [List.map_cons, List.sum_cons, ih]
    cases mode <;> simp [weight] <;> omega

/-- The count of users adds up the regulator calls of a run. -/
theorem UsbRun.counted {s t : State} {ls : List Label} (h : UsbRun ev s ls t)
    (hs : s.board.Counted) :
    t.board.Counted ∧ t.board.refcnt = s.board.refcnt + (regulatorCalls ev s ls).count true -
      (regulatorCalls ev s ls).count false := by
  have hsum : t.board.Counted ∧
      t.board.refcnt = s.board.refcnt + ((regulatorCalls ev s ls).map weight).sum := by
    induction h with
    | nil s => exact ⟨hs, (Int.add_zero _).symm⟩
    | cons hl _ ih =>
      obtain ⟨hcounted, hcount⟩ := State.counted_step hl hs
      obtain ⟨ht, hsum⟩ := ih hcounted
      refine ⟨ht, ?_⟩
      rw [regulatorCalls_cons hl, List.map_append, List.sum_append, hsum, hcount, Int.add_assoc]
  refine ⟨hsum.1, ?_⟩
  rw [hsum.2, sum_weight]
  omega

/-- In every run, whatever the driver calls answer and however often a mode is repeated, BUCK2's
count of users is what it was plus the enabling calls that took effect, less the disabling ones,
and the output is on exactly while that is positive. -/
theorem buck2_follows_calls {s t : State} {ls : List Label} (h : UsbRun ev s ls t)
    (hs : s.board.Counted) :
    t.board.refcnt = s.board.refcnt + (regulatorCalls ev s ls).count true -
        (regulatorCalls ev s ls).count false ∧
      (t.board.buck2On = true ↔ 0 < t.board.refcnt) := by
  obtain ⟨hcounted, hcount⟩ := h.counted hs
  exact ⟨hcount, hcounted⟩

/-- The board that is off counts nobody. -/
theorem Board.off_counted : Board.off.Counted := iff_of_false nofun (Int.lt_irrefl 0)

/-- In the bounce the regulator is enabled twice and disabled once. -/
theorem buck2_follows_calls_bounce :
    ∃ s, UsbRun vbusEvents (State.loopEntry .off) bounce s ∧
      regulatorCalls vbusEvents (State.loopEntry .off) bounce = [true, true, false] ∧
      s.board.refcnt = 1 ∧ s.board.buck2On = true := by
  have h : UsbRun vbusEvents (State.loopEntry .off) bounce _ := exec_eq_some.1 rfl
  obtain ⟨hcount, hon⟩ := buck2_follows_calls h Board.off_counted
  exact ⟨_, h, rfl, hcount, hon.2 (show (0 : Int) < 1 from Int.zero_lt_one)⟩

/-- As long as enabling and disabling calls take turns, a BUCK2 that has one user too many stays on
for good, and one that has one too few stays off. -/
theorem imbalance_stays {s t : State} {ls : List Label} (h : UsbRun ev s ls t)
    (hs : s.board.Counted) (halt : (regulatorCalls ev s ls).IsChain (· ≠ ·)) :
    (2 ≤ s.board.refcnt → t.board.buck2On = true) ∧
      (s.board.refcnt ≤ -1 → t.board.buck2On = false) := by
  obtain ⟨hon, hcount⟩ := h.counted hs
  have hfalse := halt.count_false_le_count_true_add_one
  have htrue := halt.count_true_le_count_false_add_one
  refine ⟨fun hmany => hon.2 (by omega), fun hfew => Bool.eq_false_iff.2 fun ht => ?_⟩
  have hpos := hon.1 ht
  omega

/-- BUCK2 is on, with one user too many. -/
def Board.crowded : Board := { Board.off with refcnt := 2, buck2On := true }

/-- BUCK2 has two users, and stays on when VBUS is removed. -/
theorem imbalance_stays_removed :
    ∃ s, UsbRun vbusEvents (State.loopEntry .crowded)
        (eventLabels vbusEvents.removed ++ passLabels) s ∧
      s.hist.event = some false ∧ s.board.buck2On = true := by
  have h : UsbRun vbusEvents (State.loopEntry .crowded)
      (eventLabels vbusEvents.removed ++ passLabels) _ := exec_eq_some.1 rfl
  have hcounted : Board.crowded.Counted := iff_of_true rfl (by decide)
  exact ⟨_, h, rfl, (imbalance_stays h hcounted (.singleton false)).1 (Int.le_refl 2)⟩

/-! ## The pull-down and the console UART -/

/-- How far a pass for the selected mode has come, if it was begun after the first `n` passes. -/
def PassSince (n : Nat) (s : State) : MainPc → Prop
  | .take => n < s.hist.passes → ∀ m, s.hist.mode = some m → s.Applied m
  | .read => True
  | .buck2 m => s.hist.mode = some m
  | .uart m => s.hist.mode = some m ∧ s.board.pulldown = !m
  | _ => False

/-- A step of the callback leaves the pass where it is. -/
theorem PassSince.congr {n : Nat} {s t : State} {pc : MainPc} (h : PassSince n s pc)
    (hb : t.board = s.board) (hm : t.hist.mode = s.hist.mode)
    (ha : t.hist.applied = s.hist.applied) (hp : t.hist.passes = s.hist.passes) :
    PassSince n t pc := by
  revert h
  cases pc <;> simp only [PassSince, State.Applied, hb, hm, ha, hp] <;> exact id

/-- Each step whose driver calls succeed keeps to the pass that was begun. -/
theorem PassSince.step {n : Nat} {s t : State} {l : Label} (h : PassSince n s s.pc) (ho : l.Ok)
    (hs : s.step ev l = some t) : PassSince n t t.pc := by
  cases State.step_inv hs with
  | call | storeDetected | skipDetected | giveDetected | storeRemoved | skipRemoved | giveRemoved =>
    exact h.congr rfl rfl rfl rfl
  -- the loop has been entered
  | sampleFailed hpc | sampled hpc | store hpc =>
    rw [hpc] at h
    exact h.elim
  | take => trivial
  | read => exact rfl
  | buck2 hpc =>
    rw [hpc] at h
    rw [Board.run_buck2SetMode ho]
    exact ⟨h, Board.pulldown_setBuck2 _ _⟩
  | uart hpc =>
    rw [hpc] at h
    rw [Board.run_uartSetMode ho]
    obtain ⟨hmode, hpull⟩ := h
    intro _ m hm
    cases hmode.symm.trans hm
    exact ⟨rfl, hpull, rfl⟩

/-- Whatever failed before: if from the beginning of some pass on the driver calls succeed, then
once that pass has been made and the loop is blocked, the flag, the pull-down and the console UART
agree with the last VBUS event. -/
theorem faults_recover {flag : Bool} {board : Board} {s t : State} {ls₁ ls₂ : List Label}
    (h₁ : UsbRun ev (State.armed flag board) ls₁ s) (hpc : s.pc = .take)
    (h₂ : Run (Guarded (Steps (State.step ev)) fun _ l => l.Ok) s ls₂ t)
    (hpass : s.hist.passes < t.hist.passes) (hb : t.Blocked)
    (hcalled : t.hist.called = true ∨ t.hist.stored ≠ none) :
    ∃ v, t.hist.event = some v ∧ t.vbusConnected = v ∧ t.Applied v := by
  have hrun : UsbRun ev (State.armed flag board) (ls₁ ++ ls₂) t := h₁.append h₂.of_guarded
  have hc : t.cell.Inv := hrun.cell_inv (armed_cell_inv flag board)
  have ht : Traced ev t := UsbRun.traced hrun (armed_traced flag board)
  have hstored : t.hist.stored ≠ none := by
    rcases hcalled with hcalled | hstored
    · exact ht.stored_of_called hb.2.2 hcalled
    · exact hstored
  obtain ⟨v, hv⟩ := Option.ne_none_iff_exists'.1 hstored
  obtain ⟨hevent, hflag, hmode⟩ := blocked_stored hc ht hb hv
  have hstart : PassSince s.hist.passes s s.pc := by
    rw [hpc]
    exact fun h => absurd h (Nat.lt_irrefl _)
  have hsince : PassSince s.hist.passes t t.pc :=
    h₂.invariant (I := fun t => PassSince s.hist.passes t t.pc)
      (fun _ _ _ hi hl => hi.step hl.1 hl.2) hstart
  rw [hb.1] at hsince
  exact ⟨v, hevent, hflag, hsince hpass v hmode⟩

/-- Drivers whose every call fails. -/
def failingOracle : PmicOracle
  | .deviceIsReady _ | .regulatorIsEnabled => false
  | .mfdNpm1300RegRead _ _ => (- EIO, 0)
  | .tasksHfclkstop => ()
  | .regulatorEnable | .regulatorDisable | .mfdNpm1300RegWrite _ _ _
  | .mfdNpm1300RegUpdate _ _ _ _ | .pmDeviceActionRun _ => - EIO

/-- VBUS is detected, and every driver call of the pass fails. -/
def failedPass : List Label :=
  [.sensorAttrGet 0 ⟨0, 0⟩, .main failingOracle] ++ eventLabels vbusEvents.detected ++
    List.replicate 4 (.main failingOracle)

/-- The state these labels lead to. -/
def State.afterFailedPass : State :=
  (exec (State.step vbusEvents) (.armed false .off) failedPass).getD (.armed false .off)

/-- After the failed pass, one that removes VBUS. -/
theorem faults_recover_removed :
    UsbRun vbusEvents (.armed false .off) failedPass .afterFailedPass ∧
      ∃ t, UsbRun vbusEvents .afterFailedPass (eventLabels vbusEvents.removed ++ passLabels) t ∧
        ∃ v, t.hist.event = some v ∧ t.vbusConnected = v ∧ t.Applied v := by
  have h₁ : UsbRun vbusEvents (.armed false .off) failedPass .afterFailedPass :=
    exec_eq_some.1 rfl
  have h₂ : UsbRun vbusEvents .afterFailedPass (eventLabels vbusEvents.removed ++ passLabels) _ :=
    exec_eq_some.1 rfl
  refine ⟨h₁, _, h₂, faults_recover h₁ rfl (h₂.guard ?_) ?_ ⟨rfl, rfl, rfl⟩ (.inl rfl)⟩
  · intro l hl
    rcases List.mem_append.1 hl with hl | hl
    exacts [eventLabels_ok _ l hl, passLabels_ok l hl]
  · exact Nat.lt_succ_self 1

end NrfFeather
