import NrfFeather.UsbDetect.Handoff

/-!
# BUCK2 and the VBUS events

The loop drives BUCK2 through a reference-counted regulator, so a pass that selects the mode BUCK2
is in already unbalances the count. Passes can repeat a mode: the flag holds only the last of the
events between two passes, and after a bounce that is the one before it (`bounce_unbalances`). In
a run in which no pass does (`NoRepeat`) the loop and the events agree whenever the loop is blocked
(`buck2_agrees`); and a pass that does, and after which nothing more happens, leaves them in
disagreement (`repeat_disagrees`).
-/

namespace NrfFeather

open Effects Transition Signal

variable {ev : VbusEvents}

/-! ## The board -/

/-- BUCK2 is off with its pull-down set and no user, or on without pull-down and with one. -/
structure Board.Consistent (b : Board) : Prop where
  pulldown : b.pulldown = !b.buck2On
  refcnt : b.refcnt = if b.buck2On then 1 else 0

/-- BUCK2's output is the mode's, and it has one user if that is on and none if it is off. -/
def Board.Drives (b : Board) (mode : Bool) : Prop :=
  b.buck2On = mode ∧ b.refcnt = if mode then 1 else 0

/-- A consistent board drives BUCK2 as its output says. -/
theorem Board.Consistent.drives {b : Board} (h : b.Consistent) : b.Drives b.buck2On :=
  ⟨rfl, h.refcnt⟩

/-- A change of mode drives BUCK2 to it. -/
theorem Board.Drives.setBuck2 {b : Board} {enabled : Bool} (h : b.Drives (!enabled)) :
    (b.setBuck2 enabled).Drives enabled := by
  have hcount := h.2
  cases enabled <;>
    simp [Board.Drives, Board.setBuck2, Board.enable, Board.disable, Board.setReg, hcount]

/-- A change of mode keeps the board consistent. -/
theorem Board.Consistent.setBuck2 {b : Board} (h : b.Consistent) {enabled : Bool}
    (hb : b.buck2On = !enabled) :
    (b.setBuck2 enabled).Consistent ∧ (b.setBuck2 enabled).buck2On = enabled := by
  obtain ⟨hon, hcount⟩ := Board.Drives.setBuck2 (hb ▸ h.drives)
  exact ⟨⟨by rw [Board.pulldown_setBuck2, hon], by rw [hon, hcount]⟩, hon⟩

/-- A repeated mode takes the reference count out of balance. -/
theorem Board.Consistent.setBuck2_repeat {b : Board} (h : b.Consistent) {enabled : Bool}
    (hb : b.buck2On = enabled) : (b.setBuck2 enabled).refcnt = if enabled then 2 else -1 := by
  have hcount := h.refcnt
  cases enabled <;> simp [Board.setBuck2, Board.enable, Board.disable, Board.setReg, hb, hcount]

/-! ## Runs without repeated modes -/

/-- The step does not select the mode that BUCK2 is in: where it is the loop's read of
`vbus_connected`, the flag differs from BUCK2's output. -/
def NoRepeat (s : State) : Label → Prop
  | .main _ => s.pc = .read → s.vbusConnected ≠ s.board.buck2On
  | _ => True

/-- The loop is entered with VBUS absent and the semaphore down. -/
def State.loopEntry (board : Board) : State :=
  { State.armed false board with pc := .take }

/-- BUCK2 is on if and only if the last event was a detection, its pull-down is set if and only if
it is off, and its reference count is 0 or 1. -/
def State.Agrees (s : State) : Prop :=
  (s.board.buck2On = true ↔ s.hist.event = some true) ∧
  (s.board.pulldown = true ↔ s.board.buck2On = false) ∧
  (s.board.refcnt = 0 ∨ s.board.refcnt = 1)

/-- How BUCK2's output stands to the mode of the last pass: it follows it, except before
`buck2_set_mode`. -/
def ModeOk (on : Bool) (mode : Option Bool) : MainPc → Prop
  | .buck2 m => mode = some m ∧ on = !m
  | .take | .read | .uart _ => on = mode.getD false
  | _ => False

/-- What holds along a run that repeats no mode. -/
structure Balanced (s : State) : Prop where
  board : s.board.Consistent
  mode : ModeOk s.board.buck2On s.hist.mode s.pc
  called : s.hist.event ≠ none → s.hist.called = true
  passes : s.hist.passes = 0 → s.hist.mode = none ∧ s.pc ≠ .read

/-- A step whose driver calls succeed, and that repeats no mode, keeps the board balanced. -/
theorem Balanced.step {s t : State} {l : Label} (h : Balanced s) (ho : l.Ok) (hn : NoRepeat s l)
    (hs : s.step ev l = some t) : Balanced t := by
  obtain ⟨hb, hm, hc, hp⟩ := h
  cases State.step_inv hs with
  | @call pins =>
    refine ⟨hb, hm, ?_, hp⟩
    intro hne
    show (s.hist.called || (polarity ev pins).isSome) = true
    cases hpol : polarity ev pins with
    | none =>
      have hne : (polarity ev pins <|> s.hist.event) ≠ none := hne
      rw [hpol] at hne
      rw [hc hne]; rfl
    | some v => exact Bool.or_true _
  | storeDetected | skipDetected | giveDetected | storeRemoved | skipRemoved | giveRemoved =>
    exact ⟨hb, hm, hc, hp⟩
  -- the loop has been entered
  | sampleFailed hpc | sampled hpc | store hpc =>
    rw [hpc] at hm
    exact hm.elim
  | take hpc =>
    rw [hpc] at hm
    exact ⟨hb, hm, hc, fun hz => nomatch hz⟩
  | read hpc =>
    refine ⟨hb, ⟨rfl, ?_⟩, hc, fun hz => absurd hpc (hp hz).2⟩
    have hne : s.vbusConnected ≠ s.board.buck2On := hn hpc
    show s.board.buck2On = !s.vbusConnected
    revert hne
    cases s.vbusConnected <;> cases s.board.buck2On <;> decide
  | @buck2 o m hpc =>
    rw [hpc] at hm
    obtain ⟨hmode, hon⟩ := hm
    rw [Board.run_buck2SetMode ho]
    obtain ⟨hb', hon'⟩ := hb.setBuck2 hon
    refine ⟨hb', ?_, hc, fun hz => ⟨(hp hz).1, nofun⟩⟩
    show (s.board.setBuck2 m).buck2On = s.hist.mode.getD false
    rw [hon', hmode]; rfl
  | uart hpc =>
    rw [hpc] at hm
    rw [Board.run_uartSetMode ho]
    exact ⟨⟨hb.pulldown, hb.refcnt⟩, hm, hc, fun hz => ⟨(hp hz).1, nofun⟩⟩

/-- With BUCK2 off the board is balanced when the loop is entered. -/
theorem Balanced.loopEntry {board : Board} (h : board.Consistent) (hoff : board.buck2On = false) :
    Balanced (State.loopEntry board) :=
  ⟨h, hoff, fun hn => absurd rfl hn, fun _ => ⟨rfl, nofun⟩⟩

/-- Nothing was given or taken when the loop is entered. -/
theorem loopEntry_cell_inv (board : Board) : (State.loopEntry board).cell.Inv :=
  ⟨nofun, Nat.le_refl _, nofun⟩

/-- Nor was anything stored. -/
theorem loopEntry_traced (board : Board) : Traced ev (State.loopEntry board) :=
  ⟨nofun, nofun, nofun, fun _ => ⟨rfl, rfl⟩⟩

/-- In every run from the loop's entry whose driver calls succeed and in which no pass selects the
mode that BUCK2 is in already, BUCK2 agrees with the last event whenever the loop is blocked. -/
theorem buck2_agrees {board : Board} (hb : board.Consistent) (hoff : board.buck2On = false)
    {ls : List Label} {s : State}
    (h : Run (Guarded (Steps (State.step ev)) fun s l => l.Ok ∧ NoRepeat s l)
      (State.loopEntry board) ls s)
    (hs : s.Blocked) : s.Agrees := by
  have hbal : Balanced s :=
    h.invariant (fun _ _ _ hi hl => hi.step hl.1.1 hl.1.2 hl.2) (Balanced.loopEntry hb hoff)
  have hrun : UsbRun ev (State.loopEntry board) ls s := h.of_guarded
  have hc : s.cell.Inv := UsbRun.cell_inv hrun (loopEntry_cell_inv board)
  have ht : Traced ev s := UsbRun.traced h.of_guarded (loopEntry_traced board)
  have hmode := hbal.mode
  rw [hs.1] at hmode
  have hon : s.board.buck2On = s.hist.mode.getD false := hmode
  refine ⟨?_, ?_, ?_⟩
  · cases he : s.hist.event with
    | none =>
      -- no event, so no give, so no pass: BUCK2 is still off
      have hgives := (ht.event he).1
      have hbalance : s.hist.passes + s.usbDetectSem.count ≤ s.hist.gives := hc.balance
      rw [hon, (hbal.passes (by omega)).1]
      simp
    | some v =>
      have hst : s.hist.stored ≠ none :=
        ht.stored_of_called hs.2.2 (hbal.called (by rw [he]; nofun))
      obtain ⟨w, hw⟩ := Option.ne_none_iff_exists'.1 hst
      obtain ⟨hev, -, hm⟩ := blocked_stored hc ht hs hw
      rw [hon, hm, ← hev, he]
      simp
  · rw [hbal.board.pulldown]
    cases s.board.buck2On <;> decide
  · rw [hbal.board.refcnt]
    cases s.board.buck2On <;> decide

/-- The board that is off is consistent. -/
theorem Board.off_consistent : Board.off.Consistent := ⟨rfl, rfl⟩

/-- A step of the callback makes no driver call, and repeats no mode. -/
theorem guarded_callback {s t : State} (h : s.callback vbusEvents = some t) :
    Guarded (Steps (State.step vbusEvents)) (fun s l => l.Ok ∧ NoRepeat s l) s .callback t :=
  ⟨⟨trivial, trivial⟩, h⟩

/-- A step of `main` whose driver calls succeed, and that repeats no mode if it reads one. -/
theorem guarded_main {s t : State} (hn : s.pc = .read → s.vbusConnected ≠ s.board.buck2On)
    (h : s.main okOracle = some t) :
    Guarded (Steps (State.step vbusEvents)) (fun s l => l.Ok ∧ NoRepeat s l) s
      (.main okOracle) t :=
  ⟨⟨okOracle_ok, hn⟩, h⟩

/-- VBUS is detected, and the loop makes its pass. -/
theorem buck2_agrees_plugged :
    ∃ s, UsbRun vbusEvents (State.loopEntry .off)
        (eventLabels vbusEvents.detected ++ passLabels) s ∧ s.Agrees :=
  have h : Run (Guarded (Steps (State.step vbusEvents)) fun s l => l.Ok ∧ NoRepeat s l)
      (State.loopEntry .off) (eventLabels vbusEvents.detected ++ passLabels) _ :=
    .cons ⟨⟨trivial, trivial⟩, rfl⟩ <| .cons (guarded_callback rfl) <|
      .cons (guarded_callback rfl) <| .cons (guarded_callback rfl) <|
      .cons (guarded_main nofun rfl) <| .cons (guarded_main (fun _ => nofun) rfl) <|
      .cons (guarded_main nofun rfl) <| .cons (guarded_main nofun rfl) <| .nil _
  ⟨_, h.of_guarded, buck2_agrees Board.off_consistent rfl h ⟨rfl, rfl, rfl⟩⟩

/-! ## Repeated modes -/

/-- The pins words of the callbacks of a run. -/
def Label.pins : Label → Option (BitVec 32)
  | .call pins => some pins
  | _ => none

/-- Detections and removals take turns; `next` is the event that is due. -/
def Alternating (ev : VbusEvents) : Bool → List (BitVec 32) → Prop
  | _, [] => True
  | next, pins :: rest =>
    pins = (if next then ev.detected else ev.removed) ∧ Alternating ev (!next) rest

/-- VBUS is detected and the loop makes its pass; it is removed and detected again before the loop
reads the flag, so that the next pass enables the regulator a second time; then it is removed for
good. -/
def bounce : List Label :=
  eventLabels vbusEvents.detected ++ passLabels ++
  eventLabels vbusEvents.removed ++ eventLabels vbusEvents.detected ++ passLabels ++
  eventLabels vbusEvents.removed ++ passLabels

/-- After the bounce BUCK2 stays on for good: the last event was a removal and the loop is blocked,
but the output is on, with its pull-down set. -/
theorem bounce_unbalances :
    ∃ s, UsbRun vbusEvents (State.loopEntry .off) bounce s ∧
      Alternating vbusEvents true (bounce.filterMap Label.pins) ∧ (∀ l ∈ bounce, l.Ok) ∧
      s.Blocked ∧ ¬ s.Agrees := by
  refine ⟨_, exec_eq_some.1 rfl, ⟨rfl, rfl, rfl, rfl, trivial⟩, ?_, ⟨rfl, rfl, rfl⟩, ?_⟩
  · intro l hl
    simp only [bounce, List.mem_append] at hl
    rcases hl with (((((h | h) | h) | h) | h) | h) | h
    exacts [eventLabels_ok _ l h, passLabels_ok l h, eventLabels_ok _ l h, eventLabels_ok _ l h,
      passLabels_ok l h, eventLabels_ok _ l h, passLabels_ok l h]
  · intro h
    have hoff : (true : Bool) = true ↔ some false = some true := h.1
    exact nomatch hoff.1 rfl

/-- A pass that repeats the mode of a consistent board, with nothing happening after it, leaves
BUCK2 in disagreement with the events, whatever they were. -/
theorem repeat_disagrees {s t : State} {o₁ o₂ o₃ : PmicOracle} (h₂ : o₂.Ok) (h₃ : o₃.Ok)
    (hb : s.board.Consistent) (hpc : s.pc = .read) (hr : s.vbusConnected = s.board.buck2On)
    (h : UsbRun ev s [.main o₁, .main o₂, .main o₃] t) : ¬ t.Agrees := by
  have ht : t.board.refcnt = (s.board.setBuck2 s.vbusConnected).refcnt := by
    have he := exec_eq_some.2 h
    simp only [exec, State.step, State.main, hpc, Option.bind_some, Board.run_buck2SetMode h₂,
      Board.run_uartSetMode h₃, Option.some.injEq] at he
    rw [← he]
  rintro ⟨-, -, h'⟩
  rw [ht, hb.setBuck2_repeat hr.symm] at h'
  split at h' <;> omega

end NrfFeather
