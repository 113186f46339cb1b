import NrfFeather.UsbDetect.Main

/-!
# The hand-over from the interrupt to the loop

`vbus_connected` and `usb_detect_sem` are a signalled cell: every step of the sample is a step of
`Signal.Cell`, or none, on the cell the state stands for (`State.cell`). So the cell's invariant
holds along every interleaving, and with it a second one (`Traced`) that ties the values stored to
the callbacks that were called. `no_lost_update` is what the two say when the loop is blocked.
-/

namespace NrfFeather

open Effects Transition Signal

variable {ev : VbusEvents}

/-- The callback has stored and not yet given. -/
def CallbackPc.owes : CallbackPc → Bool
  | .giveDetected _ | .giveRemoved => true
  | _ => false

/-- What the callback in progress will still store last. -/
def CallbackPc.rest (ev : VbusEvents) : CallbackPc → Option Bool
  | .detected pins => polarity ev pins
  | .giveDetected pins | .removed pins => if Fires pins ev.removed then some false else none
  | _ => none

namespace CallbackPc

variable (pins : BitVec 32)

@[simp] theorem owes_idle : idle.owes = false := rfl
@[simp] theorem owes_detected : (detected pins).owes = false := rfl
@[simp] theorem owes_removed : (removed pins).owes = false := rfl

@[simp] theorem rest_detected : (detected pins).rest ev = polarity ev pins := rfl
@[simp] theorem rest_giveDetected :
    (giveDetected pins).rest ev = if Fires pins ev.removed then some false else none := rfl
@[simp] theorem rest_removed :
    (removed pins).rest ev = if Fires pins ev.removed then some false else none := rfl

end CallbackPc

/-- The signalled cell that a state of the sample stands for. -/
def State.cell (s : State) : Cell Bool 1 where
  val := s.vbusConnected
  sem := s.usbDetectSem
  owed := s.cb.owes
  taken := s.pc = .read
  stored := s.hist.stored
  seen := s.hist.mode
  gives := s.hist.gives
  takes := s.hist.passes

/-! ## The sample refines the signalled cell -/

/-- A step that leaves the cell alone is no step of it. -/
theorem cell_run_refl {s t : State} (h : t.cell = s.cell) :
    ∃ ops, Run (Steps Cell.step) s.cell ops t.cell :=
  ⟨[], h ▸ .nil _⟩

/-- A step of the cell is a run of it. -/
theorem cell_run_one {s t : State} (op : Signal.Op Bool) (h : s.cell.step op = some t.cell) :
    ∃ ops, Run (Steps Cell.step) s.cell ops t.cell :=
  ⟨[op], .cons h (.nil _)⟩

/-- Every step of the sample is a run of the signalled cell. -/
theorem step_cell {s t : State} {l : Label} (h : s.step ev l = some t) :
    ∃ ops, Run (Steps Cell.step) s.cell ops t.cell := by
  cases State.step_inv h with
  | storeDetected => exact cell_run_one (.store true) rfl
  | storeRemoved => exact cell_run_one (.store false) rfl
  | giveDetected => exact cell_run_one .give rfl
  | giveRemoved => exact cell_run_one .give rfl
  | @store o status hpc => exact cell_run_one (.reset status) (by simp [State.cell, Cell.step, hpc])
  | take hpc hsem => exact cell_run_one .take (by simp [State.cell, Cell.step, hsem])
  | read => exact cell_run_one .read (by simp [State.cell, Cell.step])
  -- the others leave the cell alone
  | call hcb => exact cell_run_refl (by simp [State.cell, hcb])
  | skipDetected hcb => exact cell_run_refl (by simp [State.cell, hcb])
  | skipRemoved hcb => exact cell_run_refl (by simp [State.cell, hcb])
  | sampleFailed hpc => exact cell_run_refl (by simp [State.cell, hpc])
  | sampled hpc => exact cell_run_refl (by simp [State.cell, hpc])
  | buck2 hpc => exact cell_run_refl (by simp [State.cell, hpc])
  | uart hpc => exact cell_run_refl (by simp [State.cell, hpc])

/-- The cell's invariant holds along every run of the sample. -/
theorem UsbRun.cell_inv {s t : State} {ls : List Label} (h : UsbRun ev s ls t)
    (hs : s.cell.Inv) : t.cell.Inv := by
  obtain ⟨ops, hr⟩ := h.simulate (fun _ _ _ hl => step_cell hl)
  exact hs.run (Nat.succ_pos 0) hr

/-! ## Stores and callbacks -/

/-- The values stored are those the callbacks reported: what a callback in progress still has to
store is the last event, what is stored already is the last event as soon as nothing is left to
store, and a VBUS callback called since the loop was entered has stored or will. -/
structure Traced (ev : VbusEvents) (s : State) : Prop where
  rest : ∀ v, s.cb.rest ev = some v → s.hist.event = some v
  stored : ∀ v, s.hist.stored = some v → s.hist.event = (s.cb.rest ev <|> some v)
  called : s.hist.called = true → s.cb.rest ev ≠ none ∨ s.hist.stored ≠ none
  event : s.hist.event = none → s.hist.gives = 0 ∧ s.cb.owes = false

/-- When no callback is in progress, one that was called since the loop was entered has stored. -/
theorem Traced.stored_of_called {s : State} (h : Traced ev s) (hcb : s.cb = .idle)
    (hcalled : s.hist.called = true) : s.hist.stored ≠ none := by
  rcases h.called hcalled with hrest | hstored
  · rw [hcb] at hrest
    exact absurd rfl hrest
  · exact hstored

/-- Whatever the first half of the callback stores, the second half has the last word. -/
theorem polarity_of_detected {pins : BitVec 32} (h : Fires pins ev.detected) :
    polarity ev pins = ((if Fires pins ev.removed then some false else none) <|> some true) := by
  unfold polarity
  rw [if_pos h]
  split <;> rfl

/-- A word without the detected bit reports a removal or nothing. -/
theorem polarity_of_not_detected {pins : BitVec 32} (h : ¬ Fires pins ev.detected) :
    polarity ev pins = if Fires pins ev.removed then some false else none := by
  unfold polarity
  rw [if_neg h]

/-- A callback that finds a detection is the last event, and a removal has the last word in it. -/
theorem Traced.event_of_detected {s : State} {pins : BitVec 32} (h : Traced ev s)
    (hcb : s.cb = .detected pins) (hf : Fires pins ev.detected) :
    s.hist.event = ((if Fires pins ev.removed then some false else none) <|> some true) := by
  have hp := polarity_of_detected hf
  cases hpol : polarity ev pins with
  | none =>
    rw [hpol] at hp
    split at hp <;> cases hp
  | some v =>
    rw [← hp, hpol]
    exact h.rest v (by rw [hcb, CallbackPc.rest_detected, hpol])

/-- Each step keeps what the history records in agreement with the state. -/
theorem Traced.step {s t : State} {l : Label} (h : Traced ev s) (hs : s.step ev l = some t) :
    Traced ev t := by
  obtain ⟨hr, hst, hc, he⟩ := h
  cases State.step_inv hs with
  | @call pins hcb =>
    rw [hcb] at hst hc he
    refine ⟨?_, ?_, ?_, ?_⟩
    · intro v hv
      show (polarity ev pins <|> s.hist.event) = some v
      rw [CallbackPc.rest_detected] at hv
      rw [hv]; rfl
    · intro v hv
      show (polarity ev pins <|> s.hist.event) = (polarity ev pins <|> some v)
      rw [hst v hv]; rfl
    · intro hn
      show polarity ev pins ≠ none ∨ s.hist.stored ≠ none
      rcases Bool.or_eq_true_iff.1 hn with hn | hn
      · exact .inr ((hc hn).resolve_left (fun h => h rfl))
      · exact .inl (Option.isSome_iff_ne_none.1 hn)
    · intro hn
      have hn : (polarity ev pins <|> s.hist.event) = none := hn
      cases hpol : polarity ev pins with
      | none => rw [hpol] at hn; exact he hn
      | some v => rw [hpol] at hn; cases hn
  | @storeDetected pins hcb hf =>
    have hev := Traced.event_of_detected ⟨hr, hst, hc, he⟩ hcb hf
    refine ⟨?_, ?_, fun _ => .inr nofun, ?_⟩
    · intro v hv
      rw [CallbackPc.rest_giveDetected] at hv
      show s.hist.event = some v
      rw [hev, hv]; rfl
    · intro v hv
      cases hv
      exact hev
    · intro hn
      have hn : s.hist.event = none := hn
      rw [hev] at hn
      split at hn <;> cases hn
  | skipDetected hcb hf =>
    rw [hcb] at hr hst hc he
    rw [CallbackPc.rest_detected, polarity_of_not_detected hf] at hr hst hc
    exact ⟨hr, hst, hc, he⟩
  | giveDetected hcb =>
    rw [hcb] at hr hst hc he
    exact ⟨hr, hst, hc, fun hn => nomatch (he hn).2⟩
  | storeRemoved hcb hf =>
    rw [hcb, CallbackPc.rest_removed, if_pos hf] at hr
    have hev : s.hist.event = some false := hr false rfl
    refine ⟨nofun, ?_, fun _ => .inr nofun, ?_⟩
    · intro v hv
      cases hv
      exact hev
    · intro hn
      have hn : s.hist.event = none := hn
      rw [hev] at hn
      cases hn
  | skipRemoved hcb hf =>
    rw [hcb, CallbackPc.rest_removed, if_neg hf] at hst hc
    rw [hcb] at he
    exact ⟨nofun, hst, hc, he⟩
  | giveRemoved hcb =>
    rw [hcb] at hst hc he
    exact ⟨nofun, hst, hc, fun hn => nomatch (he hn).2⟩
  | store => exact ⟨hr, nofun, nofun, he⟩
  | sampleFailed | sampled | take | read | buck2 | uart => exact ⟨hr, hst, hc, he⟩

/-- So does every run. -/
theorem UsbRun.traced {s t : State} {ls : List Label} (h : UsbRun ev s ls t) (hs : Traced ev s) :
    Traced ev t :=
  h.invariant (fun _ _ _ hi hl => hi.step hl) hs

/-- Nothing was given or taken when the callback is armed. -/
theorem armed_cell_inv (flag : Bool) (board : Board) : (State.armed flag board).cell.Inv :=
  ⟨nofun, Nat.le_refl _, nofun⟩

/-- Nor was anything stored. -/
theorem armed_traced (flag : Bool) (board : Board) : Traced ev (State.armed flag board) :=
  ⟨nofun, nofun, nofun, fun _ => ⟨rfl, rfl⟩⟩

/-! ## The blocked loop -/

/-- In a blocked state the value stored last since the loop was entered is the last event, it is
what the flag holds, and it is the mode of the last pass. -/
theorem blocked_stored {s : State} (hc : s.cell.Inv) (ht : Traced ev s) (hb : s.Blocked)
    {v : Bool} (hv : s.hist.stored = some v) :
    s.hist.event = some v ∧ s.vbusConnected = v ∧ s.hist.mode = some v := by
  obtain ⟨hpc, hcount, hcb⟩ := hb
  have howed : s.cb.owes = false := by rw [hcb, CallbackPc.owes_idle]
  have htaken : decide (s.pc = .read) = false := by rw [hpc]; rfl
  have hq := hc.quiet howed htaken hcount hv
  refine ⟨?_, hq.1, hq.2⟩
  have := ht.stored v hv
  rwa [hcb] at this

/-! ## The mode handed over -/

/-- `buck2_set_mode` and `uart_set_mode` are handed the mode that the pass selected, and a pass that
came to its end has handed it to both. -/
def Handed (s : State) : MainPc → Prop
  | .buck2 m | .uart m => s.hist.mode = some m
  | _ => s.hist.applied = s.hist.mode

/-- Each step keeps the mode that was read until it is handed to both functions. -/
theorem Handed.step {s t : State} {l : Label} (h : Handed s s.pc) (hs : s.step ev l = some t) :
    Handed t t.pc := by
  cases State.step_inv hs with
  -- the callback touches neither of the two modes
  | call | storeDetected | skipDetected | giveDetected | storeRemoved | skipRemoved | giveRemoved =>
    show Handed _ s.pc
    revert h
    cases s.pc <;> exact id
  | sampleFailed hpc | sampled hpc | store hpc | take hpc =>
    rw [hpc] at h
    exact h
  | read => exact rfl
  | buck2 hpc =>
    rw [hpc] at h
    exact h
  | uart hpc =>
    rw [hpc] at h
    exact h.symm

/-- It is so along every run from the moment the callback is armed. -/
theorem UsbRun.handed {flag : Bool} {board : Board} {s : State} {ls : List Label}
    (h : UsbRun ev (State.armed flag board) ls s) : Handed s s.pc :=
  h.invariant (I := fun s => Handed s s.pc) (fun _ _ _ hi hl => hi.step hl) rfl

/-- No callback is missed: in every run from the moment the callback is armed, whenever the loop is
blocked with no callback in progress and a VBUS callback was called, or stored its value, since the
loop was entered, the last pass selected the mode that the last callback stored, and handed it to
`buck2_set_mode` and `uart_set_mode`; what these are called with is always the mode selected last;
and there are never more passes than gives. -/
theorem no_lost_update {flag : Bool} {board : Board} {s : State} {ls : List Label}
    (h : UsbRun ev (State.armed flag board) ls s) :
    (s.Blocked → s.hist.called = true ∨ s.hist.stored ≠ none →
      ∃ v, s.hist.stored = some v ∧ s.hist.event = some v ∧ s.hist.mode = some v ∧
        s.hist.applied = some v) ∧
    (∀ m, s.pc = .buck2 m ∨ s.pc = .uart m → s.hist.mode = some m) ∧
    s.hist.passes ≤ s.hist.gives := by
  have hc := h.cell_inv (armed_cell_inv flag board)
  have ht := h.traced (armed_traced flag board)
  have hh := h.handed
  refine ⟨?_, ?_, Nat.le_of_add_right_le hc.balance⟩
  · intro hb hrun
    have hs : s.hist.stored ≠ none := by
      rcases hrun with hcalled | hs
      · exact ht.stored_of_called hb.2.2 hcalled
      · exact hs
    obtain ⟨v, hv⟩ := Option.ne_none_iff_exists'.1 hs
    obtain ⟨hev, -, hmode⟩ := blocked_stored hc ht hb hv
    rw [hb.1] at hh
    exact ⟨v, hv, hev, hmode, Eq.trans hh hmode⟩
  · rintro m (hpc | hpc)
    · rw [hpc] at hh
      exact hh
    · rw [hpc] at hh
      exact hh

/-- VBUS is detected after start-up, and the loop makes its pass. -/
theorem no_lost_update_plugged :
    ∃ s, UsbRun vbusEvents (State.armed false .off)
        ([.sensorAttrGet 0 ⟨0, 0⟩, .main okOracle] ++ eventLabels vbusEvents.detected ++
          passLabels) s ∧ s.Blocked ∧
      (∃ v, s.hist.stored = some v ∧ s.hist.event = some v ∧ s.hist.mode = some v ∧
        s.hist.applied = some v) ∧
      (∀ m, s.pc = .buck2 m ∨ s.pc = .uart m → s.hist.mode = some m) ∧
      s.hist.passes ≤ s.hist.gives :=
  have h := exec_eq_some.1 rfl
  have hsafe := no_lost_update h
  ⟨_, h, ⟨rfl, rfl, rfl⟩, hsafe.1 ⟨rfl, rfl, rfl⟩ (.inl rfl), hsafe.2⟩

end NrfFeather
