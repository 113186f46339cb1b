import NrfFeather.UsbDetect.Startup

/-!
# Settling

The other properties of the USB-detect sample say what holds when the loop is blocked. Here, that it
gets there: each step of the callback or of `main` lowers a rank, so after the last interrupt only
so many steps are left, in any order, until nothing can go on (`settles`).
-/

namespace NrfFeather

open Effects Transition Signal

variable {ev : VbusEvents}

/-- The steps a callback still has to make, and those of the passes its gives can cause. -/
def CallbackPc.rank : CallbackPc → Nat
  | .idle => 0
  | .detected _ => 12
  | .giveDetected _ => 11
  | .removed _ => 6
  | .giveRemoved => 5

/-- The steps to the next `k_sem_take`. -/
def MainPc.rank : MainPc → Nat
  | .sample => 2
  | .store _ => 1
  | .take => 0
  | .read => 3
  | .buck2 _ => 2
  | .uart _ => 1
  | .returned => 0

def State.rank (s : State) : Nat := s.cb.rank + s.pc.rank + 4 * s.usbDetectSem.count

/-- No more than 19 steps are left in any state. -/
theorem State.rank_le (s : State) : s.rank ≤ 19 := by
  have hcb : s.cb.rank ≤ 12 := by
    cases s.cb <;> simp [CallbackPc.rank]
  have hpc : s.pc.rank ≤ 3 := by
    cases s.pc <;> simp [MainPc.rank]
  have hcount := s.usbDetectSem.count_le
  unfold State.rank
  omega

/-- No new callback begins. -/
def Label.Quiet (l : Label) : Prop := ∀ pins, l ≠ .call pins

/-- Every step but the call of a callback leaves fewer. -/
theorem State.rank_lt {s t : State} {l : Label} (hl : l.Quiet) (h : s.step ev l = some t) :
    t.rank < s.rank := by
  have hcount := s.usbDetectSem.count_le
  cases State.step_inv h with
  | call => exact absurd rfl (hl _)
  | storeDetected hcb | skipDetected hcb | storeRemoved hcb | skipRemoved hcb =>
    simp only [State.rank, hcb, CallbackPc.rank]
    omega
  | giveDetected hcb | giveRemoved hcb =>
    simp only [State.rank, hcb, CallbackPc.rank, Sem.give_count]
    omega
  | sampleFailed hpc | sampled hpc | store hpc | read hpc | buck2 hpc | uart hpc =>
    simp only [State.rank, hpc, MainPc.rank]
    omega
  | take hpc hsem =>
    have hsem := Sem.take_eq_some.1 hsem
    simp only [State.rank, hpc, MainPc.rank]
    omega

/-- Nothing goes on without a new callback. -/
def State.Stuck (ev : VbusEvents) (s : State) : Prop := ∀ l : Label, l.Quiet → s.step ev l = none

/-- Where nothing can go on, no callback is in progress. -/
theorem State.Stuck.idle {s : State} (h : s.Stuck ev) : s.cb = .idle := by
  have hnone : s.callback ev = none := h .callback nofun
  unfold State.callback at hnone
  split at hnone
  · assumption
  · split at hnone <;> cases hnone
  · cases hnone
  · split at hnone <;> cases hnone
  · cases hnone

/-- Then the loop is blocked, or `main` has returned. -/
theorem State.Stuck.blocked {s : State} (h : s.Stuck ev) (hpc : s.pc ≠ .returned) : s.Blocked := by
  have hmain : s.main okOracle = none := h (.main okOracle) nofun
  have hget : s.sensorAttrGet 0 ⟨0, 0⟩ = none := h (.sensorAttrGet 0 ⟨0, 0⟩) nofun
  unfold State.main at hmain
  split at hmain
  · next hsample =>
    rw [State.sensorAttrGet, hsample] at hget
    cases hget
  · next hreturned => exact absurd hreturned hpc
  · cases hmain
  · next htake =>
    rw [Option.map_eq_none_iff, Sem.take] at hmain
    split at hmain
    · next hcount => exact ⟨htake, hcount, h.idle⟩
    · cases hmain
  · cases hmain
  · cases hmain
  · cases hmain

/-- After the last interrupt at most 19 steps of the callback and of `main` are made, in any order,
and when nothing can go on, the loop is blocked, unless `main` has returned. If a VBUS callback was
called in the loop, the flag and the mode selected are then what the last one reported, and that
mode is applied if no driver call failed. -/
theorem settles {flag : Bool} {board : Board} {s t : State} {ls₁ ls₂ : List Label}
    (h₁ : UsbRun ev (State.armed flag board) ls₁ s) (h₂ : UsbRun ev s ls₂ t)
    (hquiet : ∀ l ∈ ls₂, l.Quiet) :
    ls₂.length ≤ 19 ∧
      (t.Stuck ev → t.pc ≠ .returned → t.Blocked ∧
        (t.hist.called = true ∨ t.hist.stored ≠ none →
          ∃ v, t.hist.event = some v ∧ t.vbusConnected = v ∧ t.hist.mode = some v ∧
            ((∀ l ∈ ls₁ ++ ls₂, l.Ok) → t.Applied v))) := by
  have hrank : ls₂.length + t.rank ≤ s.rank :=
    (h₂.guard hquiet).length_add_le fun _ _ _ hl => State.rank_lt hl.1 hl.2
  have hrun : UsbRun ev (State.armed flag board) (ls₁ ++ ls₂) t := h₁.append h₂
  have hc : t.cell.Inv := hrun.cell_inv (armed_cell_inv flag board)
  have ht : Traced ev t := UsbRun.traced hrun (armed_traced flag board)
  refine ⟨Nat.le_trans (Nat.le_of_add_right_le hrank) s.rank_le, fun hstuck hpc => ?_⟩
  have hb := hstuck.blocked hpc
  refine ⟨hb, fun hcalled => ?_⟩
  have hstored : t.hist.stored ≠ none := by
    rcases hcalled with hcalled | hstored
    · exact ht.stored_of_called hb.2.2 hcalled
    · exact hstored
  obtain ⟨v, hv⟩ := Option.ne_none_iff_exists'.1 hstored
  obtain ⟨hevent, hflag, hmode⟩ := blocked_stored hc ht hb hv
  refine ⟨v, hevent, hflag, hmode, fun hok => ?_⟩
  have hst : Started t := (hrun.guard hok).invariant (I := Started)
    (fun _ _ _ hi hl => hi.step hl.1 hl.2) (armed_started flag board)
  obtain ⟨-, -, hreach⟩ : PassOk t .take := hb.1 ▸ hst.pass
  exact hreach v hmode

/-- The loop is entered, and the interrupt for a detection comes. -/
def detection : List Label :=
  [.sensorAttrGet 0 ⟨0, 0⟩, .main okOracle, .call vbusEvents.detected]

/-- The rest of the callback, and the pass it causes. -/
def reaction : List Label := List.replicate 3 .callback ++ passLabels

/-- The states these labels lead to. -/
def State.afterDetection : State :=
  (exec (State.step vbusEvents) (.armed false .off) detection).getD (.armed false .off)

def State.afterReaction : State :=
  (exec (State.step vbusEvents) .afterDetection reaction).getD .afterDetection

/-- The callback runs to its end, and `main` follows. -/
theorem settles_plugged :
    UsbRun vbusEvents (.armed false .off) detection .afterDetection ∧
      UsbRun vbusEvents .afterDetection reaction .afterReaction ∧
      State.afterReaction.Blocked ∧ ∃ v, State.afterReaction.hist.event = some v ∧
        State.afterReaction.vbusConnected = v ∧ State.afterReaction.hist.mode = some v := by
  have h₁ : UsbRun vbusEvents (.armed false .off) detection .afterDetection :=
    exec_eq_some.1 rfl
  have h₂ : UsbRun vbusEvents .afterDetection reaction .afterReaction := exec_eq_some.1 rfl
  have hquiet : ∀ l ∈ reaction, l.Quiet := by
    intro l hl pins
    rcases List.mem_append.1 hl with hl | hl
    · rw [List.eq_of_mem_replicate hl]
      exact Label.noConfusion
    · rw [List.eq_of_mem_replicate hl]
      exact Label.noConfusion
  have hstuck : State.afterReaction.Stuck vbusEvents := by
    intro l hl
    cases l with
    | call pins => exact absurd rfl (hl pins)
    | callback | sensorAttrGet | main => rfl
  have hpc : State.afterReaction.pc ≠ .returned := MainPc.noConfusion
  obtain ⟨hblocked, hsettled⟩ := (settles h₁ h₂ hquiet).2 hstuck hpc
  obtain ⟨v, hevent, hflag, hmode, -⟩ := hsettled (.inl rfl)
  exact ⟨h₁, h₂, hblocked, v, hevent, hflag, hmode⟩

end NrfFeather
