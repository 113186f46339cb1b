import NrfFeather.Lib.Accounting
import NrfFeather.Sms

/-!
# The SMS sample

`main` of `samples/sms/src/main.c` arms the button and then initialises the work item `sms_work`.
From then on the interrupt of the button schedules the item, at any time: while it is on the queue
that changes nothing, and while its function runs it is queued once more. The work queue runs the
function, which hands the AT commands to the modem, and the modem responds between any two steps.

A press between the two steps of `main` would schedule an item that has no function yet; a run ends
before it (`SmsState.Early`).
-/

namespace NrfFeather

open Effects Transition

/-! ## Start-up -/

inductive ButtonCall where
  | gpioPinConfigure
  | gpioPinInterruptConfigure
  | gpioAddCallback
  | kWorkInitDelayable

@[reducible] def ButtonCall.Ans : ButtonCall → Type
  | .kWorkInitDelayable => Unit
  | _ => Int

/-- Whether the interrupt is configured, its callback added, and the work item initialised. -/
structure Button where
  interrupt : Bool
  callback : Bool
  work : Bool

namespace Button

def next (b : Button) : (c : ButtonCall) → c.Ans → Button
  | .gpioPinConfigure, _ => b
  | .gpioPinInterruptConfigure, r => { b with interrupt := decide (r = (0 : Int)) }
  | .gpioAddCallback, r => { b with callback := decide (r = (0 : Int)) }
  | .kWorkInitDelayable, _ => { b with work := true }

/-- Every call may fail. -/
def env : Env ButtonCall.Ans Button := ⟨fun _ _ _ => True, next⟩

/-- A press calls `button_pressed`. -/
def Armed (b : Button) : Prop := b.interrupt = true ∧ b.callback = true

/-- After a reset. -/
def reset : Button := ⟨false, false, false⟩

end Button

def gpioPinConfigure : Prog ButtonCall.Ans Int := .perform ButtonCall.gpioPinConfigure

def gpioPinInterruptConfigure : Prog ButtonCall.Ans Int :=
  .perform ButtonCall.gpioPinInterruptConfigure

def gpioAddCallback : Prog ButtonCall.Ans Int := .perform ButtonCall.gpioAddCallback

def kWorkInitDelayable : Prog ButtonCall.Ans Unit := .perform ButtonCall.kWorkInitDelayable

def buttonInit : Prog ButtonCall.Ans Unit := do
  let ret ← gpioPinConfigure
  if ret ≠ 0 then
    return ()
  let ret ← gpioPinInterruptConfigure
  if ret ≠ 0 then
    return ()
  let _ ← gpioAddCallback

/-- `main`. -/
def smsMain : Prog ButtonCall.Ans Int := do
  buttonInit
  kWorkInitDelayable
  return 0

/-! ## The system -/

structure SmsState where
  main : Prog ButtonCall.Ans Int
  button : Button
  /-- `sms_work` is on the queue. -/
  queued : Bool
  /-- What is left of the work function that runs. -/
  running : Option (Prog AtCall.Ans Unit)
  modem : Modem

inductive SystemLabel where
  | main (e : Event ButtonCall.Ans)
  /-- `button_pressed`. -/
  | press
  /-- The work queue calls the work function. -/
  | start
  /-- A call of the work function, or a response. -/
  | sms (l : SmsLabel)
  /-- The work function returns. -/
  | finish

inductive SmsState.Step (s : SmsState) : SystemLabel → SmsState → Prop where
  | main {c : ButtonCall} {k : c.Ans → Prog ButtonCall.Ans Int} {r : c.Ans}
      (hmain : s.main = .call c k) :
      SmsState.Step s (.main ⟨c, r⟩) { s with main := k r, button := s.button.next c r }
  | press (harmed : s.button.Armed) (hwork : s.button.work = true) :
      SmsState.Step s .press { s with queued := true }
  | start (hrunning : s.running = none) (hqueued : s.queued = true) :
      SmsState.Step s .start { s with queued := false, running := some (smsWorkFn atCommands) }
  | command {c : AtCall} {k : c.Ans → Prog AtCall.Ans Unit} {r : c.Ans}
      (hrunning : s.running = some (.call c k)) (hr : s.modem.allows c r) :
      SmsState.Step s (.sms (some ⟨c, r⟩))
        { s with running := some (k r), modem := s.modem.next c r }
  | respond {m : Modem} (hm : s.modem.Responds m) :
      SmsState.Step s (.sms none) { s with modem := m }
  | finish (hrunning : s.running = some (.ret ())) :
      SmsState.Step s .finish { s with running := none }

/-- The runs of the sample. -/
abbrev SmsRun : SmsState → List SystemLabel → SmsState → Prop := Run SmsState.Step

namespace SmsState

/-- `main` is entered after a reset. -/
def boot (modem : Modem) : SmsState := ⟨smsMain, .reset, false, none, modem⟩

/-- A press would schedule a work item that is not initialised. -/
def Early (s : SmsState) : Prop := s.button.Armed ∧ s.button.work = false

end SmsState

/-! ## What happens in a run -/

namespace SystemLabel

def isPress : SystemLabel → Bool
  | .press => true
  | _ => false

def isStart : SystemLabel → Bool
  | .start => true
  | _ => false

/-- The command that is handed to the modem. -/
def cmd : SystemLabel → Option String
  | .sms (some ⟨.nrfModemAtCmdAsync cmd, _⟩) => some cmd
  | _ => none

end SystemLabel

/-- The commands handed to the modem, in order. -/
def handed (ls : List SystemLabel) : List String := ls.filterMap SystemLabel.cmd

/-- How often the work function was called. -/
def starts (ls : List SystemLabel) : Nat := ls.countP SystemLabel.isStart

section
variable {s t : SmsState} {l : SystemLabel} {ls : List SystemLabel} {modem : Modem}

/-- What is left of the commands while the work function runs. -/
def Left (running : Option (Prog AtCall.Ans Unit)) (rest : List String) : Prop :=
  running = none ∧ rest = [] ∨ running = some (smsWorkFn rest)

/-- Every call of the work function hands over the commands from the first one on. -/
def HandsOver (ls : List SystemLabel) (s : SmsState) : Prop :=
  ∃ rest, Left s.running rest ∧
    handed ls ++ rest = (List.replicate (starts ls) atCommands).flatten

/-- Each step keeps to the commands that are left of the call in progress. -/
theorem HandsOver.step (h : HandsOver ls s) (hl : s.Step l t) : HandsOver (ls ++ [l]) t := by
  obtain ⟨rest, hleft, hhanded⟩ := h
  have happend : handed (ls ++ [l]) = handed ls ++ l.cmd.toList := by
    rw [handed, List.filterMap_append, handed]
    cases hc : l.cmd <;> simp [hc]
  have hstarts : starts (ls ++ [l]) = starts ls + l.isStart.toNat := by
    rw [starts, List.countP_append, starts]
    cases hs : l.isStart <;> simp [hs]
  rw [HandsOver, happend, hstarts]
  cases hl with
  | main | press | respond =>
    exact ⟨rest, hleft, by simpa [SystemLabel.cmd, SystemLabel.isStart] using hhanded⟩
  | start hrunning =>
    rcases hleft with ⟨-, rfl⟩ | hleft
    · refine ⟨atCommands, .inr rfl, ?_⟩
      rw [List.append_nil] at hhanded
      simp [SystemLabel.cmd, SystemLabel.isStart, hhanded, List.replicate_succ']
    · rw [hrunning] at hleft
      cases hleft
  | @command c k r hrunning =>
    rcases hleft with ⟨hnone, -⟩ | hleft
    · rw [hrunning] at hnone
      cases hnone
    · rw [hrunning] at hleft
      cases rest with
      | nil => cases hleft
      | cons cmd rest =>
        cases hleft
        exact ⟨rest, .inr rfl, by simpa [SystemLabel.cmd, SystemLabel.isStart] using hhanded⟩
  | finish hrunning =>
    rcases hleft with ⟨hnone, -⟩ | hleft
    · rw [hrunning] at hnone
      cases hnone
    · rw [hrunning] at hleft
      cases rest with
      | nil =>
        exact ⟨[], .inl ⟨rfl, rfl⟩, by simpa [SystemLabel.cmd, SystemLabel.isStart] using hhanded⟩
      | cons cmd rest => cases hleft

/-- In every run, what was handed over and what is left of the call in progress make up all
commands, once for each start. -/
theorem SmsRun.handsOver (h : SmsRun (.boot modem) ls s) : HandsOver ls s :=
  h.history (I := HandsOver) (fun _ _ _ _ hi hl => hi.step hl) ⟨[], .inl ⟨rfl, rfl⟩, rfl⟩

/-- The work function is called only for a press. -/
theorem SmsRun.starts_le (h : SmsRun s ls t) :
    t.queued.toNat + starts ls ≤ s.queued.toNat + ls.countP SystemLabel.isPress := by
  refine h.count_le (f := fun s => s.queued.toNat) ?_
  intro s l t hl
  cases hl with
  | press => exact Nat.le_add_left _ _
  | start _ hqueued =>
    rw [hqueued]
    exact Nat.le_refl _
  | _ => exact Nat.le_refl _

/-- A press is pending until the work function is called. -/
theorem SmsRun.answered (h : SmsRun s ls t) (ht : t.queued = false) :
    Answered (fun l => l.isPress = true) (fun l => l.isStart = true) ls := by
  have hasks : ∀ (s : SmsState) (l : SystemLabel) t, s.Step l t → l.isPress = true →
      t.queued = true := by
    intro s l t hl hpress
    cases hl with
    | press => rfl
    | _ => cases hpress
  have hstays : ∀ (s : SmsState) (l : SystemLabel) t, s.Step l t → s.queued = true →
      t.queued = true ∨ l.isStart = true := by
    intro s l t hl hs
    cases hl with
    | press => exact .inl rfl
    | start => exact .inr rfl
    | _ => exact .inl hs
  exact Run.answered h hasks hstays (by rw [ht]; exact Bool.false_ne_true)

/-! ## Start-up -/

/-- `main` behind `button_init`. -/
def initWork : Prog ButtonCall.Ans Int := do
  kWorkInitDelayable
  return 0

/-- `main` behind the configuration of the pin. -/
def armButton : Prog ButtonCall.Ans Int :=
  (do
    let ret ← gpioPinInterruptConfigure
    if ret ≠ 0 then
      return ()
    let _ ← gpioAddCallback) >>= fun _ => initWork

/-- Where `main` stands, and what it has done to the button and the work item by then. -/
inductive MainAt : Prog ButtonCall.Ans Int → Button → Prop where
  | pin : MainAt smsMain .reset
  | interrupt : MainAt armButton .reset
  | callback {b : Button} (hwork : b.work = false) (hcallback : b.callback = false) :
      MainAt (gpioAddCallback >>= fun _ => initWork) b
  | work {b : Button} (hwork : b.work = false) : MainAt initWork b
  | returned {b : Button} (hwork : b.work = true) : MainAt (.ret 0) b

/-- Each call of `main` leads to the next place in it. -/
theorem MainAt.step {c : ButtonCall} {k : c.Ans → Prog ButtonCall.Ans Int} {b : Button}
    (h : MainAt (.call c k) b) (r : c.Ans) : MainAt (k r) (b.next c r) := by
  generalize hp : Prog.call c k = p at h
  cases h with
  | pin =>
    cases hp
    by_cases hr : r = (0 : Int)
    · subst hr
      exact .interrupt
    · show MainAt ((ite _ _ _ : Prog ButtonCall.Ans Unit) >>= fun _ => initWork) _
      rw [if_pos hr]
      exact .work rfl
  | interrupt =>
    cases hp
    by_cases hr : r = (0 : Int)
    · subst hr
      exact .callback rfl rfl
    · show MainAt ((ite _ _ _ : Prog ButtonCall.Ans Unit) >>= fun _ => initWork) _
      rw [if_pos hr]
      exact .work rfl
  | callback hwork =>
    cases hp
    exact .work hwork
  | work =>
    cases hp
    exact .returned rfl
  | returned => cases hp

/-- In every run `main` is at a place that fits what was set up so far. -/
theorem SmsRun.mainAt (h : SmsRun (.boot modem) ls s) : MainAt s.main s.button := by
  refine h.invariant (I := fun s => MainAt s.main s.button) ?_ .pin
  intro s l t hs hl
  cases hl with
  | @main c k r hmain =>
    rw [hmain] at hs
    exact hs.step r
  | _ => exact hs

/-- A press may come early only when `main` has armed the button and nothing else is left to it
than the initialisation. -/
theorem SmsRun.early (h : SmsRun (.boot modem) ls s) (hs : s.Early) : s.main = initWork := by
  obtain ⟨⟨-, hcallback⟩, hwork⟩ := hs
  have hat := h.mainAt
  generalize s.main = p at hat
  generalize s.button = b at hat hcallback hwork
  cases hat with
  | pin | interrupt => cases hcallback
  | callback _ hnone =>
    rw [hnone] at hcallback
    cases hcallback
  | work => rfl
  | returned hdone =>
    rw [hdone] at hwork
    cases hwork

/-! ## The whole sample -/

/-- The calls of the work function and the responses of a run. -/
def atLabels (ls : List SystemLabel) : List SmsLabel :=
  ls.filterMap fun
    | .sms l => some l
    | _ => none

/-- In every run of the sample, with presses and responses at any time: the work function is called
at most once for each press, and each press has been followed by a call unless one is still queued;
every call that is done has handed over all commands in order, whatever the modem answered; and
only between the two steps of `main` could a press come too early. Such a press, before
`k_work_init_delayable` has run, is in no run: a run ends before it. -/
theorem presses_handed_over (h : SmsRun (.boot modem) ls s) :
    s.queued.toNat + starts ls ≤ ls.countP SystemLabel.isPress ∧
      (s.queued = false →
        Answered (fun l => l.isPress = true) (fun l => l.isStart = true) ls) ∧
      (s.running = none → handed ls = (List.replicate (starts ls) atCommands).flatten) ∧
      (s.Early → s.main = initWork) := by
  refine ⟨?_, h.answered, ?_, h.early⟩
  · have hle := h.starts_le
    have hboot : (SmsState.boot modem).queued.toNat = 0 := rfl
    omega
  · intro hnone
    obtain ⟨rest, hleft, hhanded⟩ := h.handsOver
    rcases hleft with ⟨-, rfl⟩ | hleft
    · rwa [List.append_nil] at hhanded
    · rw [hnone] at hleft
      cases hleft

/-- Seen from the modem, a run of the sample is a run of the work function over all commands that
are handed over. -/
theorem SmsRun.modemRun (h : SmsRun s ls t) :
    Run SmsStep (smsWorkFn (handed ls), s.modem) (atLabels ls) (.ret (), t.modem) := by
  induction h with
  | nil s => exact .nil _
  | cons hl _ ih =>
    cases hl with
    | main | press | start | finish => exact ih
    | respond hm => exact .cons (.tick hm) ih
    | @command c k r _ hr =>
      obtain ⟨cmd⟩ := c
      exact .cons (.call hr) ih

/-- Over the whole life of the sample, every command that is handed over is accepted, and in order,
exactly when the modem responds between any two of them, however the presses fall. -/
theorem all_presses_accepted_iff (h : SmsRun (.boot .idle) ls s) (hs : s.running = none) :
    accepted (atLabels ls) = (List.replicate (starts ls) atCommands).flatten ↔
      Paced false (atLabels ls) := by
  obtain ⟨rest, hleft, hhanded⟩ := h.handsOver
  rcases hleft with ⟨-, rfl⟩ | hleft
  · rw [← hhanded, List.append_nil]
    exact (accepted_eq_iff_and_le h.modemRun).1
  · rw [hs] at hleft
    cases hleft

/-- The sample is started, the button pressed, and the modem responds to each command. -/
def firstPress : List SystemLabel :=
  [.main ⟨.gpioPinConfigure, (0 : Int)⟩, .main ⟨.gpioPinInterruptConfigure, (0 : Int)⟩,
    .main ⟨.gpioAddCallback, (0 : Int)⟩, .main ⟨.kWorkInitDelayable, ()⟩, .press, .start] ++
    pacedLabels.map .sms ++ [.finish]

/-- It is a run of the sample. -/
theorem firstPress_run :
    SmsRun (.boot .idle) firstPress ⟨.ret 0, ⟨true, true, true⟩, false, none, .idle⟩ := by
  have hcommand {s : SmsState} {cmd : String} {k : Int → Prog AtCall.Ans Unit}
      (hrunning : s.running = some (.call (.nrfModemAtCmdAsync cmd) k))
      (hidle : s.modem.outstanding = none) :
      s.Step (.sms (some ⟨.nrfModemAtCmdAsync cmd, (0 : Int)⟩))
        { s with running := some (k 0), modem := ⟨some cmd⟩ } :=
    .command hrunning (iff_of_true rfl hidle)
  exact .cons (.main rfl) <| .cons (.main rfl) <| .cons (.main rfl) <| .cons (.main rfl) <|
    .cons (.press ⟨rfl, rfl⟩ rfl) <| .cons (.start rfl rfl) <| .cons (hcommand rfl rfl) <|
    .cons (.respond ⟨rfl, rfl⟩) <| .cons (hcommand rfl rfl) <| .cons (.respond ⟨rfl, rfl⟩) <|
    .cons (.finish rfl) <| .nil _

/-- The one press has handed over all commands. -/
theorem presses_handed_over_first : handed firstPress = atCommands :=
  (presses_handed_over firstPress_run).2.2.1 rfl

/-- The modem has accepted all of them. -/
theorem all_presses_accepted_iff_first : accepted (atLabels firstPress) = atCommands :=
  (all_presses_accepted_iff firstPress_run rfl).2 ⟨rfl, rfl, trivial⟩

end

end NrfFeather
