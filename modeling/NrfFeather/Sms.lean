import NrfFeather.Lib.Interleave

/-!
# Sending AT commands

`sms_work_fn` of `samples/sms/src/main.c` hands a list of AT commands to the modem, one after the
other. The modem works on one asynchronous command at a time and refuses another one until it has
called the response handler. The work function does not wait for that, and only prints the error
of a command that was refused.
-/

namespace NrfFeather

open Effects Transition

/-! ## The modem -/

def NRF_EINPROGRESS : Int := 115

/-- A call of `nrf_modem_at_cmd_async`; the response handler is always `at_cmd_handler`. -/
inductive AtCall where
  | nrfModemAtCmdAsync (cmd : String)

@[reducible] def AtCall.Ans : AtCall → Type
  | .nrfModemAtCmdAsync _ => Int

/-- The command whose response is outstanding. -/
structure Modem where
  outstanding : Option String

namespace Modem

def next (m : Modem) : (c : AtCall) → c.Ans → Modem
  | .nrfModemAtCmdAsync cmd, r => if r = 0 then ⟨some cmd⟩ else m

/-- A command is accepted when none is outstanding. -/
def allows (m : Modem) : (c : AtCall) → c.Ans → Prop
  | .nrfModemAtCmdAsync _, r => r = 0 ↔ m.outstanding = none

def env : Env AtCall.Ans Modem := ⟨allows, next⟩

/-- The modem calls the response handler, which prints the response. -/
def Responds (m m' : Modem) : Prop := m.outstanding.isSome ∧ m'.outstanding = none

end Modem

/-! ## The work function -/

def atCommands : List String :=
  ["AT+CNMI=3,2,0,1", "AT+CMGS=21\r0001000B912131445411F0000009C834888E2ECBCB21\x1A"]

def nrfModemAtCmdAsync (cmd : String) : Prog AtCall.Ans Int :=
  .perform (AtCall.nrfModemAtCmdAsync cmd)

def smsWorkFn : List String → Prog AtCall.Ans Unit
  | [] => return ()
  | cmd :: cmds => do
    -- an error is only printed
    let _err ← nrfModemAtCmdAsync cmd
    smsWorkFn cmds

/-! ## What reaches the modem -/

/-- A call of the work function, or a response. -/
abbrev SmsLabel : Type := Option (Event AtCall.Ans)

/-- The commands that the modem accepted, in order. -/
def accepted : List SmsLabel → List String
  | [] => []
  | none :: ls => accepted ls
  | some ⟨.nrfModemAtCmdAsync cmd, r⟩ :: ls => if r = 0 then cmd :: accepted ls else accepted ls

/-- No command is handed to the modem while one is outstanding: there is a response between any two
of them, and one before the first if a command is outstanding from the beginning. -/
def Paced : Bool → List SmsLabel → Prop
  | _, [] => True
  | _, none :: ls => Paced false ls
  | busy, some _ :: ls => busy = false ∧ Paced true ls

/-- The work function and the modem. -/
abbrev SmsStep : Prog AtCall.Ans Unit × Modem → SmsLabel → Prog AtCall.Ans Unit × Modem → Prop :=
  Interleaved Modem.env Modem.Responds

/-- The ways a run of the work function to its end can begin. -/
theorem smsWorkFn_run_inv {cmds : List String} {m m' : Modem} {ls : List SmsLabel}
    (h : Run SmsStep (smsWorkFn cmds, m) ls (.ret (), m')) :
    (ls = [] ∧ cmds = []) ∨
      (∃ ls' u, ls = none :: ls' ∧ u.outstanding = none ∧
        Run SmsStep (smsWorkFn cmds, u) ls' (.ret (), m')) ∨
      ∃ cmd rest, cmds = cmd :: rest ∧ ∃ (r : Int) (ls' : List SmsLabel),
        ls = some ⟨.nrfModemAtCmdAsync cmd, r⟩ :: ls' ∧ (r = 0 ↔ m.outstanding = none) ∧
        Run SmsStep (smsWorkFn rest, m.next (.nrfModemAtCmdAsync cmd) r) ls' (.ret (), m') := by
  rcases Interleaved.run_inv h with ⟨rfl, hp, -⟩ | ⟨u, ls', rfl, hresp, hrun⟩ |
    ⟨c, k, r, ls', hp, rfl, hr, hrun⟩
  · cases cmds with
    | nil => exact .inl ⟨rfl, rfl⟩
    | cons cmd rest => cases hp
  · exact .inr (.inl ⟨ls', u, rfl, hresp.2, hrun⟩)
  · cases cmds with
    | nil => cases hp
    | cons cmd rest =>
      cases hp
      exact .inr (.inr ⟨cmd, rest, rfl, r, ls', rfl, hr, hrun⟩)

/-- No more commands are accepted than there are, and all of them exactly when they are paced. -/
theorem accepted_eq_iff_and_le {cmds : List String} {m m' : Modem} {ls : List SmsLabel}
    (h : Run SmsStep (smsWorkFn cmds, m) ls (.ret (), m')) :
    (accepted ls = cmds ↔ Paced m.outstanding.isSome ls) ∧
      (accepted ls).length ≤ cmds.length := by
  induction ls generalizing cmds m with
  | nil =>
    rcases smsWorkFn_run_inv h with ⟨-, rfl⟩ | ⟨ls', u, hls, -⟩ | ⟨cmd, rest, -, r, ls', hls, -⟩
    · exact ⟨iff_of_true rfl trivial, Nat.le_refl 0⟩
    · cases hls
    · cases hls
  | cons l ls ih =>
    rcases smsWorkFn_run_inv h with ⟨hls, -⟩ | ⟨ls', u, hls, hu, hrun⟩ |
      ⟨cmd, rest, rfl, r, ls', hls, hr, hrun⟩
    · cases hls
    · cases hls
      have := ih hrun
      rw [hu] at this
      exact this
    · cases hls
      obtain ⟨hiff, hle⟩ := ih hrun
      cases hm : m.outstanding with
      | none =>
        have h0 : r = 0 := hr.2 hm
        subst h0
        have hbusy : (m.next (.nrfModemAtCmdAsync cmd) (0 : Int)).outstanding.isSome = true := rfl
        rw [hbusy] at hiff
        simp only [accepted, if_true, Paced, Option.isSome_none, List.cons.injEq, true_and,
          List.length_cons]
        exact ⟨hiff, Nat.succ_le_succ hle⟩
      | some old =>
        have hne : r ≠ 0 := fun h0 => by
          rw [hr.1 h0] at hm
          cases hm
        simp only [accepted, hne, if_false, Paced, Option.isSome_some, Bool.true_eq_false,
          false_and, iff_false, List.length_cons]
        refine ⟨?_, Nat.le_succ_of_le hle⟩
        intro heq
        rw [heq, List.length_cons] at hle
        omega

/-- In a run of the work function to its end, over any list of commands and with any interleaving of
the responses, every command is accepted exactly once and in order exactly when no command is
handed over while another one is outstanding. -/
theorem all_accepted_iff {cmds : List String} {m m' : Modem} {ls : List SmsLabel}
    (h : Run SmsStep (smsWorkFn cmds, m) ls (.ret (), m')) :
    accepted ls = cmds ↔ Paced m.outstanding.isSome ls :=
  (accepted_eq_iff_and_le h).1

/-- The modem with no command outstanding. -/
def Modem.idle : Modem := ⟨none⟩

/-- The commands of the sample, with a response after each. -/
def pacedLabels : List SmsLabel :=
  atCommands.flatMap fun cmd => [some ⟨.nrfModemAtCmdAsync cmd, (0 : Int)⟩, none]

/-- The modem responds to each command before the next one. -/
theorem all_accepted_paced :
    Run SmsStep (smsWorkFn atCommands, Modem.idle) pacedLabels (.ret (), Modem.idle) ∧
      accepted pacedLabels = atCommands := by
  have hcall (cmd : String) (k : Int → Prog AtCall.Ans Unit) :
      SmsStep (.call (.nrfModemAtCmdAsync cmd) k, Modem.idle)
        (some ⟨.nrfModemAtCmdAsync cmd, (0 : Int)⟩) (k 0, ⟨some cmd⟩) :=
    .call (iff_of_true rfl rfl)
  have hresp (p : Prog AtCall.Ans Unit) (cmd : String) :
      SmsStep (p, ⟨some cmd⟩) none (p, Modem.idle) := .tick ⟨rfl, rfl⟩
  have h : Run SmsStep (smsWorkFn atCommands, Modem.idle) pacedLabels (.ret (), Modem.idle) :=
    .cons (hcall _ _) (.cons (hresp _ _) (.cons (hcall _ _) (.cons (hresp _ _) (.nil _))))
  exact ⟨h, (all_accepted_iff h).2 ⟨rfl, rfl, trivial⟩⟩

/-- The commands of the sample back to back, as the loop hands them over when no response arrives in
between. -/
def backToBack : List (Event AtCall.Ans) :=
  [⟨.nrfModemAtCmdAsync "AT+CNMI=3,2,0,1", (0 : Int)⟩,
    ⟨.nrfModemAtCmdAsync "AT+CMGS=21\r0001000B912131445411F0000009C834888E2ECBCB21\x1A",
      -NRF_EINPROGRESS⟩]

/-- The second command of the sample, which sends the message, never reaches the modem. -/
theorem second_command_dropped :
    Run SmsStep (smsWorkFn atCommands, Modem.idle) (backToBack.map some)
        (.ret (), ⟨some "AT+CNMI=3,2,0,1"⟩) ∧
      accepted (backToBack.map some) = ["AT+CNMI=3,2,0,1"] ∧
      accepted (backToBack.map some) ≠ atCommands := by
  have h : Exec Modem.env Modem.idle (smsWorkFn atCommands) backToBack ()
      ⟨some "AT+CNMI=3,2,0,1"⟩ :=
    .call (iff_of_true rfl rfl)
      (.call (iff_of_false (by decide) (by simp [Modem.env, Modem.next])) .ret)
  exact ⟨Interleaved.of_exec h, rfl, by decide⟩

end NrfFeather
