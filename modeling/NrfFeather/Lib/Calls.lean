import NrfFeather.Lib.Prog
import NrfFeather.Lib.Transition

/-!
# A program that is called over and over

A start-up function runs once at every boot, a work item whenever it is submitted. `CallStep` makes
each such call of a program a step of the world, labelled with everything that can be said of the
call: the world it found and the world it left, the calls it made with their answers, and its
result. `CallRun.post` is the rule: what a weakest precondition establishes for one call
holds of all calls of a run.
-/

namespace Effects

open Transition

/-- One call of a program. -/
structure Called {C : Type} (A : C → Type) (σ α : Type) where
  before : σ
  trace : List (Event A)
  ret : α
  after : σ

variable {C : Type} {A : C → Type} {σ α : Type}

/-- A call of `p` leads from the world before it to the world after it. -/
def CallStep (E : Env A σ) (p : Prog A α) (s : σ) (c : Called A σ α) (t : σ) : Prop :=
  c.before = s ∧ c.after = t ∧ Exec E s p c.trace c.ret t

variable {E : Env A σ} {p : Prog A α}

/-- A call as it was recorded is an execution. -/
theorem CallStep.exec {s t : σ} {c : Called A σ α} (h : CallStep E p s c t) :
    Exec E c.before p c.trace c.ret c.after := by
  obtain ⟨rfl, rfl, h⟩ := h
  exact h

/-- What holds after every run of the program holds of each call. -/
theorem CallStep.post {Q : σ → List (Event A) → α → σ → Prop} (hp : ∀ s, wp E p (Q s) s) {s t : σ}
    {c : Called A σ α} (h : CallStep E p s c t) : Q s c.trace c.ret t := by
  obtain ⟨rfl, rfl, h⟩ := h
  exact h.of_wp (hp _)

/-- What a call guarantees holds of every call of a run. -/
theorem CallRun.post {Q : σ → List (Event A) → α → σ → Prop} (hp : ∀ s, wp E p (Q s) s) {s t : σ}
    {cs : List (Called A σ α)} (h : Run (CallStep E p) s cs t) :
    ∀ c ∈ cs, Q c.before c.trace c.ret c.after :=
  h.forall_mem fun _ _ _ hc => hc.exec.of_wp (hp _)

end Effects
